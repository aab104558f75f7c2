import Appraisal.Formula.Program
import Appraisal.Proofs.Formula.Induction
import Appraisal.Proofs.Formula.Lexing

/-!
# What parsed expressions are made of

A connective that is read joins at least two operands: a lone operand is read as itself. A name that is
read is a name among the lexemes, with its column. This is carried through the descent of the parser,
as far as an expression can have a meaning; the constructs without one are not looked into.
-/

namespace Appraisal.Formula

/-- Every connective joins two operands or more. What is called, what is named in a call and the
parts of a construct without a meaning do not count. -/
inductive Surface.WellJoined : Surface → Prop
  | constant (c : Nat) (v : Constant) : WellJoined (.constant c v)
  | name (c : Nat) (n : String) : WellJoined (.name c n)
  | unary (c : Nat) (op : PrefixOperator) (e : Surface) :
      WellJoined e → WellJoined (.unary c op e)
  | binary (c : Nat) (op : InfixOperator) (l r : Surface) :
      WellJoined l → WellJoined r → WellJoined (.binary c op l r)
  | connective (c : Nat) (b : Bool) (es : List Surface) :
      2 ≤ es.length → (∀ e ∈ es, WellJoined e) → WellJoined (.connective c b es)
  | comparison (c : Nat) (l : Surface) (links : List (Relation × Surface)) :
      WellJoined l → (∀ link ∈ links, WellJoined link.2) → WellJoined (.comparison c l links)
  | call (c : Nat) (f : Surface) (args named : List Surface) :
      (∀ e ∈ args, WellJoined e) → WellJoined (.call c f args named)
  | other (c : Nat) (construct : Construct) (parts : List Surface) :
      WellJoined (.other c construct parts)

structure Surface.WellRead (R : Nat → String → Prop) (e : Surface) : Prop where
  joined : e.WellJoined
  names : e.Names R

namespace Surface.WellRead

variable {R : Nat → String → Prop} {c : Nat} {e l r : Surface} {es : List Surface}

theorem constant (c : Nat) (v : Constant) : WellRead R (.constant c v) :=
  ⟨.constant c v, .constant c v⟩

theorem name {n : String} (h : R c n) : WellRead R (.name c n) := ⟨.name c n, .name c n h⟩

theorem unary (op : PrefixOperator) (h : WellRead R e) : WellRead R (.unary c op e) :=
  ⟨.unary c op e h.joined, .unary c op e h.names⟩

theorem binary (op : InfixOperator) (hl : WellRead R l) (hr : WellRead R r) :
    WellRead R (.binary c op l r) :=
  ⟨.binary c op l r hl.joined hr.joined, .binary c op l r hl.names hr.names⟩

theorem connective (b : Bool) (h2 : 2 ≤ es.length) (h : ∀ e ∈ es, WellRead R e) :
    WellRead R (.connective c b es) :=
  ⟨.connective c b es h2 (fun e he => (h e he).joined), .connective c b es (fun e he => (h e he).names)⟩

theorem comparison {links : List (Relation × Surface)} (hl : WellRead R l)
    (h : ∀ link ∈ links, WellRead R link.2) : WellRead R (.comparison c l links) :=
  ⟨.comparison c l links hl.joined (fun k hk => (h k hk).joined),
    .comparison c l links hl.names (fun k hk => (h k hk).names)⟩

theorem call {f : Surface} {named : List Surface} (h : ∀ e ∈ es, WellRead R e) :
    WellRead R (.call c f es named) :=
  ⟨.call c f es named (fun e he => (h e he).joined), .call c f es named (fun e he => (h e he).names)⟩

theorem other (construct : Construct) (parts : List Surface) :
    WellRead R (.other c construct parts) :=
  ⟨.other c construct parts, .other c construct parts⟩

end Surface.WellRead

namespace Parser

variable {α β : Type} {R : Nat → String → Prop} {P : α → Prop} {Q : β → Prop}

/-- From lexemes whose names stand in a relation to their columns, something with a property is read,
and the names that are left do so too. -/
def Gives (R : Nat → String → Prop) (P : α → Prop) (p : Parser α) : Prop :=
  ∀ tokens, Named R tokens → ∀ a rest, p.run tokens = some (a, rest) → P a ∧ Named R rest

abbrev Passes (R : Nat → String → Prop) (p : Parser α) : Prop := Gives R (fun _ => True) p

theorem gives_pure {a : α} (h : P a) : Gives R P (pure a : Parser α) := by
  intro tokens hn b rest hrun
  obtain ⟨rfl, rfl⟩ := Prod.mk.inj (Option.some.inj hrun)
  exact ⟨h, hn⟩

theorem passes_pure (a : α) : Passes R (pure a : Parser α) := gives_pure trivial

theorem gives_failure : Gives R P (failure : Parser α) := by
  intro tokens _ a rest hrun
  cases hrun

theorem Gives.bind {p : Parser α} {f : α → Parser β} (hp : Gives R P p)
    (hf : ∀ a, P a → Gives R Q (f a)) : Gives R Q (p >>= f) := by
  intro tokens hn b rest hrun
  rw [StateT.run_bind, Option.bind_eq_bind, Option.bind_eq_some_iff] at hrun
  obtain ⟨⟨a, tokens'⟩, ha, hb⟩ := hrun
  obtain ⟨hP, hn'⟩ := hp tokens hn a tokens' ha
  exact hf a hP tokens' hn' b rest hb

/-- What comes first does not matter. -/
theorem Gives.seq {p : Parser α} {f : α → Parser β} (hp : Gives R P p)
    (hf : ∀ a, Gives R Q (f a)) : Gives R Q (p >>= f) :=
  hp.bind (fun a _ => hf a)

theorem Gives.passes {p : Parser α} (hp : Gives R P p) : Passes R p :=
  fun tokens hn a rest hrun => ⟨trivial, (hp tokens hn a rest hrun).2⟩

theorem gives_ite {b : Bool} {p q : Parser α} (hp : Gives R P p) (hq : Gives R P q) :
    Gives R P (if b = true then p else q) := by
  cases b
  · exact hq
  · exact hp

/-- A choice by what comes next. -/
theorem gives_branch {next : Parser Bool} {p q : Parser α} (hnext : Passes R next)
    (hp : Gives R P p) (hq : Gives R P q) :
    Gives R P (next >>= fun b => if b = true then p else q) :=
  hnext.seq (fun _ => gives_ite hp hq)

theorem gives_get {f : List Lexeme → Parser β} (hf : ∀ tokens, Named R tokens → Gives R Q (f tokens)) :
    Gives R Q (get >>= f) :=
  fun tokens hn => hf tokens hn tokens hn

theorem passes_set {tokens : List Lexeme} (h : Named R tokens) : Passes R (set tokens : Parser _) := by
  intro tokens' _ a rest hrun
  obtain ⟨-, rfl⟩ := Prod.mk.inj (Option.some.inj hrun)
  exact ⟨trivial, h⟩

/-! ### Single lexemes -/

theorem passes_here : Passes R here := by
  rw [here]
  refine gives_get (fun tokens _ => ?_)
  split <;> exact passes_pure _

theorem passes_next? : Passes R next? := gives_get (fun _ _ => passes_pure _)

theorem passes_skip : Passes R skip := by
  intro tokens hn a rest hrun
  obtain ⟨-, rfl⟩ := Prod.mk.inj (Option.some.inj hrun)
  exact ⟨trivial, fun l hl => hn l (List.mem_of_mem_tail hl)⟩

theorem passes_isSymbol (k : String) : Passes R (isSymbol k) := by
  rw [isSymbol]
  refine passes_next?.seq (fun token => ?_)
  split <;> exact passes_pure _

theorem passes_isAnySymbol (ks : List String) : Passes R (isAnySymbol ks) := by
  rw [isAnySymbol]
  refine passes_next?.seq (fun token => ?_)
  split <;> exact passes_pure _

theorem passes_isWord (w : String) : Passes R (isWord w) := by
  rw [isWord]
  refine passes_next?.seq (fun token => ?_)
  split <;> exact passes_pure _

theorem passes_symbol (k : String) : Passes R (symbol k) :=
  gives_branch (passes_isSymbol k) (passes_skip.seq (fun _ => passes_pure _)) (passes_pure _)

theorem passes_word (w : String) : Passes R (word w) :=
  gives_branch (passes_isWord w) (passes_skip.seq (fun _ => passes_pure _)) (passes_pure _)

theorem passes_mustSymbol (k : String) : Passes R (mustSymbol k) :=
  gives_branch (passes_symbol k) (passes_pure _) gives_failure

theorem passes_mustWord (w : String) : Passes R (mustWord w) :=
  gives_branch (passes_word w) (passes_pure _) gives_failure

theorem passes_mustName : Passes R mustName := by
  rw [mustName]
  refine passes_next?.seq (fun token => ?_)
  split
  · exact passes_skip.seq (fun _ => passes_pure _)
  · exact gives_failure

theorem passes_nameBefore? (k : String) : Passes R (nameBefore? k) := by
  rw [nameBefore?]
  refine gives_get (fun tokens hn => ?_)
  split
  · split
    · exact (passes_set hn.tail.tail).seq (fun _ => passes_pure _)
    · exact passes_pure _
  · exact passes_pure _

theorem passes_isAssigned : Passes R isAssigned := by
  rw [isAssigned]
  refine gives_get (fun tokens _ => ?_)
  split <;> exact passes_pure _

theorem passes_relation? : Passes R relation? := by
  rw [relation?]
  refine gives_get (fun tokens hn => ?_)
  have hset {rest : List Lexeme} (r : Relation) (hrest : Named R rest) :
      Passes R (do set rest; return some r : Parser (Option Relation)) :=
    (passes_set hrest).seq (fun _ => passes_pure _)
  split
  case h_8 | h_9 => exact hset _ hn.tail.tail
  case h_11 => exact passes_pure _
  all_goals exact hset _ hn.tail

theorem passes_infixOperator? (ops : List (String × InfixOperator)) :
    Passes R (infixOperator? ops) := by
  rw [infixOperator?]
  refine passes_next?.seq (fun token => ?_)
  split
  · split
    · exact passes_skip.seq (fun _ => passes_pure _)
    · exact passes_pure _
  · exact passes_pure _

theorem passes_sign? : Passes R sign? := by
  rw [sign?]
  refine passes_next?.seq (fun token => ?_)
  split
  case h_4 => exact passes_pure _
  all_goals exact passes_skip.seq (fun _ => passes_pure _)

theorem passes_isComprehension : Passes R isComprehension :=
  gives_branch (passes_isWord "for") (passes_pure _) (passes_isWord "async")

/-- The name of the next lexeme stands in the relation to its column. -/
theorem gives_head {f : Nat → Option Token → Parser β}
    (hf : ∀ c token, (∀ n, token = some (.name n) → R c n) → Gives R Q (f c token)) :
    Gives R Q (do let c ← here; let token ← next?; f c token) := by
  intro tokens hn
  cases tokens with
  | nil => exact hf 0 none nofun [] hn
  | cons l tokens =>
      exact hf (l.offset + 1) (some l.token)
        (fun n h => (List.forall_mem_cons.1 hn).1 n (Option.some.inj h)) (l :: tokens) hn

theorem named_pieces {tokens : List Lexeme} (h : Named R tokens) : Named R (pieces tokens).2 := by
  fun_induction pieces tokens with
  | case1 p offset rest r ih => exact ih h.tail
  | case2 rest => exact h

/-- What is read from lexemes of its own leaves the others as they are. -/
theorem gives_aside {p : Parser α} {f : α → Parser β} (tokens : List Lexeme)
    (hf : ∀ a, Gives R Q (f a)) :
    Gives R Q (do
      let rest ← get
      set tokens
      let a ← p
      unless (← get).isEmpty do failure
      set rest
      f a) := by
  intro tokens' hn b rest hrun
  simp only [StateT.run_bind, StateT.run_get, StateT.run_set, Option.bind_eq_bind,
    Option.bind_eq_some_iff] at hrun
  obtain ⟨_, hget, _, hset, ⟨a, left⟩, -, _, hleft, hrest⟩ := hrun
  obtain rfl := Option.some.inj hget
  split at hrest
  · exact hf a tokens' hn b rest hrest
  · cases hrest

/-! ### One level of the descent -/

abbrev AllRead (R : Nat → String → Prop) (es : List Surface) : Prop := ∀ e ∈ es, e.WellRead R

theorem allRead_nil : AllRead R [] := fun _ h => absurd h List.not_mem_nil

theorem AllRead.cons {e : Surface} {es : List Surface} (he : e.WellRead R) (hes : AllRead R es) :
    AllRead R (e :: es) := List.forall_mem_cons.2 ⟨he, hes⟩

theorem AllRead.append_singleton {e : Surface} {es : List Surface} (hes : AllRead R es)
    (he : e.WellRead R) : AllRead R (es ++ [e]) :=
  List.forall_mem_append.2 ⟨hes, AllRead.cons he allRead_nil⟩

/-- What the functions of the descent give. Those that read no expression with a meaning only leave
the other lexemes as they are. -/
structure ReadsWell (R : Nat → String → Prop) (fuel : Nat) : Prop where
  expression : Gives R (Surface.WellRead R) (expression fuel)
  parameters : ∀ ps, Passes R (parameters fuel ps)
  continueAfter : ∀ ps, Passes R (continueAfter fuel ps)
  disjunction : Gives R (Surface.WellRead R) (disjunction fuel)
  disjuncts : Gives R (AllRead R) (disjuncts fuel)
  conjunction : Gives R (Surface.WellRead R) (conjunction fuel)
  conjuncts : Gives R (AllRead R) (conjuncts fuel)
  inversion : Gives R (Surface.WellRead R) (inversion fuel)
  links : Gives R (fun ls => ∀ l ∈ ls, l.2.WellRead R) (links fuel)
  operand : ∀ levels, Gives R (Surface.WellRead R) (operand fuel levels)
  operands : ∀ c ops levels left, left.WellRead R →
    Gives R (Surface.WellRead R) (operands fuel c ops levels left)
  factor : Gives R (Surface.WellRead R) (factor fuel)
  trailers : ∀ c e, e.WellRead R → Gives R (Surface.WellRead R) (trailers fuel c e)
  arguments : ∀ start, Gives R (fun args => AllRead R args.positional) (arguments fuel start)
  furtherArguments : ∀ named doubled args, AllRead R args.positional →
    Gives R (fun args => AllRead R args.positional) (furtherArguments fuel named doubled args)
  subscript : Passes R (subscript fuel)
  sliceItems : Passes R (sliceItems fuel)
  sliceItem : Passes R (sliceItem fuel)
  sliceEnd : Passes R (sliceEnd fuel)
  sliceBound : Passes R (sliceBound fuel)
  assignable : Gives R (Surface.WellRead R) (assignable fuel)
  item : Gives R (Surface.WellRead R) (item fuel)
  items : ∀ closing, Passes R (items fuel closing)
  clauses : Passes R (clauses fuel)
  conditions : Passes R (conditions fuel)
  targets : Passes R (targets fuel)
  furtherTargets : Passes R (furtherTargets fuel)
  target : Passes R (target fuel)
  atom : Gives R (Surface.WellRead R) (atom fuel)
  parenthesis : ∀ c, Gives R (Surface.WellRead R) (parenthesis fuel c)
  yielded : Gives R (Surface.WellRead R) (yielded fuel)
  starExpressions : Passes R (starExpressions fuel)
  furtherExpressions : Passes R (furtherExpressions fuel)
  starExpression : Passes R (starExpression fuel)
  bracket : ∀ c, Gives R (Surface.WellRead R) (bracket fuel c)
  brace : ∀ c, Gives R (Surface.WellRead R) (brace fuel c)
  setAfter : ∀ c e, Gives R (Surface.WellRead R) (setAfter fuel c e)
  entries : Passes R (entries fuel)
  quoted : ∀ c ps, Gives R (Surface.WellRead R) (quoted fuel c ps)
  quotedParts : ∀ c ps pending, Passes R (quotedParts fuel c ps pending)
  runParts : ∀ c raw runs pending, Passes R (runParts fuel c raw runs pending)

theorem readsWell_zero : ReadsWell R 0 := by
  constructor
  all_goals
    intros
    simp only [expression, parameters, continueAfter, disjunction, disjuncts, conjunction, conjuncts,
      inversion, links, operand, operands, factor, trailers, arguments, furtherArguments, subscript,
      sliceItems, sliceItem, sliceEnd, sliceBound, assignable, item, items, clauses, conditions,
      targets, furtherTargets, target, atom, parenthesis, yielded, starExpressions,
      furtherExpressions, starExpression, bracket, brace, setAfter, entries, quoted, quotedParts,
      runParts]
    exact gives_failure

/-- The joined operands of a connective are the first one and those that follow it. -/
theorem gives_connective {c : Nat} {b : Bool} {e : Surface} (he : e.WellRead R)
    {rest : Parser (List Surface)} (hrest : Gives R (AllRead R) rest) :
    Gives R (Surface.WellRead R) (do
      match ← rest with
      | [] => return e
      | es => return .connective c b (e :: es)) := by
  refine hrest.bind (fun es hes => ?_)
  cases es with
  | nil => exact gives_pure he
  | cons e' es => exact gives_pure (.connective b (by simp) (AllRead.cons he hes))

theorem gives_cons {p : Parser Surface} {rest : Parser (List Surface)}
    (hp : Gives R (Surface.WellRead R) p) (hrest : Gives R (AllRead R) rest) :
    Gives R (AllRead R) (do
      let e ← p
      return e :: (← rest)) :=
  hp.bind (fun _ he => hrest.bind (fun _ hes => gives_pure (AllRead.cons he hes)))

theorem gives_other {c : Nat} {construct : Construct} {parts : List Surface} :
    Gives R (Surface.WellRead R) (pure (.other c construct parts) : Parser Surface) :=
  gives_pure (.other construct parts)

/-- Something that ends with a symbol. -/
theorem gives_closed {k : String} {p : Parser α} (hp : Gives R P p) :
    Gives R P (mustSymbol k >>= fun _ => p) :=
  (passes_mustSymbol k).seq (fun _ => hp)

theorem passes_cons {p : Parser α} {rest : Parser (List α)} (hp : Gives R P p)
    (hrest : Passes R rest) : Passes R (do
      let a ← p
      return a :: (← rest)) :=
  hp.seq (fun _ => hrest.seq (fun _ => passes_pure _))

/-! ### The next level -/

section

variable {fuel : Nat} (h : ReadsWell R fuel)
include h

theorem gives_expression : Gives R (Surface.WellRead R) (expression (fuel + 1)) := by
  rw [expression]
  refine passes_here.seq (fun c => gives_branch (passes_word _) ?_ (h.disjunction.bind (fun e he =>
    gives_branch (passes_word _) ?_ (gives_pure he))))
  · exact (h.parameters _).seq (fun ps => gives_closed (h.expression.seq (fun body => gives_other)))
  · exact h.disjunction.seq (fun test => (passes_mustWord _).seq (fun _ =>
      h.expression.seq (fun alternative => gives_other)))

theorem passes_parameters (ps : Parameters) : Passes R (parameters (fuel + 1) ps) := by
  rw [parameters]
  have hnamed (ps : Parameters) : Passes R (do
      let _ ← mustName
      continueAfter fuel ps) :=
    passes_mustName.seq (fun _ => h.continueAfter ps)
  refine gives_branch (passes_isSymbol _) (gives_ite gives_failure (passes_pure _))
    (gives_ite gives_failure (gives_branch (passes_symbol _) ?_ (gives_branch (passes_symbol _) ?_
      (gives_branch (passes_symbol _) ?_ (passes_mustName.seq (fun _ => ?_))))))
  · exact gives_ite gives_failure (h.continueAfter _)
  · exact gives_ite gives_failure (hnamed _)
  · exact gives_ite gives_failure (gives_branch (passes_symbol _) (h.parameters _) (hnamed _))
  · exact gives_branch (passes_symbol _) (h.expression.seq (fun e => h.continueAfter _))
      (gives_ite gives_failure (h.continueAfter _))

theorem passes_continueAfter (ps : Parameters) : Passes R (continueAfter (fuel + 1) ps) := by
  rw [continueAfter]
  exact gives_branch (passes_symbol _) (h.parameters ps) (gives_branch (passes_isSymbol _)
    (gives_ite gives_failure (passes_pure _)) gives_failure)

theorem gives_disjunction : Gives R (Surface.WellRead R) (disjunction (fuel + 1)) := by
  rw [disjunction]
  exact passes_here.seq (fun c => h.conjunction.bind (fun e he => gives_connective he h.disjuncts))

theorem gives_disjuncts : Gives R (AllRead R) (disjuncts (fuel + 1)) := by
  rw [disjuncts]
  exact gives_branch (passes_word _) (gives_cons h.conjunction h.disjuncts) (gives_pure allRead_nil)

theorem gives_conjunction : Gives R (Surface.WellRead R) (conjunction (fuel + 1)) := by
  rw [conjunction]
  exact passes_here.seq (fun c => h.inversion.bind (fun e he => gives_connective he h.conjuncts))

theorem gives_conjuncts : Gives R (AllRead R) (conjuncts (fuel + 1)) := by
  rw [conjuncts]
  exact gives_branch (passes_word _) (gives_cons h.inversion h.conjuncts) (gives_pure allRead_nil)

theorem gives_inversion : Gives R (Surface.WellRead R) (inversion (fuel + 1)) := by
  rw [inversion]
  refine passes_here.seq (fun c => gives_branch (passes_word _) ?_ ?_)
  · exact h.inversion.bind (fun e he => gives_pure (.unary .not he))
  · refine (h.operand infixLevels).bind (fun e he => h.links.bind (fun ls hls => ?_))
    cases ls with
    | nil => exact gives_pure he
    | cons l ls => exact gives_pure (.comparison he hls)

theorem gives_links : Gives R (fun ls => ∀ l ∈ ls, l.2.WellRead R) (links (fuel + 1)) := by
  rw [links]
  refine passes_relation?.seq (fun relation => ?_)
  cases relation with
  | none => exact gives_pure (fun _ hl => absurd hl List.not_mem_nil)
  | some r =>
      refine (h.operand infixLevels).bind (fun e he => h.links.bind (fun ls hls => gives_pure ?_))
      exact List.forall_mem_cons.2 ⟨he, hls⟩

theorem gives_operand (levels : List (List (String × InfixOperator))) :
    Gives R (Surface.WellRead R) (operand (fuel + 1) levels) := by
  cases levels with
  | nil =>
      rw [operand]
      exact h.factor
  | cons ops levels =>
      rw [operand]
      exact passes_here.seq (fun c =>
        (h.operand levels).bind (fun e he => h.operands c ops levels e he))

theorem gives_operands (c : Nat) (ops : List (String × InfixOperator))
    (levels : List (List (String × InfixOperator))) (left : Surface) (hleft : left.WellRead R) :
    Gives R (Surface.WellRead R) (operands (fuel + 1) c ops levels left) := by
  rw [operands]
  refine (passes_infixOperator? ops).seq (fun op => ?_)
  cases op with
  | none => exact gives_pure hleft
  | some op =>
      exact (h.operand levels).bind (fun right hright =>
        h.operands c ops levels _ (.binary op hleft hright))

theorem gives_factor : Gives R (Surface.WellRead R) (factor (fuel + 1)) := by
  rw [factor]
  refine passes_here.seq (fun c => passes_sign?.seq (fun sign => ?_))
  cases sign with
  | some op => exact h.factor.bind (fun e he => gives_pure (.unary op he))
  | none =>
      have hbase (base : Surface) (hb : base.WellRead R) : Gives R (Surface.WellRead R) (do
          if ← symbol "**" then return .binary c .power base (← factor fuel)
          else return base) :=
        gives_branch (passes_symbol _) (h.factor.bind (fun e he => gives_pure (.binary _ hb he)))
          (gives_pure hb)
      refine gives_branch (passes_word _) ?_ ?_
      · exact passes_here.seq (fun c' => h.atom.bind (fun e he => (h.trailers c' e he).seq (fun e' =>
          gives_other.bind (fun base hb => hbase base hb))))
      · exact h.atom.bind (fun e he => (h.trailers c e he).bind (fun base hb => hbase base hb))

theorem gives_trailers (c : Nat) (e : Surface) (he : e.WellRead R) :
    Gives R (Surface.WellRead R) (trailers (fuel + 1) c e) := by
  rw [trailers]
  refine passes_here.seq (fun start => gives_branch (passes_symbol _) ?_ (gives_branch
    (passes_symbol _) ?_ (gives_branch (passes_symbol _) ?_ (gives_pure he))))
  · exact passes_mustName.seq (fun _ => h.trailers c _ (.other _ _))
  · exact (h.arguments start).bind (fun args hargs => h.trailers c _ (.call hargs))
  · exact h.subscript.seq (fun i => h.trailers c _ (.other _ _))

theorem gives_arguments (start : Nat) :
    Gives R (fun args => AllRead R args.positional) (arguments (fuel + 1) start) := by
  rw [arguments]
  have hnone := h.furtherArguments false false {} allRead_nil
  refine gives_branch (passes_symbol _) (gives_pure allRead_nil) (gives_branch (passes_isAnySymbol _)
    hnone (gives_get (fun tokens _ => ?_)))
  split
  · exact hnone
  · refine h.assignable.bind (fun e he => ?_)
    have hone : AllRead R [e] := AllRead.cons he allRead_nil
    refine gives_branch passes_isComprehension ?_ (gives_branch (passes_symbol _) (gives_pure hone)
      (gives_closed (h.furtherArguments false false _ hone)))
    exact h.clauses.seq (fun parts =>
      gives_closed (gives_pure (AllRead.cons (.other _ _) allRead_nil)))

theorem gives_furtherArguments (named doubled : Bool) (args : Arguments)
    (hargs : AllRead R args.positional) :
    Gives R (fun args => AllRead R args.positional)
      (furtherArguments (fuel + 1) named doubled args) := by
  rw [furtherArguments]
  have hmore (named doubled : Bool) (args : Arguments) (hargs : AllRead R args.positional) :
      Gives R (fun args => AllRead R args.positional) (do
        if ← symbol ")" then return args
        else
          mustSymbol ","
          furtherArguments fuel named doubled args) :=
    gives_branch (passes_symbol _) (gives_pure hargs)
      (gives_closed (h.furtherArguments named doubled args hargs))
  refine gives_branch (passes_symbol _) (gives_pure hargs) (passes_here.seq (fun c => gives_branch
    (passes_symbol _) ?_ (gives_branch (passes_symbol _) ?_ ?_)))
  · exact h.expression.seq (fun e => hmore true true _ hargs)
  · exact gives_ite gives_failure (h.expression.seq (fun e =>
      hmore named doubled _ (hargs.append_singleton (.other _ _))))
  · refine (passes_nameBefore? _).seq (fun name => ?_)
    cases name with
    | some n => exact h.expression.seq (fun e => hmore true doubled _ hargs)
    | none =>
        exact gives_ite gives_failure (h.assignable.bind (fun e he =>
          hmore named doubled _ (hargs.append_singleton he)))

theorem passes_subscript : Passes R (subscript (fuel + 1)) := by
  rw [subscript]
  refine passes_here.seq (fun c => h.sliceItem.seq (fun e => gives_branch (passes_symbol _) ?_ ?_))
  · exact gives_ite (passes_pure _) (passes_pure _)
  · exact gives_closed (h.sliceItems.seq (fun _ => passes_pure _))

theorem passes_sliceItems : Passes R (sliceItems (fuel + 1)) := by
  rw [sliceItems]
  exact gives_branch (passes_symbol _) (passes_pure _) (h.sliceItem.seq (fun e =>
    gives_branch (passes_symbol _) (passes_pure _)
      (gives_closed (h.sliceItems.seq (fun _ => passes_pure _)))))

theorem passes_sliceItem : Passes R (sliceItem (fuel + 1)) := by
  rw [sliceItem]
  refine passes_here.seq (fun c => gives_branch (passes_symbol _) ?_ (gives_branch (passes_symbol _) ?_
    (gives_branch passes_isAssigned h.assignable.passes (h.expression.seq (fun e => gives_branch
      (passes_symbol _) ?_ (passes_pure _))))))
  · exact h.expression.seq (fun _ => passes_pure _)
  · exact h.sliceEnd.seq (fun _ => passes_pure _)
  · exact h.sliceEnd.seq (fun _ => passes_pure _)

theorem passes_sliceEnd : Passes R (sliceEnd (fuel + 1)) := by
  rw [sliceEnd]
  exact h.sliceBound.seq (fun stop => gives_branch (passes_symbol _)
    (h.sliceBound.seq (fun _ => passes_pure _)) (passes_pure _))

theorem passes_sliceBound : Passes R (sliceBound (fuel + 1)) := by
  rw [sliceBound]
  exact gives_branch (passes_isAnySymbol _) (passes_pure _)
    (h.expression.seq (fun _ => passes_pure _))

theorem gives_assignable : Gives R (Surface.WellRead R) (assignable (fuel + 1)) := by
  rw [assignable]
  refine (passes_nameBefore? _).seq (fun name => ?_)
  cases name with
  | none => exact h.expression
  | some n => exact h.expression.seq (fun e => gives_other)

theorem gives_item : Gives R (Surface.WellRead R) (item (fuel + 1)) := by
  rw [item]
  exact passes_here.seq (fun c => gives_branch (passes_symbol _)
    ((h.operand infixLevels).seq (fun e => gives_other)) h.assignable)

theorem passes_items (closing : String) : Passes R (items (fuel + 1) closing) := by
  rw [items]
  exact gives_branch (passes_symbol _) (passes_pure _) (h.item.seq (fun e =>
    gives_branch (passes_symbol _) (passes_pure _)
      (gives_closed ((h.items closing).seq (fun _ => passes_pure _)))))

theorem passes_clauses : Passes R (clauses (fuel + 1)) := by
  rw [clauses]
  refine gives_branch passes_isComprehension ?_ (passes_pure _)
  refine (passes_word _).seq (fun _ => (passes_mustWord _).seq (fun _ => h.targets.seq (fun t => ?_)))
  exact (passes_mustWord _).seq (fun _ => h.disjunction.seq (fun source => h.conditions.seq (fun tests =>
    h.clauses.seq (fun _ => passes_pure _))))

theorem passes_conditions : Passes R (conditions (fuel + 1)) := by
  rw [conditions]
  exact gives_branch (passes_word _) (passes_cons h.disjunction h.conditions) (passes_pure _)

theorem passes_targets : Passes R (targets (fuel + 1)) := by
  rw [targets]
  exact passes_here.seq (fun c => h.target.seq (fun t => gives_branch (passes_symbol _)
    (h.furtherTargets.seq (fun _ => passes_pure _)) (passes_pure _)))

theorem passes_furtherTargets : Passes R (furtherTargets (fuel + 1)) := by
  rw [furtherTargets]
  exact gives_branch (passes_isWord _) (passes_pure _) (h.target.seq (fun t => gives_branch
    (passes_symbol _) (h.furtherTargets.seq (fun _ => passes_pure _)) (passes_pure _)))

theorem passes_target : Passes R (target (fuel + 1)) := by
  rw [target]
  refine passes_here.seq (fun c => gives_branch (passes_symbol _) ?_ ?_)
  · exact passes_here.seq (fun c' => h.atom.bind (fun e he => (h.trailers c' e he).seq (fun e' =>
      gives_ite (passes_pure _) gives_failure)))
  · exact h.atom.bind (fun e he => (h.trailers c e he).seq (fun e' =>
      gives_ite (passes_pure _) gives_failure))

theorem gives_atom : Gives R (Surface.WellRead R) (atom (fuel + 1)) := by
  rw [atom]
  refine gives_head (fun c token hname => ?_)
  have hconstant (v : Constant) : Gives R (Surface.WellRead R) (do
      skip
      return .constant c v) :=
    passes_skip.seq (fun _ => gives_pure (.constant c v))
  split
  · exact passes_skip.seq (fun _ => gives_pure (.name (hname _ rfl)))
  · exact hconstant _
  · exact hconstant _
  · exact hconstant _
  · exact hconstant _
  · exact hconstant _
  · exact passes_skip.seq (fun _ => h.parenthesis c)
  · exact passes_skip.seq (fun _ => h.bracket c)
  · exact passes_skip.seq (fun _ => h.brace c)
  · exact gives_get (fun tokens hn => (passes_set (named_pieces hn)).seq (fun _ => h.quoted c _))
  · exact gives_failure

theorem gives_parenthesis (c : Nat) : Gives R (Surface.WellRead R) (parenthesis (fuel + 1) c) := by
  rw [parenthesis]
  refine gives_branch (passes_symbol _) gives_other (gives_branch (passes_isWord _) ?_
    (h.item.bind (fun e he => gives_branch (passes_symbol _) ?_ (gives_ite gives_failure
      (gives_branch passes_isComprehension ?_ (gives_closed (gives_pure he)))))))
  · exact h.yielded.bind (fun e he => gives_closed (gives_pure he))
  · exact (h.items _).seq (fun _ => gives_other)
  · exact h.clauses.seq (fun parts => gives_closed gives_other)

theorem gives_yielded : Gives R (Surface.WellRead R) (yielded (fuel + 1)) := by
  rw [yielded]
  exact passes_here.seq (fun c => (passes_mustWord _).seq (fun _ => gives_branch (passes_word _)
    (h.expression.seq (fun _ => gives_other)) (gives_branch (passes_isSymbol _) gives_other
      (h.starExpressions.seq (fun _ => gives_other)))))

theorem passes_starExpressions : Passes R (starExpressions (fuel + 1)) := by
  rw [starExpressions]
  exact passes_here.seq (fun c => h.starExpression.seq (fun e => gives_branch (passes_symbol _)
    (h.furtherExpressions.seq (fun _ => passes_pure _)) (passes_pure _)))

theorem passes_furtherExpressions : Passes R (furtherExpressions (fuel + 1)) := by
  rw [furtherExpressions]
  refine (passes_isSymbol _).seq (fun closed => gives_get (fun tokens _ => gives_ite
    (passes_pure _) (h.starExpression.seq (fun e => gives_branch (passes_symbol _) ?_
      (passes_pure _)))))
  exact h.furtherExpressions.seq (fun _ => passes_pure _)

theorem passes_starExpression : Passes R (starExpression (fuel + 1)) := by
  rw [starExpression]
  exact passes_here.seq (fun c => gives_branch (passes_symbol _)
    ((h.operand infixLevels).seq (fun _ => passes_pure _)) h.expression.passes)

theorem gives_bracket (c : Nat) : Gives R (Surface.WellRead R) (bracket (fuel + 1) c) := by
  rw [bracket]
  refine gives_branch (passes_symbol _) gives_other (h.item.seq (fun e => gives_branch
    passes_isComprehension (gives_ite gives_failure ?_) (gives_branch (passes_symbol _) gives_other
      (gives_closed ((h.items _).seq (fun _ => gives_other))))))
  exact h.clauses.seq (fun parts => gives_closed gives_other)

theorem gives_brace (c : Nat) : Gives R (Surface.WellRead R) (brace (fuel + 1) c) := by
  rw [brace]
  refine gives_branch (passes_isAnySymbol _) (h.entries.seq (fun _ => gives_other))
    ((passes_isSymbol _).seq (fun _ => passes_isAssigned.seq (fun _ => gives_ite
      (h.item.seq (fun e => h.setAfter c e)) (h.expression.seq (fun e => gives_branch
        (passes_symbol _) (h.expression.seq (fun v => ?_)) (h.setAfter c e))))))
  refine gives_branch passes_isComprehension ?_ (gives_branch (passes_symbol _) gives_other
    (gives_closed (h.entries.seq (fun _ => gives_other))))
  exact h.clauses.seq (fun parts => gives_closed gives_other)

theorem gives_setAfter (c : Nat) (e : Surface) :
    Gives R (Surface.WellRead R) (setAfter (fuel + 1) c e) := by
  rw [setAfter]
  refine gives_branch passes_isComprehension (gives_ite gives_failure ?_) (gives_branch
    (passes_symbol _) gives_other (gives_closed ((h.items _).seq (fun _ => gives_other))))
  exact h.clauses.seq (fun parts => gives_closed gives_other)

theorem passes_entries : Passes R (entries (fuel + 1)) := by
  rw [entries]
  have hrest (entry : List Surface) : Passes R (do
      if ← symbol "\x7d" then return entry
      else
        mustSymbol ","
        return entry ++ (← entries fuel)) :=
    gives_branch (passes_symbol _) (passes_pure _)
      (gives_closed (h.entries.seq (fun _ => passes_pure _)))
  refine gives_branch (passes_symbol _) (passes_pure _) (gives_branch (passes_symbol _) ?_ ?_)
  · exact (h.operand infixLevels).seq (fun e => hrest [e])
  · exact h.expression.seq (fun k => gives_closed (h.expression.seq (fun v => hrest [k, v])))

theorem gives_quoted (c : Nat) (ps : List Piece) :
    Gives R (Surface.WellRead R) (quoted (fuel + 1) c ps) := by
  rw [quoted]
  refine gives_ite ?_ (gives_ite gives_failure ((h.quotedParts c ps []).seq (fun parts =>
    gives_ite gives_other (gives_pure (.constant c _)))))
  split
  · exact gives_pure (.constant c _)
  · exact gives_failure

theorem passes_quotedParts (c : Nat) (ps : List Piece) (pending : List Letter) :
    Passes R (quotedParts (fuel + 1) c ps pending) := by
  cases ps with
  | nil =>
      rw [quotedParts]
      exact passes_pure _
  | cons p ps =>
      rw [quotedParts]
      refine gives_ite ?_ ?_
      · split
        · exact (h.runParts c _ _ pending).seq (fun before => (h.quotedParts c ps _).seq (fun after =>
            passes_pure _))
        · exact gives_failure
      · split
        · exact h.quotedParts c ps _
        · exact gives_failure

theorem passes_runParts (c : Nat) (raw : Bool) (runs : List Run) (pending : List Letter) :
    Passes R (runParts (fuel + 1) c raw runs pending) := by
  cases runs with
  | nil =>
      rw [runParts]
      exact passes_pure _
  | cons run runs =>
      cases run with
      | literal body =>
          rw [runParts]
          split
          · exact h.runParts c raw runs _
          · exact gives_failure
      | field e shown format =>
          rw [runParts]
          split
          · exact gives_failure
          · refine gives_aside _ (fun inner => ?_)
            have hafter : Passes R (runParts fuel c raw runs []) := h.runParts c raw runs []
            split
            · exact (passes_pure _).seq (fun _ => hafter.seq (fun _ => passes_pure _))
            · exact (h.runParts c raw _ []).seq (fun parts => (passes_pure _).seq (fun _ =>
                hafter.seq (fun _ => passes_pure _)))

theorem readsWell_succ : ReadsWell R (fuel + 1) where
  expression := gives_expression h
  parameters := passes_parameters h
  continueAfter := passes_continueAfter h
  disjunction := gives_disjunction h
  disjuncts := gives_disjuncts h
  conjunction := gives_conjunction h
  conjuncts := gives_conjuncts h
  inversion := gives_inversion h
  links := gives_links h
  operand := gives_operand h
  operands := gives_operands h
  factor := gives_factor h
  trailers := gives_trailers h
  arguments := gives_arguments h
  furtherArguments := gives_furtherArguments h
  subscript := passes_subscript h
  sliceItems := passes_sliceItems h
  sliceItem := passes_sliceItem h
  sliceEnd := passes_sliceEnd h
  sliceBound := passes_sliceBound h
  assignable := gives_assignable h
  item := gives_item h
  items := passes_items h
  clauses := passes_clauses h
  conditions := passes_conditions h
  targets := passes_targets h
  furtherTargets := passes_furtherTargets h
  target := passes_target h
  atom := gives_atom h
  parenthesis := gives_parenthesis h
  yielded := gives_yielded h
  starExpressions := passes_starExpressions h
  furtherExpressions := passes_furtherExpressions h
  starExpression := passes_starExpression h
  bracket := gives_bracket h
  brace := gives_brace h
  setAfter := gives_setAfter h
  entries := passes_entries h
  quoted := gives_quoted h
  quotedParts := passes_quotedParts h
  runParts := passes_runParts h

end

theorem readsWell (fuel : Nat) : ReadsWell R fuel := by
  induction fuel with
  | zero => exact readsWell_zero
  | succ fuel ih => exact readsWell_succ ih

theorem passes_more (fuel : Nat) : Passes R (formula.more fuel) := by
  induction fuel with
  | zero =>
      rw [formula.more]
      exact gives_failure
  | succ fuel ih =>
      rw [formula.more]
      refine passes_next?.seq (fun token => ?_)
      split
      · exact passes_pure _
      · exact passes_pure _
      · exact (readsWell (fuel + 1)).expression.seq (fun e => gives_branch (passes_symbol _)
          (ih.seq (fun _ => passes_pure _)) (passes_pure _))

theorem gives_formula (fuel : Nat) : Gives R (Surface.WellRead R) (formula fuel) := by
  rw [formula]
  have hend (ends : List Lexeme → Bool) (e : Surface) (he : e.WellRead R) :
      Gives R (Surface.WellRead R) (do if ends (← get) then return e else failure) :=
    gives_get (fun tokens _ => gives_ite (gives_pure he) gives_failure)
  refine passes_here.seq (fun c => (readsWell fuel).expression.bind (fun e he =>
    gives_branch (passes_symbol _) ?_ ?_))
  · exact (passes_more fuel).seq (fun rest => gives_other.bind (hend _))
  · exact (gives_pure he).bind (hend _)

end Parser

/-- The names of a text that is read are those among its lexemes, with their columns. -/
theorem wellRead_of_parse? {R : Nat → String → Prop} {s : List Char} {e : Surface}
    (hR : ∀ tokens, lex? s = some tokens → Named R tokens) (h : Surface.parse? s = some e) :
    e.WellRead R := by
  unfold Surface.parse? at h
  split at h
  · rename_i tokens htokens
    obtain ⟨⟨e', rest⟩, hrun, rfl⟩ := Option.map_eq_some_iff.1 h
    exact (Parser.gives_formula _ tokens (hR tokens htokens) _ _ hrun).1
  · cases h

/-- What is read of a text is parsed from its characters. -/
theorem exists_parse?_of_read {source text : Text} {e : Surface} (h : read source text = .ok e) :
    ∃ s, Text.chars? text.toList = some s ∧ Surface.parse? s = some e := by
  unfold read at h
  simp only at h
  split at h
  · cases h
  · split at h
    · cases h
    · split at h
      · cases h
      · rename_i s hs
        split at h
        · cases h
        · rename_i e' hparse
          split at h
          · cases h
          · rw [← Except.ok.inj h]
            exact ⟨s, (Option.filter_eq_some_iff.1 hs).1, hparse⟩

/-- Every connective of a text that is read joins two operands or more. -/
theorem wellJoined_of_read {source text : Text} {e : Surface} (h : read source text = .ok e) :
    e.WellJoined := by
  obtain ⟨s, -, hparse⟩ := exists_parse?_of_read h
  exact (wellRead_of_parse? (fun _ _ _ _ _ _ => trivial) hparse : e.WellRead (fun _ _ => True)).joined

end Appraisal.Formula
