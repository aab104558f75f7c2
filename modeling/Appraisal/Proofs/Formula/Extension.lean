import Mathlib.Data.List.Forall2
import Appraisal.Proofs.Formula.Budget
import Appraisal.Proofs.Formula.Soundness
import Appraisal.Proofs.Formula.Variables

/-!
# Extended registries

A registry that extends another one finds every function that the other one finds: no two functions
have one name, and the new ones stand behind the old ones. So a formula that is compiled with a
registry has the same tree with an extended one, also when there are more variables, and every run of
it ends alike. The registry that was extended stays as it was: an extension fills a table of its own,
whether it succeeds or not.
-/

namespace Appraisal.Formula

open Outcome

/-! ### Functions of an extended registry -/

namespace Registry

variable {r r' : Registry} {entries : List Entry}

theorem eq_of_functions_eq (h : r.functions = r'.functions) : r = r' := by
  cases r
  cases r'
  cases h
  rfl

theorem register_eq_ok_iff {f : Function} :
    r.register f = .ok r' ↔
      f.name ∉ r.functions.map Function.name ∧ r'.functions = r.functions ++ [f] := by
  unfold register
  split
  · rename_i h
    simp [h]
  · rename_i h
    simp only [h, not_false_eq_true, true_and, Except.ok.injEq]
    constructor
    · rintro rfl
      rfl
    · intro hfunctions
      exact eq_of_functions_eq hfunctions.symm

theorem add_eq_ok_iff {entry : Entry} :
    r.add entry = .ok r' ↔ ∃ f, entry = .function f ∧ r.register f = .ok r' := by
  cases entry with
  | function f => simp [add]
  | other d => simp [add]

/-- An extension succeeds on functions of other names only, and puts them behind those of the
registry. -/
theorem extended_eq_ok_iff :
    r.extended entries = .ok r' ↔
      ∃ fs, entries = fs.map .function ∧ r'.functions = r.functions ++ fs := by
  induction entries generalizing r with
  | nil =>
      constructor
      · intro h
        obtain rfl : r = r' := Except.ok.inj h
        exact ⟨[], rfl, (List.append_nil _).symm⟩
      · rintro ⟨fs, hfs, hfunctions⟩
        obtain rfl : fs = [] := List.map_eq_nil_iff.1 hfs.symm
        rw [List.append_nil] at hfunctions
        rw [eq_of_functions_eq hfunctions]
        rfl
  | cons entry entries ih =>
      have hcons : r.extended (entry :: entries) = r.add entry >>= fun r => r.extended entries := rfl
      rw [hcons, bind_eq_ok_iff]
      constructor
      · rintro ⟨middle, hadd, hrest⟩
        obtain ⟨f, rfl, hregister⟩ := add_eq_ok_iff.1 hadd
        obtain ⟨-, hmiddle⟩ := register_eq_ok_iff.1 hregister
        obtain ⟨fs, rfl, hfunctions⟩ := ih.1 hrest
        refine ⟨f :: fs, rfl, ?_⟩
        rw [hfunctions, hmiddle, List.append_assoc]
        rfl
      · rintro ⟨fs, hfs, hfunctions⟩
        obtain ⟨f, fs, rfl, rfl, rfl⟩ := List.map_eq_cons_iff.1 hfs.symm
        -- the name of each function is new because all names of the greater registry differ
        have hnew : f.name ∉ r.functions.map Function.name := by
          have hnodup := r'.nodup_names
          rw [hfunctions, List.map_append, List.nodup_append] at hnodup
          intro hmem
          exact hnodup.2.2 _ hmem _ (by simp) rfl
        have hmiddle : ∃ middle, r.register f = .ok middle := by
          unfold register
          rw [dif_neg hnew]
          exact ⟨_, rfl⟩
        obtain ⟨middle, hregister⟩ := hmiddle
        have hadded : middle.functions = r.functions ++ [f] := (register_eq_ok_iff.1 hregister).2
        refine ⟨middle, hregister, ih.2 ⟨fs, rfl, ?_⟩⟩
        rw [hadded, List.append_assoc]
        exact hfunctions

theorem find?_extended (h : r.extended entries = .ok r') {name : String} {f : Function}
    (hf : r.find? name = some f) : r'.find? name = some f := by
  obtain ⟨fs, -, hfunctions⟩ := extended_eq_ok_iff.1 h
  unfold find? at hf ⊢
  rw [hfunctions, List.find?_append, hf]
  rfl

/-- A registry is what is made of its own functions. -/
theorem extended_empty (r : Registry) : empty.extended (r.functions.map .function) = .ok r :=
  extended_eq_ok_iff.2 ⟨r.functions, rfl, rfl⟩

theorem extended_append (r : Registry) (entries : List Entry) :
    empty.extended (r.functions.map .function ++ entries) = r.extended entries := by
  have hsplit : empty.extended (r.functions.map .function ++ entries) =
      empty.extended (r.functions.map .function) >>= fun r => r.extended entries :=
    List.foldlM_append
  rw [hsplit, extended_empty]
  rfl

end Registry

/-! ### Tables

A registry keeps its functions in a table, and a table is filled entry by entry. -/

/-- The tables of functions that have been made so far, in the order in which they were made. -/
abbrev Tables := List (List Function)

namespace Tables

def admitted (table : List Function) : Entry → Except RegistrationError Function
  | .function f =>
      if f.name ∈ table.map Function.name then .error ⟨f.name, .duplicate⟩ else .ok f
  | .other d => .error ⟨d.shown, .notFunction⟩

/-- Puts the functions of entries at the end of a table, up to the first one that it cannot take. -/
def fill (tables : Tables) (place : Nat) : List Entry → Except RegistrationError Unit × Tables
  | [] => (.ok (), tables)
  | entry :: entries =>
      let table := tables.getD place []
      match admitted table entry with
      | .error e => (.error e, tables)
      | .ok f => fill (tables.set place (table ++ [f])) place entries

def make (tables : Tables) (entries : List Entry) : Except RegistrationError Nat × Tables :=
  let filled := fill (tables ++ [[]]) tables.length entries
  (filled.1.map (fun _ => tables.length), filled.2)

def extend (tables : Tables) (place : Nat) (entries : List Entry) :
    Except RegistrationError Nat × Tables :=
  make tables ((tables.getD place []).map .function ++ entries)

/-- Extends tables one after the other, whether the extensions before succeeded or not. -/
def extendAll (tables : Tables) (requests : List (Nat × List Entry)) : Tables :=
  requests.foldl (fun tables request => (extend tables request.1 request.2).2) tables

variable {tables : Tables} {entries : List Entry}

theorem admitted_of_add_eq_error {r : Registry} {entry : Entry} {e : RegistrationError}
    (h : r.add entry = .error e) : admitted r.functions entry = .error e := by
  cases entry with
  | other d => exact congrArg Except.error (Except.error.inj h)
  | function f =>
      simp only [Registry.add, Registry.register] at h
      simp only [admitted]
      split at h
      · rename_i hmem
        rw [if_pos hmem, Except.error.inj h]
      · cases h

theorem admitted_of_add_eq_ok {r r' : Registry} {entry : Entry} (h : r.add entry = .ok r') :
    ∃ f, admitted r.functions entry = .ok f ∧ r'.functions = r.functions ++ [f] := by
  obtain ⟨f, rfl, hregister⟩ := Registry.add_eq_ok_iff.1 h
  obtain ⟨hnew, hfunctions⟩ := Registry.register_eq_ok_iff.1 hregister
  exact ⟨f, if_neg hnew, hfunctions⟩

/-- A table is filled as a registry is extended, and no other table is written to. -/
theorem fill_eq_extended (tables : Tables) (r : Registry) :
    ∃ table, fill (tables ++ [r.functions]) tables.length entries =
        ((r.extended entries).map (fun _ => ()), tables ++ [table]) ∧
      ∀ r', r.extended entries = .ok r' → table = r'.functions := by
  induction entries generalizing r with
  | nil =>
      refine ⟨r.functions, rfl, ?_⟩
      intro r' h
      rw [Except.ok.inj h]
  | cons entry entries ih =>
      have hcons : r.extended (entry :: entries) = r.add entry >>= fun r => r.extended entries := rfl
      have htable : (tables ++ [r.functions]).getD tables.length [] = r.functions := by simp
      rw [hcons]
      unfold fill
      simp only [htable]
      cases hadd : r.add entry with
      | error e =>
          rw [admitted_of_add_eq_error hadd]
          refine ⟨r.functions, rfl, ?_⟩
          intro r' h
          cases h
      | ok middle =>
          obtain ⟨f, hf, hmiddle⟩ := admitted_of_add_eq_ok hadd
          have hwrite : (tables ++ [r.functions]).set tables.length (r.functions ++ [f]) =
              tables ++ [middle.functions] := by
            rw [hmiddle]
            simp
          rw [hf]
          simp only [hwrite, ok_bind]
          exact ih middle

theorem make_eq_extended (tables : Tables) (entries : List Entry) :
    ∃ table, make tables entries =
        ((Registry.empty.extended entries).map (fun _ => tables.length), tables ++ [table]) ∧
      ∀ r', Registry.empty.extended entries = .ok r' → table = r'.functions := by
  obtain ⟨table, hfill, htable⟩ := @fill_eq_extended entries tables Registry.empty
  refine ⟨table, ?_, htable⟩
  have hmake : make tables entries =
      ((fill (tables ++ [Registry.empty.functions]) tables.length entries).1.map
        (fun _ => tables.length),
        (fill (tables ++ [Registry.empty.functions]) tables.length entries).2) := rfl
  rw [hmake, hfill]
  cases Registry.empty.extended entries with
  | error e => rfl
  | ok r => rfl

/-- An extension leaves every table that was there as it was, whether it succeeds or not. -/
theorem prefix_extend (tables : Tables) (place : Nat) (entries : List Entry) :
    tables <+: (extend tables place entries).2 := by
  obtain ⟨table, hmake, -⟩ :=
    make_eq_extended tables ((tables.getD place []).map .function ++ entries)
  unfold extend
  rw [hmake]
  exact List.prefix_append tables [table]

theorem prefix_extendAll (tables : Tables) (requests : List (Nat × List Entry)) :
    tables <+: extendAll tables requests := by
  induction requests generalizing tables with
  | nil => exact List.prefix_refl tables
  | cons request requests ih =>
      have hfirst := prefix_extend tables request.1 request.2
      exact hfirst.trans (ih (extend tables request.1 request.2).2)

/-- What the extension of a registry in a table does: it ends as the extension of the registry does,
and a registry that it gives has the table behind all others. -/
structure Registers (tables : Tables) (r : Registry) (entries : List Entry)
    (outcome : Except RegistrationError Nat × Tables) : Prop where
  place_eq : outcome.1 = (r.extended entries).map (fun _ => tables.length)
  kept : tables <+: outcome.2
  entered : ∀ r', r.extended entries = .ok r' → outcome.2[tables.length]? = some r'.functions

theorem registers_extend {place : Nat} {r : Registry} (h : tables[place]? = some r.functions)
    (entries : List Entry) : Registers tables r entries (extend tables place entries) := by
  have htable : tables.getD place [] = r.functions := by
    rw [List.getD_eq_getElem?_getD, h]
    rfl
  obtain ⟨table, hmake, hnew⟩ :=
    make_eq_extended tables (r.functions.map .function ++ entries)
  rw [Registry.extended_append] at hmake hnew
  unfold extend
  rw [htable, hmake]
  constructor
  · rfl
  · exact List.prefix_append tables [table]
  · intro r' hr'
    rw [hnew r' hr']
    simp

end Tables

/-! ### Trees under more names -/

def Schema.Keeps (schema schema' : Schema) : Prop :=
  ∀ n k, schema.lookup n = some k → schema'.lookup n = some k

theorem Schema.keeps_append (schema more : Schema) : Schema.Keeps schema (schema ++ more) := by
  intro n k h
  rw [List.lookup_append, h]
  rfl

structure Scope.Keeps (s s' : Scope) : Prop where
  lookup : Schema.Keeps s.schema s'.schema
  find : ∀ n f, s.registry.find? n = some f → s'.registry.find? n = some f

namespace Scope

variable {s s' : Scope} {column : Nat}

theorem Keeps.name (h : s.Keeps s') {n : String} {u : Tree} (hu : s.name column n = .ok u) :
    s'.name column n = .ok u := by
  rw [name_eq_ok_iff] at hu ⊢
  rcases hu with htruth | ⟨hnone, k, hk, hu⟩
  · exact .inl htruth
  · exact .inr ⟨hnone, k, h.lookup _ _ hk, hu⟩

theorem Keeps.callee (h : s.Keeps s') {target : Surface} {args named : List Surface}
    {f : Function} (hf : s.callee column target args named = .ok f) :
    s'.callee column target args named = .ok f := by
  obtain ⟨c, n, rfl⟩ := s.callee_eq_ok hf
  rw [callee_name_eq_ok_iff] at hf ⊢
  obtain ⟨hnamed, hstars, hfind, hcount⟩ := hf
  exact ⟨hnamed, hstars, h.find _ _ hfind, hcount⟩

theorem links_of_links {l : Tree} {rest : List (Relation × Tree)} {us : List Tree}
    (h : s.links column l rest = .ok us) : s'.links column l rest = .ok us := by
  induction rest generalizing l us with
  | nil => exact h
  | cons r rest ih =>
      obtain ⟨relation, t⟩ := r
      rw [links_cons_eq_ok_iff] at h ⊢
      obtain ⟨u, others, hu, hothers, rfl⟩ := h
      rw [link_eq_ok_iff] at hu
      exact ⟨u, others, s'.link_eq_ok_iff.2 hu, ih hothers, rfl⟩

theorem lowerAll_of_forall {es : List Surface} {ts : List Tree}
    (ih : ∀ e ∈ es, ∀ t, s.lower e = .ok t → s'.lower e = .ok t) (h : s.lowerAll es = .ok ts) :
    s'.lowerAll es = .ok ts := by
  rw [lowerAll_eq_ok_iff] at h ⊢
  induction h with
  | nil => exact .nil
  | cons het _ ihrest =>
      rw [List.forall_mem_cons] at ih
      exact .cons (ih.1 _ het) (ihrest ih.2)

theorem lowerLinks_of_forall {ls : List (Relation × Surface)} {rs : List (Relation × Tree)}
    (ih : ∀ l ∈ ls, ∀ t, s.lower l.2 = .ok t → s'.lower l.2 = .ok t)
    (h : s.lowerLinks ls = .ok rs) : s'.lowerLinks ls = .ok rs := by
  rw [lowerLinks_eq_ok_iff] at h ⊢
  induction h with
  | nil => exact .nil
  | cons hlr _ ihrest =>
      rw [List.forall_mem_cons] at ih
      exact .cons ⟨hlr.1, ih.1 _ hlr.2⟩ (ihrest ih.2)

/-- An expression has the same tree where more names have a meaning. -/
theorem Keeps.lower (h : s.Keeps s') {e : Surface} {t : Tree} (ht : s.lower e = .ok t) :
    s'.lower e = .ok t := by
  induction e generalizing t with
  | constant c v =>
      unfold Scope.lower at ht ⊢
      rw [constant_eq_ok_iff] at ht ⊢
      exact ht
  | name c n =>
      unfold Scope.lower at ht ⊢
      exact h.name ht
  | unary c op e ih =>
      unfold Scope.lower at ht ⊢
      rw [bind_eq_ok_iff] at ht ⊢
      obtain ⟨u, hu, hop⟩ := ht
      rw [unary_eq_ok_iff] at hop
      exact ⟨u, ih hu, s'.unary_eq_ok_iff.2 hop⟩
  | binary c op l r ihl ihr =>
      unfold Scope.lower at ht ⊢
      cases ho : arithmetic? op with
      | none =>
          rw [ho] at ht
          cases ht
      | some a =>
          simp only [ho, bind_eq_ok_iff] at ht ⊢
          obtain ⟨u, hu, w, hw, hop⟩ := ht
          rw [binary_eq_ok_iff] at hop
          exact ⟨u, ihl hu, w, ihr hw, s'.binary_eq_ok_iff.2 hop⟩
  | connective c b es ih =>
      unfold Scope.lower at ht ⊢
      rw [bind_eq_ok_iff] at ht ⊢
      obtain ⟨ts, hts, hop⟩ := ht
      rw [connective_eq_ok_iff] at hop
      have hall := lowerAll_of_forall (fun e he _ => ih e he) hts
      exact ⟨ts, hall, s'.connective_eq_ok_iff.2 hop⟩
  | comparison c l ls ihl ihs =>
      unfold Scope.lower at ht ⊢
      simp only [bind_eq_ok_iff] at ht ⊢
      obtain ⟨u, hu, rs, hrs, hop⟩ := ht
      obtain ⟨first, others, hlinks, hjoined⟩ := s.comparison_eq_ok_iff.1 hop
      have hall := lowerLinks_of_forall (fun l hl _ => ihs l hl) hrs
      exact ⟨u, ihl hu, rs, hall,
        s'.comparison_eq_ok_iff.2 ⟨first, others, links_of_links hlinks, hjoined⟩⟩
  | call c target args named _ iha _ =>
      unfold Scope.lower at ht ⊢
      simp only [bind_eq_ok_iff] at ht ⊢
      obtain ⟨f, hf, ts, hts, hop⟩ := ht
      rw [call_eq_ok_iff] at hop
      have hall := lowerAll_of_forall (fun e he _ => iha e he) hts
      exact ⟨f, h.callee hf, ts, hall, s'.call_eq_ok_iff.2 hop⟩
  | other c k parts _ =>
      cases ht

end Scope

theorem compile_of_keeps {source : Text} {schema schema' : Schema} {r r' : Registry}
    {nodeLimit : Int} {p : Program} (h : Scope.Keeps ⟨source, schema, r⟩ ⟨source, schema', r'⟩)
    (hp : compile source schema r nodeLimit = .ok p) :
    compile source schema' r' nodeLimit = .ok { p with registry := r' } := by
  rw [compile_eq_compileByCount, compileByCount_eq_ok_iff] at hp ⊢
  obtain ⟨e, root, hread, hroot, hcount, rfl⟩ := hp
  exact ⟨e, root, hread, h.lower hroot, hcount, rfl⟩

/-! ### Runs under more names -/

namespace Evaluation

variable {v : Evaluation} {r' : Registry}

theorem function_of_find (h : ∀ n f, v.registry.find? n = some f → r'.find? n = some f)
    {f : Function} (hf : f ∈ v.registry.functions) :
    function { v with registry := r' } f.name = v.function f.name := by
  have hfind : v.registry.find? f.name = some f := Registry.find?_eq_some_iff.2 hf
  have hfind' : r'.find? f.name = some f := h _ _ hfind
  simp [function, Text.string?_ofString, hfind, hfind']

/-- A tree whose calls are calls of functions of a registry is evaluated alike under every registry
that finds these functions. -/
theorem eval_of_find {schema : Schema}
    (h : ∀ n f, v.registry.find? n = some f → r'.find? n = some f) {t : Tree}
    (ht : t.WellKinded schema v.registry) :
    eval { v with registry := r' } t = v.eval t := by
  induction ht with
  | truth b => rfl
  | text t => rfl
  | number x hx => rfl
  | reference n k hk => rfl
  | sign op t ho ht hk ih =>
      simp only [eval, ih]
      rfl
  | not t ht hk ih =>
      simp only [eval, ih]
      rfl
  | concatenation l r hl hr hlk hrk ihl ihr =>
      simp only [eval, ihl, ihr]
      rfl
  | arithmetic op l r hl hr hlk hrk ihl ihr =>
      simp only [eval, ihl, ihr]
      rfl
  | comparison op l r hl hr hk ho ihl ihr =>
      simp only [eval, ihl, ihr]
      rfl
  | connective op l r ho hl hr hlk hrk ihl ihr =>
      simp only [eval, ihl, ihr]
      rfl
  | call f args hf hmin hmax hargs hk ih =>
      have hcallee := @function_of_find v r' h f hf
      have hvalues : evalAll { v with registry := r' } args = v.evalAll args := evalAll_congr ih
      simp only [eval, hcallee, hvalues]
      rfl

end Evaluation

namespace Program

/-- Programs of one tree that end alike in every environment, whatever the limit of steps. -/
structure Alike (p p' : Program) : Prop where
  source_eq : p'.source = p.source
  root_eq : p'.root = p.root
  kind_eq : p'.kind = p.kind
  count_eq : p'.count = p.count
  run_eq : ∀ environment limit, p'.run environment limit = p.run environment limit
  runNumeric_eq : ∀ environment limit,
    p'.runNumeric environment limit = p.runNumeric environment limit

theorem alike_of_find {schema : Schema} {r' : Registry} (p : Program)
    (h : ∀ n f, p.registry.find? n = some f → r'.find? n = some f)
    (ht : p.root.WellKinded schema p.registry) : p.Alike { p with registry := r' } := by
  have hrun (environment : Environment) (limit : Int) :
      run { p with registry := r' } environment limit = p.run environment limit := by
    have heval := @Evaluation.eval_of_find ⟨p.source, p.registry, environment, limit⟩ r' schema h
      p.root ht
    unfold run
    rw [← heval]
  constructor
  · rfl
  · rfl
  · rfl
  · rfl
  · exact hrun
  · intro environment limit
    unfold runNumeric
    rw [hrun]
    rfl

end Program

/-- To extend a registry changes nothing for the formulas that it accepts. With an extended registry,
and with more variables, such a formula has the same tree, and every run of it ends with the same
value or the same fault. The registry that is extended, and every other one, stays as it is, also
when the extension fails, and so it is however many extensions follow each other. -/
theorem extension_is_conservative :
    (∀ (r r' : Registry) (entries : List Entry), r.extended entries = .ok r' →
      ∀ (source : Text) (schema schema' : Schema) (nodeLimit : Int) (p : Program),
        Schema.Keeps schema schema' → compile source schema r nodeLimit = .ok p →
        ∃ p', compile source schema' r' nodeLimit = .ok p' ∧ p.Alike p') ∧
    (∀ (tables : Tables) (place : Nat) (r : Registry) (entries : List Entry),
      tables[place]? = some r.functions →
      Tables.Registers tables r entries (Tables.extend tables place entries)) ∧
    ∀ (tables : Tables) (requests : List (Nat × List Entry)),
      tables <+: Tables.extendAll tables requests := by
  refine ⟨?_, ?_, ?_⟩
  · intro r r' entries hr source schema schema' nodeLimit p hschema hp
    have hfind : ∀ n f, r.find? n = some f → r'.find? n = some f :=
      fun n f hf => Registry.find?_extended hr hf
    obtain ⟨-, rfl, hroot⟩ := wellKinded_of_compile hp
    exact ⟨_, compile_of_keeps ⟨hschema, hfind⟩ hp, p.alike_of_find hfind hroot⟩
  · intro tables place r entries h
    exact Tables.registers_extend h entries
  · intro tables requests
    exact Tables.prefix_extendAll tables requests

def twice : Function :=
  Library.function "twice" [.number] .number
    (Library.unary ["x"] (fun x => Library.lift (x.add x))) "Double a number." "twice(amount)"

/-- The library with one more function and a schema with one more variable: a formula keeps its tree
and its outcomes. A second function of one name is refused, and the table of the library stays. -/
theorem twice_extends_library :
    (∃ r' p p', Library.registry.extended [.function twice] = .ok r' ∧
      compile "if_else(days_held > 365, min(amount, 9), 1)" = .ok p ∧
      compile "if_else(days_held > 365, min(amount, 9), 1)"
        (postingSchema ++ [(("rate" : Text), .number)]) r' = .ok p' ∧ p.Alike p') ∧
    Tables.Registers [Library.functions] Library.registry [.function twice, .function twice]
      (Tables.extend [Library.functions] 0 [.function twice, .function twice]) ∧
    (Tables.extend [Library.functions] 0 [.function twice, .function twice]).1 =
      .error ⟨"twice", .duplicate⟩ := by
  obtain ⟨hcompiled, htables, -⟩ := extension_is_conservative
  have hregisters := htables [Library.functions] 0 Library.registry
    [.function twice, .function twice] rfl
  have hrefused : Library.registry.extended [.function twice, .function twice] =
      .error ⟨"twice", .duplicate⟩ := rfl
  obtain ⟨r', hr⟩ : ∃ r', Library.registry.extended [.function twice] = .ok r' := by
    apply exists_eq_ok_of_isSome
    decide +kernel
  obtain ⟨p, hp⟩ : ∃ p, compile "if_else(days_held > 365, min(amount, 9), 1)" = .ok p := by
    apply exists_eq_ok_of_isSome
    decide +kernel
  refine ⟨?_, hregisters, ?_⟩
  · obtain ⟨p', hp', halike⟩ := hcompiled _ r' _ hr _ _ (postingSchema ++ [(("rate" : Text), .number)])
      _ p (Schema.keeps_append _ _) hp
    exact ⟨r', p, p', hr, hp, hp', halike⟩
  · rw [hregisters.place_eq, hrefused]
    rfl

end Appraisal.Formula
