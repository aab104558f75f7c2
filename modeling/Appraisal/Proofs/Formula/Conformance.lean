import Appraisal.Proofs.Formula.Failure
import Appraisal.Proofs.Formula.Lowering

/-!
# Functions that keep their declarations

A function keeps its declaration when every run of it on values of its parameters' kinds gives a
value of its result's kind or is refused. All functions of the library do. A call of such a function
gives a value of the declared kind or fails for a reason that is no complaint.
-/

namespace Appraisal

open Outcome Formula

namespace Quantity

def IsDouble (q : Quantity) : Prop := ∃ x, q = .double x

theorem isDouble_combine_left {exact : Int → Int → Int} {approximate : Float → Float → Float}
    {p q r : Quantity} (hp : p.IsDouble) (h : combine exact approximate p q = .ok r) :
    r.IsDouble := by
  obtain ⟨x, rfl⟩ := hp
  obtain ⟨a, -, h⟩ := bind_eq_ok_iff.1 h
  obtain ⟨b, -, h⟩ := bind_eq_ok_iff.1 h
  exact ⟨_, (Except.ok.inj h).symm⟩

end Quantity

namespace Formula

/-- What a call turns into a failure of its own: a refused operation, unless the system refuses it. -/
def IsCaught (e : Fault) : Prop := ∃ r : Refusal, e = .refusal r ∧ r.family ≠ .system

/-- The function gives values of its declared kind on values of the kinds of its parameters, and its
declared values have the kinds of the parameters that they stand for. -/
structure Function.Conforms (f : Function) : Prop where
  run : ∀ values, List.Forall₂ Datum.IsValue f.params values →
    Sound IsCaught (Datum.IsValue f.returns) (f.impl.run values)
  defaults : List.Forall₂ Datum.IsValue (f.params.drop f.required) f.defaults

namespace Library

open Quantity

/-! ### Implementations -/

theorem sound_lift {α : Type} {P : α → Prop} {x : Except QuantityError α}
    (h : ∀ a, x = .ok a → P a) : Sound IsCaught P (lift x) := by
  cases x with
  | error e => exact ⟨_, rfl, nofun⟩
  | ok a => exact h a rfl

theorem sound_lift_true {α : Type} {x : Except QuantityError α} :
    Sound IsCaught (fun _ => True) (lift x) := sound_lift (fun _ _ => trivial)

theorem sound_ofQuantity {x : Except Fault Quantity} (h : Sound IsCaught IsDouble x) :
    Sound IsCaught (Datum.IsValue .number) (x.map .ofQuantity) := by
  cases x with
  | error e => exact h
  | ok q =>
      obtain ⟨y, rfl⟩ := h
      exact .number y

theorem exists_doubles {n : Nat} {values : List Datum}
    (h : List.Forall₂ Datum.IsValue (List.replicate n .number) values) :
    ∃ xs : List Float, xs.length = n ∧ xs.map .double = values := by
  induction n generalizing values with
  | zero => exact ⟨[], rfl, (List.forall₂_nil_left_iff.1 h).symm⟩
  | succ n ih =>
      rw [List.replicate_succ] at h
      cases h with
      | cons hx hv =>
          obtain ⟨x⟩ := hx
          obtain ⟨xs, rfl, rfl⟩ := ih hv
          exact ⟨x :: xs, rfl, rfl⟩

theorem ofQuantities_doubles (xs : List Float) :
    ofQuantities (xs.map .double) = some (xs.map Quantity.double) := by
  unfold ofQuantities
  induction xs with
  | nil => rfl
  | cons x xs ih =>
      rw [List.map_cons, List.mapM_cons, ih]
      rfl

theorem sound_numeric {names : List String} {run : List Quantity → Except Fault Quantity} {n : Nat}
    (h : ∀ xs : List Float, xs.length = n →
      Sound IsCaught IsDouble (run (xs.map .double)))
    (values : List Datum) (hv : List.Forall₂ Datum.IsValue (List.replicate n .number) values) :
    Sound IsCaught (Datum.IsValue .number) ((numeric names run).run values) := by
  obtain ⟨xs, hx, rfl⟩ := exists_doubles hv
  have hrun : (numeric names run).run (xs.map .double) =
      (run (xs.map .double)).map .ofQuantity := by
    simp only [numeric, ofQuantities_doubles]
  rw [hrun]
  exact sound_ofQuantity (h xs hx)

theorem sound_unary {names : List String} {f : Quantity → Except Fault Quantity}
    (h : ∀ x, Sound IsCaught IsDouble (f (double x))) (values : List Datum)
    (hv : List.Forall₂ Datum.IsValue [.number] values) :
    Sound IsCaught (Datum.IsValue .number) ((unary names f).run values) := by
  refine sound_numeric (n := 1) (fun xs hx => ?_) values hv
  obtain ⟨x, rfl⟩ := List.length_eq_one_iff.1 hx
  exact h x

theorem sound_binary {names : List String} {f : Quantity → Quantity → Except Fault Quantity}
    (h : ∀ x y, Sound IsCaught IsDouble (f (double x) (double y))) (values : List Datum)
    (hv : List.Forall₂ Datum.IsValue [.number, .number] values) :
    Sound IsCaught (Datum.IsValue .number) ((binary names f).run values) := by
  refine sound_numeric (n := 2) (fun xs hx => ?_) values hv
  obtain ⟨x, y, rfl⟩ := List.length_eq_two.1 hx
  exact h x y

theorem sound_ternary {names : List String}
    {f : Quantity → Quantity → Quantity → Except Fault Quantity}
    (h : ∀ x y z, Sound IsCaught IsDouble (f (double x) (double y) (double z)))
    (values : List Datum) (hv : List.Forall₂ Datum.IsValue [.number, .number, .number] values) :
    Sound IsCaught (Datum.IsValue .number) ((ternary names f).run values) := by
  refine sound_numeric (n := 3) (fun xs hx => ?_) values hv
  obtain ⟨x, y, z, rfl⟩ := List.length_eq_three.1 hx
  exact h x y z

theorem sound_textual {names : List String} {f : Text → Text → Datum} {k : Kind}
    (h : ∀ s t, (f s t).IsValue k) (values : List Datum)
    (hv : List.Forall₂ Datum.IsValue [.string, .string] values) :
    Sound IsCaught (Datum.IsValue k) ((textual names f).run values) := by
  cases hv with
  | cons hs hv =>
      cases hv with
      | cons ht hnil =>
          cases hnil
          cases hs with
          | string s =>
              cases ht with
              | string t => exact h s t

theorem sound_choose (values : List Datum)
    (hv : List.Forall₂ Datum.IsValue [.boolean, .number, .number] values) :
    Sound IsCaught (Datum.IsValue .number) (choose values) := by
  cases hv with
  | cons hb hv =>
      obtain ⟨xs, hx, rfl⟩ := exists_doubles (n := 2) hv
      obtain ⟨x, y, rfl⟩ := List.length_eq_two.1 hx
      cases hb with
      | boolean b =>
          cases b
          · exact .number y
          · exact .number x

/-! ### Operations on doubles -/

theorem sound_interestOver (span : Int) (p : Float) (r d : Quantity) :
    Sound IsCaught IsDouble (lift (interestOver span (double p) r d)) := by
  refine sound_lift (fun q hq => ?_)
  obtain ⟨share, -, hq⟩ := bind_eq_ok_iff.1 hq
  obtain ⟨yearly, hy, hq⟩ := bind_eq_ok_iff.1 hq
  obtain ⟨fraction, -, hq⟩ := bind_eq_ok_iff.1 hq
  exact isDouble_combine_left (isDouble_combine_left ⟨p, rfl⟩ hy) hq

theorem sound_dailyInterest (p : Float) (r d : Quantity) :
    Sound IsCaught IsDouble (lift (dailyInterest (double p) r d)) := by
  refine sound_lift (fun q hq => ?_)
  obtain ⟨share, -, hq⟩ := bind_eq_ok_iff.1 hq
  obtain ⟨daily, hy, hq⟩ := bind_eq_ok_iff.1 hq
  exact isDouble_combine_left (isDouble_combine_left ⟨p, rfl⟩ hy) hq

theorem family_of_floatPower {x y : Float} {r : Refusal} (h : floatPower x y = .error r) :
    r.family ≠ .system := by
  unfold floatPower at h
  dsimp only at h
  repeat' split at h
  all_goals cases h
  all_goals nofun

theorem sound_power (x y : Quantity) : Sound IsCaught IsDouble (power x y) := by
  refine sound_lift_true.bind (fun a _ => sound_lift_true.bind (fun b _ => ?_))
  cases hpower : floatPower a b with
  | ok r => exact ⟨r, rfl⟩
  | error e => exact ⟨e, rfl, family_of_floatPower hpower⟩

theorem sound_compoundInterest (p : Float) (r d n : Quantity) :
    Sound IsCaught IsDouble (compoundInterest (double p) r d n) := by
  refine sound_lift_true.bind (fun _ _ => sound_lift_true.bind (fun _ _ => ?_))
  refine sound_lift_true.bind (fun _ _ => sound_lift_true.bind (fun _ _ => ?_))
  refine sound_lift_true.bind (fun _ _ => (sound_power _ _).bind (fun _ _ => ?_))
  exact sound_lift (fun _ hq => isDouble_combine_left ⟨p, rfl⟩ hq)

theorem isDouble_minimum (x y : Float) : (minimum (double x) (double y)).IsDouble := by
  unfold minimum
  split
  · exact ⟨y, rfl⟩
  · exact ⟨x, rfl⟩

theorem isDouble_maximum (x y : Float) : (maximum (double x) (double y)).IsDouble := by
  unfold maximum
  split
  · exact ⟨y, rfl⟩
  · exact ⟨x, rfl⟩

theorem isDouble_clamped (x low high : Float) :
    (clamped (double x) (double low) (double high)).IsDouble := by
  unfold clamped
  obtain ⟨y, hy⟩ := isDouble_minimum high x
  rw [hy]
  exact isDouble_maximum low y

theorem isDouble_rounded (x : Float) : (rounded (double x)).IsDouble := by
  unfold rounded
  split
  · exact ⟨_, rfl⟩
  · exact ⟨x, rfl⟩

theorem sound_integralPart (f : Float → Except NotIntegral Int) (x : Float) :
    Sound IsCaught IsDouble (integralPart f (double x)) := by
  have hint : Sound IsCaught (fun _ => True) (liftIntegral (f x)) := by
    cases f x with
    | error e => exact ⟨_, rfl, by cases e <;> nofun⟩
    | ok n => trivial
  refine hint.bind (fun n _ => ?_)
  cases (whole n).toFloat with
  | error e => exact ⟨_, rfl, nofun⟩
  | ok y => exact ⟨y, rfl⟩

theorem sound_squareRoot (x : Quantity) : Sound IsCaught IsDouble (squareRoot x) := by
  refine sound_lift_true.bind (fun a _ => ?_)
  dsimp only
  split
  · exact ⟨_, rfl, nofun⟩
  · exact ⟨_, rfl⟩

/-! ### The library -/

theorem conforms_function {name : String} {params : List Kind} {returns : Kind}
    {impl : Implementation} {doc sample : Text} {isName : Text.isName name.toList = true}
    {suitable : impl.objection? params.length = none}
    (h : ∀ values, List.Forall₂ Datum.IsValue params values →
      Sound IsCaught (Datum.IsValue returns) (impl.run values)) :
    (function name params returns impl doc sample isName suitable).Conforms where
  run := h
  defaults := by
    have hdrop : params.drop params.length = [] := List.drop_length
    simp [function, hdrop]

theorem conforms_compoundInterestFunction : compoundInterestFunction.Conforms where
  run := by
    refine sound_numeric (n := 4) (fun xs hx => ?_)
    match xs, hx with
    | [p, r, d, n], _ => exact sound_compoundInterest p (double r) (double d) (double n)
  defaults := .cons (.number monthlyPeriods) .nil

/-- Every function of the library keeps its declaration. -/
theorem conforms_of_mem {f : Function} (h : f ∈ registry.functions) : f.Conforms := by
  have hall : ∀ f ∈ functions, f.Conforms := by
    simp only [functions, List.forall_mem_cons]
    refine ⟨?_, ?_, ?_, ?_, ?_, ?_, ?_, ?_, ?_, ?_, ?_, ?_, ?_, ?_, ?_, ?_, ?_, ?_⟩
    · exact conforms_function (sound_ternary (fun p r d => sound_interestOver 365 p _ _))
    · exact conforms_compoundInterestFunction
    · exact conforms_function (sound_ternary (fun p r d => sound_interestOver 30 p _ _))
    · exact conforms_function (sound_ternary (fun p r d => sound_dailyInterest p _ _))
    · exact conforms_function (sound_binary isDouble_minimum)
    · exact conforms_function (sound_binary isDouble_maximum)
    · exact conforms_function (sound_unary isDouble_rounded)
    · exact conforms_function (sound_unary (sound_integralPart floorInt))
    · exact conforms_function (sound_unary (sound_integralPart ceilInt))
    · exact conforms_function (sound_unary (fun x => ⟨x.abs, rfl⟩))
    · exact conforms_function (sound_binary (fun x y => sound_power _ _))
    · exact conforms_function (sound_unary (fun x => sound_squareRoot _))
    · exact conforms_function (sound_ternary isDouble_clamped)
    · exact conforms_function sound_choose
    · exact conforms_function (sound_textual (fun s t => .number _))
    · exact conforms_function (sound_textual (fun s t => .string _))
    · exact conforms_function (sound_textual (fun s t => .boolean _))
    · exact fun f hf => absurd hf List.not_mem_nil
  exact hall f h

end Library

/-! ### Calls -/

/-- A failure of a formula, for a reason that is no complaint. -/
def Fails (registry : Registry) (formula : Text) (e : Fault) : Prop :=
  ∃ detail, IsFailure registry detail ∧ e = .formula (.failed formula detail)

theorem misfit?_eq_none {ks : List Kind} {ds : List Datum} {position : Nat}
    (h : List.Forall₂ Datum.IsValue ks ds) : misfit? position ks ds = none := by
  induction h generalizing position with
  | nil => rfl
  | cons hd _ ih => rw [misfit?, if_pos hd.isOf, ih]

namespace Function

variable {f : Function}

/-- The arguments of a call, with the declared values of the parameters that are left out, have the
kinds of the parameters. -/
theorem forall₂_filled (hf : f.Conforms) {args : List Datum} (hmin : f.required ≤ args.length)
    (h : List.Forall₂ Datum.IsValue (f.params.take args.length) args) :
    List.Forall₂ Datum.IsValue f.params (f.filled args) := by
  have hrest := List.forall₂_drop (args.length - f.required) hf.defaults
  rw [List.drop_drop, Nat.add_sub_cancel' hmin] at hrest
  have happend : List.Forall₂ Datum.IsValue
      (f.params.take args.length ++ f.params.drop args.length) (f.filled args) :=
    List.rel_append h hrest
  rwa [List.take_append_drop] at happend

theorem sound_checked {registry : Registry} (hmem : f ∈ registry.functions) {d : Datum}
    (h : d.IsValue f.returns) (formula : Text) :
    Sound (Fails registry formula) (Datum.IsValue f.returns) (f.checked formula d) := by
  have hdeclared : f.asDeclared d = .ok d := by
    unfold asDeclared
    generalize f.returns = k at h
    cases h <;> rfl
  have hof : (!d.isOf f.returns) = false := by rw [h.isOf]; rfl
  unfold checked
  rw [hdeclared, ok_bind, hof]
  cases d with
  | double x =>
      by_cases hx : x.isFinite = true
      · simpa [hx] using h
      · have hfail : Fails registry formula
            (failed formula (f.name ++ "() produced a non-finite result")) :=
          ⟨_, .result f hmem, rfl⟩
        simpa [hx] using hfail
  | _ => exact h

/-- A call with arguments of the right kinds gives a value of the declared kind, or fails. -/
theorem sound_invoke {registry : Registry} (hmem : f ∈ registry.functions) (hf : f.Conforms)
    {args : List Datum} (hmin : f.required ≤ args.length) (hmax : args.length ≤ f.params.length)
    (h : List.Forall₂ Datum.IsValue (f.params.take args.length) args) (formula : Text) :
    Sound (Fails registry formula) (Datum.IsValue f.returns) (f.invoke args formula) := by
  have hfilled := forall₂_filled hf hmin h
  have hperform : Sound (Fails registry formula) (Datum.IsValue f.returns)
      (f.perform formula (f.filled args)) := by
    have hrun := hf.run (f.filled args) hfilled
    unfold perform
    cases he : f.impl.run (f.filled args) with
    | ok d =>
        rw [he] at hrun
        exact hrun
    | error e =>
        rw [he] at hrun
        obtain ⟨r, rfl, hcaught⟩ := hrun
        refine ⟨_, .refused f hmem _ hfilled r he hcaught, ?_⟩
        simp only [if_neg hcaught]
        rfl
  unfold invoke
  rw [if_pos (Scope.accepts_iff.2 ⟨hmin, hmax⟩)]
  simp only [misfit?_eq_none hfilled]
  exact hperform.bind (fun d hd => sound_checked hmem hd formula)

end Function

end Formula

end Appraisal
