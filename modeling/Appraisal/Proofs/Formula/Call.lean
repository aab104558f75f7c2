import Appraisal.Proofs.Formula.Conformance
import Appraisal.Proofs.Number.Monotone
import Appraisal.Proofs.Outcome
import Mathlib.Data.List.DropRight

/-!
# How a call begins and ends

A call checks its arguments, runs the implementation and checks the result. Whatever an implementation
gives, and whatever operation it refuses, the call is meant to end with a value of the declared kind or
with a failure of the formula. There is one gap. A whole result in the place of a number becomes a
double after the implementation has ended, where nothing catches what refuses it.

The last arguments of a call may be left out. Three numbers then have to agree: how many arguments are
given, how many are required and how many parameters there are. The declared values of the others were
checked with the declaration, so that they are never what a call fails on.
-/

namespace Appraisal.Formula

open Outcome

theorem misfit?_eq_none_of_fits {ks : List Kind} {ds : List Datum} {position : Nat}
    (h : fits ks ds = true) : misfit? position ks ds = none := by
  induction ks generalizing ds position with
  | nil => rfl
  | cons k ks ih =>
      cases ds with
      | nil => rfl
      | cons d ds =>
          simp only [fits, Bool.and_eq_true] at h
          rw [misfit?, if_pos h.1]
          exact ih h.2

/-- Values that fit the kinds after the first ones cannot be the first misfit. -/
theorem misfit?_append {ks : List Kind} {given rest : List Datum} {position : Nat}
    (h : fits (ks.drop given.length) rest = true) :
    misfit? position ks (given ++ rest) = misfit? position ks given := by
  induction given generalizing ks position with
  | nil =>
      have hrest : misfit? position ks rest = none := misfit?_eq_none_of_fits h
      rw [List.nil_append, hrest]
      cases ks <;> rfl
  | cons d given ih =>
      cases ks with
      | nil => rfl
      | cons k ks =>
          rw [List.cons_append, misfit?, misfit?, ih h]

theorem fits_drop {ks : List Kind} {ds : List Datum} (n : Nat) (h : fits ks ds = true) :
    fits (ks.drop n) (ds.drop n) = true := by
  induction n generalizing ks ds with
  | zero => exact h
  | succ n ih =>
      cases ks with
      | nil =>
          cases ds with
          | nil => rfl
          | cons d ds => cases h
      | cons k ks =>
          cases ds with
          | nil => cases h
          | cons d ds => exact ih (Bool.and_eq_true_iff.1 h).2

structure Declaration.Declares (d : Declaration) (f : Function) : Prop where
  params : d.params.map Declaration.kind? = f.params.map some
  returns : Declaration.kind? d.returns = some f.returns
  required : Declaration.requiredOf d.required f.params.length = .ok f.required
  defaults : f.defaults = d.defaults
  impl : d.impl = some f.impl

namespace Declaration

variable {d : Declaration} {f : Function}

theorem map_kind?_of_kinds {name : Text} {given : List Datum} {ks : List Kind}
    (h : kinds name given = .ok ks) : given.map kind? = ks.map some := by
  induction given generalizing ks with
  | nil =>
      cases h
      rfl
  | cons d given ih =>
      unfold kinds at h
      cases hd : kind? d with
      | none => simp only [hd] at h; cases h
      | some k =>
          cases hrest : kinds name given with
          | error e => simp only [hd, hrest] at h; cases h
          | ok rest =>
              simp only [hd, hrest] at h
              cases h
              rw [List.map_cons, List.map_cons, hd, ih hrest]

theorem declares_of_checkNamed {name : String} (h : d.checkNamed name = .ok f) :
    d.Declares f := by
  unfold checkNamed at h
  split at h
  · split at h
    · cases h
    · rename_i params hparams
      split at h
      · cases h
      · rename_i returns hreturns
        split at h
        · cases h
        · rename_i required hrequired
          dsimp only at h
          split at h
          · cases h
          · split at h
            · cases h
            · split at h
              · cases h
              · rename_i impl himpl
                split at h
                · cases h
                · split at h
                  · cases h
                    exact ⟨map_kind?_of_kinds hparams, hreturns, hrequired, rfl, himpl⟩
                  · cases h
  · cases h

theorem declares_of_check (h : d.check = .ok f) : d.Declares f := by
  unfold check at h
  split at h
  · split at h
    · exact declares_of_checkNamed h
    · cases h
  · cases h

end Declaration

namespace Function

variable {f : Function} {args : List Datum} {formula : Text}

/-- On values of the declared kinds the implementation gives something, of whatever kind, or refuses an
operation. -/
def IsGuarded (f : Function) : Prop :=
  ∀ values, fits f.params values = true → Sound IsCaught (fun _ => True) (f.impl.run values)

structure Answers (f : Function) (d : Datum) : Prop where
  isOf : d.isOf f.returns = true
  isFinite : f.returns = .number → ∃ x : Float, d = .double x ∧ x.isFinite = true

def EndsCleanly (f : Function) (formula : Text) (outcome : Except Fault Datum) : Prop :=
  Sound (fun e => ∃ detail, e = failed formula detail) f.Answers outcome

/-- The implementation is called, and gives a whole number that no double stands for in the place of
a number. -/
structure GivesTooLarge (f : Function) (args : List Datum) : Prop where
  returns : f.returns = .number
  accepts : f.accepts args.length = true
  fits : fits f.params (f.filled args) = true
  run : ∃ n : Int, f.impl.run (f.filled args) = .ok (.whole n) ∧ leastTooLarge ≤ n.natAbs

/-! ### Arguments -/

theorem length_filled (h : f.accepts args.length = true) :
    (f.filled args).length = f.params.length := by
  have hdefaults := length_eq_of_fits f.fits_defaults
  rw [List.length_drop] at hdefaults
  obtain ⟨hmin, hmax⟩ := Scope.accepts_iff.1 h
  rw [filled, List.length_append, List.length_drop]
  omega

/-- A call whose arguments are accepted runs the implementation. -/
theorem invoke_of_fits (haccepts : f.accepts args.length = true)
    (hfits : Formula.fits f.params (f.filled args) = true) :
    f.invoke args formula = (f.perform formula (f.filled args) >>= f.checked formula) := by
  unfold invoke
  rw [if_pos haccepts]
  simp only [misfit?_eq_none_of_fits hfits]
  rfl

/-- Any other call fails before it. -/
theorem invoke_of_not_fits
    (h : f.accepts args.length = true → ¬ Formula.fits f.params (f.filled args) = true) :
    ∃ detail, f.invoke args formula = .error (failed formula detail) := by
  unfold invoke
  by_cases haccepts : f.accepts args.length = true
  · rw [if_pos haccepts]
    cases hmisfit : misfit? 1 f.params (f.filled args) with
    | none => exact absurd (fits_of_misfit? hmisfit (length_filled haccepts)) (h haccepts)
    | some m =>
        simp only [hmisfit]
        exact ⟨_, rfl⟩
  · rw [if_neg haccepts]
    exact ⟨_, rfl⟩

/-! ### Results -/

/-- Where a whole result has a double, what is left of a result is no whole number in the place of a
number. -/
theorem exists_asDeclared_eq_ok {d : Datum}
    (h : f.returns = .number → ∀ n, d = .whole n → n.natAbs < leastTooLarge) :
    ∃ d', f.asDeclared d = .ok d' ∧ (f.returns = .number → ∀ n, d' ≠ .whole n) := by
  unfold asDeclared
  split
  · rename_i n hreturns
    cases hx : floatOfInt? n with
    | none =>
        have := floatOfInt?_eq_none_iff.1 hx
        have := h hreturns n rfl
        omega
    | some x =>
        refine ⟨_, rfl, ?_⟩
        intro _ m hm
        cases hm
  · rename_i hwhole
    exact ⟨_, rfl, fun hreturns n => hwhole n hreturns⟩

theorem endsCleanly_checked {d : Datum}
    (h : f.returns = .number → ∀ n, d = .whole n → n.natAbs < leastTooLarge) :
    f.EndsCleanly formula (f.checked formula d) := by
  obtain ⟨d', hdeclared, hwhole⟩ := exists_asDeclared_eq_ok h
  unfold checked
  rw [hdeclared, ok_bind]
  cases hof : d'.isOf f.returns with
  | false => exact ⟨_, rfl⟩
  | true =>
      -- only whole numbers and doubles are of the kind of a number
      have hother (hno : d'.quantity? = none) : f.Answers d' := by
        refine ⟨hof, fun hreturns => ?_⟩
        rw [hreturns] at hof
        cases d' <;> simp [Datum.isOf, Datum.kind?, Datum.quantity?] at hof hno
      cases d' with
      | double x =>
          by_cases hx : x.isFinite = true
          · simp only [hx]
            exact ⟨hof, fun _ => ⟨x, rfl, hx⟩⟩
          · simp only [hx]
            exact ⟨_, rfl⟩
      | whole n => exact ⟨hof, fun hreturns => absurd rfl (hwhole hreturns n)⟩
      | _ => exact hother rfl

/-! ### Calls -/

/-- A finite double is an answer in the place of a number. -/
theorem invoke_eq_ok_of_run {r : Float} (haccepts : f.accepts args.length = true)
    (hfits : Formula.fits f.params (f.filled args) = true) (hreturns : f.returns = .number)
    (hrun : f.impl.run (f.filled args) = .ok (.double r)) (hr : r.isFinite = true) :
    f.invoke args formula = .ok (.double r) := by
  have hperform : f.perform formula (f.filled args) = .ok (.double r) := by
    unfold perform
    rw [hrun]
  have hdeclared : f.asDeclared (.double r) = .ok (.double r) := by
    unfold asDeclared
    rw [hreturns]
  rw [invoke_of_fits haccepts hfits, hperform, ok_bind]
  unfold checked
  rw [hdeclared, ok_bind, hreturns]
  simp only [hr]
  rfl

/-- A whole result that no double stands for is refused, and the call lets this through. -/
theorem invoke_of_givesTooLarge (h : f.GivesTooLarge args) :
    f.invoke args formula = .error (.refusal (.quantity .wholeTooLarge)) := by
  obtain ⟨n, hrun, hn⟩ := h.run
  have hperform : f.perform formula (f.filled args) = .ok (.whole n) := by
    unfold perform
    rw [hrun]
  have hdeclared : f.asDeclared (.whole n) = .error (.refusal (.quantity .wholeTooLarge)) := by
    unfold asDeclared
    simp only [h.returns, floatOfInt?_eq_none_iff.2 hn]
  rw [invoke_of_fits h.accepts h.fits, hperform, ok_bind]
  unfold checked
  rw [hdeclared, error_bind]

theorem not_endsCleanly_of_givesTooLarge (h : f.GivesTooLarge args) :
    ¬ f.EndsCleanly formula (f.invoke args formula) := by
  rw [invoke_of_givesTooLarge h]
  rintro ⟨detail, he⟩
  cases he

theorem endsCleanly_invoke (hf : f.IsGuarded) (h : ¬ f.GivesTooLarge args) :
    f.EndsCleanly formula (f.invoke args formula) := by
  by_cases hcalled : f.accepts args.length = true ∧ Formula.fits f.params (f.filled args) = true
  · obtain ⟨haccepts, hfits⟩ := hcalled
    have hguarded := hf _ hfits
    rw [invoke_of_fits haccepts hfits]
    unfold perform
    cases hrun : f.impl.run (f.filled args) with
    | error e =>
        rw [hrun] at hguarded
        obtain ⟨r, rfl, hcaught⟩ := hguarded
        simp only [if_neg hcaught]
        exact ⟨_, rfl⟩
    | ok d =>
        apply endsCleanly_checked
        rintro hreturns n rfl
        by_contra hn
        exact h ⟨hreturns, haccepts, hfits, n, hrun, Nat.not_lt.1 hn⟩
  · obtain ⟨detail, hfails⟩ := @invoke_of_not_fits f args formula
      (fun haccepts hfits => hcalled ⟨haccepts, hfits⟩)
    rw [hfails]
    exact ⟨detail, rfl⟩

/-- Calls of a function end with an answer or with a failure of the formula, but for those that give a
whole number that is too large for a double: they end with its refusal. -/
theorem endsCleanly_invoke_iff (hf : f.IsGuarded) (args : List Datum) (formula : Text) :
    (f.EndsCleanly formula (f.invoke args formula) ↔ ¬ f.GivesTooLarge args) ∧
    (f.GivesTooLarge args →
      f.invoke args formula = .error (.refusal (.quantity .wholeTooLarge))) := by
  refine ⟨⟨?_, endsCleanly_invoke hf⟩, invoke_of_givesTooLarge⟩
  intro hclean hlarge
  exact not_endsCleanly_of_givesTooLarge hlarge hclean

@[irreducible]
def manyDigits : Int := 10 ^ 400

/-- It promises a number, and gives one that no double stands for. -/
def huge : Function where
  name := "huge"
  params := [.number]
  returns := .number
  impl := ⟨some (.fixed ["x"]), fun _ => .ok (.whole manyDigits)⟩
  required := 1
  defaults := []
  doc := ""
  sample := ""
  isName_name := by decide +kernel
  required_le := le_rfl
  fits_defaults := rfl
  suitable := rfl

theorem isGuarded_huge : huge.IsGuarded := fun _ _ => trivial

theorem leastTooLarge_le_manyDigits : leastTooLarge ≤ manyDigits.natAbs := by decide +kernel

theorem givesTooLarge_huge : huge.GivesTooLarge [.double 1] where
  returns := rfl
  accepts := rfl
  fits := rfl
  run := ⟨manyDigits, rfl, leastTooLarge_le_manyDigits⟩

/-- Without its argument it fails, as any function does. With it the refusal of the number gets out. -/
theorem huge_endsCleanly_iff :
    huge.IsGuarded ∧ huge.EndsCleanly "" (huge.invoke [] "") ∧
    ¬ huge.EndsCleanly "" (huge.invoke [.double 1] "") ∧
    huge.invoke [.double 1] "" = .error (.refusal (.quantity .wholeTooLarge)) := by
  refine ⟨isGuarded_huge, ?_, ?_, ?_⟩
  · rw [(endsCleanly_invoke_iff isGuarded_huge [] "").1]
    intro hlarge
    cases hlarge.accepts
  · rw [(endsCleanly_invoke_iff isGuarded_huge [.double 1] "").1]
    exact fun hnot => hnot givesTooLarge_huge
  · exact (endsCleanly_invoke_iff isGuarded_huge [.double 1] "").2 givesTooLarge_huge

/-- So a third way to end a call is left. -/
theorem not_endsCleanly_of_isGuarded :
    ¬ ∀ f : Function, f.IsGuarded →
      ∀ args formula, f.EndsCleanly formula (f.invoke args formula) := by
  intro h
  exact not_endsCleanly_of_givesTooLarge givesTooLarge_huge (h huge isGuarded_huge [.double 1] "")

/-! ### Arguments that are left out -/

/-- The same function with another implementation, which says of its parameters what the first says. -/
def withRun (f : Function) (run : List Datum → Except Fault Datum) : Function :=
  { f with impl := ⟨f.impl.shape, run⟩, suitable := f.suitable }

@[simp]
theorem withRun_params (run : List Datum → Except Fault Datum) :
    (f.withRun run).params = f.params := rfl

@[simp]
theorem withRun_accepts (run : List Datum → Except Fault Datum) (count : Nat) :
    (f.withRun run).accepts count = f.accepts count := rfl

@[simp]
theorem withRun_filled (run : List Datum → Except Fault Datum) :
    (f.withRun run).filled args = f.filled args := rfl

/-- Whatever the implementation does, a call ends as it does on these values. -/
def PassesOn (f : Function) (args values : List Datum) : Prop :=
  ∀ run formula, (f.withRun run).invoke args formula =
    ((f.withRun run).perform formula values >>= (f.withRun run).checked formula)

/-- Whatever the implementation would do, a call fails in one way. -/
def FailsBefore (f : Function) (args : List Datum) : Prop :=
  ∀ formula, ∃ detail, ∀ run,
    (f.withRun run).invoke args formula = .error (failed formula detail)

/-- What a call is given, followed by what it leaves out: one value for each parameter, as many as the
implementation is known to take. -/
structure Completes (f : Function) (args values : List Datum) : Prop where
  length : values.length = f.params.length
  suitable : f.impl.objection? values.length = none
  invoke : ∀ formula, f.invoke args formula = f.invoke values formula
  /-- The values that were left out have the kinds of their parameters. -/
  fits : Formula.fits (f.params.drop args.length) (values.drop args.length) = true
  /-- If a value does not have its kind, it is one that was given. -/
  misfit : misfit? 1 f.params values = misfit? 1 f.params args
  passesOn : misfit? 1 f.params args = none → ∀ others, f.PassesOn args others ↔ others = values
  failsBefore : misfit? 1 f.params args ≠ none → f.FailsBefore args

theorem filled_eq_append_rtake (h : f.accepts args.length = true) :
    f.filled args = args ++ f.defaults.rtake (f.params.length - args.length) := by
  have hdefaults := length_eq_of_fits f.fits_defaults
  rw [List.length_drop] at hdefaults
  obtain ⟨hmin, hmax⟩ := Scope.accepts_iff.1 h
  have hcount : args.length - f.required =
      f.defaults.length - (f.params.length - args.length) := by omega
  rw [filled, List.rtake, hcount]

/-- Nothing is left out of a complete list of values. -/
theorem filled_of_length_eq {values : List Datum} (h : values.length = f.params.length) :
    f.filled values = values := by
  have hdefaults := length_eq_of_fits f.fits_defaults
  rw [List.length_drop] at hdefaults
  rw [filled, h, ← hdefaults, List.drop_length, List.append_nil]

theorem fits_drop_filled (h : f.accepts args.length = true) :
    Formula.fits (f.params.drop args.length) ((f.filled args).drop args.length) = true := by
  have hmin := (Scope.accepts_iff.1 h).1
  have hdrop := fits_drop (args.length - f.required) f.fits_defaults
  rw [List.drop_drop, Nat.add_sub_cancel' hmin] at hdrop
  rwa [filled, List.drop_left]

theorem misfit?_filled (h : f.accepts args.length = true) :
    misfit? 1 f.params (f.filled args) = misfit? 1 f.params args := by
  have hdrop := fits_drop_filled h
  rw [filled, List.drop_left] at hdrop
  exact misfit?_append hdrop

theorem invoke_filled (h : f.accepts args.length = true) :
    f.invoke (f.filled args) formula = f.invoke args formula := by
  have hlength := length_filled h
  have haccepts : f.accepts (f.filled args).length = true := by
    rw [hlength]
    exact Scope.accepts_iff.2 ⟨f.required_le, le_rfl⟩
  unfold invoke
  rw [if_pos h, if_pos haccepts]
  simp only [filled_of_length_eq hlength]

/-- Where the implementation is not reached, another one makes no difference. -/
theorem failsBefore_of_not_fits
    (h : f.accepts args.length = true → ¬ Formula.fits f.params (f.filled args) = true) :
    f.FailsBefore args := by
  intro formula
  obtain ⟨detail, hdetail⟩ := @invoke_of_not_fits f args formula h
  refine ⟨detail, fun run => ?_⟩
  rw [← hdetail]
  unfold invoke
  by_cases haccepts : f.accepts args.length = true
  · rw [withRun_accepts, if_pos haccepts, if_pos haccepts]
    cases hmisfit : misfit? 1 f.params (f.filled args) with
    | none => exact absurd (fits_of_misfit? hmisfit (length_filled haccepts)) (h haccepts)
    | some m =>
        simp only [withRun_params, withRun_filled, hmisfit]
        rfl
  · rw [withRun_accepts, if_neg haccepts, if_neg haccepts]
    rfl

theorem passesOn_filled (haccepts : f.accepts args.length = true)
    (hfits : Formula.fits f.params (f.filled args) = true) : f.PassesOn args (f.filled args) :=
  fun run _ => invoke_of_fits (f := f.withRun run) haccepts hfits

/-- An implementation that fails on one list of values only tells it from the others. -/
theorem eq_of_passesOn {values others : List Datum} (hvalues : f.PassesOn args values)
    (hothers : f.PassesOn args others) : others = values := by
  classical
  by_contra hne
  let run : List Datum → Except Fault Datum :=
    fun given => if given = values then .error .mismatch else .error .unsupported
  have hsame := (hvalues run "").symm.trans (hothers run "")
  have hleft : run values = .error .mismatch := if_pos rfl
  have hright : run others = .error .unsupported := if_neg hne
  have himpl : (f.withRun run).impl.run = run := rfl
  rw [perform, perform, himpl, hleft, hright] at hsame
  cases hsame

theorem completes_filled (h : f.accepts args.length = true) : f.Completes args (f.filled args) where
  length := length_filled h
  suitable := by
    rw [length_filled h]
    exact f.suitable
  invoke := fun _ => (invoke_filled h).symm
  fits := fits_drop_filled h
  misfit := misfit?_filled h
  passesOn := by
    intro hnone others
    rw [← misfit?_filled h] at hnone
    have hpasses := passesOn_filled h (fits_of_misfit? hnone (length_filled h))
    refine ⟨eq_of_passesOn hpasses, ?_⟩
    rintro rfl
    exact hpasses
  failsBefore := by
    intro hsome
    rw [← misfit?_filled h] at hsome
    exact failsBefore_of_not_fits fun _ hfits => hsome (misfit?_eq_none_of_fits hfits)

/-- Where a declaration is accepted, a call may leave out the last of its arguments, but none that is
required. It ends as the call with the last of the declared defaults does, and the implementation is run
on the given and the declared values, in the order of the parameters. With any other number of arguments
it is not run. -/
theorem completes_of_check {d : Declaration} (h : d.check = .ok f) (args : List Datum) :
    d.Declares f ∧
    (f.required ≤ args.length → args.length ≤ f.params.length →
      f.Completes args (args ++ d.defaults.rtake (f.params.length - args.length))) ∧
    (args.length < f.required ∨ f.params.length < args.length → f.FailsBefore args) := by
  have hdeclares := Declaration.declares_of_check h
  refine ⟨hdeclares, ?_, ?_⟩
  · intro hmin hmax
    have haccepts : f.accepts args.length = true := Scope.accepts_iff.2 ⟨hmin, hmax⟩
    rw [← hdeclares.defaults, ← filled_eq_append_rtake haccepts]
    exact completes_filled haccepts
  · intro houtside
    refine failsBefore_of_not_fits fun haccepts => ?_
    obtain ⟨hmin, hmax⟩ := Scope.accepts_iff.1 haccepts
    omega

def labelled : Declaration where
  name := .text "labelled"
  params := [.number, .string, .boolean].map Declaration.ofKind
  returns := Declaration.ofKind .string
  impl := some ⟨some (.fixed ["amount", "currency", "shown"]), fun values => .ok (values.getD 1 .null)⟩
  required := .whole 1
  defaults := [.text "EUR", .truth true]
  doc := ""
  sample := ""

theorem exists_check_labelled :
    ∃ f, labelled.check = .ok f ∧ f.required = 1 ∧ f.params.length = 3 := by
  have hcounts : labelled.check.toOption.map (fun f => (f.required, f.params.length)) =
      some (1, 3) := by decide +kernel
  cases hf : labelled.check with
  | error e =>
      rw [hf] at hcounts
      cases hcounts
  | ok f =>
      rw [hf] at hcounts
      have hpair := Option.some.inj hcounts
      exact ⟨f, rfl, congrArg Prod.fst hpair, congrArg Prod.snd hpair⟩

/-- Each of the parameters that are left out has its own value, also where only the last one is. -/
theorem completes_labelled :
    ∃ f, labelled.check = .ok f ∧
      f.Completes [.double 1] [.double 1, .text "EUR", .truth true] ∧
      f.Completes [.double 1, .text "USD"] [.double 1, .text "USD", .truth true] ∧
      f.FailsBefore [] := by
  obtain ⟨f, hf, hrequired, hparams⟩ := exists_check_labelled
  have hone := (completes_of_check hf [.double 1]).2.1 hrequired.le (by rw [hparams]; decide)
  have htwo := (completes_of_check hf [.double 1, .text "USD"]).2.1
    (by rw [hrequired]; decide) (by rw [hparams]; decide)
  rw [hparams] at hone htwo
  exact ⟨f, hf, hone, htwo, (completes_of_check hf []).2.2 (.inl (by rw [hrequired]; decide))⟩

end Function

end Appraisal.Formula
