import Mathlib.Algebra.Order.BigOperators.Group.List
import Appraisal.Proofs.Decimal.Rounding

/-!
# Exact sums

A sum that twenty-eight digits hold is exact, since there is nothing to round. Decimals all of whose
partial sums are held are summed up to the same number in any order.
-/

namespace Appraisal.Decimal

/-- A number that twenty-eight digits and the range of exponents hold. -/
def Fits (q : ℚ) : Prop := rounded q = q ∧ |q| < overflowLimit

variable {a b : Decimal} {x y : ℚ} {unit : Int}

theorem fits_of_isMultiple (hlow : tinyExponent ≤ unit) (hhigh : unit ≤ topExponent)
    (h : IsMultiple unit x) (hlt : |x| < 10 ^ (unit + precision)) : Fits x := by
  refine ⟨rounded_of_fits hlow h hlt, hlt.trans_le (zpow_le_zpow_right₀ (by norm_num) ?_)⟩
  unfold topExponent at hhigh
  omega

theorem IsRounded.exists_of_fits {r : Except DecimalError Decimal} (h : IsRounded r x)
    (hx : Fits x) : ∃ d, r = .ok d ∧ d.HasValue x := by
  obtain ⟨heq, hlt⟩ := hx
  have hvalue := h.eq_ok (by rwa [heq])
  rwa [heq] at hvalue

theorem exists_add (ha : a.HasValue x) (hb : b.HasValue y) (h : Fits (x + y)) :
    ∃ d, a.add b = .ok d ∧ d.HasValue (x + y) :=
  (isRounded_add ha hb).exists_of_fits h

/-! ### Sums -/

def IsSum (d : Decimal) (ds : List Decimal) : Prop := d.HasValue (ds.map toRat).sum

/-- Numbers with at most nine decimal places whose magnitudes sum up to less than `10 ^ 19`. No sum of
some of them takes more than twenty-eight digits. -/
structure AddsExactly (ds : List Decimal) : Prop where
  finite : ∀ d ∈ ds, d.isFinite = true
  places : ∀ d ∈ ds, ∃ k : Int, d.toRat = k / 10 ^ 9
  bound : (ds.map (fun d => |d.toRat|)).sum < 10 ^ 19

variable {ds : List Decimal} {d : Decimal}

/-- Decimals that are written with at most nine places are such numbers. -/
theorem addsExactly_of_exponents (hplaces : ∀ d ∈ ds, ∃ s c e, d = finite s c e ∧ -9 ≤ e)
    (hbound : (ds.map (fun d => |d.toRat|)).sum < 10 ^ 19) : AddsExactly ds where
  finite d hd := by
    obtain ⟨s, c, e, rfl, -⟩ := hplaces d hd
    rfl
  places d hd := by
    obtain ⟨s, c, e, rfl, he⟩ := hplaces d hd
    exact ⟨units s c e (-9), (units_mul s c he).symm.trans (mul_billionth _)⟩
  bound := hbound

theorem AddsExactly.sublist {part : List Decimal} (h : AddsExactly ds) (hpart : part.Sublist ds) :
    AddsExactly part where
  finite d hd := h.finite d (hpart.subset hd)
  places d hd := h.places d (hpart.subset hd)
  bound := by
    refine lt_of_le_of_lt ((hpart.map _).sum_le_sum (fun q hq => ?_)) h.bound
    obtain ⟨d, -, rfl⟩ := List.mem_map.1 hq
    exact abs_nonneg _

theorem AddsExactly.perm {other : List Decimal} (h : AddsExactly ds) (hperm : other.Perm ds) :
    AddsExactly other where
  finite d hd := h.finite d (hperm.mem_iff.1 hd)
  places d hd := h.places d (hperm.mem_iff.1 hd)
  bound := by
    rw [(hperm.map _).sum_eq]
    exact h.bound

theorem AddsExactly.isMultiple (h : AddsExactly ds) : IsMultiple (-9) (ds.map toRat).sum := by
  induction ds with
  | nil => exact ⟨0, by simp⟩
  | cons d ds ih =>
      rw [List.map_cons, List.sum_cons]
      obtain ⟨k, hk⟩ := h.places d List.mem_cons_self
      have hd : IsMultiple (-9) d.toRat := ⟨k, hk.trans (mul_billionth _).symm⟩
      exact hd.add (ih (h.sublist (List.sublist_cons_self d ds)))

theorem abs_sum_le (ds : List Decimal) :
    |(ds.map toRat).sum| ≤ (ds.map (fun d => |d.toRat|)).sum := by
  induction ds with
  | nil => simp
  | cons d ds ih =>
      rw [List.map_cons, List.sum_cons, List.map_cons, List.sum_cons]
      exact (abs_add_le _ _).trans (add_le_add_right ih _)

theorem isSum_nil : zero.IsSum [] := hasValue_zero

structure SumsFit (ds : List Decimal) : Prop where
  finite : ∀ d ∈ ds, d.isFinite = true
  fits : ∀ part : List Decimal, part.Subperm ds → Fits (part.map toRat).sum

theorem SumsFit.subperm {part : List Decimal} (h : SumsFit ds) (hpart : part.Subperm ds) :
    SumsFit part where
  finite d hd := h.finite d (hpart.subset hd)
  fits other hother := h.fits other (hother.trans hpart)

theorem AddsExactly.sumsFit (h : AddsExactly ds) : SumsFit ds where
  finite := h.finite
  fits part hpart := by
    obtain ⟨other, hperm, hsublist⟩ := hpart
    have hother := (h.sublist hsublist).perm hperm.symm
    have hunit : tinyExponent ≤ (-9 : Int) := by decide
    refine fits_of_isMultiple hunit (by decide) hother.isMultiple ?_
    exact (abs_sum_le part).trans_lt hother.bound

/-- A sum that is held grows by the next decimal. -/
theorem IsSum.exists_add_of_fits {total : Decimal} (htotal : total.IsSum ds)
    (hd : d.isFinite = true) (h : Fits ((ds ++ [d]).map toRat).sum) :
    ∃ next, total.add d = .ok next ∧ next.IsSum (ds ++ [d]) := by
  unfold IsSum
  rw [List.map_append, List.sum_append, List.map_singleton, List.sum_singleton] at h ⊢
  exact Decimal.exists_add htotal ⟨hd, rfl⟩ h

/-- A sum grows by the next of numbers that add exactly. -/
theorem IsSum.exists_add {total : Decimal} (htotal : total.IsSum ds) (h : AddsExactly (ds ++ [d])) :
    ∃ next, total.add d = .ok next ∧ next.IsSum (ds ++ [d]) :=
  htotal.exists_add_of_fits (h.finite d (by simp)) (h.sumsFit.fits _ (List.Subperm.refl _))

theorem SumsFit.exists_foldlM {done : List Decimal} {total : Decimal} (h : SumsFit (done ++ ds))
    (htotal : total.IsSum done) :
    ∃ sum, ds.foldlM add total = .ok sum ∧ sum.IsSum (done ++ ds) := by
  induction ds generalizing done total with
  | nil => exact ⟨total, rfl, by rwa [List.append_nil]⟩
  | cons d ds ih =>
      rw [List.append_cons] at h ⊢
      have hnext := h.subperm (List.sublist_append_left (done ++ [d]) ds).subperm
      obtain ⟨next, hadd, hsum⟩ :=
        htotal.exists_add_of_fits (hnext.finite d (by simp)) (hnext.fits _ (List.Subperm.refl _))
      rw [List.foldlM_cons, hadd]
      exact ih h hsum

theorem SumsFit.exists_sum (h : SumsFit ds) : ∃ total, sum ds = .ok total ∧ total.IsSum ds :=
  (show SumsFit ([] ++ ds) from h).exists_foldlM isSum_nil

theorem IsSum.perm {other : List Decimal} (h : d.IsSum ds) (hperm : other.Perm ds) :
    d.IsSum other := by
  unfold IsSum
  rwa [(hperm.map toRat).sum_eq]

theorem IsSum.equal_of_perm {other : List Decimal} {e : Decimal} (hd : d.IsSum ds)
    (he : e.IsSum other) (hperm : other.Perm ds) : e.equal d = .ok true :=
  (equal_eq_true_iff he (hd.perm hperm)).2 rfl

end Appraisal.Decimal
