import Appraisal.Proofs.Decimal.Rounding

/-!
# Running sums

Decimals are added one after the other, and each sum is rounded before the next is added. So a sum is a
function of the numbers in their order. It grows with their count at most, and so does its error. The
main statements: `hasValue_foldlM_add`, `staysInRange_of_counts` and `abs_runningSum_sub_le`.
-/

namespace Appraisal.Decimal

/-- Adds numbers to a start, rounding after each of them. -/
def runningSum (start : ℚ) (qs : List ℚ) : ℚ :=
  qs.foldl (fun total q => rounded (total + q)) start

theorem hasValue_foldlM_add {ds : List Decimal} {start total : Decimal} {x : ℚ}
    (hfinite : ∀ d ∈ ds, d.isFinite = true) (hstart : start.HasValue x)
    (h : ds.foldlM add start = .ok total) : total.HasValue (runningSum x (ds.map toRat)) := by
  induction ds generalizing start x with
  | nil =>
      obtain rfl := Except.ok.inj h
      exact hstart
  | cons d ds ih =>
      rw [List.forall_mem_cons] at hfinite
      rw [List.foldlM_cons] at h
      have hadd := isRounded_add hstart (show d.HasValue d.toRat from ⟨hfinite.1, rfl⟩)
      generalize start.add d = next at h hadd
      cases hadd with
      | ok hnext _ => exact ih hfinite.2 hnext h
      | overflow _ => cases h

theorem runningSum_nonneg {start : ℚ} (hstart : 0 ≤ start) {qs : List ℚ} (h : ∀ q ∈ qs, 0 ≤ q) :
    0 ≤ runningSum start qs := by
  induction qs generalizing start with
  | nil => exact hstart
  | cons q qs ih =>
      rw [List.forall_mem_cons] at h
      exact ih (rounded_nonneg (add_nonneg hstart h.1)) h.2

def StaysInRange : ℚ → List ℚ → Prop
  | _, [] => True
  | start, q :: qs =>
      |rounded (start + q)| < overflowLimit ∧ StaysInRange (rounded (start + q)) qs

/-! ### Bounds -/

section

variable {α : Type} {f : α → ℚ} {count : α → Nat} {unit : Int} (hunit : tinyExponent ≤ unit)
include hunit

theorem abs_rounded_add_le {start q : ℚ} {k n : Nat} (hstart : |start| ≤ k * 10 ^ unit)
    (hq : |q| ≤ n * 10 ^ unit) (hfew : k + n < 10 ^ precision) :
    |rounded (start + q)| ≤ (k + n : Nat) * 10 ^ unit := by
  apply abs_rounded_le hunit hfew
  push_cast
  linarith [abs_add_le start q]

/-- Numbers that count so many units each are summed up to no more than these together. -/
theorem abs_runningSum_le {xs : List α} (h : ∀ x ∈ xs, |f x| ≤ count x * 10 ^ unit) {start : ℚ}
    {k : Nat} (hstart : |start| ≤ k * 10 ^ unit) (hfew : k + (xs.map count).sum < 10 ^ precision) :
    |runningSum start (xs.map f)| ≤ (k + (xs.map count).sum : Nat) * 10 ^ unit := by
  induction xs generalizing start k with
  | nil => exact hstart
  | cons x xs ih =>
      rw [List.forall_mem_cons] at h
      rw [List.map_cons (f := count), List.sum_cons, ← Nat.add_assoc] at hfew ⊢
      have hnext := abs_rounded_add_le hunit hstart h.1 (by omega)
      exact ih h.2 hnext hfew

theorem abs_runningSum_le_length {qs : List ℚ} (h : ∀ q ∈ qs, |q| ≤ 10 ^ unit) {n : Nat}
    (hlength : qs.length ≤ n) (hfew : n < 10 ^ precision) :
    |runningSum 0 qs| ≤ n * 10 ^ unit := by
  have hone : ∀ q ∈ qs, |id q| ≤ (1 : Nat) * 10 ^ unit := fun q hq => by simpa using h q hq
  have hcount : (qs.map (fun _ => 1)).sum = qs.length := by simp
  have hzero : |(0 : ℚ)| ≤ (0 : Nat) * 10 ^ unit := by simp
  have hsum := abs_runningSum_le hunit hone hzero (by omega)
  rw [List.map_id, Nat.zero_add, hcount] at hsum
  exact hsum.trans (mul_le_mul_of_nonneg_right (Nat.cast_le.2 hlength) (ten_zpow_pos unit).le)

theorem staysInRange_of_counts (htop : unit ≤ topExponent) {xs : List α}
    (h : ∀ x ∈ xs, |f x| ≤ count x * 10 ^ unit) {start : ℚ} {k : Nat}
    (hstart : |start| ≤ k * 10 ^ unit) (hfew : k + (xs.map count).sum < 10 ^ precision) :
    StaysInRange start (xs.map f) := by
  induction xs generalizing start k with
  | nil => exact trivial
  | cons x xs ih =>
      rw [List.forall_mem_cons] at h
      rw [List.map_cons, List.sum_cons, ← Nat.add_assoc] at hfew
      have hnext := abs_rounded_add_le hunit hstart h.1 (by omega)
      refine ⟨hnext.trans_lt ?_, ih h.2 hnext hfew⟩
      have hcount : ((k + count x : Nat) : ℚ) < 10 ^ precision := by
        exact_mod_cast (Nat.le_add_right _ _).trans_lt hfew
      calc ((k + count x : Nat) : ℚ) * 10 ^ unit < 10 ^ precision * 10 ^ unit :=
            mul_lt_mul_of_pos_right hcount (ten_zpow_pos unit)
        _ = 10 ^ ((precision : Int) + unit) := by rw [zpow_add₀ (by norm_num), zpow_natCast]
        _ ≤ overflowLimit := zpow_le_zpow_right₀ (by norm_num) (by
            unfold topExponent at htop
            omega)

end

/-! ### Errors -/

/-- The error of so many roundings, as a share of what is summed up. -/
def errorShare (n : Nat) : ℚ := (1 + roundoff) ^ n - 1

theorem roundoff_pos : 0 < roundoff := by norm_num [roundoff]

theorem one_le_growth (n : Nat) : 1 ≤ (1 + roundoff) ^ n :=
  one_le_pow₀ (le_add_of_nonneg_right roundoff_pos.le)

theorem errorShare_mono {m n : Nat} (h : m ≤ n) : errorShare m ≤ errorShare n :=
  sub_le_sub_right (pow_le_pow_right₀ (le_add_of_nonneg_right roundoff_pos.le) h) 1

theorem errorShare_nonneg (n : Nat) : 0 ≤ errorShare n := sub_nonneg.2 (one_le_growth n)

/-- One more rounding of a partial sum adds to the shares of all that follows. -/
theorem errorShare_succ_mul (n : Nat) {part rest : ℚ} (hrest : 0 ≤ rest) :
    errorShare n * ((1 + roundoff) * part + rest) + roundoff * part ≤
      errorShare (n + 1) * (part + rest) := by
  have hgrowth : errorShare n * rest ≤ errorShare (n + 1) * rest :=
    mul_le_mul_of_nonneg_right (errorShare_mono n.le_succ) hrest
  have hpart : errorShare n * ((1 + roundoff) * part) + roundoff * part =
      errorShare (n + 1) * part := by
    unfold errorShare
    ring
  linarith

/-- The error of a running sum of numbers that are written with some places. -/
theorem abs_runningSum_sub_le {unit : Int} (hunit : tinyExponent ≤ unit) {start : ℚ} {qs : List ℚ}
    (hstart : IsMultiple unit start) (hqs : ∀ q ∈ qs, IsMultiple unit q) :
    |runningSum start qs - (start + qs.sum)| ≤
      errorShare qs.length * (|start| + (qs.map abs).sum) := by
  induction qs generalizing start with
  | nil => simp [runningSum, errorShare]
  | cons q qs ih =>
      rw [List.forall_mem_cons] at hqs
      have hsum := hstart.add hqs.1
      have hstep := hsum.abs_rounded_sub_le hunit
      have htail := ih hsum.rounded hqs.2
      have hrest : 0 ≤ (qs.map abs).sum := List.sum_nonneg (by simp)
      rw [List.map_cons, List.sum_cons, List.sum_cons, List.length_cons]
      have hpart := abs_add_le start q
      have hround : roundoff * |start + q| ≤ roundoff * (|start| + |q|) :=
        mul_le_mul_of_nonneg_left hpart roundoff_pos.le
      have hnext : |rounded (start + q)| ≤ (1 + roundoff) * (|start| + |q|) := by
        have := abs_sub_abs_le_abs_sub (rounded (start + q)) (start + q)
        linarith
      have hgrown := mul_le_mul_of_nonneg_left (add_le_add_left hnext (qs.map abs).sum)
        (errorShare_nonneg qs.length)
      calc |runningSum start (q :: qs) - (start + (q + qs.sum))|
          = |(runningSum (rounded (start + q)) qs - (rounded (start + q) + qs.sum)) +
              (rounded (start + q) - (start + q))| := by
            congr 1
            rw [runningSum, List.foldl_cons, ← runningSum]
            ring
        _ ≤ errorShare qs.length * ((1 + roundoff) * (|start| + |q|) + (qs.map abs).sum) +
              roundoff * (|start| + |q|) := by
            refine (abs_add_le _ _).trans (add_le_add (htail.trans hgrown) (hstep.trans hround))
        _ ≤ errorShare (qs.length + 1) * (|start| + |q| + (qs.map abs).sum) :=
            errorShare_succ_mul qs.length hrest
        _ = errorShare (qs.length + 1) * (|start| + (|q| + (qs.map abs).sum)) := by rw [add_assoc]

end Appraisal.Decimal
