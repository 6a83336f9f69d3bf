import ChibiCopter.Utils.SquareRoot
import Mathlib.Analysis.SpecialFunctions.Pow.Real
import Mathlib.Analysis.Real.Sqrt

/-!
# How far five steps reach

Every step squares the relative distance of the value from the root, and the first value
is 10.  Five steps suffice for roots near 10, and for all smaller ones down to 1, but the
value stays more than one percent above a square that is larger than about 11457.  The
accelerometer passes sums of two squared bytes, which can be eleven times as large.
-/

namespace ChibiCopter.Utils

open Newton

/-- The result's square is the input up to one percent. -/
def Accurate (x : ℚ) : Prop := |nrSqrt x * nrSqrt x - x| ≤ x / 100

instance (x : ℚ) : Decidable (Accurate x) := inferInstanceAs (Decidable (_ ≤ _))

/-- What a result may be times the root. -/
noncomputable def resultFactor : ℝ := √1.01

/-- The relative distance from the root at which the first value may be: five squarings
leave what the factor permits. -/
noncomputable def reach : ℝ := ((resultFactor - 1) / (resultFactor + 1)) ^ ((32 : ℕ) : ℝ)⁻¹

/-- The root of the same relative distance from 10. -/
noncomputable def farthestRoot : ℝ := 10 * (1 + reach) / (1 - reach)

/-- The largest accurate input. -/
noncomputable def accuracyBound : ℝ := farthestRoot ^ 2

/-! ## The constants -/

theorem resultFactor_sq : resultFactor * resultFactor = 1.01 :=
  Real.mul_self_sqrt (by norm_num)

theorem lt_resultFactor : 1.0049 < resultFactor := Real.lt_sqrt_of_sq_lt (by norm_num)

theorem reach_nonneg : 0 ≤ reach := by
  have factor := lt_resultFactor
  exact Real.rpow_nonneg (div_nonneg (by linarith) (by linarith)) _

theorem reach_pow : (resultFactor + 1) * reach ^ 32 = resultFactor - 1 := by
  have factor := lt_resultFactor
  have nonneg : 0 ≤ (resultFactor - 1) / (resultFactor + 1) :=
    div_nonneg (by linarith) (by linarith)
  rw [reach, Real.rpow_inv_natCast_pow nonneg (by decide)]
  exact mul_div_cancel₀ _ (by linarith)

theorem reach_lt : reach < 1 := by
  have above := lt_resultFactor
  have power : reach ^ 32 < 1 ^ 32 := by
    have reached := reach_pow
    nlinarith
  exact lt_of_pow_lt_pow_left₀ 32 zero_le_one power

/-- The reach covers all roots from 1 to 10. -/
theorem le_reach : 9 / 11 ≤ reach := by
  have above := lt_resultFactor
  have power : (9 / 11) ^ 32 ≤ reach ^ 32 := by
    have reached := reach_pow
    have few : ((9 : ℝ) / 11) ^ 32 ≤ 0.002 := by norm_num
    nlinarith
  exact le_of_pow_le_pow_left₀ (by decide) reach_nonneg power

theorem farthestRoot_pos : 0 < farthestRoot := by
  have nonneg := reach_nonneg
  have below := reach_lt
  exact div_pos (by linarith) (by linarith)

/-! ## Which inputs are accurate -/

/-- The steps on rational numbers are the steps on real ones. -/
theorem cast_nrSqrtWith (count : Nat) (x : ℚ) :
    (nrSqrtWith count x : ℝ) = (next (x : ℝ))^[count] 10 := by
  have step (y : ℚ) : ((next x y : ℚ) : ℝ) = next (x : ℝ) (y : ℝ) := by
    simp [next]
  have steps := Function.Semiconj.iterate_right (show Function.Semiconj _ _ _ from step) count
  rw [nrSqrtWith_eq, show ((10 : ℝ)) = ((10 : ℚ) : ℝ) from by norm_num]
  exact steps 10

/-- The square is never too small, so that only its excess counts. -/
theorem accurate_iff_nrSqrt {x : ℚ} (nonneg : 0 ≤ x) :
    Accurate x ↔ (nrSqrt x : ℝ) ≤ resultFactor * √x := by
  have above : x ≤ nrSqrt x * nrSqrt x := le_nrSqrtWith_mul_self nonneg 4
  have positive : 0 < nrSqrt x := nrSqrtWith_pos nonneg nrIttrCount
  have limit : 0 ≤ resultFactor * √x := by
    have factor := lt_resultFactor
    exact mul_nonneg (by linarith) (Real.sqrt_nonneg _)
  have square : resultFactor * √x * (resultFactor * √x) = 1.01 * x := by
    rw [mul_mul_mul_comm, resultFactor_sq, Real.mul_self_sqrt (by exact_mod_cast nonneg)]
  calc
    Accurate x ↔ nrSqrt x * nrSqrt x ≤ 1.01 * x := by
      rw [Accurate, abs_of_nonneg (sub_nonneg.mpr above)]
      constructor <;> intro <;> linarith
    _ ↔ ((nrSqrt x * nrSqrt x : ℚ) : ℝ) ≤ ((1.01 * x : ℚ) : ℝ) := Rat.cast_le.symm
    _ ↔ (nrSqrt x : ℝ) * nrSqrt x ≤ resultFactor * √x * (resultFactor * √x) := by
      rw [square]
      push_cast
      rfl
    _ ↔ (nrSqrt x : ℝ) ≤ resultFactor * √x :=
      (mul_self_le_mul_self_iff (by exact_mod_cast le_of_lt positive) limit).symm

/-- From 1 on, a root is within reach of 10 unless it is too large. -/
theorem within_reach_iff {s : ℝ} (large : 1 ≤ s) :
    |10 - s| ≤ reach * (10 + s) ↔ s ≤ farthestRoot := by
  have covered : 10 - s ≤ reach * (10 + s) := by
    have low := le_reach
    calc
      10 - s ≤ 9 / 11 * (10 + s) := by linarith
      _ ≤ reach * (10 + s) := mul_le_mul_of_nonneg_right low (by linarith)
  have below := reach_lt
  rw [abs_le, and_iff_left covered, farthestRoot, le_div_iff₀ (by linarith)]
  constructor <;> intro <;> linarith

theorem accurate_iff_root {x : ℚ} (large : 1 ≤ x) : Accurate x ↔ √x ≤ farthestRoot := by
  have nonneg : (0 : ℝ) ≤ x := by exact_mod_cast le_trans zero_le_one large
  have root_large : 1 ≤ √(x : ℝ) := Real.one_le_sqrt.mpr (by exact_mod_cast large)
  have factor := lt_resultFactor
  rw [accurate_iff_nrSqrt (by exact_mod_cast nonneg), nrSqrt, cast_nrSqrtWith,
    ← within_reach_iff root_large]
  exact iterate_le_mul_iff (Real.mul_self_sqrt nonneg) (by norm_num) (by linarith) (by linarith)
    reach_nonneg reach_pow

theorem root_le_iff (x : ℚ) : √(x : ℝ) ≤ farthestRoot ↔ (x : ℝ) ≤ accuracyBound := by
  rw [Real.sqrt_le_iff, accuracyBound, and_iff_right (le_of_lt farthestRoot_pos)]

/-- The bound is a number between 11457 and 11458. -/
theorem accuracyBound_mem : 11457 ≤ accuracyBound ∧ accuracyBound < 11458 := by
  constructor
  · have accurate : Accurate 11457 := by decide +kernel
    have root_le := (accurate_iff_root (by norm_num)).mp accurate
    exact_mod_cast (root_le_iff 11457).mp root_le
  · have inaccurate : ¬ Accurate 11458 := by decide +kernel
    have root_lt := mt (accurate_iff_root (by norm_num)).mpr inaccurate
    exact_mod_cast lt_of_not_ge (mt (root_le_iff 11458).mpr root_lt)

/-- From 1 on, exactly the inputs up to the bound have an accurate result. -/
theorem nrSqrt_accurate_iff {x : ℚ} (large : 1 ≤ x) :
    |nrSqrt x * nrSqrt x - x| ≤ x / 100 ↔ (x : ℝ) ≤ accuracyBound :=
  (accurate_iff_root large).trans (root_le_iff x)

/-- The largest sum of two squared bytes. -/
def largestSquares : ℚ := 255 * 255 + 255 * 255

theorem not_accurate_largestSquares :
    ¬ |nrSqrt largestSquares * nrSqrt largestSquares - largestSquares| ≤ largestSquares / 100 := by
  have large : 1 ≤ largestSquares := by
    norm_num [largestSquares]
  rw [nrSqrt_accurate_iff large, not_le]
  exact lt_trans accuracyBound_mem.2 (by norm_num [largestSquares])

/-- The largest sum gives a result above 507, where the root is below 361. -/
theorem nrSqrt_inaccurate :
    ¬ ∀ x : ℚ, 1 ≤ x → x ≤ 130050 → |nrSqrt x * nrSqrt x - x| ≤ x / 100 := by
  intro accurate
  have near := accurate largestSquares (by decide +kernel) (by decide +kernel)
  have far : 507 < nrSqrt largestSquares ∧ largestSquares < 361 * 361 := by decide +kernel
  have excess := (abs_le.mp near).2
  nlinarith

end ChibiCopter.Utils
