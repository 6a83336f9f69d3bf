import ChibiCopter.Utils.Accuracy

/-!
# What the replacement keeps of the square root

Where the accuracy of `nr_sqrt` fails, its order does not: a larger input has a larger
result, whatever the number of passes.  How far a result is from the root is known for
every input and every number of passes, so that the passes that some input needs can be
read off.
-/

namespace ChibiCopter.Utils

open Newton

/-- The result orders inputs as the root does, behind any number of passes but none. -/
theorem nrSqrtWith_lt_iff {x y : ℚ} (nonneg : 0 ≤ x) (nonneg' : 0 ≤ y) (count : Nat) :
    nrSqrtWith (count + 1) x < nrSqrtWith (count + 1) y ↔ x < y := by
  have guess : (0 : ℚ) < 10 := by norm_num
  rw [nrSqrtWith_eq, nrSqrtWith_eq]
  constructor
  · intro less
    by_contra ordered
    rcases lt_or_eq_of_le (le_of_not_gt ordered) with more | rfl
    · exact lt_asymm less (iterate_lt_iterate nonneg' more guess count)
    · exact lt_irrefl _ less
  · intro less
    exact iterate_lt_iterate nonneg less guess count

theorem nrSqrtWith_lt_iff_small : nrSqrtWith 5 130049 < nrSqrtWith 5 130050 :=
  (nrSqrtWith_lt_iff (by norm_num) (by norm_num) 4).mpr (by norm_num)

/-! ## How many passes are enough -/

/-- The result of every number of passes, in terms of the root. -/
theorem nrSqrtWith_distance {x : ℚ} (positive : 0 < x) (count : Nat) :
    (nrSqrtWith count x : ℝ) - √x =
      ((nrSqrtWith count x : ℝ) + √x) * ((10 - √x) / (10 + √x)) ^ 2 ^ count := by
  have cast_pos : (0 : ℝ) < x := by exact_mod_cast positive
  have root_pos : 0 < √(x : ℝ) := Real.sqrt_pos.mpr cast_pos
  have distance := iterate_distance (Real.mul_self_sqrt cast_pos.le) cast_pos.le
    (show (0 : ℝ) < 10 by norm_num) root_pos count
  rw [← cast_nrSqrtWith] at distance
  have scale : (0 : ℝ) < (10 + √x) ^ 2 ^ count := by positivity
  rw [div_pow, mul_div_assoc', eq_div_iff (ne_of_gt scale)]
  exact distance

/-- The result of a pass is not below the root. -/
theorem sqrt_le_nrSqrtWith {x : ℚ} (nonneg : 0 ≤ x) (count : Nat) :
    √(x : ℝ) ≤ nrSqrtWith (count + 1) x := by
  have above := le_nrSqrtWith_mul_self nonneg count
  have positive : (0 : ℝ) < nrSqrtWith (count + 1) x := by
    exact_mod_cast nrSqrtWith_pos nonneg (count + 1)
  rw [Real.sqrt_le_left positive.le, pow_two]
  exact_mod_cast above

/-- Only the square of the guess has its root for a result. -/
theorem nrSqrtWith_eq_sqrt_iff {x : ℚ} (nonneg : 0 ≤ x) (count : Nat) :
    (nrSqrtWith count x : ℝ) = √x ↔ x = 100 := by
  have result_pos : (0 : ℝ) < nrSqrtWith count x := by
    exact_mod_cast nrSqrtWith_pos nonneg count
  rcases eq_or_lt_of_le nonneg with rfl | positive
  · rw [Rat.cast_zero, Real.sqrt_zero]
    exact ⟨fun same => absurd same (ne_of_gt result_pos), fun same => absurd same (by norm_num)⟩
  · have cast_pos : (0 : ℝ) < x := by exact_mod_cast positive
    have root_pos : 0 < √(x : ℝ) := Real.sqrt_pos.mpr cast_pos
    have total_pos : (0 : ℝ) < nrSqrtWith count x + √x := add_pos result_pos root_pos
    have sum_pos : 0 < 10 + √(x : ℝ) := by linarith
    have power : 2 ^ count ≠ 0 := pow_ne_zero _ two_ne_zero
    have hundred : (10 : ℝ) * 10 = (100 : ℚ) := by norm_num
    calc
      (nrSqrtWith count x : ℝ) = √x ↔ ((10 - √x) / (10 + √x)) ^ 2 ^ count = 0 := by
        rw [← sub_eq_zero, nrSqrtWith_distance positive, mul_eq_zero,
          or_iff_right (ne_of_gt total_pos)]
      _ ↔ √(x : ℝ) = 10 := by
        rw [pow_eq_zero_iff power, div_eq_zero_iff, or_iff_left (ne_of_gt sum_pos), sub_eq_zero,
          eq_comm]
      _ ↔ x = 100 := by
        rw [Real.sqrt_eq_iff_mul_self_eq cast_pos.le (by norm_num), hundred, Rat.cast_inj, eq_comm]

/-- Further passes come no farther from the root. -/
theorem nrSqrtWith_antitone {x : ℚ} (nonneg : 0 ≤ x) {count more : Nat} (positive : 0 < count)
    (ordered : count ≤ more) : nrSqrtWith more x ≤ nrSqrtWith count x := by
  induction more, ordered using Nat.le_induction with
  | base => exact le_refl _
  | succ more reached ih =>
      obtain ⟨passes, rfl⟩ := Nat.exists_eq_succ_of_ne_zero (show more ≠ 0 by omega)
      exact le_trans (nrSqrtWith_succ_le nonneg passes) ih

/-- Roots from 1 to 361 are at most in the ratio 351 to 371 away from the guess. -/
theorem nrSqrtWith_near {x : ℚ} (large : 1 ≤ x) (small : x ≤ 130050) (count : Nat) :
    (nrSqrtWith count x : ℝ) - √x ≤ (nrSqrtWith count x + √x) * (351 / 371) ^ 2 ^ count := by
  have cast_large : (1 : ℝ) ≤ x := by exact_mod_cast large
  have cast_small : (x : ℝ) ≤ 130050 := by exact_mod_cast small
  have root_large : 1 ≤ √(x : ℝ) := Real.one_le_sqrt.mpr cast_large
  have root_small : √(x : ℝ) ≤ 361 := by
    rw [Real.sqrt_le_left (by norm_num)]
    linarith
  have distance := nrSqrtWith_distance (lt_of_lt_of_le one_pos large) count
  have result_pos : (0 : ℝ) < nrSqrtWith count x := by
    exact_mod_cast nrSqrtWith_pos (le_trans zero_le_one large) count
  generalize √(x : ℝ) = s at *
  generalize (nrSqrtWith count x : ℝ) = r at *
  have ratio : |(10 - s) / (10 + s)| ≤ 351 / 371 := by
    rw [abs_div, abs_of_pos (show 0 < 10 + s by linarith),
      div_le_div_iff₀ (by linarith) (by norm_num)]
    rcases abs_cases (10 - s) with ⟨abs_eq, -⟩ | ⟨abs_eq, -⟩ <;> rw [abs_eq] <;> linarith
  have power : ((10 - s) / (10 + s)) ^ 2 ^ count ≤ (351 / 371) ^ 2 ^ count := by
    calc
      ((10 - s) / (10 + s)) ^ 2 ^ count ≤ |(10 - s) / (10 + s)| ^ 2 ^ count := by
        rw [← abs_pow]
        exact le_abs_self _
      _ ≤ (351 / 371) ^ 2 ^ count := by gcongr
  rw [distance]
  gcongr

theorem seven_passes {x : ℚ} (large : 1 ≤ x) (small : x ≤ 130050) :
    (nrSqrtWith 7 x : ℝ) ≤ 1.0049 * √x := by
  have near := nrSqrtWith_near large small 7
  have power : ((351 : ℝ) / 371) ^ 2 ^ 7 ≤ 1 / 1000 := by norm_num
  have result_pos : (0 : ℝ) < nrSqrtWith 7 x := by
    exact_mod_cast nrSqrtWith_pos (le_trans zero_le_one large) 7
  have bound : (nrSqrtWith 7 x : ℝ) - √x ≤ (nrSqrtWith 7 x + √x) * (1 / 1000) :=
    near.trans (mul_le_mul_of_nonneg_left power (by positivity))
  linarith

theorem five_passes {x : ℚ} (large : 1 ≤ x) (small : x ≤ 130050) :
    (nrSqrtWith 5 x : ℝ) ≤ 1.41 * √x := by
  have near := nrSqrtWith_near large small 5
  have power : ((351 : ℝ) / 371) ^ 2 ^ 5 ≤ 0.17 := by norm_num
  have result_pos : (0 : ℝ) < nrSqrtWith 5 x := by
    exact_mod_cast nrSqrtWith_pos (le_trans zero_le_one large) 5
  have bound : (nrSqrtWith 5 x : ℝ) - √x ≤ (nrSqrtWith 5 x + √x) * 0.17 :=
    near.trans (mul_le_mul_of_nonneg_left power (by positivity))
  linarith

/-- Fewer passes leave the largest input of the accelerometer too far from its root. -/
theorem six_passes : ∀ count < 7, largestSquares / 100 <
    |nrSqrtWith count largestSquares * nrSqrtWith count largestSquares - largestSquares| := by
  decide +kernel

/-- The number of passes that makes the square of the result accurate to one percent on
the whole range of the accelerometer's sums of squares: seven and more do, and fewer do
not. -/
theorem passes_enough_iff (count : Nat) :
    (∀ x : ℚ, 1 ≤ x → x ≤ 130050 →
      |nrSqrtWith count x * nrSqrtWith count x - x| ≤ x / 100) ↔ 7 ≤ count := by
  constructor
  · intro accurate
    by_contra few
    have within := accurate largestSquares (by norm_num [largestSquares])
      (by norm_num [largestSquares])
    exact absurd within (not_le.mpr (six_passes count (not_le.mp few)))
  · intro enough x large small
    have nonneg : 0 ≤ x := le_trans zero_le_one large
    obtain ⟨passes, rfl⟩ := Nat.exists_eq_succ_of_ne_zero (show count ≠ 0 by omega)
    have above := le_nrSqrtWith_mul_self nonneg passes
    have positive := nrSqrtWith_pos nonneg (passes + 1)
    have nearer : (nrSqrtWith (passes + 1) x : ℝ) ≤ nrSqrtWith 7 x := by
      exact_mod_cast nrSqrtWith_antitone nonneg (by decide) enough
    have near := le_trans nearer (seven_passes large small)
    have square : ((nrSqrtWith (passes + 1) x * nrSqrtWith (passes + 1) x : ℚ) : ℝ) ≤
        ((1.01 * x : ℚ) : ℝ) := by
      have root : √(x : ℝ) * √x = x := Real.mul_self_sqrt (by exact_mod_cast nonneg)
      have cast_nonneg : (0 : ℝ) ≤ x := by exact_mod_cast nonneg
      have product := mul_self_le_mul_self (by exact_mod_cast positive.le) near
      push_cast
      calc
        (nrSqrtWith (passes + 1) x : ℝ) * nrSqrtWith (passes + 1) x ≤
            1.0049 * √x * (1.0049 * √x) := product
        _ = 1.0049 * 1.0049 * x := by rw [mul_mul_mul_comm, root]
        _ ≤ 1.01 * x := by
          gcongr
          norm_num
    have rational : nrSqrtWith (passes + 1) x * nrSqrtWith (passes + 1) x ≤ 1.01 * x := by
      exact_mod_cast square
    rw [abs_of_nonneg (sub_nonneg.mpr above)]
    linarith

end ChibiCopter.Utils
