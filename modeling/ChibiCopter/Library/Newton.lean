import Mathlib.Algebra.Order.Field.Basic
import Mathlib.Algebra.Order.Ring.Abs
import Mathlib.Order.Monotone.Basic
import Mathlib.Tactic.FieldSimp
import Mathlib.Tactic.Linarith
import Mathlib.Tactic.LinearCombination
import Mathlib.Tactic.Positivity
import Mathlib.Tactic.Ring

/-!
# Newton's iteration for a square root

Every step replaces a guess by the mean of the guess and the quotient of the number by
it.  Whatever the guess, the next one is not below the root, and from there on the
guesses come down to it.  How far a guess `y` is from a root `s` is measured by
`(y - s) / (y + s)`, which each step squares.
-/

namespace Newton

variable {K : Type*} [Field K]

/-- One step of the iteration for the square root of `x`. -/
def next (x y : K) : K := y - (y * y - x) / (2 * y)

section Ordered

variable [LinearOrder K] [IsStrictOrderedRing K] {x y : K}

theorem next_eq (positive : 0 < y) : next x y = (y + x / y) / 2 := by
  have nonzero : y ≠ 0 := ne_of_gt positive
  rw [next]
  field_simp
  ring

theorem next_pos (nonneg : 0 ≤ x) (positive : 0 < y) : 0 < next x y := by
  have quotient : 0 ≤ x / y := div_nonneg nonneg (le_of_lt positive)
  rw [next_eq positive]
  linarith

/-- The mean of two numbers is at least the root of their product. -/
theorem le_next_mul_next (positive : 0 < y) : x ≤ next x y * next x y := by
  have product : y * (x / y) = x := mul_div_cancel₀ x (ne_of_gt positive)
  have gap : next x y * next x y - x = ((y - x / y) / 2) ^ 2 := by
    rw [next_eq positive]
    linear_combination product
  have square : 0 ≤ ((y - x / y) / 2) ^ 2 := sq_nonneg _
  linarith

/-- Above the root, a step goes down. -/
theorem next_le (positive : 0 < y) (above : x ≤ y * y) : next x y ≤ y := by
  have quotient : 0 ≤ (y * y - x) / (2 * y) := div_nonneg (by linarith) (by linarith)
  rw [next]
  linarith

/-- A step stands still at the root and nowhere else. -/
theorem next_eq_self_iff (positive : 0 < y) : next x y = y ↔ y * y = x := by
  have divisor : 2 * y ≠ 0 := ne_of_gt (by linarith)
  rw [next, sub_eq_self, div_eq_zero_iff, or_iff_left divisor, sub_eq_zero]

/-! ## All guesses -/

theorem iterate_pos (nonneg : 0 ≤ x) (positive : 0 < y) (n : Nat) : 0 < (next x)^[n] y := by
  induction n with
  | zero => exact positive
  | succ n ih =>
      rw [Function.iterate_succ_apply']
      exact next_pos nonneg ih

theorem le_iterate_mul_iterate (nonneg : 0 ≤ x) (positive : 0 < y) (n : Nat) :
    x ≤ (next x)^[n + 1] y * (next x)^[n + 1] y := by
  rw [Function.iterate_succ_apply']
  exact le_next_mul_next (iterate_pos nonneg positive n)

theorem iterate_succ_le (nonneg : 0 ≤ x) (positive : 0 < y) (n : Nat) :
    (next x)^[n + 2] y ≤ (next x)^[n + 1] y := by
  rw [Function.iterate_succ_apply' _ (n + 1)]
  exact next_le (iterate_pos nonneg positive (n + 1))
    (le_iterate_mul_iterate nonneg positive n)

/-! ## Two numbers -/

/-- Steps keep the order of the numbers if the smaller number's guess is not below its
root. -/
theorem next_lt_next {x' y' : K} (nonneg : 0 ≤ x) (less : x < x') (positive : 0 < y)
    (ordered : y ≤ y') (above : x ≤ y * y) : next x y < next x' y' := by
  have positive' : 0 < y' := lt_of_lt_of_le positive ordered
  by_cases far : x' ≤ y * y
  · calc
      next x y = (y + x / y) / 2 := next_eq positive
      _ < (y + x' / y) / 2 := by
        have quotient : x / y < x' / y := (div_lt_div_iff_of_pos_right positive).mpr less
        linarith
      _ ≤ (y' + x' / y') / 2 := by
        have gap : x' / y - x' / y' ≤ y' - y := by
          rw [div_sub_div _ _ (ne_of_gt positive) (ne_of_gt positive'),
            div_le_iff₀ (mul_pos positive positive')]
          have product : x' ≤ y * y' := le_trans far (mul_le_mul_of_nonneg_left ordered positive.le)
          have step : x' * (y' - y) ≤ y * y' * (y' - y) :=
            mul_le_mul_of_nonneg_right product (sub_nonneg.mpr ordered)
          linarith
        linarith
      _ = next x' y' := (next_eq positive').symm
  · have below : next x y ≤ y := next_le positive above
    have near : y * y < next x' y' * next x' y' :=
      lt_of_lt_of_le (lt_of_not_ge far) (le_next_mul_next positive')
    have further : 0 < next x' y' := next_pos (le_trans nonneg less.le) positive'
    exact lt_of_le_of_lt below (lt_of_mul_self_lt_mul_self₀ further.le near)

theorem iterate_lt_iterate {x' : K} (nonneg : 0 ≤ x) (less : x < x') (positive : 0 < y)
    (n : Nat) : (next x)^[n + 1] y < (next x')^[n + 1] y := by
  induction n with
  | zero =>
      have quotient : x / y < x' / y := (div_lt_div_iff_of_pos_right positive).mpr less
      rw [Function.iterate_one, Function.iterate_one, next_eq positive, next_eq positive]
      linarith
  | succ n ih =>
      rw [Function.iterate_succ_apply' _ (n + 1), Function.iterate_succ_apply' _ (n + 1)]
      exact next_lt_next nonneg less (iterate_pos nonneg positive (n + 1)) ih.le
        (le_iterate_mul_iterate nonneg positive n)

end Ordered

/-! ## The distance from the root -/

/-- A step squares the relative distance from the root. -/
theorem next_distance {x y s : K} (root : s * s = x) (two : (2 : K) ≠ 0) (nonzero : y ≠ 0) :
    (next x y - s) * (y + s) ^ 2 = (next x y + s) * (y - s) ^ 2 := by
  rw [next, ← root]
  field_simp
  ring

/-- After `n` steps the relative distance is that of the first guess to the power of
`2 ^ n`. -/
theorem iterate_distance [LinearOrder K] [IsStrictOrderedRing K] {x y s : K}
    (root : s * s = x) (nonneg : 0 ≤ x) (positive : 0 < y) (rootPos : 0 < s) (n : Nat) :
    ((next x)^[n] y - s) * (y + s) ^ 2 ^ n = ((next x)^[n] y + s) * (y - s) ^ 2 ^ n := by
  induction n with
  | zero =>
      rw [Function.iterate_zero_apply, pow_zero, pow_one, pow_one]
      ring
  | succ n ih =>
      have guess := iterate_pos nonneg positive n
      have squared := next_distance root two_ne_zero (ne_of_gt guess)
      rw [Function.iterate_succ_apply']
      generalize next x ((next x)^[n] y) = further at *
      generalize (next x)^[n] y = near at *
      have apart : (near + s) ^ 2 ≠ 0 := ne_of_gt (by positivity)
      apply mul_right_cancel₀ apart
      rw [pow_succ, pow_mul, pow_mul]
      calc
        (further - s) * ((y + s) ^ 2 ^ n) ^ 2 * (near + s) ^ 2 =
            (further - s) * (near + s) ^ 2 * ((y + s) ^ 2 ^ n) ^ 2 := by ring
        _ = (further + s) * ((near - s) * (y + s) ^ 2 ^ n) ^ 2 := by
          rw [squared]
          ring
        _ = (further + s) * ((y - s) ^ 2 ^ n) ^ 2 * (near + s) ^ 2 := by
          rw [ih]
          ring

/-- Some steps bring the guess down to the multiple `c` of the root exactly if the first
guess was near enough on either side. -/
theorem iterate_le_mul_iff [LinearOrder K] [IsStrictOrderedRing K] {x y s c q : K}
    (root : s * s = x) (positive : 0 < y) (rootPos : 0 < s) (factor : 0 < c + 1)
    (nonneg : 0 ≤ q) {n : Nat} (near : (c + 1) * q ^ 2 ^ (n + 1) = c - 1) :
    (next x)^[n + 1] y ≤ c * s ↔ |y - s| ≤ q * (y + s) := by
  have square : 0 ≤ x := by
    rw [← root]
    exact mul_self_nonneg s
  have distance := iterate_distance root square positive rootPos (n + 1)
  have guess := iterate_pos square positive (n + 1)
  generalize (next x)^[n + 1] y = last at *
  have even : Even (2 ^ (n + 1)) := Nat.even_pow.mpr ⟨even_two, Nat.succ_ne_zero n⟩
  have exponent : 2 ^ (n + 1) ≠ 0 := pow_ne_zero (n + 1) two_ne_zero
  generalize 2 ^ (n + 1) = power at *
  have apart : 0 < (y + s) ^ power := by positivity
  have scale : 0 < (c + 1) * (last + s) := by positivity
  calc
    last ≤ c * s ↔ (c + 1) * (last - s) ≤ (c - 1) * (last + s) := by
      constructor <;> intro <;> linarith
    _ ↔ (c + 1) * (last - s) * (y + s) ^ power ≤ (c - 1) * (last + s) * (y + s) ^ power :=
      (mul_le_mul_iff_left₀ apart).symm
    _ ↔ (c + 1) * (last + s) * (y - s) ^ power ≤
          (c + 1) * (last + s) * (q * (y + s)) ^ power := by
      have left_eq : (c + 1) * (last - s) * (y + s) ^ power =
          (c + 1) * (last + s) * (y - s) ^ power := by
        rw [mul_assoc, distance, mul_assoc]
      have right_eq : (c - 1) * (last + s) * (y + s) ^ power =
          (c + 1) * (last + s) * (q * (y + s)) ^ power := by
        rw [← near, mul_pow]
        ring
      rw [left_eq, right_eq]
    _ ↔ (y - s) ^ power ≤ (q * (y + s)) ^ power := mul_le_mul_iff_right₀ scale
    _ ↔ |y - s| ≤ q * (y + s) := by
      rw [← even.pow_abs, pow_le_pow_iff_left₀ (abs_nonneg _) (by positivity) exponent]

end Newton
