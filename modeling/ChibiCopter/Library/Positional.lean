import Mathlib.Algebra.Order.Floor.Semifield
import Mathlib.Data.Nat.Digits.Defs
import Mathlib.Data.Rat.Floor
import Mathlib.Tactic.FieldSimp
import Mathlib.Tactic.Positivity
import Mathlib.Tactic.Ring

/-!
# Positional notation with a fraction

Digits in base `b` in front of the point denote a natural number, digits behind it a
fraction below one.  `shifted k` is the natural number that the first `k` digits
behind the point spell, which is the floor of the fraction moved `k` places to the
left.  An algorithm that stops after `k` digits is therefore exact up to that floor,
whatever the digits behind them are.
-/

namespace Positional

variable {b : Nat}

/-- The number spelled by digits, the most significant first. -/
def natValue (digits : List (Fin b)) : Nat := Nat.ofDigits b (digits.map Fin.val).reverse

/-- The fraction spelled by the digits behind the point. -/
def fraction : List (Fin b) → ℚ
  | [] => 0
  | digit :: rest => ((digit.val : ℚ) + fraction rest) / b

/-- The number spelled by the first `k` digits behind the point. -/
def shifted : Nat → List (Fin b) → Nat
  | 0, _ => 0
  | _ + 1, [] => 0
  | k + 1, digit :: rest => b ^ k * digit.val + shifted k rest

theorem natValue_concat (digits : List (Fin b)) (digit : Fin b) :
    natValue (digits ++ [digit]) = digit.val + b * natValue digits := by
  rw [natValue, List.map_append, List.reverse_append]
  exact Nat.ofDigits_cons

theorem natValue_lt (digits : List (Fin b)) (base : 1 < b) :
    natValue digits < b ^ digits.length := by
  have below : ∀ entry ∈ (digits.map Fin.val).reverse, entry < b := by
    intro entry member
    obtain ⟨digit, -, rfl⟩ := List.mem_map.mp (List.mem_reverse.mp member)
    exact digit.isLt
  simpa [natValue] using Nat.ofDigits_lt_base_pow_length base below

theorem fraction_nonneg (digits : List (Fin b)) : 0 ≤ fraction digits := by
  induction digits with
  | nil => exact le_refl 0
  | cons digit rest ih =>
      rw [fraction]
      positivity

theorem fraction_lt_one (digits : List (Fin b)) : fraction digits < 1 := by
  induction digits with
  | nil => exact zero_lt_one
  | cons digit rest ih =>
      have base : (0 : ℚ) < b := Nat.cast_pos.mpr (Nat.zero_lt_of_lt digit.isLt)
      have below : (digit.val : ℚ) + 1 ≤ b := by exact_mod_cast digit.isLt
      rw [fraction, div_lt_one base]
      linarith

/-- The first `k` digits are the floor of the fraction moved `k` places. -/
theorem floor_pow_mul_fraction (k : Nat) (digits : List (Fin b)) :
    ⌊(b : ℚ) ^ k * fraction digits⌋₊ = shifted k digits := by
  induction k generalizing digits with
  | zero =>
      rw [pow_zero, one_mul, shifted]
      exact Nat.floor_eq_zero.mpr (fraction_lt_one digits)
  | succ k ih =>
      cases digits with
      | nil => rw [fraction, mul_zero, Nat.floor_zero, shifted]
      | cons digit rest =>
          have base : (b : ℚ) ≠ 0 :=
            Nat.cast_ne_zero.mpr (Nat.ne_of_gt (Nat.zero_lt_of_lt digit.isLt))
          have moved : (b : ℚ) ^ (k + 1) * fraction (digit :: rest) =
              ((b ^ k * digit.val : Nat) : ℚ) + (b : ℚ) ^ k * fraction rest := by
            rw [fraction, Nat.cast_mul, Nat.cast_pow]
            field_simp
            ring
          have rest_nonneg : 0 ≤ (b : ℚ) ^ k * fraction rest :=
            mul_nonneg (by positivity) (fraction_nonneg rest)
          rw [moved, add_comm, Nat.floor_add_natCast rest_nonneg, ih, shifted, add_comm]

/-- Digits that are cut off behind the first `k` do not change these. -/
theorem shifted_take {k limit : Nat} (digits : List (Fin b)) (enough : k ≤ limit) :
    shifted k (digits.take limit) = shifted k digits := by
  induction k generalizing digits limit with
  | zero => rw [shifted, shifted]
  | succ k ih =>
      cases digits with
      | nil => rw [List.take_nil]
      | cons digit rest =>
          obtain ⟨limit, rfl⟩ : ∃ before, limit = before + 1 := ⟨limit - 1, by omega⟩
          rw [List.take_succ_cons, shifted, shifted, ih rest (Nat.le_of_succ_le_succ enough)]

theorem shifted_lt (k : Nat) (digits : List (Fin b)) (base : 0 < b) :
    shifted k digits < b ^ k := by
  rw [← floor_pow_mul_fraction, Nat.floor_lt (mul_nonneg (by positivity) (fraction_nonneg digits)),
    Nat.cast_pow]
  exact mul_lt_of_lt_one_right (by positivity) (fraction_lt_one digits)

/-! ## Spelling a number -/

theorem natValue_cons (digit : Fin b) (digits : List (Fin b)) :
    natValue (digit :: digits) = natValue digits + b ^ digits.length * digit.val := by
  rw [natValue, List.map_cons, List.reverse_cons, Nat.ofDigits_append, Nat.ofDigits_singleton,
    List.length_reverse, List.length_map, natValue]

section Spelling

variable [NeZero b]

/-- The lowest digits of a number, the most significant first. -/
def spelled : Nat → Nat → List (Fin b)
  | 0, _ => []
  | width + 1, n => Fin.ofNat b (n / b ^ width) :: spelled width n

@[simp] theorem length_spelled (width n : Nat) :
    (spelled width n : List (Fin b)).length = width := by
  induction width with
  | zero => rfl
  | succ width ih => rw [spelled, List.length_cons, ih]

/-- As many digits as a number has spell it. -/
theorem natValue_spelled (width n : Nat) :
    natValue (spelled width n : List (Fin b)) = n % b ^ width := by
  induction width with
  | zero => rw [pow_zero, Nat.mod_one]; rfl
  | succ width ih =>
      rw [spelled, natValue_cons, ih, length_spelled, Nat.mod_pow_succ, Fin.val_ofNat]

/-- The same digits behind the point. -/
theorem shifted_spelled (width n : Nat) :
    shifted width (spelled width n : List (Fin b)) = n % b ^ width := by
  induction width with
  | zero => rw [pow_zero, Nat.mod_one]; rfl
  | succ width ih => rw [spelled, shifted, ih, Nat.mod_pow_succ, Fin.val_ofNat, Nat.add_comm]

end Spelling

end Positional
