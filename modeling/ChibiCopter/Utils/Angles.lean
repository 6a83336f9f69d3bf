import ChibiCopter.Utils.Order
import Mathlib.Analysis.SpecialFunctions.Complex.Arg
import Mathlib.Analysis.SpecialFunctions.Trigonometric.Arctan

/-!
# The attitude angles

The angles of the accelerometer are arctangents over `nr_sqrt`, where those of the gyro,
by the same formulas, use the square root of the library.  The arithmetic is exact here.
On the same readings the accelerometer never reports more roll or pitch than the gyro
would, and never less yaw.  The difference is bounded, by the angle that the smallest
reading above a vanishing root shows.
-/

namespace ChibiCopter.Utils

open Real

/-! ## Arctangents -/

/-- `atan2f` without the signs of zeros. -/
noncomputable def atan2 (y x : ℝ) : ℝ := Complex.arg ⟨x, y⟩

theorem atan2_of_pos {y x : ℝ} (positive : 0 < x) : atan2 y x = arctan (y / x) := by
  have acute := abs_lt.mp (Complex.abs_arg_lt_pi_div_two_iff (z := ⟨x, y⟩) |>.mpr (.inl positive))
  rw [← show tan (atan2 y x) = y / x from Complex.tan_arg ⟨x, y⟩]
  exact (arctan_tan acute.1 acute.2).symm

theorem atan2_zero_left {x : ℝ} (nonneg : 0 ≤ x) : atan2 0 x = 0 :=
  Complex.arg_eq_zero_iff.mpr ⟨nonneg, rfl⟩

theorem atan2_zero_right {y : ℝ} (positive : 0 < y) : atan2 y 0 = π / 2 :=
  Complex.arg_eq_pi_div_two_iff.mpr ⟨rfl, positive⟩

/-- The angle from the other axis. -/
theorem atan2_of_left_pos {y x : ℝ} (positive : 0 < y) (nonneg : 0 ≤ x) :
    atan2 y x = π / 2 - arctan (x / y) := by
  rcases eq_or_lt_of_le nonneg with rfl | xPos
  · rw [atan2_zero_right positive, zero_div, arctan_zero, sub_zero]
  · rw [atan2_of_pos xPos, ← inv_div, arctan_inv_of_pos (div_pos xPos positive)]

/-- Two tangents that are less than half apart belong to near angles. -/
theorem arctan_sub_le {u v : ℝ} (positive : 0 < v) (ordered : v ≤ u) (near : u ≤ 1.41 * v) :
    arctan u - arctan v ≤ arctan (5 / 16) := by
  have product : 0 < u * v := mul_pos (lt_of_lt_of_le positive ordered) positive
  have small : u * -v < 1 := by linarith
  rw [sub_eq_add_neg, ← arctan_neg, arctan_add small, arctan_le_arctan_iff,
    div_le_iff₀ (by linarith)]
  have square : v * v ≤ u * v := mul_le_mul_of_nonneg_right ordered positive.le
  nlinarith [sq_nonneg (v - 1)]

/-! ## The functions of the sensors -/

/-- The readings of a sensor, `accel_x` to `accel_z` or `gyro_x` to `gyro_z`. -/
structure Axes where
  x : UInt8
  y : UInt8
  z : UInt8
  deriving DecidableEq, Repr

/-- The sum of two squared readings. -/
def squares (a b : UInt8) : ℚ := ((a.toNat * a.toNat + b.toNat * b.toNat : Nat) : ℚ)

noncomputable def accelGetRollAngle (accel : Axes) : ℝ :=
  atan2 accel.x.toNat (nrSqrt (squares accel.y accel.z))

noncomputable def accelGetPitchAngle (accel : Axes) : ℝ :=
  atan2 accel.y.toNat (nrSqrt (squares accel.x accel.z))

noncomputable def accelGetYawAngle (accel : Axes) : ℝ :=
  atan2 (nrSqrt (squares accel.x accel.y)) accel.z.toNat

noncomputable def gyroGetRollAngle (gyro : Axes) : ℝ :=
  atan2 gyro.x.toNat √((gyro.y.toNat : ℝ) ^ 2 + (gyro.z.toNat : ℝ) ^ 2)

noncomputable def gyroGetPitchAngle (gyro : Axes) : ℝ :=
  atan2 gyro.y.toNat √((gyro.x.toNat : ℝ) ^ 2 + (gyro.z.toNat : ℝ) ^ 2)

noncomputable def gyroGetYawAngle (gyro : Axes) : ℝ :=
  atan2 √((gyro.x.toNat : ℝ) ^ 2 + (gyro.y.toNat : ℝ) ^ 2) gyro.z.toNat

theorem cast_squares (a b : UInt8) :
    ((squares a b : ℚ) : ℝ) = (a.toNat : ℝ) ^ 2 + (b.toNat : ℝ) ^ 2 := by
  simp only [squares, pow_two]
  push_cast
  rfl

theorem squares_nonneg (a b : UInt8) : 0 ≤ squares a b := Nat.cast_nonneg _

theorem squares_le (a b : UInt8) : squares a b ≤ 130050 := by
  have left : a.toNat * a.toNat ≤ 255 * 255 :=
    Nat.mul_le_mul (Nat.le_of_lt_succ a.toNat_lt) (Nat.le_of_lt_succ a.toNat_lt)
  have right : b.toNat * b.toNat ≤ 255 * 255 :=
    Nat.mul_le_mul (Nat.le_of_lt_succ b.toNat_lt) (Nat.le_of_lt_succ b.toNat_lt)
  rw [squares]
  exact_mod_cast Nat.add_le_add left right

theorem eq_zero_of_squares {a b : UInt8} (vanishes : squares a b = 0) : a = 0 ∧ b = 0 := by
  rw [squares] at vanishes
  have sum : a.toNat * a.toNat + b.toNat * b.toNat = 0 := by exact_mod_cast vanishes
  obtain ⟨left, right⟩ := Nat.add_eq_zero_iff.mp sum
  exact ⟨UInt8.toNat.inj (mul_self_eq_zero.mp left), UInt8.toNat.inj (mul_self_eq_zero.mp right)⟩

theorem squares_eq_zero_or (a b : UInt8) : squares a b = 0 ∨ 1 ≤ squares a b := by
  rcases Nat.eq_zero_or_pos (a.toNat * a.toNat + b.toNat * b.toNat) with zero | positive
  · exact .inl (by rw [squares, zero, Nat.cast_zero])
  · rw [squares]
    exact .inr (by exact_mod_cast positive)

/-! ## Both roots over one reading -/

/-- What `nr_sqrt` adds to the angle between a root and a reading. -/
noncomputable def excess (x : ℚ) (reading : ℝ) : ℝ :=
  arctan (nrSqrt x / reading) - arctan (√x / reading)

theorem excess_nonneg {x : ℚ} (nonneg : 0 ≤ x) {reading : ℝ} (positive : 0 < reading) :
    0 ≤ excess x reading :=
  sub_nonneg.mpr (arctan_mono
    (div_le_div_of_nonneg_right (sqrt_le_nrSqrtWith nonneg 4) positive.le))

theorem excess_eq_zero_iff {x : ℚ} (nonneg : 0 ≤ x) {reading : ℝ} (positive : 0 < reading) :
    excess x reading = 0 ↔ x = 100 := by
  rw [excess, sub_eq_zero, arctan_inj, div_left_inj' (ne_of_gt positive)]
  exact nrSqrtWith_eq_sqrt_iff nonneg 5

theorem nrSqrt_zero : nrSqrt 0 = 5 / 16 := by decide +kernel

theorem excess_zero (reading : ℝ) : excess 0 reading = arctan (5 / 16 / reading) := by
  rw [excess, nrSqrt_zero, Rat.cast_zero, sqrt_zero, zero_div, arctan_zero, sub_zero]
  push_cast
  rfl

theorem excess_le (a b : UInt8) {reading : ℝ} (large : 1 ≤ reading) :
    excess (squares a b) reading ≤ arctan (5 / 16) := by
  have positive : 0 < reading := lt_of_lt_of_le one_pos large
  rcases squares_eq_zero_or a b with zero | some
  · rw [zero, excess_zero]
    exact arctan_mono (div_le_self (by norm_num) large)
  · have root_pos : 0 < √((squares a b : ℚ) : ℝ) :=
      Real.sqrt_pos.mpr (by exact_mod_cast lt_of_lt_of_le one_pos some)
    refine arctan_sub_le (div_pos root_pos positive) ?_ ?_
    · exact div_le_div_of_nonneg_right (sqrt_le_nrSqrtWith (squares_nonneg a b) 4) positive.le
    · rw [← mul_div_assoc]
      exact div_le_div_of_nonneg_right (five_passes some (squares_le a b)) positive.le

theorem reading_pos {reading : UInt8} (nonzero : reading ≠ 0) : 1 ≤ (reading.toNat : ℝ) := by
  have positive : 0 < reading.toNat :=
    Nat.pos_of_ne_zero fun zero => nonzero (UInt8.toNat.inj zero)
  exact_mod_cast positive

/-- A reading over a root, as in roll and pitch: the error of the accelerometer's angle. -/
theorem atan2_over_sub (reading : UInt8) {x : ℚ} (nonneg : 0 ≤ x) :
    atan2 reading.toNat √x - atan2 reading.toNat (nrSqrt x) =
      if reading = 0 then 0 else excess x reading.toNat := by
  have result_pos : (0 : ℝ) < nrSqrt x := by exact_mod_cast nrSqrtWith_pos nonneg 5
  split
  case isTrue zero =>
    rw [zero, show (((0 : UInt8).toNat : ℕ) : ℝ) = 0 from Nat.cast_zero,
      atan2_zero_left (sqrt_nonneg _), atan2_zero_left result_pos.le, sub_zero]
  case isFalse nonzero =>
    have positive := lt_of_lt_of_le one_pos (reading_pos nonzero)
    rw [atan2_of_left_pos positive (sqrt_nonneg _), atan2_of_left_pos positive result_pos.le,
      excess]
    ring

/-- A root over a reading, as in yaw. -/
theorem atan2_under_sub (reading : UInt8) {x : ℚ} (nonneg : 0 ≤ x) :
    atan2 (nrSqrt x) reading.toNat - atan2 √x reading.toNat =
      if reading = 0 then if x = 0 then π / 2 else 0 else excess x reading.toNat := by
  have result_pos : (0 : ℝ) < nrSqrt x := by exact_mod_cast nrSqrtWith_pos nonneg 5
  split
  case isTrue zero =>
    rw [zero, show (((0 : UInt8).toNat : ℕ) : ℝ) = 0 from Nat.cast_zero,
      atan2_zero_right result_pos]
    split
    case isTrue vanishes =>
      rw [vanishes, Rat.cast_zero, sqrt_zero, atan2_zero_left le_rfl, sub_zero]
    case isFalse remains =>
      have root_pos : 0 < √(x : ℝ) :=
        Real.sqrt_pos.mpr (by exact_mod_cast lt_of_le_of_ne nonneg (Ne.symm remains))
      rw [atan2_zero_right root_pos, sub_self]
  case isFalse nonzero =>
    have positive := lt_of_lt_of_le one_pos (reading_pos nonzero)
    rw [atan2_of_pos positive, atan2_of_pos positive, excess]

/-! ## The errors of the angles -/

noncomputable def rollError (axes : Axes) : ℝ := gyroGetRollAngle axes - accelGetRollAngle axes

noncomputable def pitchError (axes : Axes) : ℝ := gyroGetPitchAngle axes - accelGetPitchAngle axes

noncomputable def yawError (axes : Axes) : ℝ := accelGetYawAngle axes - gyroGetYawAngle axes

theorem rollError_eq (axes : Axes) : rollError axes =
    if axes.x = 0 then 0 else excess (squares axes.y axes.z) axes.x.toNat := by
  rw [rollError, gyroGetRollAngle, accelGetRollAngle, ← cast_squares]
  exact atan2_over_sub axes.x (squares_nonneg axes.y axes.z)

theorem pitchError_eq (axes : Axes) : pitchError axes =
    if axes.y = 0 then 0 else excess (squares axes.x axes.z) axes.y.toNat := by
  rw [pitchError, gyroGetPitchAngle, accelGetPitchAngle, ← cast_squares]
  exact atan2_over_sub axes.y (squares_nonneg axes.x axes.z)

theorem yawError_eq (axes : Axes) : yawError axes =
    if axes.z = 0 then if squares axes.x axes.y = 0 then π / 2 else 0
    else excess (squares axes.x axes.y) axes.z.toNat := by
  rw [yawError, gyroGetYawAngle, accelGetYawAngle, ← cast_squares]
  exact atan2_under_sub axes.z (squares_nonneg axes.x axes.y)

/-- What roll and pitch may be wrong by. -/
theorem overError_spec (reading a b : UInt8) {error : ℝ}
    (error_eq : error = if reading = 0 then 0 else excess (squares a b) reading.toNat) :
    (0 ≤ error ∧ error ≤ arctan (5 / 16)) ∧ (error = 0 ↔ reading = 0 ∨ squares a b = 100) := by
  by_cases zero : reading = 0
  · rw [error_eq, if_pos zero]
    exact ⟨⟨le_rfl, arctan_nonneg.mpr (by norm_num)⟩, fun _ => .inl zero, fun _ => rfl⟩
  · have large := reading_pos zero
    have positive := lt_of_lt_of_le one_pos large
    have nonneg := squares_nonneg a b
    rw [error_eq, if_neg zero, excess_eq_zero_iff nonneg positive, or_iff_right zero]
    exact ⟨⟨excess_nonneg nonneg positive, excess_le a b large⟩, Iff.rfl⟩

theorem yawError_spec (axes : Axes) :
    (0 ≤ yawError axes ∧ (axes ≠ ⟨0, 0, 0⟩ → yawError axes ≤ arctan (5 / 16))) ∧
      (yawError axes = 0 ↔
        squares axes.x axes.y = 100 ∨ axes.z = 0 ∧ squares axes.x axes.y ≠ 0) := by
  rw [yawError_eq]
  have nonneg := squares_nonneg axes.x axes.y
  by_cases zero : axes.z = 0
  · rw [if_pos zero]
    by_cases vanishes : squares axes.x axes.y = 0
    · obtain ⟨x_eq, y_eq⟩ := eq_zero_of_squares vanishes
      have still : axes = ⟨0, 0, 0⟩ := by
        obtain ⟨x, y, z⟩ := axes
        rw [show x = 0 from x_eq, show y = 0 from y_eq, show z = 0 from zero]
      have right : 0 < π / 2 := by positivity
      rw [if_pos vanishes]
      refine ⟨⟨right.le, fun moving => absurd still moving⟩, ?_⟩
      refine ⟨fun same => absurd same (ne_of_gt right), ?_⟩
      rintro (hundred | ⟨-, remains⟩)
      · exact absurd (vanishes.symm.trans hundred) (by norm_num)
      · exact absurd vanishes remains
    · rw [if_neg vanishes]
      exact ⟨⟨le_rfl, fun _ => arctan_nonneg.mpr (by norm_num)⟩,
        fun _ => .inr ⟨zero, vanishes⟩, fun _ => rfl⟩
  · have large := reading_pos zero
    have positive := lt_of_lt_of_le one_pos large
    rw [if_neg zero, excess_eq_zero_iff nonneg positive]
    exact ⟨⟨excess_nonneg nonneg positive, fun _ => excess_le axes.x axes.y large⟩,
      fun hundred => .inl hundred, fun same => same.resolve_right fun bad => zero bad.1⟩

/-- For every reading the accelerometer reports at most the roll and the pitch that the
formulas of the gyro would, and at least the yaw; the two agree exactly if the reading
over the root is zero, the sum under it is the square of the first guess, or a yaw is a
right angle. -/
theorem angles_onesided (axes : Axes) :
    (accelGetRollAngle axes ≤ gyroGetRollAngle axes ∧
      (accelGetRollAngle axes = gyroGetRollAngle axes ↔
        axes.x = 0 ∨ squares axes.y axes.z = 100)) ∧
    (accelGetPitchAngle axes ≤ gyroGetPitchAngle axes ∧
      (accelGetPitchAngle axes = gyroGetPitchAngle axes ↔
        axes.y = 0 ∨ squares axes.x axes.z = 100)) ∧
    gyroGetYawAngle axes ≤ accelGetYawAngle axes ∧
      (gyroGetYawAngle axes = accelGetYawAngle axes ↔
        squares axes.x axes.y = 100 ∨ axes.z = 0 ∧ squares axes.x axes.y ≠ 0) := by
  obtain ⟨roll_bounds, roll_iff⟩ := overError_spec axes.x axes.y axes.z (rollError_eq axes)
  obtain ⟨pitch_bounds, pitch_iff⟩ := overError_spec axes.y axes.x axes.z (pitchError_eq axes)
  obtain ⟨yaw_bounds, yaw_iff⟩ := yawError_spec axes
  refine ⟨⟨sub_nonneg.mp roll_bounds.1, ?_⟩, ⟨sub_nonneg.mp pitch_bounds.1, ?_⟩,
    sub_nonneg.mp yaw_bounds.1, ?_⟩
  · rw [← roll_iff, rollError, sub_eq_zero, eq_comm]
  · rw [← pitch_iff, pitchError, sub_eq_zero, eq_comm]
  · rw [← yaw_iff, yawError, sub_eq_zero, eq_comm]

/-- The largest error of each angle is the arctangent of five sixteenths, about 17
degrees, but for the yaw of readings that are all zero, which is wrong by a right
angle. -/
theorem angle_errors_greatest :
    IsGreatest (Set.range rollError) (arctan (5 / 16)) ∧
      IsGreatest (Set.range pitchError) (arctan (5 / 16)) ∧
      IsGreatest (yawError '' {axes | axes ≠ ⟨0, 0, 0⟩}) (arctan (5 / 16)) ∧
      yawError ⟨0, 0, 0⟩ = π / 2 := by
  have none : squares 0 0 = 0 := by decide
  have least : excess 0 (UInt8.toNat 1) = arctan (5 / 16) := by
    rw [excess_zero, show ((UInt8.toNat 1 : ℕ) : ℝ) = 1 from Nat.cast_one, div_one]
  refine ⟨⟨⟨⟨1, 0, 0⟩, ?_⟩, ?_⟩, ⟨⟨⟨0, 1, 0⟩, ?_⟩, ?_⟩, ⟨⟨⟨0, 0, 1⟩, by decide, ?_⟩, ?_⟩, ?_⟩
  · rw [rollError_eq, if_neg (by decide), none, least]
  · rintro error ⟨axes, rfl⟩
    exact (overError_spec axes.x axes.y axes.z (rollError_eq axes)).1.2
  · rw [pitchError_eq, if_neg (by decide), none, least]
  · rintro error ⟨axes, rfl⟩
    exact (overError_spec axes.y axes.x axes.z (pitchError_eq axes)).1.2
  · rw [yawError_eq, if_neg (by decide), none, least]
  · rintro error ⟨axes, moving, rfl⟩
    exact (yawError_spec axes).1.2 moving
  · rw [yawError_eq, if_pos rfl, if_pos none]

end ChibiCopter.Utils
