import Mathlib.Data.Vector.Basic

/-!
# Motor speeds and pulse widths

`Motors.c` keeps one speed per motor in hundredths of a percent and hands the PWM
driver the matching pulse width.  The record holds both: the array `motor_speeds`
and, for each channel, the width that `pwmEnableChannel` was last given.
`pwmcnt_t` is an unsigned 16-bit type, and the driver's conversion
`PWM_PERCENTAGE_TO_WIDTH` multiplies and divides in 32 bits and truncates to 16.
-/

namespace ChibiCopter.Flight

def numMotors : Nat := 4

def maxMotorSpeed : UInt16 := 10000

/-- The period of `pwmcfg`, in ticks of its 1 MHz clock. -/
def pwmPeriod : UInt32 := 2500

structure Motors where
  motorSpeeds : Vector UInt16 4
  widths : Vector UInt16 4
  deriving DecidableEq, Repr

def Motors.speed (motors : Motors) (motor : Fin 4) : UInt16 := motors.motorSpeeds[motor]

def pwmPercentageToWidth (period : UInt32) (percentage : UInt16) : UInt16 :=
  (period * percentage.toUInt32 / 10000).toUInt16

/-- The speed that is stored, never above the maximum. -/
def clampSpeed (speed : UInt16) : UInt16 :=
  if speed > maxMotorSpeed then maxMotorSpeed else speed

def motorsSetSpeed (motor : Nat) (speed : UInt16) (motors : Motors) : Motors :=
  if motor ≥ numMotors then motors
  else
    let speed := clampSpeed speed
    { motorSpeeds := motors.motorSpeeds.setIfInBounds motor speed
      widths := motors.widths.setIfInBounds motor (pwmPercentageToWidth pwmPeriod speed) }

def motorsGetSpeed (motor : Nat) (motors : Motors) : UInt16 :=
  if motor ≥ numMotors then 0 else motors.motorSpeeds.toList.getD motor 0

/-- `MotorsInit` stops every motor. -/
def motorsInit (motors : Motors) : Motors :=
  (List.range numMotors).foldl (fun motors motor => motorsSetSpeed motor 0 motors) motors

/-- A call of `MotorsSetSpeed`. -/
structure SpeedCall where
  motor : Nat
  speed : UInt16
  deriving DecidableEq, Repr

/-- The motors behind some calls. -/
def setAll (calls : List SpeedCall) (motors : Motors) : Motors :=
  calls.foldl (fun motors call => motorsSetSpeed call.motor call.speed motors) motors

/-! ## Speeds and widths stay consistent -/

/-- The conversion neither overflows nor leaves the period for speeds up to 100%. -/
theorem pwmPercentageToWidth_eq {speed : UInt16} (bound : speed.toNat ≤ 10000) :
    (pwmPercentageToWidth pwmPeriod speed).toNat = 2500 * speed.toNat / 10000 := by
  have period : pwmPeriod.toNat = 2500 := rfl
  have scale : (10000 : UInt32).toNat = 10000 := rfl
  have product : 2500 * speed.toNat % 2 ^ 32 = 2500 * speed.toNat :=
    Nat.mod_eq_of_lt (by omega)
  rw [pwmPercentageToWidth, UInt32.toNat_toUInt16, UInt32.toNat_div, UInt32.toNat_mul,
    UInt16.toNat_toUInt32, period, scale, product]
  exact Nat.mod_eq_of_lt (by omega)

theorem clampSpeed_le (speed : UInt16) : (clampSpeed speed).toNat ≤ 10000 := by
  unfold clampSpeed
  split
  · exact Nat.le_refl 10000
  case isFalse below => exact UInt16.le_iff_toNat_le.mp (UInt16.not_lt.mp below)

theorem clampSpeed_of_le {speed : UInt16} (bound : speed.toNat ≤ 10000) :
    clampSpeed speed = speed :=
  if_neg (UInt16.not_lt.mpr (UInt16.le_iff_toNat_le.mpr bound))

theorem motorsSetSpeed_of_lt {motor : Nat} (known : motor < 4) (speed : UInt16)
    (motors : Motors) :
    motorsSetSpeed motor speed motors =
      { motorSpeeds := motors.motorSpeeds.setIfInBounds motor (clampSpeed speed)
        widths := motors.widths.setIfInBounds motor
          (pwmPercentageToWidth pwmPeriod (clampSpeed speed)) } :=
  if_neg (Nat.not_le.mpr known)

theorem motorsSetSpeed_of_ge {motor : Nat} (unknown : 4 ≤ motor) (speed : UInt16)
    (motors : Motors) : motorsSetSpeed motor speed motors = motors := if_pos unknown

/-- Every stored speed is at most the maximum, and every width is the one of its speed. -/
structure Consistent (motors : Motors) : Prop where
  speed_le : ∀ motor : Fin 4, motors.motorSpeeds[motor].toNat ≤ 10000
  width_eq : ∀ motor : Fin 4,
    motors.widths[motor].toNat = 2500 * motors.motorSpeeds[motor].toNat / 10000

theorem Consistent.setSpeed {motors : Motors} (consistent : Consistent motors)
    (motor : Nat) (speed : UInt16) : Consistent (motorsSetSpeed motor speed motors) := by
  by_cases known : motor < 4
  · rw [motorsSetSpeed_of_lt known]
    constructor
    · intro other
      simp only [Fin.getElem_fin, Vector.getElem_setIfInBounds]
      split
      · exact clampSpeed_le speed
      · exact consistent.speed_le other
    · intro other
      simp only [Fin.getElem_fin, Vector.getElem_setIfInBounds]
      split
      · exact pwmPercentageToWidth_eq (clampSpeed_le speed)
      · exact consistent.width_eq other
  · rw [motorsSetSpeed_of_ge (Nat.not_lt.mp known)]
    exact consistent

/-- `MotorsInit` leaves every speed and every width at zero. -/
theorem motorsInit_eq (motors : Motors) :
    motorsInit motors = ⟨Vector.replicate 4 0, Vector.replicate 4 0⟩ := by
  have stopped (cells : Vector UInt16 4) :
      (((cells.setIfInBounds 0 0).setIfInBounds 1 0).setIfInBounds 2 0).setIfInBounds 3 0 =
        Vector.replicate 4 0 := by
    ext index bound
    simp only [Vector.getElem_setIfInBounds, Vector.getElem_replicate]
    have cases : index = 0 ∨ index = 1 ∨ index = 2 ∨ index = 3 := by omega
    rcases cases with rfl | rfl | rfl | rfl <;> rfl
  exact congrArg₂ Motors.mk (stopped motors.motorSpeeds) (stopped motors.widths)

theorem consistent_motorsInit (motors : Motors) : Consistent (motorsInit motors) := by
  rw [motorsInit_eq]
  constructor <;> intro motor <;> simp

end ChibiCopter.Flight
