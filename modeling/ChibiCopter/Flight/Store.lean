import ChibiCopter.Flight.Motors
import ChibiCopter.Library.Overwrite
import Mathlib.Data.List.Induction

/-!
# The motors as a store

Whatever calls `MotorsSetSpeed` gets, with whatever numbers of motors and speeds, the
module is a store with one cell for each of the four motors: a cell holds the last speed
that its motor was given, cut to the maximum, and the driver the pulse width of it.
-/

namespace ChibiCopter.Flight

theorem setAll_concat (calls : List SpeedCall) (call : SpeedCall) (motors : Motors) :
    setAll (calls ++ [call]) motors =
      motorsSetSpeed call.motor call.speed (setAll calls motors) := List.foldl_concat _ _ _ _

/-- The last speed that the calls give a motor, 0 if there is none. -/
def lastSpeed (motor : Nat) (calls : List SpeedCall) : UInt16 :=
  ((calls.filter fun call => call.motor = motor).map SpeedCall.speed).getLastD 0

/-- The speed that a call stores for a motor. -/
def SpeedCall.stored? (motor : Nat) (call : SpeedCall) : Option UInt16 :=
  if call.motor = motor then some (clampSpeed call.speed) else none

theorem speed_setSpeed (motor : Fin 4) (call : SpeedCall) (motors : Motors) :
    (motorsSetSpeed call.motor call.speed motors).speed motor =
      (call.stored? motor.val).getD (motors.speed motor) := by
  rw [SpeedCall.stored?]
  by_cases same : call.motor = motor.val
  · have known : call.motor < 4 := same ▸ motor.isLt
    rw [motorsSetSpeed_of_lt known, if_pos same]
    simp [Motors.speed, same]
  · rw [if_neg same]
    by_cases known : call.motor < 4
    · rw [motorsSetSpeed_of_lt known]
      simp [Motors.speed, same]
    · rw [motorsSetSpeed_of_ge (Nat.not_lt.mp known)]
      rfl

theorem stored_filterMap (motor : Nat) (calls : List SpeedCall) :
    calls.filterMap (SpeedCall.stored? motor) =
      ((calls.filter fun call => call.motor = motor).map SpeedCall.speed).map clampSpeed := by
  induction calls with
  | nil => rfl
  | cons call calls ih =>
      by_cases same : call.motor = motor
      · have found : call.stored? motor = some (clampSpeed call.speed) := if_pos same
        rw [List.filterMap_cons_some found, ih, List.filter_cons_of_pos (by simpa using same)]
        rfl
      · have none : call.stored? motor = none := if_neg same
        rw [List.filterMap_cons_none none, ih, List.filter_cons_of_neg (by simpa using same)]

theorem consistent_setAll (calls : List SpeedCall) (motors : Motors) :
    Consistent (setAll calls (motorsInit motors)) := by
  induction calls using List.reverseRecOn with
  | nil =>
      rw [setAll, List.foldl_nil]
      exact consistent_motorsInit motors
  | append_singleton calls call ih =>
      rw [setAll_concat]
      exact ih.setSpeed call.motor call.speed

theorem motorsGetSpeed_of_lt (motor : Fin 4) (motors : Motors) :
    motorsGetSpeed motor.val motors = motors.speed motor := by
  have known : ¬ motor.val ≥ numMotors := Nat.not_le.mpr motor.isLt
  have inside : motors.motorSpeeds.toList[motor.val]? = some (motors.speed motor) := by
    simp [Motors.speed]
  rw [motorsGetSpeed, if_neg known, List.getD_eq_getElem?_getD, inside, Option.getD_some]

theorem toNat_clampSpeed (speed : UInt16) : (clampSpeed speed).toNat = min speed.toNat 10000 := by
  by_cases large : speed.toNat ≤ 10000
  · rw [clampSpeed_of_le large, Nat.min_eq_left large]
  · have above : speed > maxMotorSpeed :=
      UInt16.lt_iff_toNat_lt.mpr (Nat.lt_of_not_le large)
    rw [clampSpeed, if_pos above, Nat.min_eq_right (Nat.le_of_not_le large)]
    rfl

/-- Each cell holds the last speed that was stored in it. -/
theorem speed_setAll (calls : List SpeedCall) (motors : Motors) (motor : Fin 4) :
    (setAll calls (motorsInit motors)).speed motor = clampSpeed (lastSpeed motor.val calls) := by
  have stopped : (motorsInit motors).speed motor = clampSpeed 0 := by
    rw [motorsInit_eq, clampSpeed_of_le (by decide)]
    simp [Motors.speed]
  have held := Overwrite.foldl_eq_getLastD (fun motors => Motors.speed motors motor)
    (SpeedCall.stored? motor.val) (fun motors call => speed_setSpeed motor call motors)
    (motorsInit motors) calls
  rw [stored_filterMap, stopped, List.getLastD_map] at held
  exact held

/-- Behind `MotorsInit` and any calls of `MotorsSetSpeed`, `MotorsGetSpeed` answers the
last speed that the motor was given, cut to 10000, and 0 for a motor that was given none
or does not exist; and the channel of each motor runs at the width of this answer. -/
theorem store_latest (calls : List SpeedCall) (motors : Motors) (motor : Nat) :
    let reached := setAll calls (motorsInit motors)
    let answer := motorsGetSpeed motor reached
    answer.toNat = (if motor < 4 then min (lastSpeed motor calls).toNat 10000 else 0) ∧
      ∀ known : motor < 4, reached.widths[motor].toNat = 2500 * answer.toNat / 10000 := by
  intro reached answer
  by_cases known : motor < 4
  · have answer_eq : answer = reached.speed ⟨motor, known⟩ :=
      motorsGetSpeed_of_lt ⟨motor, known⟩ reached
    refine ⟨?_, fun _ => ?_⟩
    · rw [answer_eq, speed_setAll, toNat_clampSpeed, if_pos known]
    · rw [answer_eq]
      exact (consistent_setAll calls motors).width_eq ⟨motor, known⟩
  · refine ⟨?_, fun inside => absurd inside known⟩
    rw [if_neg known]
    exact congrArg UInt16.toNat (if_pos (Nat.le_of_not_lt known))

end ChibiCopter.Flight
