import ChibiCopter.Flight.Motors
import ChibiCopter.Library.Transducer
import ChibiCopter.Spektrum.Receiver

/-!
# The main scheduler loop

One pass of the loop in `main` reads the system time and, when at least ten
milliseconds have gone by since the last due pass, runs the task groups whose
divisor divides the frame counter.  A pass is a function from the time it reads to
the calls it makes, in their order, and the loop variables it leaves.  The attitude
angles are floating-point values of the accelerometer and are left out.
-/

namespace ChibiCopter.Flight

open Spektrum

def chFrequency : UInt32 := 1000

/-- `US2ST(10000)`: ten milliseconds in system ticks. -/
def framePeriod : UInt32 := 10

/-- The variables of `main` that live from one pass to the next, with `startTime`. -/
structure MainLoop where
  startTime : UInt32
  previousTime : UInt32
  frameCounter : Nat
  deriving DecidableEq, Repr

/-- The calls a pass can make. -/
inductive MainCall where
  | gyroRead
  | accelRead
  | motorsSetSpeed (motor : Nat) (speed : UInt16)
  | commsSendAttitude (timeBootMs : UInt32)
  | commsSendGPSRaw (timeUsec : UInt64) (fixType : UInt8) (lat lon alt : Int32)
      (eph epv vel cog : UInt16) (satellitesVisible : UInt8)
  | commsSendSysStatus
  | commsSendHeartbeat
  deriving DecidableEq, Repr

/-- The text `ST2MS(currentTime - startTime)` after macro expansion: the division
binds to `startTime` alone. -/
def st2msSinceStart (currentTime startTime : UInt32) : UInt32 :=
  (currentTime - startTime / chFrequency) * 1000

/-- The conversion of an `int` argument to `pwmcnt_t`. -/
def toPwmcnt (value : Int) : UInt16 := UInt16.ofInt value

/-- The task groups of a due pass. -/
def mainTasks (frameCounter : Nat) (currentTime startTime : UInt32) (rx : Receiver) :
    List MainCall :=
  (if frameCounter % 1 = 0 then [.gyroRead, .accelRead] else []) ++
  (if frameCounter % 2 = 0 then
    [.motorsSetSpeed 0 (toPwmcnt (getSpektrumData throttleChannel rx))] else []) ++
  (if frameCounter % 4 = 0 then [] else []) ++
  (if frameCounter % 10 = 0 then
    [.commsSendAttitude (st2msSinceStart currentTime startTime)] else []) ++
  (if frameCounter % 20 = 0 then
    [.commsSendGPSRaw (st2msSinceStart currentTime startTime).toUInt64
      0 0 0 0 65535 65535 0 0 255] else []) ++
  (if frameCounter % 100 = 0 then [.commsSendSysStatus, .commsSendHeartbeat] else [])

/-- What the calls of a due pass give, call by call. -/
theorem flatMap_mainTasks {β : Type} (report : MainCall → List β) (frameCounter : Nat)
    (currentTime startTime : UInt32) (rx : Receiver) :
    (mainTasks frameCounter currentTime startTime rx).flatMap report =
      (if frameCounter % 1 = 0 then report .gyroRead ++ report .accelRead else []) ++
      (if frameCounter % 2 = 0 then
        report (.motorsSetSpeed 0 (toPwmcnt (getSpektrumData throttleChannel rx))) else []) ++
      (if frameCounter % 10 = 0 then
        report (.commsSendAttitude (st2msSinceStart currentTime startTime)) else []) ++
      (if frameCounter % 20 = 0 then
        report (.commsSendGPSRaw (st2msSinceStart currentTime startTime).toUInt64
          0 0 0 0 65535 65535 0 0 255) else []) ++
      (if frameCounter % 100 = 0 then
        report .commsSendSysStatus ++ report .commsSendHeartbeat else []) := by
  have piece (condition : Prop) [Decidable condition] (calls : List MainCall) :
      (if condition then calls else []).flatMap report =
        if condition then calls.flatMap report else [] := by
    split <;> rfl
  simp only [mainTasks, List.flatMap_append, piece, List.flatMap_cons, List.flatMap_nil,
    List.append_nil, ite_self]

/-- The calls of the group of one per second. -/
theorem mem_mainTasks_hundredth {call : MainCall}
    (hundredth : call = .commsSendSysStatus ∨ call = .commsSendHeartbeat) (frameCounter : Nat)
    (currentTime startTime : UInt32) (rx : Receiver) :
    call ∈ mainTasks frameCounter currentTime startTime rx ↔ frameCounter % 100 = 0 := by
  rcases hundredth with rfl | rfl <;>
    simp only [mainTasks, List.mem_append, List.mem_ite_nil_right, List.mem_cons,
      List.not_mem_nil, or_false, reduceCtorEq, and_false, false_or, or_self, and_true, or_true]

/-- Whether a pass that reads `currentTime` is due. -/
def MainLoop.Due (loop : MainLoop) (currentTime : UInt32) : Prop :=
  currentTime - loop.previousTime ≥ framePeriod

instance (loop : MainLoop) (currentTime : UInt32) : Decidable (loop.Due currentTime) :=
  inferInstanceAs (Decidable (currentTime - loop.previousTime ≥ framePeriod))

/-- The frame counter, an 8-bit variable, as the tasks of the next due pass see it. -/
def MainLoop.nextFrame (loop : MainLoop) : Nat := (loop.frameCounter + 1) % 256

def mainPass (currentTime : UInt32) (rx : Receiver) (loop : MainLoop) :
    List MainCall × MainLoop :=
  if loop.Due currentTime then
    (mainTasks loop.nextFrame currentTime loop.startTime rx,
      { loop with
        previousTime := currentTime
        frameCounter := if loop.nextFrame ≥ 100 then 0 else loop.nextFrame })
  else ([], loop)

/-- The effect of a call on the motors. -/
def performOnMotors : MainCall → Motors → Motors
  | .motorsSetSpeed motor speed, motors => motorsSetSpeed motor speed motors
  | _, motors => motors

def runOnMotors (calls : List MainCall) (motors : Motors) : Motors :=
  calls.foldl (fun motors call => performOnMotors call motors) motors

/-- The speeds that a call sets. -/
def MainCall.speedCalls : MainCall → List SpeedCall
  | .motorsSetSpeed motor speed => [⟨motor, speed⟩]
  | _ => []

theorem runOnMotors_eq (calls : List MainCall) (motors : Motors) :
    runOnMotors calls motors = setAll (calls.flatMap MainCall.speedCalls) motors := by
  rw [setAll, List.foldl_flatMap, runOnMotors]
  refine congrArg (fun perform => calls.foldl perform motors) (funext₂ fun motors call => ?_)
  cases call <;> rfl

/-- The motors see at most one call of a pass, and only in even frames. -/
theorem runOnMotors_mainTasks (frameCounter : Nat) (currentTime startTime : UInt32)
    (rx : Receiver) (motors : Motors) :
    runOnMotors (mainTasks frameCounter currentTime startTime rx) motors =
      if frameCounter % 2 = 0 then
        motorsSetSpeed 0 (toPwmcnt (getSpektrumData throttleChannel rx)) motors
      else motors := by
  rw [runOnMotors_eq, flatMap_mainTasks]
  simp only [MainCall.speedCalls, List.append_nil, List.nil_append, ite_self]
  split <;> rfl

/-! ## The receiver, the motors and the loop together -/

/-- The globals that the receiver thread and the main thread share. -/
structure Copter where
  rx : Receiver
  motors : Motors
  loop : MainLoop

/-- An atomic step: the receiver thread parses a byte, or the main thread makes one
pass that reads the given time. -/
inductive Action where
  | receive (byte : UInt8)
  | pass (currentTime : UInt32)
  deriving DecidableEq, Repr

def copterStep (action : Action) (copter : Copter) : List MainCall × Copter :=
  match action with
  | .receive byte => ([], { copter with rx := (spektrumParse byte copter.rx).2 })
  | .pass currentTime =>
      let (calls, loop) := mainPass currentTime copter.rx copter.loop
      (calls, { copter with motors := runOnMotors calls copter.motors, loop := loop })

def copterMachine : Transducer Copter Action (List MainCall) := ⟨copterStep⟩

/-- The state after `SpektrumInit`, `MotorsInit` and the two clock readings of `main`. -/
def startUp (globals : Receiver) (motors : Motors) (startTime previousTime : UInt32) :
    Copter where
  rx := spektrumInit globals
  motors := motorsInit motors
  loop := ⟨startTime, previousTime, 0⟩

/-- The byte an action feeds to the receiver. -/
def Action.byte? : Action → Option UInt8
  | .receive byte => some byte
  | .pass _ => none

/-- The bytes the receiver has read in a run. -/
def received (actions : List Action) : List UInt8 := actions.filterMap Action.byte?

/-- The receiver of the joint system is the decoder on the received bytes. -/
theorem final_rx (copter : Copter) (actions : List Action) :
    (copterMachine.final copter actions).rx = decoder.final copter.rx (received actions) := by
  refine copterMachine.final_component decoder Copter.rx Action.byte? ?_ ?_ copter actions
  · intro action byte copter chosen
    cases action with
    | receive own => cases chosen; rfl
    | pass currentTime => cases chosen
  · intro action copter chosen
    cases action with
    | receive own => cases chosen
    | pass currentTime => rfl

/-- What a step does to the motors: only a due pass in an even frame sets a speed, and
it is the throttle that the receiver holds. -/
theorem copterStep_motors (action : Action) (copter : Copter) :
    (copterStep action copter).2.motors = copter.motors ∨
      ∃ currentTime, action = .pass currentTime ∧ copter.loop.Due currentTime ∧
        copter.loop.nextFrame % 2 = 0 ∧
        (copterStep action copter).2.motors =
          motorsSetSpeed 0 (toPwmcnt (getSpektrumData throttleChannel copter.rx))
            copter.motors := by
  cases action with
  | receive byte => exact Or.inl rfl
  | pass currentTime =>
      by_cases due : copter.loop.Due currentTime
      · simp only [copterStep, mainPass, if_pos due, runOnMotors_mainTasks]
        by_cases even : copter.loop.nextFrame % 2 = 0
        · exact Or.inr ⟨currentTime, rfl, due, even, if_pos even⟩
        · exact Or.inl (if_neg even)
      · simp only [copterStep, mainPass, if_neg due]
        exact Or.inl rfl

/-- A due pass in an even frame sets the first motor to the throttle. -/
theorem copterStep_even {currentTime : UInt32} {copter : Copter}
    (due : copter.loop.Due currentTime) (even : copter.loop.nextFrame % 2 = 0) :
    (copterStep (.pass currentTime) copter).2.motors =
      motorsSetSpeed 0 (toPwmcnt (getSpektrumData throttleChannel copter.rx))
        copter.motors := by
  simp only [copterStep, mainPass, if_pos due, runOnMotors_mainTasks, if_pos even]

end ChibiCopter.Flight
