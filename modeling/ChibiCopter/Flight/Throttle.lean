import ChibiCopter.Flight.MainLoop
import ChibiCopter.Spektrum.Deframing

/-!
# From the throttle stick to the motor

Bytes of the receiver and passes of the main loop interleave in any order.  In every
state reached, the first motor runs at the throttle of some complete frame or not at
all, a due pass in an even frame gives it the throttle of the latest frame, and the
pulse width on its channel is the one of its speed.
-/

namespace ChibiCopter.Flight

open Spektrum

/-- The throttle value that a frame carries. -/
def throttle (payload : Payload) : Int := (channels payload)[throttleChannel]

/-- The throttle of the last of some frames, 0 when there is none. -/
def latestThrottle (frames : List Payload) : Int := (frames.map throttle).getLastD 0

theorem throttle_nonneg (payload : Payload) : 0 ≤ throttle payload :=
  channels_nonneg payload 4

theorem throttle_lt (payload : Payload) : throttle payload < 1024 :=
  channels_lt payload 4

/-- The throttle channel of the latest channels is the latest throttle. -/
theorem latestChannels_throttle (frames : List Payload) :
    (latestChannels (Vector.replicate 7 0) frames)[throttleChannel] =
      latestThrottle frames := by
  have cell := List.getLastD_map (f := fun values : Vector Int 7 => values[throttleChannel])
    (l := frames.map channels) (a := Vector.replicate 7 0)
  rw [List.map_map] at cell
  exact cell.symm

theorem latestThrottle_mem (frames : List Payload) :
    latestThrottle frames ∈ 0 :: frames.map throttle := List.getLastD_mem_cons

theorem throttle_bounds {value : Int} {frames : List Payload}
    (member : value ∈ 0 :: frames.map throttle) : 0 ≤ value ∧ value < 1024 := by
  rcases List.mem_cons.mp member with rfl | carried
  · decide
  · obtain ⟨payload, -, rfl⟩ := List.mem_map.mp carried
    exact ⟨throttle_nonneg payload, throttle_lt payload⟩

/-- Throttle values survive the conversion to `pwmcnt_t`. -/
theorem toPwmcnt_toNat {value : Int} (nonneg : 0 ≤ value) (bound : value < 1024) :
    ((toPwmcnt value).toNat : Int) = value := by
  have small : (value % 2 ^ 16).toNat < 2 ^ 16 := by omega
  rw [toPwmcnt, UInt16.ofInt, UInt16.toNat_ofNat_of_lt' small]
  omega

/-- Frames stay frames when more bytes arrive. -/
theorem map_throttle_deframe_append (first second : List UInt8) :
    ∃ more, (deframe (first ++ second)).map throttle =
      (deframe first).map throttle ++ more := by
  have whole := published_eq_deframe (spektrumInit zeroGlobals) rfl (first ++ second)
  have part := published_eq_deframe (spektrumInit zeroGlobals) rfl first
  rw [reporter.outputs_append, publishedChannels_append, part] at whole
  have values := congrArg (List.map fun values : Vector Int 7 => values[throttleChannel]) whole
  rw [List.map_append, List.map_map, List.map_map] at values
  exact ⟨_, values.symm⟩

/-- What the received frames say about the motors. -/
structure ThrottleSafe (frames : List Payload) (motors : Motors) : Prop where
  source : (motors.motorSpeeds[0].toNat : Int) ∈ 0 :: frames.map throttle
  others : ∀ motor : Fin 4, motor.val ≠ 0 → motors.speed motor = 0
  consistent : Consistent motors

theorem throttleSafe_motorsInit (motors : Motors) : ThrottleSafe [] (motorsInit motors) where
  source := by rw [motorsInit_eq]; decide
  others motor _ := by rw [motorsInit_eq]; simp [Motors.speed]
  consistent := consistent_motorsInit motors

theorem ThrottleSafe.weaken {frames moreFrames : List Payload} {motors : Motors}
    (safe : ThrottleSafe frames motors)
    (grown : ∃ more, moreFrames.map throttle = frames.map throttle ++ more) :
    ThrottleSafe moreFrames motors where
  source := by
    obtain ⟨more, split⟩ := grown
    rw [split, ← List.cons_append]
    exact List.mem_append_left more safe.source
  others := safe.others
  consistent := safe.consistent

/-- The speed after the motor call of an even frame. -/
theorem speed_setThrottle {value : Int} (nonneg : 0 ≤ value) (bound : value < 1024)
    (motors : Motors) :
    ((motorsSetSpeed 0 (toPwmcnt value) motors).motorSpeeds[0].toNat : Int) = value := by
  have converted := toPwmcnt_toNat nonneg bound
  rw [motorsSetSpeed_of_lt (by decide), clampSpeed_of_le (by omega)]
  simpa using converted

theorem others_setSpeed (speed : UInt16) (motors : Motors) (motor : Fin 4)
    (other : motor.val ≠ 0) :
    (motorsSetSpeed 0 speed motors).speed motor = motors.speed motor := by
  have different : 0 ≠ motor.val := Ne.symm other
  rw [motorsSetSpeed_of_lt (by decide)]
  simp [Motors.speed, different]

/-- Giving the motor the latest throttle keeps the motors safe. -/
theorem ThrottleSafe.setLatest {frames : List Payload} {motors : Motors}
    (safe : ThrottleSafe frames motors) :
    ThrottleSafe frames (motorsSetSpeed 0 (toPwmcnt (latestThrottle frames)) motors) where
  source := by
    obtain ⟨nonneg, bound⟩ := throttle_bounds (latestThrottle_mem frames)
    rw [speed_setThrottle nonneg bound]
    exact latestThrottle_mem frames
  others motor other := (others_setSpeed _ motors motor other).trans (safe.others motor other)
  consistent := safe.consistent.setSpeed 0 _

section Run

variable (globals : Receiver) (motors : Motors) (startTime previousTime : UInt32)

/-- The state that a run from start-up reaches. -/
def afterRun (actions : List Action) : Copter :=
  copterMachine.final (startUp globals motors startTime previousTime) actions

/-- The accessor returns the throttle of the latest complete frame. -/
theorem getSpektrumData_afterRun (actions : List Action) :
    getSpektrumData throttleChannel
        (afterRun globals motors startTime previousTime actions).rx =
      latestThrottle (deframe (received actions)) := by
  have held := receiverData_eq_latest (spektrumInit globals) rfl (received actions)
  rw [afterRun, final_rx, ← latestChannels_throttle]
  exact (getSpektrumData_of_lt _ 4).trans (congrArg (·[4]) held)

theorem throttleSafe_afterRun (actions : List Action) :
    ThrottleSafe (deframe (received actions))
      (afterRun globals motors startTime previousTime actions).motors := by
  refine copterMachine.final_history
    (fun actions copter => ThrottleSafe (deframe (received actions)) copter.motors)
    ?_ ?_ actions
  · have nothing : deframe (received []) = [] := by
      rw [received, List.filterMap_nil, deframe]
      simp
    rw [nothing]
    exact throttleSafe_motorsInit motors
  · intro actions action safe
    have grown : ThrottleSafe (deframe (received (actions ++ [action])))
        (afterRun globals motors startTime previousTime actions).motors := by
      refine safe.weaken ?_
      rw [received, List.filterMap_append]
      exact map_throttle_deframe_append _ _
    rcases copterStep_motors action (afterRun globals motors startTime previousTime actions)
      with kept | ⟨currentTime, rfl, -, -, set⟩
    · exact kept ▸ grown
    · have same : received (actions ++ [.pass currentTime]) = received actions := by
        rw [received, List.filterMap_append]
        exact List.append_nil _
      rw [getSpektrumData_afterRun] at set
      rw [same] at grown ⊢
      exact set ▸ grown.setLatest

/-- Over every interleaving of received bytes and passes of the main loop: the first
motor runs at 0 or at the throttle of a complete frame that stands in the stream, at
most 1023; its pulse width is the one of its speed, computed without overflow and within
the period; the other motors stay off; and a due pass in an even frame gives the first
motor the throttle of the latest complete frame. -/
theorem throttle_safe (actions : List Action) :
    let copter := afterRun globals motors startTime previousTime actions
    let frames := deframe (received actions)
    let speed := copter.motors.motorSpeeds[0].toNat
    (speed = 0 ∨ ∃ payload ∈ frames, frameBytes payload <:+: received actions ∧
      (speed : Int) = throttle payload) ∧
    speed ≤ 1023 ∧
    (copter.motors.widths[0].toNat = 2500 * speed / 10000 ∧
      2500 * speed < 2 ^ 32 ∧ copter.motors.widths[0].toNat ≤ 2500) ∧
    (copter.motors.motorSpeeds[1] = 0 ∧ copter.motors.motorSpeeds[2] = 0 ∧
      copter.motors.motorSpeeds[3] = 0) ∧
    ∀ currentTime, copter.loop.Due currentTime → copter.loop.nextFrame % 2 = 0 →
      ((copterStep (.pass currentTime) copter).2.motors.motorSpeeds[0].toNat : Int) =
        latestThrottle frames := by
  intro copter frames speed
  have safe : ThrottleSafe frames copter.motors :=
    throttleSafe_afterRun globals motors startTime previousTime actions
  obtain ⟨nonneg, bound⟩ := throttle_bounds safe.source
  have speed_le : speed ≤ 1023 := by omega
  have width : copter.motors.widths[0].toNat = 2500 * speed / 10000 :=
    safe.consistent.width_eq 0
  refine ⟨?_, speed_le, ⟨width, by omega, by omega⟩,
    ⟨safe.others 1 (by decide), safe.others 2 (by decide), safe.others 3 (by decide)⟩, ?_⟩
  · rcases List.mem_cons.mp safe.source with zero | carried
    · exact Or.inl (Int.natCast_eq_zero.mp zero)
    · obtain ⟨payload, member, equal⟩ := List.mem_map.mp carried
      exact Or.inr ⟨payload, member, frameBytes_isInfix_of_mem_deframe member, equal.symm⟩
  · intro currentTime due even
    obtain ⟨latestNonneg, latestBound⟩ := throttle_bounds (latestThrottle_mem frames)
    rw [copterStep_even due even,
      getSpektrumData_afterRun globals motors startTime previousTime actions,
      speed_setThrottle latestNonneg latestBound]

end Run

/-- A frame of channels 771 and one due pass. -/
def climbActions : List Action :=
  (frameBytes (Vector.replicate 14 0x03)).map .receive ++ [.pass 10]

theorem throttle_safe_climb :
    let copter := afterRun zeroGlobals ⟨Vector.replicate 4 0, Vector.replicate 4 0⟩ 0 0
      climbActions
    ((copterStep (.pass 20) copter).2.motors.motorSpeeds[0].toNat : Int) =
      latestThrottle (deframe (received climbActions)) :=
  (throttle_safe zeroGlobals ⟨Vector.replicate 4 0, Vector.replicate 4 0⟩ 0 0
    climbActions).2.2.2.2 20 (by decide) (by decide)

end ChibiCopter.Flight
