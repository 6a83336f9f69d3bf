import ChibiCopter.Firmware.Heartbeat
import ChibiCopter.Flight.Store
import ChibiCopter.Flight.Throttle

/-!
# The delay from the stick to the motor

The first motor is given the throttle in every second due frame, and due frames come
within ten ticks and a reading of each other.  The speed that the motor runs at is
therefore the throttle of a moment that is not long gone, in every interleaving of the
threads with a loop that reads the clock often enough.
-/

namespace ChibiCopter.Firmware

open Clock Comms Flight Spektrum

variable {timers : VirtualTimers}

/-! ## The stick -/

/-- The byte that the receiver thread handles in a step. -/
def ThreadEvent.received? : ThreadEvent → Option UInt8
  | .spektrum c => some c
  | .tick | .gps _ | .comms _ | .blink => none

def Event.received? : Event → Option UInt8 := Event.select ThreadEvent.received?

/-- The frames that have reached the receiver. -/
def framesBehind (early : List ThreadEvent) (events : List Event) : List Payload :=
  deframe (early.filterMap ThreadEvent.received? ++ events.filterMap Event.received?)

theorem rx_threadStep (event : ThreadEvent) (program : Program timers) :
    (threadStep event program).2.rx = decoder.final program.rx event.received?.toList := by
  cases event with
  | tick =>
      obtain ⟨vt1, led4, step_eq⟩ := tick_eq program
      rw [threadStep, step_eq]
      rfl
  | spektrum c => rfl
  | gps c =>
      obtain ⟨globals, led5, step_eq⟩ := gps_eq c program
      rw [threadStep, step_eq]
      rfl
  | comms parsed => rfl
  | blink =>
      obtain ⟨led3, led6, stage, step_eq⟩ := blink_eq program
      rw [threadStep, step_eq]
      rfl

theorem threadPart_rx : ThreadPart decoder (@Program.rx timers) ThreadEvent.received? where
  driven := rx_threadStep
  passed program := by
    rw [step_pass]
    rfl
  carried _ := rfl

/-- The receiver of the program is the decoder on the bytes of its thread. -/
theorem rx_behind (timers : VirtualTimers) (start : Nat) (early : List ThreadEvent)
    (events : List Event) :
    (behind timers start early events).rx = decoder.final (spektrumInit zeroGlobals)
      (early.filterMap ThreadEvent.received? ++ events.filterMap Event.received?) :=
  threadPart_rx.behind_eq start early events

/-- The accessor returns the throttle of the latest frame. -/
theorem getSpektrumData_behind (timers : VirtualTimers) (start : Nat) (early : List ThreadEvent)
    (events : List Event) :
    getSpektrumData throttleChannel (behind timers start early events).rx =
      latestThrottle (framesBehind early events) := by
  have held := receiverData_eq_latest (spektrumInit zeroGlobals) rfl
    (early.filterMap ThreadEvent.received? ++ events.filterMap Event.received?)
  rw [rx_behind, framesBehind, ← latestChannels_throttle]
  exact (getSpektrumData_of_lt _ 4).trans (congrArg (·[4]) held)

/-! ## The motor -/

/-- The speed of the first motor. -/
def Program.firstSpeed (program : Program timers) : Int := (motorsGetSpeed 0 program.motors).toNat

theorem motors_entered (timers : VirtualTimers) (start : Nat) (early : List ThreadEvent) :
    (entered timers start early).motors = motorsInit (loaded timers start).motors :=
  threads.final_invariant (fun program => program.motors = (initialise timers start).2.motors)
    (fun event program same => (threadStep_kept event program).2.1.trans same) rfl early

/-- Whether the next pass sets the first motor. -/
def SetsNext (program : Program timers) : Prop :=
  program.loop.Due (reading program.now) ∧ program.loop.nextFrame % 2 = 0

instance (program : Program timers) : Decidable (SetsNext program) :=
  inferInstanceAs (Decidable (_ ∧ _))

theorem motors_pass (program : Program timers) :
    (SetsNext program → (step .pass program).2.motors =
      motorsSetSpeed 0 (toPwmcnt (getSpektrumData throttleChannel program.rx)) program.motors) ∧
    (¬ SetsNext program → (step .pass program).2.motors = program.motors) := by
  have motors_eq : (step .pass program).2.motors =
      runOnMotors (nextCalls program) program.motors := by
    rw [step_pass]
    rfl
  rw [motors_eq, nextCalls, mainPass]
  by_cases due : program.loop.Due (reading program.now)
  · rw [if_pos due, runOnMotors_mainTasks]
    exact ⟨fun sets => if_pos sets.2, fun keeps => if_neg fun even => keeps ⟨due, even⟩⟩
  · rw [if_neg due]
    exact ⟨fun sets => absurd sets.1 due, fun _ => rfl⟩

theorem getSpeed_setThrottle {value : Int} (nonneg : 0 ≤ value) (bound : value < 1024)
    (motors : Motors) :
    (motorsGetSpeed 0 (motorsSetSpeed 0 (toPwmcnt value) motors)).toNat = value := by
  rw [show motorsGetSpeed 0 _ = _ from motorsGetSpeed_of_lt ⟨0, by decide⟩ _]
  exact speed_setThrottle nonneg bound motors

/-- A pass that sets the first motor gives it the latest throttle. -/
theorem firstSpeed_set {start : Nat} {early : List ThreadEvent} {events : List Event}
    (sets : SetsNext (behind timers start early events)) :
    (behind timers start early (events ++ [.pass])).firstSpeed =
      latestThrottle (framesBehind early events) := by
  have reached : behind timers start early (events ++ [.pass]) =
      (step .pass (behind timers start early events)).2 := firmware.final_concat _ _ _
  obtain ⟨nonneg, bound⟩ := throttle_bounds (latestThrottle_mem (framesBehind early events))
  rw [reached, Program.firstSpeed, (motors_pass _).1 sets, getSpektrumData_behind,
    getSpeed_setThrottle nonneg bound]

theorem firstSpeed_kept {start : Nat} {early : List ThreadEvent} {events : List Event}
    (keeps : ¬ SetsNext (behind timers start early events)) :
    (behind timers start early (events ++ [.pass])).firstSpeed =
      (behind timers start early events).firstSpeed := by
  have reached : behind timers start early (events ++ [.pass]) =
      (step .pass (behind timers start early events)).2 := firmware.final_concat _ _ _
  rw [reached, Program.firstSpeed, (motors_pass _).2 keeps, Program.firstSpeed]

theorem firstSpeed_thread (timers : VirtualTimers) (start : Nat) (early : List ThreadEvent)
    (events : List Event)
    (event : ThreadEvent) :
    (behind timers start early (events ++ [.thread event])).firstSpeed =
      (behind timers start early events).firstSpeed := by
  have reached : behind timers start early (events ++ [.thread event]) =
      (threadStep event (behind timers start early events)).2 := firmware.final_concat _ _ _
  rw [reached, Program.firstSpeed, (threadStep_kept event _).2.1, Program.firstSpeed]

/-- The last reading of the clock by the main thread. -/
def lastReading (timers : VirtualTimers) (start : Nat) (early : List ThreadEvent)
    (events : List Event) : Nat :=
  ((passes (entered timers start early) events).map TimedPass.tick).getLastD
    (entered timers start early).now

theorem lastReading_thread (timers : VirtualTimers) (start : Nat) (early : List ThreadEvent)
    (events : List Event)
    (event : ThreadEvent) :
    lastReading timers start early (events ++ [.thread event]) =
      lastReading timers start early events := by
  rw [lastReading, passes, Transducer.collect_concat]
  exact congrArg (fun readings : List TimedPass => (readings.map TimedPass.tick).getLastD _)
    (List.append_nil _)

theorem lastReading_pass (timers : VirtualTimers) (start : Nat) (early : List ThreadEvent)
    (events : List Event) :
    lastReading timers start early (events ++ [.pass]) =
      (behind timers start early events).now := by
  rw [lastReading, passes, Transducer.collect_concat, List.map_append]
  exact List.getLastD_concat

/-- A pass reads the clock soon behind the last reading. -/
theorem polled_pass {limit start : Nat} {early : List ThreadEvent} {events : List Event}
    (polled : Polled limit (entered timers start early).now
      (passes (entered timers start early) (events ++ [.pass]))) :
    lastReading timers start early events ≤ (behind timers start early events).now ∧
      (behind timers start early events).now ≤ lastReading timers start early events + limit := by
  rw [passes, Transducer.collect_concat, Polled, List.map_append, ← List.cons_append,
    List.isChain_append] at polled
  refine polled.2.2 _ ?_ _ rfl
  rw [List.getLast?_cons, lastReading, List.getLastD_eq_getLast?]
  rfl

theorem polled_front {limit start : Nat} {early : List ThreadEvent} {events : List Event}
    {event : Event} (polled : Polled limit (entered timers start early).now
      (passes (entered timers start early) (events ++ [event]))) :
    Polled limit (entered timers start early).now (passes (entered timers start early) events) := by
  rw [passes, Transducer.collect_concat, Polled, List.map_append, ← List.cons_append] at polled
  exact polled.left_of_append

/-- The first motor runs at the throttle of the moment behind some events of the run, or
has not been set since the loop began.  An odd frame can have been due since, and no
other. -/
structure SetAt (timers : VirtualTimers) (limit start : Nat) (early : List ThreadEvent)
    (events : List Event) (due : Nat) (earlier : List Event) : Prop where
  earlier_prefix : earlier <+: events
  speed_eq : (behind timers start early events).firstSpeed =
      latestThrottle (framesBehind early earlier) ∨
    earlier = [] ∧ (behind timers start early events).firstSpeed = 0
  previousTime_eq : (behind timers start early events).loop.previousTime = reading due
  frameCounter_lt : (behind timers start early events).loop.frameCounter < 100
  due_le : due ≤ lastReading timers start early events
  early_reading : lastReading timers start early events < due + 10
  due_near : due ≤ (behind timers start early earlier).now +
    (behind timers start early events).loop.frameCounter % 2 * (9 + limit)

section Run

variable {limit start : Nat} {early : List ThreadEvent} {events earlier : List Event} {due : Nat}

theorem setAt_entered : ∃ due, SetAt timers limit start early [] due [] := by
  obtain ⟨loop_eq, -⟩ := entered_eq timers start early
  refine ⟨(entered timers start early).now, List.prefix_rfl, Or.inr ⟨rfl, ?_⟩,
    congrArg MainLoop.previousTime loop_eq, ?_, Nat.le_refl _,
    Nat.lt_add_of_pos_right (by decide), Nat.le_add_right _ _⟩
  · exact congrArg (fun motors : Motors => ((motorsGetSpeed 0 motors).toNat : Int))
      (motors_entered timers start early)
  · rw [show (behind timers start early []).loop = _ from loop_eq]
    exact Nat.zero_lt_succ 99

theorem SetAt.thread (set : SetAt timers limit start early events due earlier)
    (event : ThreadEvent) :
    SetAt timers limit start early (events ++ [.thread event]) due earlier := by
  obtain ⟨loop_eq, -⟩ := threadStep_kept event (behind timers start early events)
  have reached : behind timers start early (events ++ [.thread event]) =
      (threadStep event (behind timers start early events)).2 := firmware.final_concat _ _ _
  have same_loop : (behind timers start early (events ++ [.thread event])).loop =
      (behind timers start early events).loop := by rw [reached, loop_eq]
  refine ⟨set.earlier_prefix.trans (List.prefix_append _ _), ?_, ?_, ?_, ?_, ?_, ?_⟩
  · rw [firstSpeed_thread]
    exact set.speed_eq
  · rw [same_loop]
    exact set.previousTime_eq
  · rw [same_loop]
    exact set.frameCounter_lt
  · rw [lastReading_thread]
    exact set.due_le
  · rw [lastReading_thread]
    exact set.early_reading
  · rw [same_loop]
    exact set.due_near

/-- A pass that is not due reads the clock and changes nothing. -/
theorem SetAt.idle (set : SetAt timers limit start early events due earlier)
    (waits : ¬ (behind timers start early events).loop.Due
      (reading (behind timers start early events).now))
    (forward : due ≤ (behind timers start early events).now)
    (soon : (behind timers start early events).now < due + 10) :
    SetAt timers limit start early (events ++ [.pass]) due earlier := by
  have reached : behind timers start early (events ++ [.pass]) =
      (step .pass (behind timers start early events)).2 := firmware.final_concat _ _ _
  have same_loop : (behind timers start early (events ++ [.pass])).loop =
      (behind timers start early events).loop := by
    rw [reached, step_pass, mainPass, if_neg waits]
  refine ⟨set.earlier_prefix.trans (List.prefix_append _ _), ?_, ?_, ?_, ?_, ?_, ?_⟩
  · rw [firstSpeed_kept fun sets => waits sets.1]
    exact set.speed_eq
  · rw [same_loop]
    exact set.previousTime_eq
  · rw [same_loop]
    exact set.frameCounter_lt
  · rw [lastReading_pass]
    exact forward
  · rw [lastReading_pass]
    exact soon
  · rw [same_loop]
    exact set.due_near

/-- A due pass sets the motor, or did so in the frame before. -/
theorem SetAt.frame (set : SetAt timers limit start early events due earlier)
    (frame : (behind timers start early events).loop.Due
      (reading (behind timers start early events).now))
    (soon : (behind timers start early events).now ≤ due + 9 + limit) :
    ∃ earlier, SetAt timers limit start early (events ++ [.pass])
      (behind timers start early events).now earlier := by
  have reached : behind timers start early (events ++ [.pass]) =
      (step .pass (behind timers start early events)).2 := firmware.final_concat _ _ _
  have next_eq : (behind timers start early events).loop.nextFrame =
      (behind timers start early events).loop.frameCounter + 1 :=
    Nat.mod_eq_of_lt (by have := set.frameCounter_lt; omega)
  have previousTime_eq : (behind timers start early (events ++ [.pass])).loop.previousTime =
      reading (behind timers start early events).now := by
    rw [reached, step_pass, mainPass, if_pos frame]
  have frameCounter_eq : (behind timers start early (events ++ [.pass])).loop.frameCounter =
      if (behind timers start early events).loop.frameCounter + 1 ≥ 100 then 0
      else (behind timers start early events).loop.frameCounter + 1 := by
    rw [reached, step_pass, mainPass, if_pos frame, next_eq]
  have below := set.frameCounter_lt
  have counted : (behind timers start early (events ++ [.pass])).loop.frameCounter < 100 := by
    rw [frameCounter_eq]
    split <;> omega
  have read := lastReading_pass timers start early events
  have sets_iff : SetsNext (behind timers start early events) ↔
      ((behind timers start early events).loop.frameCounter + 1) % 2 = 0 := by
    rw [SetsNext, and_iff_right frame, next_eq]
  by_cases even : ((behind timers start early events).loop.frameCounter + 1) % 2 = 0
  · exact ⟨events, List.prefix_append _ _, Or.inl (firstSpeed_set (sets_iff.mpr even)),
      previousTime_eq, counted, read.ge, read.trans_lt (Nat.lt_add_of_pos_right (by decide)),
      Nat.le_add_right _ _⟩
  · have parity : (behind timers start early (events ++ [.pass])).loop.frameCounter % 2 = 1 := by
      rw [frameCounter_eq]
      split <;> omega
    have before : (behind timers start early events).loop.frameCounter % 2 = 0 := by omega
    have near := set.due_near
    rw [before, Nat.zero_mul] at near
    refine ⟨earlier, set.earlier_prefix.trans (List.prefix_append _ _), ?_, previousTime_eq,
      counted, read.ge, read.trans_lt (Nat.lt_add_of_pos_right (by decide)), ?_⟩
    · rw [firstSpeed_kept (mt sets_iff.mp even)]
      exact set.speed_eq
    · rw [parity]
      omega

theorem SetAt.pass (bounded : limit ≤ 2 ^ 32 - 10)
    (set : SetAt timers limit start early events due earlier)
    (polled : Polled limit (entered timers start early).now
      (passes (entered timers start early) (events ++ [.pass]))) :
    ∃ due earlier, SetAt timers limit start early (events ++ [.pass]) due earlier := by
  obtain ⟨forward, soon⟩ := polled_pass polled
  have behindFrame := set.due_le
  have nearFrame := set.early_reading
  have due_iff_late := due_iff set.previousTime_eq (behindFrame.trans forward) (by omega)
  by_cases frame : (behind timers start early events).loop.Due
    (reading (behind timers start early events).now)
  · obtain ⟨later, moved⟩ := set.frame frame (by omega)
    exact ⟨_, later, moved⟩
  · have waits := mt due_iff_late.mpr frame
    exact ⟨due, earlier, set.idle frame (behindFrame.trans forward) (by omega)⟩

end Run

/-- In every run whose loop reads the clock often enough, and at each moment of it, the
first motor runs at the throttle that the receiver held some moment before, or at 0 as
long as the loop has not set it; and that moment is never more than 18 ticks and the
polling limit behind the last reading of the clock. -/
theorem motor_fresh (timers : VirtualTimers) {limit : Nat} (bounded : limit ≤ 2 ^ 32 - 10)
    (start : Nat) (early : List ThreadEvent) (events : List Event)
    (polled : Polled limit (entered timers start early).now
      (passes (entered timers start early) events)) :
    ∃ earlier, earlier <+: events ∧
      ((behind timers start early events).firstSpeed =
          latestThrottle (framesBehind early earlier) ∨
        earlier = [] ∧ (behind timers start early events).firstSpeed = 0) ∧
      lastReading timers start early events ≤
        (behind timers start early earlier).now + 18 + limit := by
  have tracked : ∃ due earlier, SetAt timers limit start early events due earlier := by
    induction events using List.reverseRecOn with
    | nil =>
        obtain ⟨due, set⟩ := @setAt_entered timers limit start early
        exact ⟨due, [], set⟩
    | append_singleton events event ih =>
        obtain ⟨due, earlier, set⟩ := ih (polled_front polled)
        cases event with
        | thread event => exact ⟨due, earlier, set.thread event⟩
        | pass => exact set.pass bounded polled
  obtain ⟨due, earlier, set⟩ := tracked
  have parity := Nat.mod_lt (behind timers start early events).loop.frameCounter (by decide : 2 > 0)
  have near := set.due_near
  have late := set.early_reading
  refine ⟨earlier, set.earlier_prefix, set.speed_eq, ?_⟩
  rcases Nat.le_one_iff_eq_zero_or_eq_one.mp (Nat.le_of_lt_succ parity) with even | odd
  · rw [even, Nat.zero_mul] at near
    omega
  · rw [odd, Nat.one_mul] at near
    omega

/-- A frame with the throttle at full, then passes every ten ticks. -/
def fullThrottle : List Event :=
  (frameBytes (Vector.replicate 14 0xff)).map (.thread ∘ .spektrum) ++
    (List.range 4).flatMap fun _ => List.replicate 10 (.thread .tick) ++ [.pass]

theorem motor_fresh_fullThrottle :
    (behind countdown 0 [] fullThrottle).firstSpeed = 1023 ∧ ∃ earlier, earlier <+: fullThrottle ∧
      ((behind countdown 0 [] fullThrottle).firstSpeed = latestThrottle (framesBehind [] earlier) ∨
        earlier = [] ∧ (behind countdown 0 [] fullThrottle).firstSpeed = 0) ∧
      lastReading countdown 0 [] fullThrottle ≤ (behind countdown 0 [] earlier).now + 18 + 10 := by
  have ticks_eq : (passes (entered countdown 0 []) fullThrottle).map TimedPass.tick =
      [10, 20, 30, 40] := by
    decide +kernel
  have polled : Polled 10 (entered countdown 0 []).now
      (passes (entered countdown 0 []) fullThrottle) := by
    rw [Polled, ticks_eq]
    decide +kernel
  exact ⟨by decide +kernel, motor_fresh countdown (by decide) 0 [] fullThrottle polled⟩

/-! ## Loss of the signal -/

/-- Without bytes the frames stay the same. -/
theorem framesBehind_silent (early : List ThreadEvent) (events : List Event) {back : List Event}
    (silent : back.filterMap Event.received? = []) :
    framesBehind early (events ++ back) = framesBehind early events := by
  rw [framesBehind, List.filterMap_append, silent, List.append_nil, framesBehind]

/-- A speed that the first motor has from the latest frame stays as long as no byte comes. -/
theorem firstSpeed_held {start : Nat} {early : List ThreadEvent} {events back : List Event}
    (silent : back.filterMap Event.received? = [])
    (latest : (behind timers start early events).firstSpeed =
      latestThrottle (framesBehind early events)) :
    (behind timers start early (events ++ back)).firstSpeed =
      latestThrottle (framesBehind early events) := by
  induction back using List.reverseRecOn with
  | nil => rwa [List.append_nil]
  | append_singleton back event ih =>
      rw [List.filterMap_append, List.append_eq_nil_iff] at silent
      have before := ih silent.1
      rw [← List.append_assoc]
      cases event with
      | thread event => rw [firstSpeed_thread, before]
      | pass =>
          by_cases sets : SetsNext (behind timers start early (events ++ back))
          · rw [firstSpeed_set sets, framesBehind_silent early events silent.1]
          · rw [firstSpeed_kept sets, before]

/-- When the receiver falls silent nothing happens.  Behind every silence the accessor
returns the throttle of the last frame, and if a pass of the silence has set the motor, the
motor runs at this throttle from there on. -/
theorem signal_loss_unnoticed (timers : VirtualTimers) (start : Nat) (early : List ThreadEvent)
    {front silence : List Event} (silent : silence.filterMap Event.received? = []) :
    let program := behind timers start early (front ++ silence)
    getSpektrumData throttleChannel program.rx = latestThrottle (framesBehind early front) ∧
      ∀ middle back, silence = middle ++ .pass :: back →
        SetsNext (behind timers start early (front ++ middle)) →
          program.firstSpeed = latestThrottle (framesBehind early front) := by
  intro program
  refine ⟨?_, ?_⟩
  · rw [getSpektrumData_behind, framesBehind_silent early front silent]
  · rintro middle back rfl sets
    rw [List.filterMap_append, List.append_eq_nil_iff] at silent
    have same := framesBehind_silent early front silent.1
    have passed : framesBehind early (front ++ middle ++ [.pass]) =
        framesBehind early (front ++ middle) := framesBehind_silent early _ rfl
    have latest := firstSpeed_set sets
    rw [← passed] at latest
    have held := firstSpeed_held (show back.filterMap Event.received? = [] from silent.2) latest
    rw [passed, same] at held
    rwa [List.append_assoc, List.append_assoc] at held

/-- Two silent frames behind full throttle, and a second more. -/
theorem signal_loss_unnoticed_second :
    let frame : List Event := List.replicate 10 (.thread .tick)
    let silence := (frame ++ .pass :: frame) ++ .pass :: steadySecond
    (behind countdown 0 [] (fullThrottle ++ silence)).firstSpeed = 1023 := by
  intro frame silence
  have latest : latestThrottle (framesBehind [] fullThrottle) = 1023 :=
    (getSpektrumData_behind countdown 0 [] fullThrottle).symm.trans (by decide +kernel)
  have silent : silence.filterMap Event.received? = [] := by decide +kernel
  have sets : SetsNext (behind countdown 0 [] (fullThrottle ++ (frame ++ .pass :: frame))) := by
    decide +kernel
  exact ((signal_loss_unnoticed countdown 0 [] silent).2 _ _ rfl sets).trans latest

end ChibiCopter.Firmware
