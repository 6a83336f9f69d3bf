import ChibiCopter.Firmware.Program
import ChibiCopter.Flight.Schedule
import ChibiCopter.Library.Interleaving

/-!
# What the steps of the program change

Every step changes the globals of its own thread.  A pass of the loop changes the loop
variables, the motors and, when it sends a heartbeat, the lamp and the timer that belong
to it.  The messages of a pass are those of its calls, made from the link counters and
the system record that the pass finds.
-/

namespace ChibiCopter.Firmware

open Clock Comms Flight

variable {timers : VirtualTimers}

/-! ## Threads -/

theorem tick_eq (program : Program timers) :
    ∃ vt1 led4, tick program =
      { program with now := program.now + 1, vt1 := vt1, leds.led4 := led4 } := by
  unfold tick
  by_cases called : (timers.tick program.vt1).1 = true
  · simp only [if_pos called]
    exact ⟨_, _, rfl⟩
  · simp only [if_neg called]
    exact ⟨_, _, rfl⟩

theorem gps_eq (c : UInt8) (program : Program timers) :
    ∃ globals led5, gps c program = { program with gps := globals, leds.led5 := led5 } := by
  unfold gps
  by_cases valid : (Gps.gpsParseChar c program.gps).1.valid ≠ 0
  · simp only [if_pos valid]
    exact ⟨_, _, rfl⟩
  · simp only [if_neg valid]
    exact ⟨_, _, rfl⟩

theorem blink_eq (program : Program timers) :
    ∃ led3 led6 stage, blink program =
      { program with leds.led3 := led3, leds.led6 := led6, blinkStage := stage } := by
  unfold blink
  cases program.blinkStage with
  | led3Cleared | led6Set | led6Cleared | led3Set => exact ⟨_, _, _, rfl⟩

/-- No thread touches what belongs to the main loop. -/
theorem threadStep_kept (event : ThreadEvent) (program : Program timers) :
    (threadStep event program).2.loop = program.loop ∧
      (threadStep event program).2.motors = program.motors ∧
      (threadStep event program).2.mavlinkSystem = program.mavlinkSystem := by
  cases event with
  | tick =>
      obtain ⟨vt1, led4, step_eq⟩ := tick_eq program
      rw [threadStep, step_eq]
      exact ⟨rfl, rfl, rfl⟩
  | spektrum c => exact ⟨rfl, rfl, rfl⟩
  | gps c =>
      obtain ⟨globals, led5, step_eq⟩ := gps_eq c program
      rw [threadStep, step_eq]
      exact ⟨rfl, rfl, rfl⟩
  | comms parsed => exact ⟨rfl, rfl, rfl⟩
  | blink =>
      obtain ⟨led3, led6, stage, step_eq⟩ := blink_eq program
      rw [threadStep, step_eq]
      exact ⟨rfl, rfl, rfl⟩

/-! ## Passes -/

/-- The message of a call, given the link counters and the system record. -/
def messagesOf (link : Link) (system : MavlinkSystem) : MainCall → List Message
  | .gyroRead | .accelRead | .motorsSetSpeed _ _ => []
  | .commsSendAttitude timeBootMs => [.attitude timeBootMs]
  | .commsSendGPSRaw timeUsec fixType lat lon alt eph epv vel cog satellitesVisible =>
      [.gpsRawInt timeUsec fixType lat lon alt eph epv vel cog satellitesVisible]
  | .commsSendSysStatus => [.sysStatus (commsSendSysStatus link)]
  | .commsSendHeartbeat =>
      [.heartbeat system.type system.navMode system.mode 0 system.state]

theorem perform_messages (call : MainCall) (program : Program timers) :
    (perform call program).1 = messagesOf program.link program.mavlinkSystem call := by
  cases call <;> rfl

def Output.message? : Output → Option Message
  | .message sent => some sent
  | .character _ => none

/-- The messages among some outputs. -/
def reported (outputs : List Output) : List Message := outputs.filterMap Output.message?

theorem reported_messages (messages : List Message) :
    reported (messages.map .message) = messages := by
  rw [reported, List.filterMap_map]
  exact List.filterMap_some

/-- The timer of the lamp behind a heartbeat. -/
def restarted (vt1 : timers.VirtualTimer) : timers.VirtualTimer :=
  timers.chVTSetI (if timers.chVTIsArmedI vt1 then timers.chVTResetI vt1 else vt1) heartbeatTime

/-- The timer of the lamp behind some calls. -/
def runOnTimer (calls : List MainCall) (vt1 : timers.VirtualTimer) : timers.VirtualTimer :=
  calls.foldl (fun vt1 call => if call = .commsSendHeartbeat then restarted vt1 else vt1) vt1

/-- The program behind some calls: the motors have seen them, and a heartbeat among them
has lit its lamp and set its timer. -/
def called (calls : List MainCall) (program : Program timers) : Program timers :=
  { program with
    motors := runOnMotors calls program.motors
    leds.led4 := if .commsSendHeartbeat ∈ calls then true else program.leds.led4
    vt1 := runOnTimer calls program.vt1 }

theorem perform_eq (call : MainCall) (program : Program timers) :
    (perform call program).2 = called [call] program := by
  cases call <;> rfl

theorem called_append (front back : List MainCall) (program : Program timers) :
    called back (called front program) = called (front ++ back) program := by
  have motors_eq : runOnMotors back (runOnMotors front program.motors) =
      runOnMotors (front ++ back) program.motors := List.foldl_append.symm
  have timer_eq : runOnTimer back (runOnTimer front program.vt1) =
      runOnTimer (front ++ back) program.vt1 := List.foldl_append.symm
  simp only [called, motors_eq, timer_eq, List.mem_append]
  by_cases inBack : MainCall.commsSendHeartbeat ∈ back
  · simp only [inBack, or_true, if_true]
  · simp only [inBack, or_false, if_false]

theorem mainCalls_eq (calls : List MainCall) (program : Program timers) :
    mainCalls.final program calls = called calls program ∧
      mainCalls.outputs program calls =
        calls.map (messagesOf program.link program.mavlinkSystem) := by
  induction calls generalizing program with
  | nil => exact ⟨rfl, rfl⟩
  | cons call calls ih =>
      obtain ⟨final_eq, outputs_eq⟩ := ih (called [call] program)
      have step_eq : mainCalls.step call program =
          (messagesOf program.link program.mavlinkSystem call, called [call] program) :=
        Prod.ext (perform_messages call program) (perform_eq call program)
      rw [Transducer.final_cons, Transducer.outputs_cons, step_eq, final_eq, outputs_eq,
        called_append, List.map_cons]
      exact ⟨rfl, rfl⟩

/-- The calls of the pass that a program is about to make. -/
def nextCalls (program : Program timers) : List MainCall :=
  (mainPass (reading program.now) program.rx program.loop).1

theorem nextCalls_groups (program : Program timers) :
    nextCalls program =
      ((program.loop.groups ⟨reading program.now, program.rx⟩).getD []).flatMap fun divisor =>
        taskGroup divisor (reading program.now) program.loop.startTime program.rx :=
  mainPass_groups ⟨reading program.now, program.rx⟩ program.loop

theorem pass_eq (program : Program timers) :
    pass program =
      ((nextCalls program).flatMap (messagesOf program.link program.mavlinkSystem),
        { called (nextCalls program) program with
          loop := (mainPass (reading program.now) program.rx program.loop).2 }) := by
  obtain ⟨final_eq, outputs_eq⟩ := mainCalls_eq (nextCalls program) program
  rw [List.flatMap_def, ← outputs_eq, ← final_eq]
  rfl

/-- The messages that a step sends: only passes send any. -/
theorem reported_thread (event : ThreadEvent) (program : Program timers) :
    reported (step (.thread event) program).1 = [] := by
  cases event <;> rfl

theorem reported_pass (program : Program timers) :
    reported (step .pass program).1 =
      (nextCalls program).flatMap (messagesOf program.link program.mavlinkSystem) := by
  change reported ((pass program).1.map .message) = _
  rw [reported_messages, pass_eq]

theorem step_pass (program : Program timers) :
    (step .pass program).2 =
      { called (nextCalls program) program with
        loop := (mainPass (reading program.now) program.rx program.loop).2 } := by
  change (pass program).2 = _
  rw [pass_eq]

/-- The messages that the loop sends in a run. -/
def telemetry (timers : VirtualTimers) (start : Nat) (early : List ThreadEvent)
    (events : List Event) : List Message :=
  (firmware.outputs (entered timers start early) events).flatMap reported

/-- A message of a run is sent in one of its steps. -/
theorem mem_telemetry_iff {start : Nat} {early : List ThreadEvent} {events : List Event}
    {message : Message} :
    message ∈ telemetry timers start early events ↔
      ∃ front event back, events = front ++ event :: back ∧
        message ∈ reported (step event (behind timers start early front)).1 := by
  rw [telemetry, Transducer.flatMap_outputs_eq_collect]
  exact firmware.mem_collect_iff

/-! ## The part of a thread -/

/-- The message of a step, for a thread that some steps give messages to. -/
def Event.select {δ : Type} (select : ThreadEvent → Option δ) : Event → Option δ
  | .thread event => select event
  | .pass => none

/-- A part of the program that the messages of one thread drive, and nothing else. -/
structure ThreadPart {τ δ ε : Type} (component : Transducer τ δ ε) (part : Program timers → τ)
    (select : ThreadEvent → Option δ) : Prop where
  driven : ∀ event program,
    part (threadStep event program).2 = component.final (part program) (select event).toList
  passed : ∀ program, part (step .pass program).2 = part program
  carried : ∀ program, part (enterLoop program) = part program

section Part

variable {τ δ ε : Type} {component : Transducer τ δ ε} {part : Program timers → τ}
  {select : ThreadEvent → Option δ}

/-- In every run the part is where the messages of its thread lead, from the creation of
the thread on. -/
theorem ThreadPart.behind_eq (threadPart : ThreadPart component part select) (start : Nat)
    (early : List ThreadEvent) (events : List Event) :
    part (behind timers start early events) = component.final (part (initialise timers start).2)
      (early.filterMap select ++ events.filterMap (Event.select select)) := by
  have handled (event : ThreadEvent) (program : Program timers) {chosen : Option δ}
      (selected : select event = chosen) :
      part (threadStep event program).2 = component.final (part program) chosen.toList :=
    selected ▸ threadPart.driven event program
  have before : part (entered timers start early) =
      component.final (part (initialise timers start).2) (early.filterMap select) :=
    (threadPart.carried _).trans
      (threads.final_component component part select
        (fun event _ program chosen => handled event program chosen)
        (fun event program chosen => handled event program chosen) _ early)
  rw [component.final_append, ← before]
  refine firmware.final_component component part (Event.select select)
    (fun event message program chosen => ?_) (fun event program chosen => ?_) _ events
  · cases event with
    | thread event => exact handled event program chosen
    | pass => cases chosen
  · cases event with
    | thread event => exact handled event program chosen
    | pass => exact threadPart.passed program

end Part

/-- What holds when the threads exist, and what no step and no entry into the loop breaks,
holds in every run. -/
theorem behind_invariant {invariant : Program timers → Prop} {start : Nat}
    (created : invariant (initialise timers start).2)
    (thread : ∀ event program, invariant program → invariant (threadStep event program).2)
    (enter : ∀ program, invariant program → invariant (enterLoop program))
    (passed : ∀ program, invariant program → invariant (step .pass program).2)
    (early : List ThreadEvent) (events : List Event) :
    invariant (behind timers start early events) := by
  refine firmware.final_invariant invariant (fun event program holds => ?_)
    (enter _ (threads.final_invariant invariant thread created early)) events
  cases event with
  | thread event => exact thread event program holds
  | pass => exact passed program holds

end ChibiCopter.Firmware
