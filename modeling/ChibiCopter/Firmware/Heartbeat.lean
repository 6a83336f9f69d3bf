import ChibiCopter.Firmware.Steps
import ChibiCopter.Flight.Rates

/-!
# Heartbeats and their lamp

`CommsSendHeartbeat` lights the green lamp and sets a timer that puts it out after 500
ticks.  In every run the lamp is lit exactly while the latest heartbeat is younger than
that.  The loop sends a heartbeat in every hundredth due frame, so that a loop that reads
the clock often enough finds the timer expired at each of them.
-/

namespace ChibiCopter.Firmware

open Clock Comms Flight

variable {timers : VirtualTimers}

/-! ## The passes of a run -/

/-- The readings that a step gives to the main loop. -/
def timedPasses : Event → Program timers → List TimedPass
  | .pass, program => [⟨program.now, program.rx⟩]
  | .thread _, _ => []

/-- The readings of a run. -/
def passes (program : Program timers) (events : List Event) : List TimedPass :=
  firmware.collect timedPasses program events

/-- The main loop of the program is the scheduler on the readings of the run. -/
theorem drives_timedScheduler :
    firmware.Drives timedScheduler (@Program.loop timers) timedPasses where
  step_eq event program := by
    cases event with
    | thread event => exact (threadStep_kept event program).1
    | pass => exact congrArg Program.loop (step_pass program)

theorem loop_step (event : Event) (program : Program timers) :
    (step event program).2.loop =
      timedScheduler.final program.loop (timedPasses event program) :=
  drives_timedScheduler.step_eq event program

/-! ## Heartbeats -/

def Message.isHeartbeat : Message → Bool
  | .heartbeat .. => true
  | .sysStatus _ | .attitude _ | .gpsRawInt .. => false

/-- The heartbeat of a program with some system record. -/
def heartbeatOf (system : MavlinkSystem) : Message :=
  .heartbeat system.type system.navMode system.mode 0 system.state

/-- The heartbeats that a step sends, each with its tick. -/
def heartbeatsOf (event : Event) (program : Program timers) : List (Nat × Message) :=
  ((reported (step event program).1).filter Message.isHeartbeat).map fun sent =>
    (program.now, sent)

/-- The heartbeats of a run. -/
def heartbeats (program : Program timers) (events : List Event) : List (Nat × Message) :=
  firmware.collect heartbeatsOf program events

theorem heartbeats_mainTasks (frameCounter : Nat) (currentTime startTime : UInt32)
    (rx : Spektrum.Receiver) (link : Link) (system : MavlinkSystem) :
    ((mainTasks frameCounter currentTime startTime rx).flatMap (messagesOf link system)).filter
        Message.isHeartbeat =
      if frameCounter % 100 = 0 then [heartbeatOf system] else [] := by
  rw [List.filter_flatMap, flatMap_mainTasks]
  simp only [messagesOf, Message.isHeartbeat, List.filter_nil, List.filter_cons_of_neg,
    Bool.false_eq_true, not_false_eq_true, List.append_nil, List.nil_append, ite_self]
  rfl

/-- Whether the next pass sends a heartbeat. -/
def BeatsNext (program : Program timers) : Prop :=
  program.loop.Due (reading program.now) ∧ program.loop.nextFrame % 100 = 0

instance (program : Program timers) : Decidable (BeatsNext program) :=
  inferInstanceAs (Decidable (_ ∧ _))

/-- A call of the group of one per second is made exactly with the heartbeats. -/
theorem mem_nextCalls_iff {call : MainCall}
    (hundredth : call = .commsSendSysStatus ∨ call = .commsSendHeartbeat)
    (program : Program timers) : call ∈ nextCalls program ↔ BeatsNext program := by
  rw [nextCalls, mainPass, BeatsNext]
  by_cases due : program.loop.Due (reading program.now)
  · rw [if_pos due, mem_mainTasks_hundredth hundredth, and_iff_right due]
  · rw [if_neg due]
    exact ⟨fun sent => absurd sent List.not_mem_nil, fun beats => absurd beats.1 due⟩

theorem heartbeat_mem_iff (program : Program timers) :
    .commsSendHeartbeat ∈ nextCalls program ↔ BeatsNext program :=
  mem_nextCalls_iff (.inr rfl) program

theorem heartbeatsOf_pass (program : Program timers) :
    heartbeatsOf .pass program =
      if BeatsNext program then [(program.now, heartbeatOf program.mavlinkSystem)] else [] := by
  rw [heartbeatsOf, reported_pass, nextCalls, mainPass]
  by_cases due : program.loop.Due (reading program.now)
  · rw [if_pos due, heartbeats_mainTasks]
    by_cases frame : program.loop.nextFrame % 100 = 0
    · rw [if_pos frame, if_pos ⟨due, frame⟩]
      rfl
    · rw [if_neg frame, if_neg fun beats => frame beats.2]
      rfl
  · rw [if_neg due, if_neg fun beats => due beats.1]
    rfl

theorem heartbeatsOf_thread (event : ThreadEvent) (program : Program timers) :
    heartbeatsOf (.thread event) program = [] := by
  rw [heartbeatsOf, reported_thread]
  rfl

theorem mavlinkSystem_step (event : Event) (program : Program timers) :
    (step event program).2.mavlinkSystem = program.mavlinkSystem := by
  cases event with
  | thread event => exact (threadStep_kept event program).2.2
  | pass =>
      rw [step_pass]
      rfl

/-- The loop sends its heartbeats with the task group of one per second, and they all say
the same. -/
theorem heartbeats_eq (program : Program timers) (events : List Event) :
    heartbeats program events =
      (groupTicks 100 program.loop (passes program events)).map fun tick =>
        (tick, heartbeatOf program.mavlinkSystem) := by
  induction events generalizing program with
  | nil => rfl
  | cons event events ih =>
      have rest := ih (step event program).2
      rw [mavlinkSystem_step, loop_step] at rest
      rw [heartbeats, Transducer.collect_cons, passes, Transducer.collect_cons]
      cases event with
      | thread event =>
          rw [heartbeatsOf_thread]
          exact rest
      | pass =>
          rw [heartbeatsOf_pass, groupTicks, timedPasses, List.singleton_append,
            Transducer.collect_cons, List.map_append]
          refine congrArg₂ (· ++ ·) ?_ rest
          change _ = (if BeatsNext program then [program.now] else []).map _
          split <;> rfl

/-! ## The lamp -/

theorem runOnTimer_silent {calls : List MainCall} (silent : .commsSendHeartbeat ∉ calls)
    (vt1 : timers.VirtualTimer) : runOnTimer calls vt1 = vt1 := by
  induction calls with
  | nil => rfl
  | cons call calls ih =>
      obtain ⟨other, rest⟩ := not_or.mp (mt List.mem_cons.mpr silent)
      exact (congrArg (runOnTimer calls) (if_neg (Ne.symm other))).trans (ih rest)

/-- A heartbeat gives the timer its full time. -/
theorem runOnTimer_expires (documented : timers.Documented) {calls : List MainCall}
    (sent : .commsSendHeartbeat ∈ calls) (vt1 : timers.VirtualTimer) :
    timers.Expires heartbeatTime (runOnTimer calls vt1) := by
  induction calls generalizing vt1 with
  | nil => cases sent
  | cons call calls ih =>
      by_cases inRest : .commsSendHeartbeat ∈ calls
      · exact ih inRest _
      · have first : call = .commsSendHeartbeat :=
          ((List.mem_cons.mp sent).resolve_right inRest).symm
        have restarts : runOnTimer (call :: calls) vt1 = restarted vt1 :=
          (congrArg (runOnTimer calls) (if_pos first)).trans (runOnTimer_silent inRest _)
        rw [restarts]
        exact documented.reset_set vt1 (by decide)

/-- The lamp is lit, and its timer armed, until the heartbeat at some tick is 500 ticks
old. -/
structure Lamp (last : Nat) (program : Program timers) : Prop where
  ordered : last ≤ program.now
  led4_eq : program.leds.led4 = decide (program.now < last + 500)
  expires : timers.Expires (last + 500 - program.now) program.vt1

theorem Lamp.tick {last : Nat} {program : Program timers} (lamp : Lamp last program) :
    Lamp last (tick program) := by
  obtain ⟨ordered, led4_eq, expires⟩ := lamp
  have called := expires.called
  have left : timers.Expires (last + 500 - (program.now + 1)) (timers.tick program.vt1).2 :=
    Nat.sub_sub (last + 500) program.now 1 ▸ expires.tick
  unfold Firmware.tick
  by_cases final : last + 500 - program.now = 1
  · have dark : ¬ program.now + 1 < last + 500 := by omega
    simp only [called, decide_eq_true final, if_true]
    exact ⟨Nat.le_succ_of_le ordered, (decide_eq_false dark).symm, left⟩
  · have same : program.now < last + 500 ↔ program.now + 1 < last + 500 := by omega
    simp only [called, decide_eq_false final, Bool.false_eq_true, if_false]
    exact ⟨Nat.le_succ_of_le ordered, led4_eq.trans (decide_eq_decide.mpr same), left⟩

theorem Lamp.threadStep {last : Nat} {program : Program timers} (lamp : Lamp last program)
    (event : ThreadEvent) : Lamp last (threadStep event program).2 := by
  obtain ⟨ordered, led4_eq, expires⟩ := lamp
  cases event with
  | tick => exact Lamp.tick ⟨ordered, led4_eq, expires⟩
  | spektrum c => exact ⟨ordered, led4_eq, expires⟩
  | gps c =>
      obtain ⟨globals, led5, step_eq⟩ := gps_eq c program
      rw [Firmware.threadStep, step_eq]
      exact ⟨ordered, led4_eq, expires⟩
  | comms parsed => exact ⟨ordered, led4_eq, expires⟩
  | blink =>
      obtain ⟨led3, led6, stage, step_eq⟩ := blink_eq program
      rw [Firmware.threadStep, step_eq]
      exact ⟨ordered, led4_eq, expires⟩

/-- The tick of the last of some heartbeats, and that of power-on before. -/
def lastBeat (start : Nat) (beats : List (Nat × Message)) : Nat :=
  (beats.map Prod.fst).getLastD start

theorem Lamp.step {start : Nat} {beats : List (Nat × Message)} {program : Program timers}
    (lamp : Lamp (lastBeat start beats) program) (documented : timers.Documented)
    (event : Event) :
    Lamp (lastBeat start (beats ++ heartbeatsOf event program)) (step event program).2 := by
  cases event with
  | thread event =>
      rw [heartbeatsOf_thread, List.append_nil]
      exact lamp.threadStep event
  | pass =>
      rw [heartbeatsOf_pass, step_pass]
      by_cases beats : BeatsNext program
      · have sent := (heartbeat_mem_iff program).mpr beats
        rw [if_pos beats, lastBeat, List.map_append, List.map_singleton, List.getLastD_concat]
        have lit : program.now < program.now + 500 := by omega
        refine ⟨Nat.le_refl program.now, (if_pos sent).trans (decide_eq_true lit).symm, ?_⟩
        exact (Nat.add_sub_cancel_left program.now 500).symm ▸
          runOnTimer_expires documented sent program.vt1
      · have silent := mt (heartbeat_mem_iff program).mp beats
        rw [if_neg beats, List.append_nil]
        refine ⟨lamp.ordered, (if_neg silent).trans lamp.led4_eq, ?_⟩
        change timers.Expires _ (runOnTimer (nextCalls program) program.vt1)
        rw [runOnTimer_silent silent]
        exact lamp.expires

theorem lamp_entered (documented : timers.Documented) (start : Nat)
    (early : List ThreadEvent) :
    Lamp start (entered timers start early) := by
  have lamp : Lamp start (threads.final (initialise timers start).2 early) := by
    refine threads.final_invariant (Lamp start) (fun event program lamp => lamp.threadStep event)
      ?_ early
    have lit : start < start + 500 := by omega
    refine ⟨Nat.le_refl start, (decide_eq_true lit).symm, ?_⟩
    exact (Nat.add_sub_cancel_left start 500).symm ▸
      documented.reset_set timers.unset (by decide)
  exact ⟨lamp.ordered, lamp.led4_eq, lamp.expires⟩

theorem lamp_behind (documented : timers.Documented) (start : Nat) (early : List ThreadEvent)
    (events : List Event) :
    Lamp (lastBeat start (heartbeats (entered timers start early) events))
      (behind timers start early events) := by
  refine firmware.final_history (fun events program =>
    Lamp (lastBeat start (heartbeats (entered timers start early) events)) program)
    (lamp_entered documented start early) (fun events event lamp => ?_) events
  rw [heartbeats, Transducer.collect_concat]
  exact lamp.step documented event

/-- With timers that do what their documentation says, from power-on through every
interleaving of ticks, bytes and passes, the green lamp is lit exactly while the latest
heartbeat is younger than 500 ticks.  Its timer, left alone, is armed exactly as long, and
calls its function at the tick at which the heartbeat gets this old and at no other. -/
theorem lamp_follows_heartbeats (documented : timers.Documented) (start : Nat)
    (early : List ThreadEvent) (events : List Event) :
    let program := behind timers start early events
    let last := lastBeat start (heartbeats (entered timers start early) events)
    last ≤ program.now ∧
      (program.leds.led4 = true ↔ program.now < last + 500) ∧
      ∀ ticks,
        (timers.chVTIsArmedI (timers.ticked program.vt1 ticks) = true ↔
          program.now + ticks < last + 500) ∧
        ((timers.tick (timers.ticked program.vt1 ticks)).1 = true ↔
          program.now + ticks + 1 = last + 500) := by
  intro program last
  obtain ⟨ordered, led4_eq, expires⟩ : Lamp last program :=
    lamp_behind documented start early events
  refine ⟨ordered, by rw [led4_eq, decide_eq_true_iff], fun ticks => ⟨?_, ?_⟩⟩
  · exact (expires.armed_iff ticks).trans (by omega)
  · exact (expires.called_iff ticks).trans (by omega)

/-- The first ticks behind power-on. -/
def firstTicks : List Event := List.replicate 40 (.thread .tick)

theorem lamp_follows_heartbeats_start :
    let program := behind countdown 0 [] firstTicks
    program.leds.led4 = true ∧
      ∀ ticks, (countdown.tick (countdown.ticked program.vt1 ticks)).1 = true ↔ ticks = 459 := by
  have now_eq : (behind countdown 0 [] firstTicks).now = 40 := by decide +kernel
  have last_eq : lastBeat 0 (heartbeats (entered countdown 0 []) firstTicks) = 0 := by
    decide +kernel
  obtain ⟨-, lit, left⟩ := lamp_follows_heartbeats countdown_documented 0 [] firstTicks
  rw [now_eq, last_eq] at lit
  rw [now_eq, last_eq] at left
  exact ⟨lit.mpr (by decide), fun ticks => (left ticks).2.trans (by omega)⟩

/-! ## The rate of the heartbeats -/

/-- What `main` leaves to its loop, whatever the threads did before. -/
theorem entered_eq (timers : VirtualTimers) (start : Nat) (early : List ThreadEvent) :
    (entered timers start early).loop =
        ⟨reading start, reading (entered timers start early).now, 0⟩ ∧
      (entered timers start early).mavlinkSystem =
        ⟨1, .compIdImu, .typeQuadrotor, .modeStabilizeDisarmed, .stateStandby,
          .autopilotInvalid⟩ := by
  have kept : (threads.final (initialise timers start).2 early).loop =
        (initialise timers start).2.loop ∧
      (threads.final (initialise timers start).2 early).mavlinkSystem =
        (initialise timers start).2.mavlinkSystem := by
    refine threads.final_invariant
      (fun program => program.loop = (initialise timers start).2.loop ∧
        program.mavlinkSystem = (initialise timers start).2.mavlinkSystem)
      (fun event program same => ?_) ⟨rfl, rfl⟩ early
    obtain ⟨loop_eq, -, system_eq⟩ := threadStep_kept event program
    exact ⟨loop_eq.trans same.1, system_eq.trans same.2⟩
  constructor
  · exact congrArg (fun loop : MainLoop =>
      { loop with previousTime := reading (entered timers start early).now }) kept.1
  · exact congrArg (fun system : MavlinkSystem =>
      { system with state := .stateStandby, mode := .modeStabilizeDisarmed }) kept.2

section Regular

variable {limit start : Nat} {early : List ThreadEvent}

theorem heartbeats_entered (events : List Event) :
    heartbeats (entered timers start early) events =
      (groupTicks 100 ⟨reading start, reading (entered timers start early).now, 0⟩
        (passes (entered timers start early) events)).map fun tick =>
          (tick, .heartbeat .typeQuadrotor .autopilotInvalid .modeStabilizeDisarmed 0
            .stateStandby) := by
  obtain ⟨loop_eq, system_eq⟩ := entered_eq timers start early
  rw [heartbeats_eq, loop_eq, system_eq]
  rfl

theorem isChain_heartbeats (bounded : limit ≤ 2 ^ 32 - 10) {events : List Event}
    (polled : Polled limit (entered timers start early).now
      (passes (entered timers start early) events)) :
    ((entered timers start early).now ::
      (heartbeats (entered timers start early) events).map Prod.fst).IsChain
        fun earlier later => earlier + 1000 ≤ later ∧ later ≤ earlier + 100 * (9 + limit) := by
  have ticks_eq : (heartbeats (entered timers start early) events).map Prod.fst =
      groupTicks 100 ⟨reading start, reading (entered timers start early).now, 0⟩
        (passes (entered timers start early) events) := by
    rw [heartbeats_entered, List.map_map]
    exact List.map_id _
  rw [ticks_eq]
  exact isChain_groupTicks bounded polled (reading start) (by decide : 100 ∈ divisors)

/-- A heartbeat comes at least 1000 ticks behind the last one. -/
theorem gap_of_beatsNext (bounded : limit ≤ 2 ^ 32 - 10) {front back : List Event}
    (polled : Polled limit (entered timers start early).now
      (passes (entered timers start early) (front ++ .pass :: back)))
    (beats : BeatsNext (behind timers start early front))
    (ordered : start ≤ (entered timers start early).now) :
    lastBeat start (heartbeats (entered timers start early) front) + 1000 ≤
      (behind timers start early front).now := by
  have chain := isChain_heartbeats bounded polled
  have split : heartbeats (entered timers start early) (front ++ .pass :: back) =
      heartbeats (entered timers start early) front ++
        ((behind timers start early front).now,
          heartbeatOf (behind timers start early front).mavlinkSystem) ::
            firmware.collect heartbeatsOf (step .pass (behind timers start early front)).2
              back := by
    have at_pass := heartbeatsOf_pass (behind timers start early front)
    rw [if_pos beats] at at_pass
    have collected := firmware.collect_append heartbeatsOf (entered timers start early) front
      (.pass :: back)
    rw [Transducer.collect_cons] at collected
    exact collected.trans (congrArg (fun own => _ ++ (own ++ _)) at_pass)
  rw [split, List.map_append, List.map_cons, ← List.cons_append, List.isChain_append] at chain
  have gap := (chain.2.2 _ (List.getLast?_cons.trans rfl) _ rfl).1
  have last_le : lastBeat start (heartbeats (entered timers start early) front) ≤
      ((heartbeats (entered timers start early) front).map Prod.fst).getLast?.getD
        (entered timers start early).now := by
    rw [lastBeat, List.getLastD_eq_getLast?]
    cases ((heartbeats (entered timers start early) front).map Prod.fst).getLast? with
    | none => exact ordered
    | some last => exact Nat.le_refl last
  omega

end Regular

/-- In every run whose loop reads the clock often enough, the loop sends its heartbeats
at least 1000 ticks apart and behind its start, and they all report a standby and disarmed
system, whatever the motors do.  With timers that do what their documentation says, each
heartbeat finds the lamp dark and its timer not armed. -/
theorem heartbeats_regular (timers : VirtualTimers) {limit : Nat}
    (bounded : limit ≤ 2 ^ 32 - 10) (start : Nat) (early : List ThreadEvent)
    (events : List Event)
    (polled : Polled limit (entered timers start early).now
      (passes (entered timers start early) events)) :
    let beats := heartbeats (entered timers start early) events
    (((entered timers start early).now :: beats.map Prod.fst).IsChain fun earlier later =>
      earlier + 1000 ≤ later ∧ later ≤ earlier + 100 * (9 + limit)) ∧
    (∀ beat ∈ beats, beat.2 =
      .heartbeat .typeQuadrotor .autopilotInvalid .modeStabilizeDisarmed 0 .stateStandby) ∧
    (timers.Documented → ∀ front back, events = front ++ .pass :: back →
      BeatsNext (behind timers start early front) →
        (behind timers start early front).leds.led4 = false ∧
          timers.chVTIsArmedI (behind timers start early front).vt1 = false) := by
  intro beats
  refine ⟨isChain_heartbeats bounded polled, fun beat member => ?_, ?_⟩
  · rw [show beats = _ from heartbeats_entered events] at member
    obtain ⟨tick, -, rfl⟩ := List.mem_map.mp member
    rfl
  · rintro documented front back rfl sent
    obtain ⟨-, led4_eq, expires⟩ := lamp_behind documented start early front
    have gap := gap_of_beatsNext bounded polled sent (lamp_entered documented start early).ordered
    exact ⟨led4_eq.trans (decide_eq_false (by omega)),
      expires.isArmed.trans (decide_eq_false (by omega))⟩

/-- A second of passes every ten ticks. -/
def steadySecond : List Event :=
  (List.range 100).flatMap fun _ => List.replicate 10 (.thread .tick) ++ [.pass]

theorem polled_steadySecond : Polled 10 (entered countdown 0 []).now
    (passes (entered countdown 0 []) steadySecond) := by
  have ticks_eq : (passes (entered countdown 0 []) steadySecond).map TimedPass.tick =
      (List.range 100).map fun frame => 10 * (frame + 1) := by
    decide +kernel
  rw [Polled, ticks_eq]
  decide +kernel

theorem heartbeats_regular_steady :
    let beats := heartbeats (entered countdown 0 []) steadySecond
    beats = [(1000, .heartbeat .typeQuadrotor .autopilotInvalid .modeStabilizeDisarmed 0
        .stateStandby)] ∧
      ((entered countdown 0 []).now :: beats.map Prod.fst).IsChain
        fun earlier later => earlier + 1000 ≤ later ∧ later ≤ earlier + 100 * (9 + 10) :=
  ⟨by decide +kernel,
    (heartbeats_regular countdown (by decide) 0 [] steadySecond polled_steadySecond).1⟩

end ChibiCopter.Firmware
