import ChibiCopter.Comms.Telemetry
import ChibiCopter.Comms.Triangle
import ChibiCopter.Firmware.Heartbeat

/-!
# When the system status is defined

The system status divides by the success counter.  With a library that counts the
messages, the division is undefined before the first of them and at no other time.  The
first status is sent no earlier than 1000 ticks behind the start of the loop: a ground
station that is heard by then keeps the division defined for good.
-/

namespace ChibiCopter.Firmware

open Clock Comms Flight

variable {timers : VirtualTimers}

/-! ## The link counters of the program -/

/-- The Comms thread on its own. -/
def linker : Transducer Link ParseResult Unit := ⟨fun parsed link => ((), comms parsed link)⟩

theorem final_linker (link : Link) (results : List ParseResult) :
    linker.final link results = results.foldl (fun link parsed => comms parsed link) link := by
  induction results generalizing link with
  | nil => rfl
  | cons parsed results ih => exact ih (comms parsed link)

/-- The library's answer that a step gives to the Comms thread. -/
def ThreadEvent.parsed? : ThreadEvent → Option ParseResult
  | .comms parsed => some parsed
  | .tick | .spektrum _ | .gps _ | .blink => none

def Event.parsed? : Event → Option ParseResult := Event.select ThreadEvent.parsed?

/-- The library's answers since power-on. -/
def results (early : List ThreadEvent) (events : List Event) : List ParseResult :=
  early.filterMap ThreadEvent.parsed? ++ events.filterMap Event.parsed?

theorem threadPart_link : ThreadPart linker (@Program.link timers) ThreadEvent.parsed? where
  driven event program := by
    cases event with
    | tick =>
        obtain ⟨vt1, led4, step_eq⟩ := tick_eq program
        rw [threadStep, step_eq]
        rfl
    | spektrum c => rfl
    | gps c =>
        obtain ⟨globals, led5, step_eq⟩ := gps_eq c program
        rw [threadStep, step_eq]
        rfl
    | comms parsed => rfl
    | blink =>
        obtain ⟨led3, led6, stage, step_eq⟩ := blink_eq program
        rw [threadStep, step_eq]
        rfl
  passed program := by
    rw [step_pass]
    rfl
  carried _ := rfl

/-- The counters are those behind the library's answers since power-on. -/
theorem link_behind (timers : VirtualTimers) (start : Nat) (early : List ThreadEvent)
    (events : List Event) :
    (behind timers start early events).link = linkAfter (results early events) :=
  (threadPart_link.behind_eq start early events).trans (final_linker _ _)

/-! ## The status messages -/

theorem sysStatus_mem_iff (program : Program timers) (status : Option SysStatus) :
    .sysStatus status ∈ reported (step .pass program).1 ↔
      BeatsNext program ∧ status = commsSendSysStatus program.link := by
  rw [reported_pass, List.mem_flatMap, ← mem_nextCalls_iff (.inl rfl)]
  constructor
  · rintro ⟨call, member, sent⟩
    cases call with
    | commsSendSysStatus =>
        cases List.mem_singleton.mp sent
        exact ⟨member, rfl⟩
    | gyroRead | accelRead | motorsSetSpeed motor speed => cases sent
    | commsSendAttitude timeBootMs | commsSendHeartbeat => cases List.mem_singleton.mp sent
    | commsSendGPSRaw timeUsec fixType lat lon alt eph epv vel cog satellitesVisible =>
        cases List.mem_singleton.mp sent
  · rintro ⟨member, rfl⟩
    exact ⟨.commsSendSysStatus, member, List.mem_singleton.mpr rfl⟩

/-- With a library that counts the messages, behind every run from power-on with `n` of
them, fewer than 2 ^ 16, the success counter is the sum of the numbers 1 to `n`, the next
status message is undefined if and only if it is due and `n` is 0, and it reports no loss
unless the errors outnumber that sum. -/
theorem status_undefined_iff (timers : VirtualTimers) (start : Nat) (early : List ThreadEvent)
    (events : List Event)
    (counts : CountsSoFar (results early events))
    (few : messageCount (results early events) < 2 ^ 16) :
    let program := behind timers start early events
    let n := messageCount (results early events)
    2 * program.link.commsPacketSuccess.toInt = n * (n + 1) ∧
      (.sysStatus none ∈ reported (step .pass program).1 ↔ BeatsNext program ∧ n = 0) ∧
      ∀ status, .sysStatus (some status) ∈ reported (step .pass program).1 →
        2 * dropTotal (results early events) < n * (n + 1) → status.dropRateComm = 0 := by
  intro program n
  have link_eq : program.link = linkAfter (results early events) :=
    link_behind timers start early events
  refine ⟨?_, ?_, fun status sent below => ?_⟩
  · rw [link_eq, commsPacketSuccess_linkAfter counts few]
    exact_mod_cast two_mul_successTotal_of_few counts few
  · rw [sysStatus_mem_iff, link_eq, eq_comm, status_none_iff_of_few counts (by omega)]
  · rw [sysStatus_mem_iff, link_eq] at sent
    exact dropRateComm_eq_zero counts few below sent.2.symm

/-- Two messages, the second of them behind three errors. -/
def twoMessages : List Event := [.thread (.comms ⟨1, ⟨1, 0⟩⟩), .thread (.comms ⟨1, ⟨2, 3⟩⟩)]

theorem status_undefined_iff_twoMessages :
    (behind countdown 0 [] twoMessages).link = ⟨3, 3⟩ ∧
      2 * (behind countdown 0 [] twoMessages).link.commsPacketSuccess.toInt = 2 * (2 + 1) := by
  have counts : CountsSoFar (results [] twoMessages) :=
    (countsSoFar_nil.concat (by decide)).concat (by decide)
  exact ⟨by decide +kernel, (status_undefined_iff countdown 0 [] twoMessages counts (by decide)).1⟩

/-! ## A ground station that is heard in time -/

theorem now_step (event : Event) (program : Program timers) :
    program.now ≤ (step event program).2.now := by
  cases event with
  | pass =>
      rw [step_pass]
      exact Nat.le_refl program.now
  | thread event =>
      cases event with
      | tick =>
          obtain ⟨vt1, led4, step_eq⟩ := tick_eq program
          rw [step, threadStep, step_eq]
          exact Nat.le_succ program.now
      | spektrum c => exact Nat.le_refl program.now
      | gps c =>
          obtain ⟨globals, led5, step_eq⟩ := gps_eq c program
          rw [step, threadStep, step_eq]
      | comms parsed => exact Nat.le_refl program.now
      | blink =>
          obtain ⟨led3, led6, stage, step_eq⟩ := blink_eq program
          rw [step, threadStep, step_eq]

theorem now_final (program : Program timers) (events : List Event) :
    program.now ≤ (firmware.final program events).now :=
  firmware.final_invariant (program.now ≤ ·.now)
    (fun event reached before => before.trans (now_step event reached)) (Nat.le_refl _) events

theorem results_append (early : List ThreadEvent) (front back : List Event) :
    results early (front ++ back) = results early front ++ back.filterMap Event.parsed? := by
  rw [results, List.filterMap_append, ← List.append_assoc, results]

theorem messageCount_append (front back : List ParseResult) :
    messageCount (front ++ back) = messageCount front + messageCount back := by
  rw [messageCount, messages, List.filter_append, List.length_append]
  rfl

/-- The loop does not reach its hundredth due frame in less than 1000 ticks. -/
theorem now_of_beatsNext {limit : Nat} (bounded : limit ≤ 2 ^ 32 - 10) {start : Nat}
    {early : List ThreadEvent} {front back : List Event}
    (polled : Polled limit (entered timers start early).now
      (passes (entered timers start early) (front ++ .pass :: back)))
    (beats : BeatsNext (behind timers start early front)) :
    (entered timers start early).now + 1000 ≤ (behind timers start early front).now := by
  have at_pass := heartbeatsOf_pass (behind timers start early front)
  rw [if_pos beats] at at_pass
  have sent : ((behind timers start early front).now,
      heartbeatOf (behind timers start early front).mavlinkSystem) ∈
        heartbeats (entered timers start early) (front ++ .pass :: back) :=
    firmware.mem_collect_iff.mpr ⟨front, .pass, back, rfl,
      at_pass.symm ▸ List.mem_singleton.mpr rfl⟩
  rw [heartbeats_eq, (entered_eq timers start early).1] at sent
  obtain ⟨tick, runs, same⟩ := List.mem_map.mp sent
  rw [← show tick = (behind timers start early front).now from congrArg Prod.fst same]
  exact le_of_mem_groupTicks bounded polled (reading start) (by decide) runs

/-- When the loop reads the clock often enough and a first message has been received less
than 1000 ticks behind its start, no status message of the run is undefined, as long as
fewer than 2 ^ 33 - 1 messages are received in it.  This is as far as it holds: behind that
many messages the counter is 0 again. -/
theorem status_defined (timers : VirtualTimers) {limit : Nat} (bounded : limit ≤ 2 ^ 32 - 10)
    (start : Nat) (early : List ThreadEvent) (front back : List Event)
    (polled : Polled limit (entered timers start early).now
      (passes (entered timers start early) (front ++ back)))
    (counts : CountsSoFar (results early (front ++ back)))
    (few : messageCount (results early (front ++ back)) < 2 ^ 33 - 1)
    (received : messageCount (results early front) ≠ 0)
    (soon : (behind timers start early front).now < (entered timers start early).now + 1000) :
    .sysStatus none ∉ telemetry timers start early (front ++ back) := by
  intro member
  obtain ⟨earlier, event, later, events_eq, sent⟩ := mem_telemetry_iff.mp member
  cases event with
  | thread event =>
      rw [reported_thread] at sent
      cases sent
  | pass =>
      obtain ⟨beats, undefined⟩ := (sysStatus_mem_iff _ _).mp sent
      rw [events_eq] at polled
      have late := now_of_beatsNext bounded polled beats
      rw [events_eq, results_append] at counts few
      rw [messageCount_append] at few
      rw [link_behind, eq_comm, status_none_iff_of_few counts.front (by omega)] at undefined
      -- the status is sent behind the first message, for the clock does not go back
      rcases List.append_eq_append_iff.mp events_eq with ⟨more, rfl, -⟩ | ⟨more, rfl, -⟩
      · rw [results_append, messageCount_append] at undefined
        omega
      · have ordered := now_final (behind timers start early earlier) more
        have reached_eq : behind timers start early (earlier ++ more) =
            firmware.final (behind timers start early earlier) more := firmware.final_append _ _ _
        rw [reached_eq] at soon
        omega

/-- A message as soon as the loop has started. -/
def firstMessage : List Event := [.thread (.comms ⟨1, ⟨1, 0⟩⟩)]

theorem status_defined_steady :
    .sysStatus none ∉ telemetry countdown 0 [] (firstMessage ++ steadySecond) := by
  have polled : Polled 10 (entered countdown 0 []).now
      (passes (entered countdown 0 []) (firstMessage ++ steadySecond)) := by
    have ticks_eq : (passes (entered countdown 0 []) (firstMessage ++ steadySecond)).map
        TimedPass.tick = (List.range 100).map fun frame => 10 * (frame + 1) := by
      decide +kernel
    rw [Polled, ticks_eq]
    decide +kernel
  have results_eq : results [] (firstMessage ++ steadySecond) = [] ++ [⟨1, ⟨1, 0⟩⟩] := by
    decide +kernel
  have counts : CountsSoFar (results [] (firstMessage ++ steadySecond)) := by
    rw [results_eq]
    exact countsSoFar_nil.concat (by decide)
  exact status_defined countdown (by decide) 0 [] firstMessage steadySecond polled counts
    (by rw [results_eq]; decide) (by decide) (by decide)

end ChibiCopter.Firmware
