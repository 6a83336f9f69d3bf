import ChibiCopter.Comms.Link
import ChibiCopter.Flight.Schedule
import ChibiCopter.Spektrum.Framing

/-!
# The drop rate in the system status

The main loop sends a system status in every hundredth due frame and divides the drop
counter by the success counter.  The Comms thread runs beside it.  Over every
interleaving of the two, the divisor of a status call is the sum of the success counts
that the library has reported with messages so far.
-/

namespace ChibiCopter.Comms

open Flight

/-! ## The Comms thread and the main loop together -/

structure Station where
  link : Link
  loop : MainLoop

/-- An atomic step: the Comms thread handles the library's answer to a byte, or the main
thread makes a pass. -/
inductive Event where
  | byte (parsed : ParseResult)
  | pass (pass : Pass)

def stationStep (event : Event) (station : Station) : List MainCall × Station :=
  match event with
  | .byte parsed => ([], { station with link := comms parsed station.link })
  | .pass pass =>
      let (calls, loop) := mainPass pass.currentTime pass.rx station.loop
      (calls, { station with loop := loop })

def stationMachine : Transducer Station Event (List MainCall) := ⟨stationStep⟩

/-- The counters are 0 and the loop is about to start. -/
def stationStart (startTime previousTime : UInt32) : Station :=
  ⟨zeroLink, ⟨startTime, previousTime, 0⟩⟩

/-- The counters that the status calls of a run find. -/
def statusCalls (station : Station) (events : List Event) : List Link :=
  stationMachine.collect (fun event station =>
    if .commsSendSysStatus ∈ (stationStep event station).1 then [station.link] else [])
    station events

/-- Every status call finds a divisor that is not 0. -/
def DivisionDefined (station : Station) (events : List Event) : Prop :=
  ∀ link ∈ statusCalls station events, link.commsPacketSuccess ≠ 0

/-- The library's answers in a run. -/
def Event.parsed? : Event → Option ParseResult
  | .byte parsed => some parsed
  | .pass _ => none

def results (events : List Event) : List ParseResult := events.filterMap Event.parsed?

/-- Before each pass that sends a system status, messages have been received whose
success counts do not add up to 0. -/
def MessagesBefore (station : Station) (events : List Event) : Prop :=
  ∀ earlier pass later, events = earlier ++ .pass pass :: later →
    (stationMachine.final station earlier).loop.Due pass.currentTime →
    (stationMachine.final station earlier).loop.nextFrame % 100 = 0 →
      successTotal (results earlier) % 2 ^ 32 ≠ 0

/-! ## Status calls -/

/-- A step sends a system status if it is a due pass in a hundredth frame. -/
theorem mem_stationStep_sysStatus (event : Event) (station : Station) :
    .commsSendSysStatus ∈ (stationStep event station).1 ↔
      ∃ pass, event = .pass pass ∧ station.loop.Due pass.currentTime ∧
        station.loop.nextFrame % 100 = 0 := by
  cases event with
  | byte parsed =>
      constructor
      · exact fun call => absurd call List.not_mem_nil
      · rintro ⟨pass, same, -⟩
        cases same
  | pass pass =>
      rw [stationStep]
      by_cases due : station.loop.Due pass.currentTime
      · rw [mainPass, if_pos due]
        refine (mem_mainTasks_hundredth (.inl rfl) _ _ _ _).trans
          ⟨fun frame => ⟨pass, rfl, due, frame⟩, ?_⟩
        rintro ⟨other, same, -, frame⟩
        exact frame
      · rw [mainPass, if_neg due]
        constructor
        · exact fun call => absurd call List.not_mem_nil
        · rintro ⟨other, same, otherDue, -⟩
          cases same
          exact absurd otherDue due

/-! ## The divisor -/

theorem results_concat (events : List Event) (event : Event) :
    results (events ++ [event]) = results events ++ event.parsed?.toList := by
  rw [results, List.filterMap_append]
  cases event <;> rfl

/-- The counters of the joint system are those behind the library's answers. -/
theorem link_final (startTime previousTime : UInt32) (events : List Event) :
    (stationMachine.final (stationStart startTime previousTime) events).link =
      linkAfter (results events) := by
  refine stationMachine.final_history
    (fun earlier station => station.link = linkAfter (results earlier)) rfl ?_ events
  intro earlier event link_eq
  rw [results_concat]
  cases event with
  | byte parsed =>
      rw [Event.parsed?, Option.toList_some, linkAfter_concat, ← link_eq]
      rfl
  | pass pass =>
      rw [Event.parsed?, Option.toList_none, List.append_nil, ← link_eq]
      rfl

/-- In every interleaving, the divisions are defined if and only if messages have been
counted before each status call. -/
theorem divisionDefined_iff (startTime previousTime : UInt32) (events : List Event) :
    DivisionDefined (stationStart startTime previousTime) events ↔
      MessagesBefore (stationStart startTime previousTime) events := by
  have divisor_iff (earlier : List Event) :
      (stationMachine.final (stationStart startTime previousTime) earlier).link.commsPacketSuccess
          ≠ 0 ↔ successTotal (results earlier) % 2 ^ 32 ≠ 0 := by
    rw [link_final, linkAfter_eq, ne_eq, ofNat_eq_zero_iff]
  constructor
  · intro defined earlier pass later events_eq due frame
    rw [← divisor_iff]
    refine defined _
      (stationMachine.mem_collect_iff.mpr ⟨earlier, .pass pass, later, events_eq, ?_⟩)
    rw [if_pos ((mem_stationStep_sysStatus _ _).mpr ⟨pass, rfl, due, frame⟩)]
    exact List.mem_singleton.mpr rfl
  · intro before link member
    obtain ⟨earlier, event, later, events_eq, found⟩ := stationMachine.mem_collect_iff.mp member
    split at found
    · rename_i call
      obtain ⟨pass, rfl, due, frame⟩ := (mem_stationStep_sysStatus _ _).mp call
      rw [List.mem_singleton.mp found, divisor_iff]
      exact before earlier pass later events_eq due frame
    · exact absurd found List.not_mem_nil

/-- The first second of a flight without a ground station. -/
def silentSecond : List Event :=
  (List.range 100).map fun frame => .pass ⟨UInt32.ofNat (10 * (frame + 1)), Spektrum.zeroGlobals⟩

/-- The first status call divides by zero. -/
theorem division_undefined : ¬ ∀ startTime previousTime events,
    DivisionDefined (stationStart startTime previousTime) events := by
  intro defined
  have called : statusCalls (stationStart 0 0) silentSecond = [zeroLink] := by decide +kernel
  have divisor := defined 0 0 silentSecond zeroLink
    (by rw [called]; exact List.mem_singleton.mpr rfl)
  exact divisor rfl

end ChibiCopter.Comms
