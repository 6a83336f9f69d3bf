import ChibiCopter.Firmware.Steps
import ChibiCopter.Gps.Publication
import ChibiCopter.Gps.Session

/-!
# What the lamps and the accessors show

The GPS thread reads every sentence of the session into the working data.  Nothing else
comes of it: the accessors that return a value return what they returned at power-on, and
the red lamp that is to show a fix stays dark in every run.  The blue and the orange lamp
take turns.
-/

namespace ChibiCopter.Firmware

open Clock Comms Flight

variable {timers : VirtualTimers}

/-! ## The session and the red lamp -/

/-- The character that the GPS thread handles in a step. -/
def ThreadEvent.navigated? : ThreadEvent → Option UInt8
  | .gps c => some c
  | .tick | .spektrum _ | .comms _ | .blink => none

def Event.navigated? : Event → Option UInt8 := Event.select ThreadEvent.navigated?

theorem gps_gps (c : UInt8) (program : Program timers) :
    (gps c program).gps = (Gps.gpsParseChar c program.gps).2 := by
  unfold gps
  by_cases valid : (Gps.gpsParseChar c program.gps).1.valid ≠ 0
  · simp only [if_pos valid]
  · simp only [if_neg valid]

theorem threadPart_gps : ThreadPart Gps.parser (@Program.gps timers) ThreadEvent.navigated? where
  driven event program := by
    cases event with
    | tick =>
        obtain ⟨vt1, led4, step_eq⟩ := tick_eq program
        rw [threadStep, step_eq]
        rfl
    | spektrum c => rfl
    | gps c => exact gps_gps c program
    | comms parsed => rfl
    | blink =>
        obtain ⟨led3, led6, stage, step_eq⟩ := blink_eq program
        rw [threadStep, step_eq]
        rfl
  passed program := by
    rw [step_pass]
    rfl
  carried _ := rfl

/-- The characters that have reached the GPS thread. -/
def gpsBehind (early : List ThreadEvent) (events : List Event) : List UInt8 :=
  early.filterMap ThreadEvent.navigated? ++ events.filterMap Event.navigated?

theorem gps_behind (timers : VirtualTimers) (start : Nat) (early : List ThreadEvent)
    (events : List Event) :
    (behind timers start early events).gps =
      Gps.parser.final (Gps.gpsParserInit Gps.zeroGlobals) (gpsBehind early events) :=
  threadPart_gps.behind_eq start early events

/-- The red lamp is dark, and the parser is in a state that no fix has left. -/
structure Unannounced (program : Program timers) : Prop where
  reachable : Gps.Reachable program.gps
  led5_eq : program.leds.led5 = false

theorem Unannounced.gps {program : Program timers} (unannounced : Unannounced program) (c : UInt8) :
    Unannounced (Firmware.gps c program) := by
  have reachable : Gps.Reachable (Gps.gpsParseChar c program.gps).2 :=
    unannounced.reachable.step c
  have invalid : ¬ (Gps.gpsParseChar c program.gps).1.valid ≠ 0 := not_not.mpr
    ((Gps.gpsParseChar_valid c program.gps).trans (Gps.invalid_of_reachable reachable))
  unfold Firmware.gps
  simp only [if_neg invalid]
  exact ⟨reachable, unannounced.led5_eq⟩

theorem Unannounced.threadStep {program : Program timers} (unannounced : Unannounced program)
    (event : ThreadEvent) : Unannounced (threadStep event program).2 := by
  cases event with
  | tick =>
      obtain ⟨vt1, led4, step_eq⟩ := tick_eq program
      rw [Firmware.threadStep, step_eq]
      exact ⟨unannounced.reachable, unannounced.led5_eq⟩
  | spektrum c => exact ⟨unannounced.reachable, unannounced.led5_eq⟩
  | gps c => exact unannounced.gps c
  | comms parsed => exact ⟨unannounced.reachable, unannounced.led5_eq⟩
  | blink =>
      obtain ⟨led3, led6, stage, step_eq⟩ := blink_eq program
      rw [Firmware.threadStep, step_eq]
      exact ⟨unannounced.reachable, unannounced.led5_eq⟩

theorem unannounced_behind (timers : VirtualTimers) (start : Nat) (early : List ThreadEvent)
    (events : List Event) :
    Unannounced (behind timers start early events) := by
  refine behind_invariant ⟨Gps.reachable_init Gps.zeroGlobals, rfl⟩
    (fun event _ unannounced => unannounced.threadStep event)
    (fun _ unannounced => ⟨unannounced.reachable, unannounced.led5_eq⟩)
    (fun program unannounced => ?_) early events
  rw [step_pass]
  exact ⟨unannounced.reachable, unannounced.led5_eq⟩

/-- In every interleaving in which the GPS thread has heard some sentences, the working
data hold the last that was said of the position and the satellites, and of the fix but for
the exceptions of the GPGSA mode.  None of it is seen from outside: the five accessors that
return a value return zero, and the red lamp is dark. -/
theorem navigation_withheld (timers : VirtualTimers) (start : Nat) {early : List ThreadEvent}
    {events : List Event} {session : List Gps.NavSentence}
    (heard : gpsBehind early events = session.flatMap Gps.NavSentence.text) :
    let program := behind timers start early events
    Gps.Decoded Gps.zeroGlobals.working.navigation program.gps.working.navigation
        (session.map Gps.NavSentence.content) ∧
      Gps.fixType program.gps = 0 ∧ Gps.getLatitude program.gps = 0 ∧
      Gps.getLongitude program.gps = 0 ∧ Gps.getAltitude program.gps = 0 ∧
      Gps.getNumSatellites program.gps = 0 ∧ program.leds.led5 = false := by
  intro program
  have gps_eq : program.gps = _ := gps_behind timers start early events
  have started := Gps.reachable_init Gps.zeroGlobals
  have same : Gps.SamePublic program.gps (Gps.gpsParserInit Gps.zeroGlobals) :=
    gps_eq ▸ Gps.samePublic_final started (gpsBehind early events)
  refine ⟨?_, congrArg Gps.GpsData.fixType same.data_eq,
    congrArg Gps.GpsData.lat same.data_eq, congrArg Gps.GpsData.lon same.data_eq,
    congrArg Gps.GpsData.alt same.data_eq,
    congrArg Gps.GpsSatellites.numVisible same.satellites_eq,
    (unannounced_behind timers start early events).led5_eq⟩
  rw [gps_eq, heard, Gps.navigation_session started]
  exact Gps.decoded_store _ (session.map Gps.NavSentence.content)

/-- The characters of a session, each followed by a tick and a pass. -/
def interleavedSession : List Event :=
  (Gps.briefSession.flatMap Gps.NavSentence.text).flatMap fun c =>
    [.thread (.gps c), .thread .tick, .pass]

theorem navigation_withheld_brief :
    let program := behind countdown 0 [] interleavedSession
    program.gps.working.navigation.location = (-3356789, 15112345) ∧
      program.gps.working.navigation.good = false ∧
      Gps.getLatitude program.gps = 0 ∧ program.leds.led5 = false := by
  have heard : gpsBehind [] interleavedSession =
      Gps.briefSession.flatMap Gps.NavSentence.text := by decide +kernel
  have said : Gps.zeroGlobals.working.navigation.last
      (Gps.briefSession.map Gps.NavSentence.content) =
        ⟨(-3356789, 15112345), false, 3, 9, Vector.replicate 12 9⟩ := by decide +kernel
  obtain ⟨⟨location_eq, -, -, good_iff, -⟩, -, lat_eq, -, -, -, led5_eq⟩ :=
    navigation_withheld countdown 0 heard
  rw [said] at location_eq good_iff
  refine ⟨location_eq, good_iff.mpr ?_, lat_eq, led5_eq⟩
  rintro content ⟨⟩
  rfl

/-! ## Blue and orange -/

/-- The wake-ups of the lamp thread. -/
def ThreadEvent.woken? : ThreadEvent → Option Unit
  | .blink => some ()
  | .tick | .spektrum _ | .gps _ | .comms _ => none

def Event.woken? : Event → Option Unit := Event.select ThreadEvent.woken?

namespace BlinkStage

def number : BlinkStage → Nat
  | led3Cleared => 0
  | led6Set => 1
  | led6Cleared => 2
  | led3Set => 3

def next : BlinkStage → BlinkStage
  | led3Cleared => led6Set
  | led6Set => led6Cleared
  | led6Cleared => led3Set
  | led3Set => led3Cleared

theorem number_next (stage : BlinkStage) : stage.next.number = (stage.number + 1) % 4 := by
  cases stage <;> rfl

end BlinkStage

/-- The lamp thread without its lamps. -/
def blinker : Transducer BlinkStage Unit Unit := ⟨fun _ stage => ((), stage.next)⟩

theorem number_blinker (stage : BlinkStage) (wakeups : List Unit) :
    (blinker.final stage wakeups).number = (stage.number + wakeups.length) % 4 := by
  induction wakeups generalizing stage with
  | nil => cases stage <;> rfl
  | cons wakeup wakeups ih =>
      rw [Transducer.final_cons, ih, show (blinker.step wakeup stage).2 = stage.next from rfl,
        stage.number_next, Nat.mod_add_mod, List.length_cons, Nat.add_assoc, Nat.add_comm 1]

theorem threadPart_blink :
    ThreadPart blinker (@Program.blinkStage timers) ThreadEvent.woken? where
  driven event program := by
    cases event with
    | tick =>
        obtain ⟨vt1, led4, step_eq⟩ := tick_eq program
        rw [threadStep, step_eq]
        rfl
    | spektrum c => rfl
    | gps c =>
        obtain ⟨globals, led5, step_eq⟩ := gps_eq c program
        rw [threadStep, step_eq]
        rfl
    | comms parsed => rfl
    | blink =>
        change (blink program).blinkStage = program.blinkStage.next
        unfold blink
        cases program.blinkStage with
        | led3Cleared | led6Set | led6Cleared | led3Set => rfl
  passed program := by
    rw [step_pass]
    rfl
  carried _ := rfl

/-- The stage says which of the two lamps is lit. -/
structure Blinking (program : Program timers) : Prop where
  led6_eq : program.leds.led6 = decide (program.blinkStage = .led6Set)
  led3_eq : program.leds.led3 = decide (program.blinkStage = .led3Set)

theorem Blinking.blink {program : Program timers} (blinking : Blinking program) :
    Blinking (blink program) := by
  obtain ⟨led6_eq, led3_eq⟩ := blinking
  unfold Firmware.blink
  cases stage : program.blinkStage with
  | led3Cleared | led6Set =>
      rw [stage] at led3_eq
      exact ⟨rfl, led3_eq⟩
  | led6Cleared | led3Set =>
      rw [stage] at led6_eq
      exact ⟨led6_eq, rfl⟩

theorem Blinking.threadStep {program : Program timers} (blinking : Blinking program)
    (event : ThreadEvent) : Blinking (threadStep event program).2 := by
  cases event with
  | tick =>
      obtain ⟨vt1, led4, step_eq⟩ := tick_eq program
      rw [Firmware.threadStep, step_eq]
      exact ⟨blinking.led6_eq, blinking.led3_eq⟩
  | spektrum c => exact ⟨blinking.led6_eq, blinking.led3_eq⟩
  | gps c =>
      obtain ⟨globals, led5, step_eq⟩ := gps_eq c program
      rw [Firmware.threadStep, step_eq]
      exact ⟨blinking.led6_eq, blinking.led3_eq⟩
  | comms parsed => exact ⟨blinking.led6_eq, blinking.led3_eq⟩
  | blink => exact blinking.blink

theorem blinking_behind (timers : VirtualTimers) (start : Nat) (early : List ThreadEvent)
    (events : List Event) :
    Blinking (behind timers start early events) := by
  refine behind_invariant ⟨rfl, rfl⟩ (fun event _ blinking => blinking.threadStep event)
    (fun _ blinking => ⟨blinking.led6_eq, blinking.led3_eq⟩) (fun program blinking => ?_)
    early events
  rw [step_pass]
  exact ⟨blinking.led6_eq, blinking.led3_eq⟩

/-- In every interleaving the wake-ups of the lamp thread alone decide about the blue and
the orange lamp: of every four, the first lights the blue one and the third the orange
one, until the next, so that they are never lit together. -/
theorem lamps_take_turns (timers : VirtualTimers) (start : Nat) (early : List ThreadEvent)
    (events : List Event) :
    let program := behind timers start early events
    let wakeups := early.filterMap ThreadEvent.woken? ++ events.filterMap Event.woken?
    (program.leds.led6 = true ↔ wakeups.length % 4 = 1) ∧
      (program.leds.led3 = true ↔ wakeups.length % 4 = 3) := by
  intro program wakeups
  obtain ⟨led6_eq, led3_eq⟩ := blinking_behind timers start early events
  have counted : program.blinkStage.number = wakeups.length % 4 := by
    rw [show program.blinkStage = _ from threadPart_blink.behind_eq start early events,
      number_blinker]
    exact congrArg (· % 4) (Nat.zero_add _)
  rw [show program.leds.led6 = _ from led6_eq, show program.leds.led3 = _ from led3_eq,
    ← counted, decide_eq_true_iff, decide_eq_true_iff]
  cases program.blinkStage with
  | led3Cleared | led6Set | led6Cleared | led3Set => exact ⟨by decide, by decide⟩

end ChibiCopter.Firmware
