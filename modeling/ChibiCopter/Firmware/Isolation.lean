import ChibiCopter.Firmware.Steps

/-!
# What the threads cannot do to each other

The flight path, from the bytes of the receiver to the motors, runs on as if the GPS, the
ground link and the lamps were not there.  The messages to the ground do not depend on
the GPS: what its characters say is never reported.  The characters themselves are all
that reaches the ground, for the messages stop in front of the serial driver.
-/

namespace ChibiCopter.Firmware

open Clock Comms Flight

variable {timers : VirtualTimers}

/-! ## The flight path -/

/-- The steps that are no part of the flight path. -/
def ThreadEvent.offPath : ThreadEvent → Bool
  | .tick | .spektrum _ => false
  | .gps _ | .comms _ | .blink => true

def Event.offPath : Event → Bool
  | .thread event => event.offPath
  | .pass => false

/-- The program with everything covered that is no part of the flight path. -/
def flightPath (program : Program timers) : Program timers :=
  { loaded timers program.now with
    loop := program.loop
    rx := program.rx
    motors := program.motors }

def unseen {δ : Type} (_ : List δ) : List Unit := []

theorem flightPath_tick (program : Program timers) :
    flightPath (tick program) = flightPath (tick (flightPath program)) := by
  obtain ⟨vt1, led4, step_eq⟩ := tick_eq program
  obtain ⟨coveredVt1, coveredLed4, covered_eq⟩ := tick_eq (flightPath program)
  rw [step_eq, covered_eq]
  rfl

theorem flightPath_threadStep {event : ThreadEvent} (onPath : event.offPath = false)
    (program : Program timers) :
    flightPath (threadStep event program).2 =
      flightPath (threadStep event (flightPath program)).2 := by
  cases event with
  | tick => exact flightPath_tick program
  | spektrum c => rfl
  | gps c => cases onPath
  | comms parsed => cases onPath
  | blink => cases onPath

theorem flightPath_pass (program : Program timers) :
    flightPath (pass program).2 = flightPath (pass (flightPath program)).2 := by
  rw [pass_eq, pass_eq]
  rfl

theorem flightPath_offPath {event : ThreadEvent} (offPath : event.offPath = true)
    (program : Program timers) : flightPath (threadStep event program).2 = flightPath program := by
  cases event with
  | tick => cases offPath
  | spektrum c => cases offPath
  | gps c =>
      obtain ⟨globals, led5, step_eq⟩ := gps_eq c program
      rw [threadStep, step_eq]
      rfl
  | comms parsed => rfl
  | blink =>
      obtain ⟨led3, led6, stage, step_eq⟩ := blink_eq program
      rw [threadStep, step_eq]
      rfl

theorem threads_hide_offPath : threads.Hides ThreadEvent.offPath
    (fun first second : Program timers => flightPath first = flightPath second) unseen :=
  Transducer.hides_of_cover flightPath
    (fun _ program onPath => ⟨flightPath_threadStep onPath program, rfl⟩)
    (fun _ program offPath => ⟨flightPath_offPath offPath program, rfl⟩)

theorem firmware_hides_offPath : firmware.Hides Event.offPath
    (fun first second : Program timers => flightPath first = flightPath second) unseen := by
  refine Transducer.hides_of_cover flightPath (fun event program onPath => ⟨?_, rfl⟩)
    (fun event program offPath => ⟨?_, rfl⟩)
  · cases event with
    | thread event => exact flightPath_threadStep onPath program
    | pass => exact flightPath_pass program
  · cases event with
    | thread event => exact flightPath_offPath offPath program
    | pass => cases offPath

/-- From power-on through every interleaving, the receiver, the motors, the loop and the
clock are what they would be if no character of the GPS, no byte of the ground link and
no wake-up of the lamp thread had ever been handled. -/
theorem flight_isolated (timers : VirtualTimers) (start : Nat) (early : List ThreadEvent)
    (events : List Event) :
    let program := behind timers start early events
    let alone := behind timers start (Transducer.purge ThreadEvent.offPath early)
      (Transducer.purge Event.offPath events)
    program.rx = alone.rx ∧ program.motors = alone.motors ∧ program.loop = alone.loop ∧
      program.now = alone.now := by
  intro program alone
  have threads_eq := (threads_hide_offPath.run
    (rfl : flightPath (initialise timers start).2 = flightPath (initialise timers start).2) early).1
  have entered_eq : flightPath (entered timers start early) =
      flightPath (entered timers start (Transducer.purge ThreadEvent.offPath early)) :=
    congrArg (fun program : Program timers =>
      { program with loop.previousTime := chTimeNow program }) threads_eq
  have same : flightPath program = flightPath alone :=
    (firmware_hides_offPath.run entered_eq events).1
  exact ⟨(congrArg Program.rx same :), (congrArg Program.motors same :),
    (congrArg Program.loop same :), (congrArg Program.now same :)⟩

/-! ## The messages to the ground -/

/-- The steps that are no part of the ground link. -/
def ThreadEvent.unreported : ThreadEvent → Bool
  | .gps _ | .blink => true
  | .tick | .spektrum _ | .comms _ => false

def Event.unreported : Event → Bool
  | .thread event => event.unreported
  | .pass => false

/-- The program with everything covered that the GPS and the lamp thread change. -/
def reportedPart (program : Program timers) : Program timers :=
  { program with
    gps := Gps.zeroGlobals
    leds := ⟨false, program.leds.led4, false, false⟩
    blinkStage := .led3Cleared }

theorem reportedPart_tick (program : Program timers) :
    reportedPart (tick program) = reportedPart (tick (reportedPart program)) := by
  have covered : (reportedPart program).vt1 = program.vt1 := rfl
  unfold tick
  simp only [covered]
  by_cases called : (timers.tick program.vt1).1 = true
  · simp only [if_pos called]
    rfl
  · simp only [if_neg called]
    rfl

theorem reportedPart_threadStep {event : ThreadEvent} (shown : event.unreported = false)
    (program : Program timers) :
    reportedPart (threadStep event program).2 =
        reportedPart (threadStep event (reportedPart program)).2 ∧
      reported (threadStep event program).1 =
        reported (threadStep event (reportedPart program)).1 := by
  cases event with
  | tick => exact ⟨reportedPart_tick program, rfl⟩
  | spektrum c => exact ⟨rfl, rfl⟩
  | comms parsed => exact ⟨rfl, rfl⟩
  | gps c => cases shown
  | blink => cases shown

theorem reportedPart_unreported {event : ThreadEvent} (unreported : event.unreported = true)
    (program : Program timers) :
    reportedPart (threadStep event program).2 = reportedPart program ∧
      reported (threadStep event program).1 = [] := by
  cases event with
  | tick => cases unreported
  | spektrum c => cases unreported
  | comms parsed => cases unreported
  | gps c =>
      obtain ⟨globals, led5, step_eq⟩ := gps_eq c program
      rw [threadStep, step_eq]
      exact ⟨rfl, rfl⟩
  | blink =>
      obtain ⟨led3, led6, stage, step_eq⟩ := blink_eq program
      rw [threadStep, step_eq]
      exact ⟨rfl, rfl⟩

theorem reportedPart_pass (program : Program timers) :
    reportedPart (pass program).2 = reportedPart (pass (reportedPart program)).2 ∧
      (pass program).1 = (pass (reportedPart program)).1 := by
  rw [pass_eq, pass_eq]
  exact ⟨rfl, rfl⟩

theorem threads_hide_unreported : threads.Hides ThreadEvent.unreported
    (fun first second : Program timers => reportedPart first = reportedPart second) reported :=
  Transducer.hides_of_cover reportedPart
    (fun _ program shown => reportedPart_threadStep shown program)
    (fun _ program unreported => reportedPart_unreported unreported program)

theorem firmware_hides_unreported : firmware.Hides Event.unreported
    (fun first second : Program timers => reportedPart first = reportedPart second) reported := by
  refine Transducer.hides_of_cover reportedPart (fun event program shown => ?_)
    (fun event program unreported => ?_)
  · cases event with
    | thread event => exact reportedPart_threadStep shown program
    | pass =>
        obtain ⟨state_eq, messages_eq⟩ := reportedPart_pass program
        exact ⟨state_eq, congrArg (fun messages => reported (messages.map .message)) messages_eq⟩
  · cases event with
    | thread event => exact reportedPart_unreported unreported program
    | pass => cases unreported

/-- A position message that reports nothing: no fix, and zero in place of the data. -/
def Message.Blank : Message → Prop
  | .gpsRawInt _ fixType lat lon alt eph epv vel cog satellitesVisible =>
      fixType = 0 ∧ lat = 0 ∧ lon = 0 ∧ alt = 0 ∧ eph = 65535 ∧ epv = 65535 ∧ vel = 0 ∧
        cog = 0 ∧ satellitesVisible = 255
  | _ => True

theorem blank_of_mem_taskGroup {divisor : Nat} {currentTime startTime : UInt32}
    {rx : Spektrum.Receiver} {call : MainCall}
    (member : call ∈ taskGroup divisor currentTime startTime rx) {link : Link}
    {system : MavlinkSystem} {message : Message} (sent : message ∈ messagesOf link system call) :
    message.Blank := by
  cases call with
  | gyroRead | accelRead | motorsSetSpeed motor speed => cases sent
  | commsSendAttitude timeBootMs | commsSendSysStatus | commsSendHeartbeat =>
      rw [List.mem_singleton.mp sent]
      trivial
  | commsSendGPSRaw timeUsec fixType lat lon alt eph epv vel cog satellitesVisible =>
      rw [List.mem_singleton.mp sent]
      unfold taskGroup at member
      split at member
      all_goals simp at member
      obtain ⟨-, rfl, rfl, rfl, rfl, rfl, rfl, rfl, rfl, rfl⟩ := member
      exact ⟨rfl, rfl, rfl, rfl, rfl, rfl, rfl, rfl, rfl⟩

theorem blank_of_mem_pass {program : Program timers} {message : Message}
    (sent : message ∈ (pass program).1) : message.Blank := by
  rw [pass_eq] at sent
  obtain ⟨call, member, sentByCall⟩ := List.mem_flatMap.mp sent
  rw [nextCalls_groups] at member
  obtain ⟨divisor, -, grouped⟩ := List.mem_flatMap.mp member
  exact blank_of_mem_taskGroup grouped sentByCall

theorem blank_of_mem_step {event : Event} {program : Program timers} {message : Message}
    (sent : message ∈ reported (step event program).1) : message.Blank := by
  cases event with
  | pass => exact blank_of_mem_pass ((reported_messages (pass program).1) ▸ sent)
  | thread event => cases event <;> cases sent

/-- From power-on through every interleaving, the loop sends the messages that it would
send if no character of the GPS had ever been handled, and none of them reports a
position. -/
theorem position_unreported (timers : VirtualTimers) (start : Nat) (early : List ThreadEvent)
    (events : List Event) :
    telemetry timers start early events =
        telemetry timers start (Transducer.purge ThreadEvent.unreported early)
          (Transducer.purge Event.unreported events) ∧
      ∀ message ∈ telemetry timers start early events, message.Blank := by
  have threads_eq := (threads_hide_unreported.run
    (rfl : reportedPart (initialise timers start).2 = reportedPart (initialise timers start).2)
    early).1
  have entered_eq : reportedPart (entered timers start early) =
      reportedPart (entered timers start (Transducer.purge ThreadEvent.unreported early)) :=
    congrArg enterLoop threads_eq
  constructor
  · exact (firmware_hides_unreported.run entered_eq events).2
  · intro message member
    obtain ⟨front, event, back, -, sent⟩ := mem_telemetry_iff.mp member
    exact blank_of_mem_step sent

/-! ## The line to the ground -/

section Line

-- what the library gives to `comms_send_bytes` for a message
variable (encode : Message → List (MavlinkChannel × List UInt8))

/-- The characters that an output writes to the serial driver 2. -/
def Output.written : Output → List UInt8
  | .character c => [c]
  | .message sent => (encode sent).flatMap fun (chan, buf) => commsSendBytes chan buf

/-- Everything that is written to the serial driver 2 from power-on. -/
def line (timers : VirtualTimers) (start : Nat) (early : List ThreadEvent)
    (events : List Event) : List UInt8 :=
  ((initialise timers start).1.map Output.message).flatMap (Output.written encode) ++
    (threads.outputs (initialise timers start).2 early).flatMap
      (List.flatMap (Output.written encode)) ++
    (firmware.outputs (entered timers start early) events).flatMap
      (List.flatMap (Output.written encode))

/-- The characters of the GPS that a step handles. -/
def ThreadEvent.characters : ThreadEvent → List UInt8
  | .gps c => [c]
  | _ => []

def Event.characters : Event → List UInt8
  | .thread event => event.characters
  | .pass => []

theorem commsSendBytes_eq (chan : MavlinkChannel) (buf : List UInt8) :
    commsSendBytes chan buf = [] := by
  rw [commsSendBytes, ite_self]

theorem flatMap_messages (messages : List Message) :
    (messages.map Output.message).flatMap (Output.written encode) = [] := by
  simp only [List.flatMap_eq_nil_iff, List.mem_map]
  rintro output ⟨message, -, rfl⟩
  simp only [Output.written, commsSendBytes_eq, List.flatMap_eq_nil_iff, implies_true]

theorem written_threadStep (event : ThreadEvent) (program : Program timers) :
    (threadStep event program).1.flatMap (Output.written encode) = event.characters := by
  cases event <;> rfl

theorem written_step (event : Event) (program : Program timers) :
    (step event program).1.flatMap (Output.written encode) = event.characters := by
  cases event with
  | thread event => exact written_threadStep encode event program
  | pass => exact flatMap_messages encode (pass program).1

/-- Whatever the library makes of the messages, the line to the ground carries the
characters of the GPS in their order and nothing else, from power-on through every
interleaving. -/
theorem line_eq_characters (timers : VirtualTimers) (start : Nat) (early : List ThreadEvent)
    (events : List Event) :
    line encode timers start early events =
      early.flatMap ThreadEvent.characters ++ events.flatMap Event.characters := by
  rw [line, flatMap_messages, List.nil_append,
    Transducer.flatMap_outputs (written_threadStep encode),
    Transducer.flatMap_outputs (written_step encode)]

end Line

end ChibiCopter.Firmware
