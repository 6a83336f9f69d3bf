import ChibiCopter.Firmware.Latency
import ChibiCopter.Firmware.Status

/-!
# The smaller machines inside the program

The receiver, the motors and the loop make a machine of their own, and so do the link
counters and the loop.  The whole program refines both of them: inside each of its runs
there is a run of the smaller machine, on the bytes of its thread and the readings of the
clock, that reaches the same state and makes the same calls.  What holds in all runs of
these machines holds in the program.
-/

namespace ChibiCopter.Firmware

open Clock Comms Flight Spektrum

variable {timers : VirtualTimers}

/-- The calls of the main loop in a run. -/
def mainCallsOf : Event → Program timers → List MainCall
  | .thread _, _ => []
  | .pass, program => nextCalls program

/-- A part of the program that answers the messages of each step with the calls of the
step makes the calls of the run. -/
theorem calls_of_drives {τ δ : Type} {component : Transducer τ δ (List MainCall)}
    {part : Program timers → τ} {messages : Event → Program timers → List δ}
    (drives : firmware.Drives component part messages)
    (answers : ∀ event program,
      component.collect (fun message state => (component.step message state).1)
        (part program) (messages event program) = mainCallsOf event program)
    (program : Program timers) (events : List Event) :
    (component.outputs (part program) (firmware.collect messages program events)).flatten =
      firmware.collect mainCallsOf program events := by
  rw [← List.flatMap_id, Transducer.flatMap_outputs_eq_collect, drives.collect]
  exact congrArg (fun report => firmware.collect report program events)
    (funext fun event => funext (answers event))

/-! ## Receiver, motors and loop -/

def copter (program : Program timers) : Copter := ⟨program.rx, program.motors, program.loop⟩

/-- What a step of the program is for the smaller machine. -/
def copterActions : Event → Program timers → List Action
  | .thread event, _ => event.received?.toList.map .receive
  | .pass, program => [.pass (reading program.now)]

/-- Bytes change the receiver and nothing else, and make no call. -/
theorem runs_receive (copter : Copter) (bytes : List UInt8) :
    copterMachine.final copter (bytes.map .receive) =
        { copter with rx := decoder.final copter.rx bytes } ∧
      (copterMachine.outputs copter (bytes.map .receive)).flatten = [] := by
  induction bytes generalizing copter with
  | nil => exact ⟨rfl, rfl⟩
  | cons byte bytes ih => exact ih (copterStep (.receive byte) copter).2

theorem drives_copter : firmware.Drives copterMachine (@copter timers) copterActions where
  step_eq event program := by
    cases event with
    | thread event =>
        obtain ⟨loop_eq, motors_eq, -⟩ := threadStep_kept event program
        rw [copterActions, (runs_receive _ _).1]
        change Copter.mk _ _ _ = Copter.mk _ _ _
        rw [show (firmware.step (.thread event) program).2.rx = _ from rx_threadStep event program,
          show (firmware.step (.thread event) program).2.motors = _ from motors_eq,
          show (firmware.step (.thread event) program).2.loop = _ from loop_eq]
        rfl
    | pass =>
        rw [show (firmware.step .pass program).2 = _ from step_pass program]
        rfl

theorem copter_answers (event : Event) (program : Program timers) :
    copterMachine.collect (fun action copter => (copterMachine.step action copter).1)
      (copter program) (copterActions event program) = mainCallsOf event program := by
  cases event with
  | thread event => cases event <;> rfl
  | pass => exact List.append_nil _

/-- The steps of the smaller machine in a run from power-on. -/
def actions (timers : VirtualTimers) (start : Nat) (early : List ThreadEvent)
    (events : List Event) : List Action :=
  (early.filterMap ThreadEvent.received?).map .receive ++
    firmware.collect copterActions (entered timers start early) events

/-- The smaller machine where the initialisation leaves it. -/
def flightStart (timers : VirtualTimers) (start : Nat) (early : List ThreadEvent) : Copter :=
  startUp (loaded timers start).rx (loaded timers start).motors (reading start)
    (reading (entered timers start early).now)

theorem copter_entered (timers : VirtualTimers) (start : Nat) (early : List ThreadEvent) :
    copter (entered timers start early) = copterMachine.final (flightStart timers start early)
      ((early.filterMap ThreadEvent.received?).map .receive) := by
  have rx_eq := rx_behind timers start early []
  rw [List.filterMap_nil, List.append_nil] at rx_eq
  rw [(runs_receive _ _).1, copter, motors_entered, (entered_eq timers start early).1,
    show (entered timers start early).rx = _ from rx_eq]
  rfl

/-- The smaller machine reads the bytes that the program reads. -/
theorem received_actions (timers : VirtualTimers) (start : Nat) (early : List ThreadEvent)
    (events : List Event) :
    received (actions timers start early events) =
      early.filterMap ThreadEvent.received? ++ events.filterMap Event.received? := by
  have bytes (list : List UInt8) : (list.map Action.receive).filterMap Action.byte? = list := by
    rw [List.filterMap_map]
    exact List.filterMap_some
  rw [received, actions, List.filterMap_append, bytes]
  refine congrArg (_ ++ ·) (firmware.filterMap_collect (fun event program => ?_) _ events)
  cases event with
  | thread event => exact bytes event.received?.toList
  | pass => rfl

/-! ## Link counters and loop -/

def station (program : Program timers) : Station := ⟨program.link, program.loop⟩

def stationEvents : Event → Program timers → List Comms.Event
  | .thread event, _ => event.parsed?.toList.map .byte
  | .pass, program => [.pass ⟨reading program.now, program.rx⟩]

theorem runs_byte (station : Station) (results : List ParseResult) :
    stationMachine.final station (results.map .byte) =
        { station with link := linker.final station.link results } ∧
      (stationMachine.outputs station (results.map .byte)).flatten = [] := by
  induction results generalizing station with
  | nil => exact ⟨rfl, rfl⟩
  | cons parsed results ih => exact ih (stationStep (.byte parsed) station).2

theorem drives_station : firmware.Drives stationMachine (@station timers) stationEvents where
  step_eq event program := by
    cases event with
    | thread event =>
        obtain ⟨loop_eq, -, -⟩ := threadStep_kept event program
        rw [stationEvents, (runs_byte _ _).1]
        change Station.mk _ _ = Station.mk _ _
        rw [show (firmware.step (.thread event) program).2.link = _ from
            threadPart_link.driven event program,
          show (firmware.step (.thread event) program).2.loop = _ from loop_eq]
        rfl
    | pass =>
        rw [show (firmware.step .pass program).2 = _ from step_pass program]
        rfl

theorem station_answers (event : Event) (program : Program timers) :
    stationMachine.collect (fun event station => (stationMachine.step event station).1)
      (station program) (stationEvents event program) = mainCallsOf event program := by
  cases event with
  | thread event => cases event <;> rfl
  | pass => exact List.append_nil _

def exchanges (timers : VirtualTimers) (start : Nat) (early : List ThreadEvent)
    (events : List Event) :
    List Comms.Event :=
  (early.filterMap ThreadEvent.parsed?).map .byte ++
    firmware.collect stationEvents (entered timers start early) events

def groundStart (timers : VirtualTimers) (start : Nat) (early : List ThreadEvent) : Station :=
  stationStart (reading start) (reading (entered timers start early).now)

theorem station_entered (timers : VirtualTimers) (start : Nat) (early : List ThreadEvent) :
    station (entered timers start early) = stationMachine.final (groundStart timers start early)
      ((early.filterMap ThreadEvent.parsed?).map .byte) := by
  have link_eq := (@threadPart_link timers).behind_eq start early []
  rw [List.filterMap_nil, List.append_nil] at link_eq
  rw [(runs_byte _ _).1, station, (entered_eq timers start early).1,
    show (entered timers start early).link = _ from link_eq]
  rfl

theorem results_exchanges (timers : VirtualTimers) (start : Nat) (early : List ThreadEvent)
    (events : List Event) :
    Comms.results (exchanges timers start early events) = results early events := by
  have answers (list : List ParseResult) :
      (list.map Comms.Event.byte).filterMap Comms.Event.parsed? = list := by
    rw [List.filterMap_map]
    exact List.filterMap_some
  rw [Comms.results, exchanges, List.filterMap_append, answers]
  refine congrArg (_ ++ ·) (firmware.filterMap_collect (fun event program => ?_) _ events)
  cases event with
  | thread event => exact answers event.parsed?.toList
  | pass => rfl

/-! ## Refinement -/

theorem copter_behind (timers : VirtualTimers) (start : Nat) (early : List ThreadEvent)
    (events : List Event) :
    copter (behind timers start early events) =
      copterMachine.final (flightStart timers start early) (actions timers start early events) := by
  rw [actions, copterMachine.final_append, ← copter_entered]
  exact drives_copter.final _ events

theorem station_behind (timers : VirtualTimers) (start : Nat) (early : List ThreadEvent)
    (events : List Event) :
    station (behind timers start early events) =
      stationMachine.final (groundStart timers start early)
        (exchanges timers start early events) := by
  rw [exchanges, stationMachine.final_append, ← station_entered]
  exact drives_station.final _ events

/-- In every run from power-on, the receiver, the motors and the loop are where the
smaller machine of the flight path gets to, and the link counters and the loop where that
of the ground link gets to, each on the bytes of its thread and the readings of the
clock, and both make the calls of the main loop. -/
theorem firmware_refines (timers : VirtualTimers) (start : Nat) (early : List ThreadEvent)
    (events : List Event) :
    let calls := firmware.collect mainCallsOf (entered timers start early) events
    (copter (behind timers start early events) =
        copterMachine.final (flightStart timers start early) (actions timers start early events) ∧
      received (actions timers start early events) =
        early.filterMap ThreadEvent.received? ++ events.filterMap Event.received? ∧
      (copterMachine.outputs (flightStart timers start early)
        (actions timers start early events)).flatten = calls) ∧
    station (behind timers start early events) =
        stationMachine.final (groundStart timers start early)
          (exchanges timers start early events) ∧
      Comms.results (exchanges timers start early events) = results early events ∧
      (stationMachine.outputs (groundStart timers start early)
        (exchanges timers start early events)).flatten = calls := by
  intro calls
  refine ⟨⟨copter_behind timers start early events, received_actions timers start early events, ?_⟩,
    station_behind timers start early events, results_exchanges timers start early events, ?_⟩
  · rw [actions, copterMachine.outputs_append, List.flatten_append, (runs_receive _ _).2,
      List.nil_append, ← copter_entered]
    exact calls_of_drives drives_copter copter_answers _ events
  · rw [exchanges, stationMachine.outputs_append, List.flatten_append, (runs_byte _ _).2,
      List.nil_append, ← station_entered]
    exact calls_of_drives drives_station station_answers _ events

/-- What the frames say about the motors, they say about the motors of the program. -/
theorem throttleSafe_behind (timers : VirtualTimers) (start : Nat) (early : List ThreadEvent)
    (events : List Event) :
    ThrottleSafe (framesBehind early events) (behind timers start early events).motors := by
  have safe := throttleSafe_afterRun (loaded timers start).rx (loaded timers start).motors
    (reading start) (reading (entered timers start early).now) (actions timers start early events)
  rw [received_actions] at safe
  have motors_eq : (behind timers start early events).motors = _ :=
    congrArg Copter.motors (copter_behind timers start early events)
  rw [motors_eq]
  exact safe

end ChibiCopter.Firmware
