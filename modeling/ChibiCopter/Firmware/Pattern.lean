import ChibiCopter.Firmware.Heartbeat

/-!
# The order of the messages

What a run sends to the ground depends on the threads in its contents and its times.  The
order of the kinds of messages does not: it is a pattern that repeats every hundred due
frames, and a run with more due frames sends more of it.
-/

namespace ChibiCopter.Firmware

open Clock Comms Cyclic Flight

variable {timers : VirtualTimers}

/-- The MAVLink messages that the loop sends. -/
inductive MessageKind where
  | heartbeat
  | sysStatus
  | attitude
  | gpsRawInt
  deriving DecidableEq, Repr

def Message.kind : Message → MessageKind
  | .heartbeat .. => .heartbeat
  | .sysStatus _ => .sysStatus
  | .attitude _ => .attitude
  | .gpsRawInt .. => .gpsRawInt

/-- The messages of the due frame with some number, counted from 1 on without end. -/
def framePattern (number : Nat) : List MessageKind :=
  (if number % 10 = 0 then [MessageKind.attitude] else []) ++
  (if number % 20 = 0 then [MessageKind.gpsRawInt] else []) ++
  (if number % 100 = 0 then [MessageKind.sysStatus, MessageKind.heartbeat] else [])

/-- How many due frames go by until a kind of message is sent again. -/
def MessageKind.divisor : MessageKind → Nat
  | .heartbeat | .sysStatus => 100
  | .attitude => 10
  | .gpsRawInt => 20

/-! ## The pattern -/

theorem framePattern_next (count : Nat) :
    framePattern (count % 100 + 1) = framePattern (count + 1) := by
  simp only [framePattern, mod_next (show 10 ∣ 100 by decide) count,
    mod_next (show 20 ∣ 100 by decide) count, mod_next (show 100 ∣ 100 by decide) count]

theorem count_framePattern (kind : MessageKind) (number : Nat) :
    (framePattern number).count kind = if kind.divisor ∣ number then 1 else 0 := by
  have piece (condition : Prop) [Decidable condition] (kinds : List MessageKind) :
      (if condition then kinds else []).count kind = if condition then kinds.count kind else 0 := by
    split <;> rfl
  rw [framePattern, List.count_append, List.count_append, piece, piece, piece]
  cases kind <;> simp [MessageKind.divisor, Nat.dvd_iff_mod_eq_zero]

theorem count_pattern (kind : MessageKind) (frames : Nat) :
    ((List.range' 1 frames).flatMap framePattern).count kind = frames / kind.divisor := by
  induction frames with
  | zero => rw [Nat.zero_div]; rfl
  | succ frames ih =>
      rw [List.range'_concat, List.flatMap_append, List.count_append, ih, Nat.succ_div,
        List.flatMap_singleton, count_framePattern, Nat.one_mul, Nat.add_comm 1 frames]

/-! ## The messages of a run -/

theorem kinds_mainTasks (frameCounter : Nat) (currentTime startTime : UInt32)
    (rx : Spektrum.Receiver) (link : Link) (system : MavlinkSystem) :
    ((mainTasks frameCounter currentTime startTime rx).flatMap (messagesOf link system)).map
      Message.kind = framePattern frameCounter := by
  rw [List.map_flatMap, flatMap_mainTasks]
  simp only [messagesOf, List.map_nil, List.append_nil, List.nil_append, ite_self]
  rfl

/-- The kinds of the messages from a frame of the pattern on. -/
theorem kinds_outputs {program : Program timers} {count : Nat}
    (counter_eq : program.loop.frameCounter = count % 100) (events : List Event) :
    ((firmware.outputs program events).flatMap reported).map Message.kind =
      (List.range' (count + 1) (dueTicks program.loop (passes program events)).length).flatMap
        framePattern := by
  induction events generalizing program count with
  | nil => rfl
  | cons event events ih =>
      rw [Transducer.outputs_cons, List.flatMap_cons, List.map_append, passes,
        Transducer.collect_cons]
      have loop_eq := loop_step event program
      cases event with
      | thread event =>
          have rest := @ih (step (.thread event) program).2 count
            (by rw [loop_eq]; exact counter_eq)
          rw [loop_eq] at rest
          rw [show reported (firmware.step (.thread event) program).1 = _ from
            reported_thread event program]
          exact rest
      | pass =>
          rw [show reported (firmware.step .pass program).1 = _ from reported_pass program,
            nextCalls, mainPass, timedPasses, List.singleton_append, dueTicks,
            Transducer.collect_cons]
          by_cases due : program.loop.Due (reading program.now)
          · have counted := frameCounter_mainPass counter_eq due program.rx
            have rest := @ih (step .pass program).2 (count + 1) (by rw [loop_eq]; exact counted)
            rw [loop_eq] at rest
            rw [if_pos due, if_pos due, kinds_mainTasks, nextFrame_eq counter_eq,
              framePattern_next, List.singleton_append, List.length_cons, List.range'_succ,
              List.flatMap_cons]
            exact congrArg (framePattern (count + 1) ++ ·) rest
          · have same : (mainPass (reading program.now) program.rx program.loop).2 =
                program.loop := by rw [mainPass, if_neg due]
            have rest := @ih (step .pass program).2 count
              (by rw [loop_eq]; exact (congrArg MainLoop.frameCounter same).trans counter_eq)
            rw [loop_eq] at rest
            rw [if_neg due, if_neg due, List.nil_append]
            exact rest

/-- The kinds of the messages of a run, in their order, depend on nothing but the number of
its due frames: they are the pattern of as many frames, and each kind is sent as often as
its divisor goes into their number. -/
theorem telemetry_pattern (timers : VirtualTimers) (start : Nat) (early : List ThreadEvent)
    (events : List Event) :
    let frames :=
      (dueTicks (entered timers start early).loop
        (passes (entered timers start early) events)).length
    let kinds := (telemetry timers start early events).map Message.kind
    kinds = (List.range' 1 frames).flatMap framePattern ∧
      ∀ kind, kinds.count kind = frames / kind.divisor := by
  intro frames kinds
  have counter_eq : (entered timers start early).loop.frameCounter = 0 % 100 :=
    congrArg MainLoop.frameCounter (entered_eq timers start early).1
  have kinds_eq : kinds = (List.range' 1 frames).flatMap framePattern :=
    kinds_outputs counter_eq events
  refine ⟨kinds_eq, fun kind => ?_⟩
  rw [kinds_eq]
  exact count_pattern kind frames

end ChibiCopter.Firmware
