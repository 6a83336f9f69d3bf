import ChibiCopter.Flight.MainLoop
import ChibiCopter.Library.Clock
import ChibiCopter.Library.Cyclic

/-!
# The shares of the task groups

A due frame runs the task groups whose divisor divides the frame counter.  The counter
is raised in front of the groups and starts again behind them when it has reached 100,
so that it stands at the number of due frames modulo 100.  All divisors divide 100: a
group runs in every due frame whose number, counted from the start without end, is a
multiple of its divisor.
-/

namespace ChibiCopter.Flight

open Spektrum Clock Cyclic

/-! ## Task groups -/

/-- The divisors of the six task groups, from 100 Hz to 1 Hz. -/
def divisors : List Nat := [1, 2, 4, 10, 20, 100]

/-- The calls of the task group with a divisor. -/
def taskGroup (divisor : Nat) (currentTime startTime : UInt32) (rx : Receiver) :
    List MainCall :=
  match divisor with
  | 1 => [.gyroRead, .accelRead]
  | 2 => [.motorsSetSpeed 0 (toPwmcnt (getSpektrumData throttleChannel rx))]
  | 10 => [.commsSendAttitude (st2msSinceStart currentTime startTime)]
  | 20 =>
      [.commsSendGPSRaw (st2msSinceStart currentTime startTime).toUInt64
        0 0 0 0 65535 65535 0 0 255]
  | 100 => [.commsSendSysStatus, .commsSendHeartbeat]
  | _ => []

/-- The task groups that a due frame runs. -/
def groupsOf (frameCounter : Nat) : List Nat :=
  divisors.filter fun divisor => frameCounter % divisor = 0

/-- The calls of a due pass are those of its groups, one group after the other. -/
theorem mainTasks_groups (frameCounter : Nat) (currentTime startTime : UInt32) (rx : Receiver) :
    mainTasks frameCounter currentTime startTime rx =
      (groupsOf frameCounter).flatMap fun divisor =>
        taskGroup divisor currentTime startTime rx := by
  have select (divisor : Nat) (rest : List Nat) :
      ((divisor :: rest).filter fun divisor => frameCounter % divisor = 0).flatMap
          (fun divisor => taskGroup divisor currentTime startTime rx) =
        (if frameCounter % divisor = 0 then taskGroup divisor currentTime startTime rx else []) ++
          (rest.filter fun divisor => frameCounter % divisor = 0).flatMap
            fun divisor => taskGroup divisor currentTime startTime rx := by
    by_cases divides : frameCounter % divisor = 0
    · simp [divides]
    · simp [divides]
  simp only [groupsOf, divisors, select, List.filter_nil, List.flatMap_nil, List.append_nil]
  simp only [mainTasks, taskGroup, List.append_assoc]

/-! ## Runs of the loop -/

/-- What a pass reads: the system time, and the receiver data that the tasks use. -/
structure Pass where
  currentTime : UInt32
  rx : Receiver

def scheduler : Transducer MainLoop Pass (List MainCall) :=
  ⟨fun pass loop => mainPass pass.currentTime pass.rx loop⟩

/-- A pass at some tick of the clock. -/
structure TimedPass where
  tick : Nat
  rx : Receiver

/-- What the pass reads. -/
def TimedPass.pass (timed : TimedPass) : Pass := ⟨reading timed.tick, timed.rx⟩

def timedScheduler : Transducer MainLoop TimedPass (List MainCall) :=
  ⟨fun timed loop => scheduler.step timed.pass loop⟩

/-- The ticks of the due passes that run a task group. -/
def groupTicks (divisor : Nat) (loop : MainLoop) (passes : List TimedPass) : List Nat :=
  timedScheduler.collect (fun pass loop =>
    if loop.Due (reading pass.tick) ∧ loop.nextFrame % divisor = 0 then [pass.tick] else [])
    loop passes

/-- The groups that a pass runs, if it is due. -/
def MainLoop.groups (loop : MainLoop) (pass : Pass) : Option (List Nat) :=
  if loop.Due pass.currentTime then some (groupsOf loop.nextFrame) else none

/-- The groups run in the due frames of a run, frame by frame. -/
def dueFrames (loop : MainLoop) (passes : List Pass) : List (List Nat) :=
  scheduler.collect (fun pass loop => (loop.groups pass).toList) loop passes

/-- The numbers of the due frames that have run a group. -/
def executions (divisor : Nat) (frames : List (List Nat)) : List Nat :=
  occurrences (fun groups => decide (divisor ∈ groups)) frames

/-- A pass makes the calls of its groups, and none if it is not due. -/
theorem mainPass_groups (pass : Pass) (loop : MainLoop) :
    (mainPass pass.currentTime pass.rx loop).1 =
      ((loop.groups pass).getD []).flatMap fun divisor =>
        taskGroup divisor pass.currentTime loop.startTime pass.rx := by
  by_cases due : loop.Due pass.currentTime
  · rw [mainPass, if_pos due, MainLoop.groups, if_pos due, Option.getD_some, mainTasks_groups]
  · rw [mainPass, if_neg due, MainLoop.groups, if_neg due]
    rfl

/-- The loop counts the due frames so far modulo 100, and each of them has run the
groups that divide its number. -/
structure OnSchedule (frames : List (List Nat)) (loop : MainLoop) : Prop where
  counter_eq : loop.frameCounter = frames.length % 100
  regular : ∀ ix groups, frames[ix]? = some groups →
    ∀ divisor ∈ divisors, divisor ∈ groups ↔ (ix + 1) % divisor = 0

theorem divides_period {divisor : Nat} (member : divisor ∈ divisors) : divisor ∣ 100 := by
  revert divisor
  decide

theorem mem_groupsOf {divisor : Nat} (member : divisor ∈ divisors) (frameCounter : Nat) :
    divisor ∈ groupsOf frameCounter ↔ frameCounter % divisor = 0 := by
  rw [groupsOf, List.mem_filter]
  exact ⟨fun found => of_decide_eq_true found.2, fun divides => ⟨member, decide_eq_true divides⟩⟩

theorem OnSchedule.pass {frames : List (List Nat)} {loop : MainLoop}
    (onSchedule : OnSchedule frames loop) (pass : Pass) :
    OnSchedule (frames ++ (loop.groups pass).toList)
      (mainPass pass.currentTime pass.rx loop).2 := by
  by_cases due : loop.Due pass.currentTime
  · have below : frames.length % 100 < 100 := Nat.mod_lt _ (by decide)
    have frame_eq : loop.nextFrame = frames.length % 100 + 1 := by
      rw [MainLoop.nextFrame, onSchedule.counter_eq]
      exact Nat.mod_eq_of_lt (by omega)
    have groups_eq : (loop.groups pass).toList = [groupsOf (frames.length % 100 + 1)] := by
      rw [MainLoop.groups, if_pos due, frame_eq]
      rfl
    rw [groups_eq, mainPass, if_pos due, frame_eq]
    constructor
    · rw [List.length_append, List.length_singleton]
      exact next_mod (by decide) frames.length
    · intro ix groups at_ix divisor member
      rcases Nat.lt_trichotomy ix frames.length with before | last | behind
      · rw [List.getElem?_append_left before] at at_ix
        exact onSchedule.regular ix groups at_ix divisor member
      · subst last
        rw [List.getElem?_concat_length] at at_ix
        cases at_ix
        rw [mem_groupsOf member, mod_next (divides_period member)]
      · have beyond : (frames ++ [groupsOf (frames.length % 100 + 1)]).length ≤ ix := by
          rw [List.length_append, List.length_singleton]
          exact behind
        rw [List.getElem?_eq_none beyond] at at_ix
        cases at_ix
  · rw [MainLoop.groups, if_neg due, mainPass, if_neg due, Option.toList_none, List.append_nil]
    exact onSchedule

theorem onSchedule_final (startTime previousTime : UInt32) (passes : List Pass) :
    OnSchedule (dueFrames ⟨startTime, previousTime, 0⟩ passes)
      (scheduler.final ⟨startTime, previousTime, 0⟩ passes) := by
  refine scheduler.final_history
    (fun earlier => OnSchedule (dueFrames ⟨startTime, previousTime, 0⟩ earlier)) ?_ ?_ passes
  · exact ⟨rfl, fun ix groups at_ix => absurd at_ix (by simp [dueFrames])⟩
  · intro earlier pass onSchedule
    rw [dueFrames, Transducer.collect_concat]
    exact onSchedule.pass pass

/-- Every task group runs at its exact share, in every run of the loop; passes that are
not due call nothing; and no pass finds the frame counter beyond 99. -/
theorem shares_exact (startTime previousTime : UInt32) (passes : List Pass) :
    (∀ divisor ∈ divisors,
      let frames := dueFrames ⟨startTime, previousTime, 0⟩ passes
      executions divisor frames = multiples divisor (frames.length / divisor) ∧
        (executions divisor frames).length = frames.length / divisor) ∧
    ∀ earlier pass later, passes = earlier ++ pass :: later →
      let loop := scheduler.final ⟨startTime, previousTime, 0⟩ earlier
      loop.frameCounter ≤ 99 ∧
        (mainPass pass.currentTime pass.rx loop).1 =
          ((loop.groups pass).getD []).flatMap (fun divisor =>
            taskGroup divisor pass.currentTime loop.startTime pass.rx) ∧
        (¬ loop.Due pass.currentTime → mainPass pass.currentTime pass.rx loop = ([], loop)) := by
  constructor
  · intro divisor member frames
    have executions_eq : executions divisor frames =
        multiples divisor (frames.length / divisor) := by
      refine occurrences_eq_multiples fun ix groups at_ix => ?_
      rw [decide_eq_true_iff]
      exact (onSchedule_final startTime previousTime passes).regular ix groups at_ix divisor
        member
    exact ⟨executions_eq, by rw [executions_eq, length_multiples]⟩
  · intro earlier pass later _ loop
    have counter_eq : loop.frameCounter = _ :=
      (onSchedule_final startTime previousTime earlier).counter_eq
    refine ⟨?_, mainPass_groups pass loop, fun idle => if_neg idle⟩
    rw [counter_eq]
    exact Nat.le_of_lt_succ (Nat.mod_lt _ (by decide))

end ChibiCopter.Flight
