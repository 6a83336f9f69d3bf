import ChibiCopter.Flight.Schedule
import ChibiCopter.Spektrum.Framing

/-!
# The timestamps of attitude messages

An attitude message is to carry the milliseconds since the start.  The conversion macro
divides its argument as text, so that the division binds to the start time alone, and
multiplies the difference by 1000, although a tick is a millisecond already.  The
result is right for one reading of the clock in a whole round.
-/

namespace ChibiCopter.Flight

open Spektrum Clock

/-! ## Runs on a clock -/

/-- The clock does not go back, and less than one round has gone by since the start. -/
structure Clocked (start previous : Nat) (passes : List TimedPass) : Prop where
  started : start ≤ previous
  ordered : (passes.map TimedPass.tick).Pairwise (· ≤ ·)
  behind : ∀ pass ∈ passes, previous ≤ pass.tick
  within : ∀ pass ∈ passes, pass.tick < start + 2 ^ 32

/-- The time that an attitude message carries. -/
def MainCall.timeBootMs? : MainCall → Option UInt32
  | .commsSendAttitude timeBootMs => some timeBootMs
  | _ => none

/-- The attitude messages of a run, each with the tick of its pass. -/
def attitudes (loop : MainLoop) (passes : List TimedPass) : List (Nat × UInt32) :=
  timedScheduler.collect (fun pass loop =>
    ((mainPass (reading pass.tick) pass.rx loop).1.filterMap MainCall.timeBootMs?).map
      fun timeBootMs => (pass.tick, timeBootMs)) loop passes

/-- The loop variables when `main` enters its loop. -/
def loopStart (start previous : Nat) : MainLoop := ⟨reading start, reading previous, 0⟩

/-- The messages carry the milliseconds since the start, and each a later time than the
one before it. -/
structure FollowsClock (start : Nat) (messages : List (Nat × UInt32)) : Prop where
  elapsed : ∀ message ∈ messages,
    message.2.toNat = (message.1 - start) * 1000 / chFrequency.toNat
  increasing : (messages.map Prod.snd).Pairwise (· < ·)

/-! ## The conversion -/

/-- The text of the macro gives the milliseconds for one clock reading only. -/
theorem st2msSinceStart_iff (currentTime startTime : UInt32) :
    st2msSinceStart currentTime startTime = currentTime - startTime ↔
      999 * currentTime + startTime % 1000 = 0 := by
  have split : startTime = 1000 * (startTime / 1000) + startTime % 1000 := by
    have below := startTime.toNat_lt
    apply UInt32.toNat_inj.mp
    rw [UInt32.toNat_add, UInt32.toNat_mul, UInt32.toNat_div, UInt32.toNat_mod]
    change startTime.toNat =
      (1000 * (startTime.toNat / 1000) % 2 ^ 32 + startTime.toNat % 1000) % 2 ^ 32
    omega
  rw [st2msSinceStart, chFrequency]
  generalize startTime / 1000 = seconds at *
  generalize startTime % 1000 = rest at *
  subst split
  grind

/-- 999 has an inverse, so that the reading is determined. -/
theorem right_reading_unique {first second rest : UInt32} (firstRight : 999 * first + rest = 0)
    (secondRight : 999 * second + rest = 0) : first = second := by
  have inverse : (0xFBE65FD7 : UInt32) * 999 = 1 := by decide
  grind

theorem filterMap_timeBootMs (frameCounter : Nat) (currentTime startTime : UInt32)
    (rx : Receiver) :
    (mainTasks frameCounter currentTime startTime rx).filterMap MainCall.timeBootMs? =
      if frameCounter % 10 = 0 then [st2msSinceStart currentTime startTime] else [] := by
  rw [List.filterMap_eq_flatMap_toList, flatMap_mainTasks]
  simp only [MainCall.timeBootMs?, Option.toList_none, Option.toList_some, List.append_nil,
    List.nil_append, ite_self]

/-! ## Attitude messages of a run -/

theorem startTime_mainPass (currentTime : UInt32) (rx : Receiver) (loop : MainLoop) :
    (mainPass currentTime rx loop).2.startTime = loop.startTime := by
  unfold mainPass
  split <;> rfl

/-- Each 10 Hz pass sends one message. -/
theorem attitudes_eq (loop : MainLoop) (passes : List TimedPass) :
    attitudes loop passes =
      (groupTicks 10 loop passes).map fun tick =>
        (tick, st2msSinceStart (reading tick) loop.startTime) := by
  induction passes generalizing loop with
  | nil => rfl
  | cons pass passes ih =>
      have rest := ih (mainPass (reading pass.tick) pass.rx loop).2
      rw [startTime_mainPass] at rest
      have messages : ((mainPass (reading pass.tick) pass.rx loop).1.filterMap
            MainCall.timeBootMs?).map (fun timeBootMs => (pass.tick, timeBootMs)) =
          (if loop.Due (reading pass.tick) ∧ loop.nextFrame % 10 = 0 then [pass.tick]
            else []).map fun tick => (tick, st2msSinceStart (reading tick) loop.startTime) := by
        by_cases due : loop.Due (reading pass.tick)
        · rw [mainPass, if_pos due, filterMap_timeBootMs]
          by_cases tenth : loop.nextFrame % 10 = 0
          · rw [if_pos tenth, if_pos ⟨due, tenth⟩]
            rfl
          · rw [if_neg tenth, if_neg fun both => tenth both.2]
            rfl
        · rw [mainPass, if_neg due, if_neg fun both => due both.1]
          rfl
      rw [attitudes, groupTicks, Transducer.collect_cons, Transducer.collect_cons,
        List.map_append, messages]
      exact congrArg _ rest

theorem Clocked.tail {start previous : Nat} {pass : TimedPass} {passes : List TimedPass}
    (clocked : Clocked start previous (pass :: passes)) :
    Clocked start previous passes ∧ Clocked start pass.tick passes := by
  have ordered := List.pairwise_cons.mp clocked.ordered
  have later : ∀ other ∈ passes, pass.tick ≤ other.tick :=
    fun other member => ordered.1 other.tick (List.mem_map_of_mem member)
  have first : previous ≤ pass.tick := clocked.behind pass List.mem_cons_self
  have within : ∀ other ∈ passes, other.tick < start + 2 ^ 32 :=
    fun other member => clocked.within other (List.mem_cons_of_mem pass member)
  exact ⟨⟨clocked.started, ordered.2,
      fun other member => first.trans (later other member), within⟩,
    ⟨clocked.started.trans first, ordered.2, later, within⟩⟩

/-- The ticks of a task group rise, since a due pass comes at least ten ticks behind the last
one. -/
theorem groupTicks_increasing (divisor : Nat) {start previous : Nat}
    {passes : List TimedPass} (clocked : Clocked start previous passes) {loop : MainLoop}
    (last : loop.previousTime = reading previous) :
    (∀ tick ∈ groupTicks divisor loop passes, previous < tick ∧ tick < start + 2 ^ 32) ∧
      (groupTicks divisor loop passes).Pairwise (· < ·) := by
  induction passes generalizing loop previous with
  | nil => exact ⟨fun tick member => absurd member List.not_mem_nil, List.Pairwise.nil⟩
  | cons pass passes ih =>
      have first : previous ≤ pass.tick := clocked.behind pass List.mem_cons_self
      have within : pass.tick < start + 2 ^ 32 := clocked.within pass List.mem_cons_self
      have started := clocked.started
      rw [groupTicks, Transducer.collect_cons]
      by_cases due : loop.Due (reading pass.tick)
      · have elapsed : previous + 10 ≤ pass.tick := by
          rw [MainLoop.Due, last, ge_iff_le, le_sub_reading_iff first (by omega)] at due
          exact due
        obtain ⟨bounds, rising⟩ := @ih pass.tick clocked.tail.2
          (mainPass (reading pass.tick) pass.rx loop).2 (by rw [mainPass, if_pos due])
        have later (tick : Nat) (member : tick ∈ groupTicks divisor
            (mainPass (reading pass.tick) pass.rx loop).2 passes) :
            previous < tick ∧ tick < start + 2 ^ 32 := by
          have bound := bounds tick member
          omega
        split
        · refine ⟨?_, List.pairwise_cons.mpr ⟨fun tick member => (bounds tick member).1, rising⟩⟩
          exact List.forall_mem_cons.mpr ⟨⟨by omega, within⟩, later⟩
        · exact ⟨later, rising⟩
      · rw [if_neg fun both => due both.1]
        exact @ih previous clocked.tail.1 (mainPass (reading pass.tick) pass.rx loop).2
          (by rw [mainPass, if_neg due]; exact last)

theorem groupTicks_loopStart (divisor : Nat) {start previous : Nat}
    {passes : List TimedPass} (clocked : Clocked start previous passes) :
    (∀ tick ∈ groupTicks divisor (loopStart start previous) passes,
        start < tick ∧ tick < start + 2 ^ 32) ∧
      (groupTicks divisor (loopStart start previous) passes).Pairwise (· < ·) := by
  have last : (loopStart start previous).previousTime = reading previous := rfl
  obtain ⟨bounds, rising⟩ := groupTicks_increasing divisor clocked last
  refine ⟨fun tick member => ?_, rising⟩
  exact ⟨clocked.started.trans_lt (bounds tick member).1, (bounds tick member).2⟩

/-- A timestamp is right for one reading of the clock. -/
theorem timestamp_right_iff {start tick : Nat} (ordered : start ≤ tick)
    (near : tick < start + 2 ^ 32) :
    (st2msSinceStart (reading tick) (reading start)).toNat =
        (tick - start) * 1000 / chFrequency.toNat ↔
      999 * reading tick + reading start % 1000 = 0 := by
  have elapsed : (tick - start) * 1000 / chFrequency.toNat = tick - start :=
    Nat.mul_div_cancel (tick - start) (by decide)
  rw [elapsed, ← toNat_sub_reading ordered near, UInt32.toNat_inj, st2msSinceStart_iff]

/-- The messages of a run carry the milliseconds since the start if and only if each is
sent at a reading of the clock for which the conversion is right. -/
theorem elapsed_iff {start previous : Nat} {passes : List TimedPass}
    (clocked : Clocked start previous passes) :
    (∀ message ∈ attitudes (loopStart start previous) passes,
        message.2.toNat = (message.1 - start) * 1000 / chFrequency.toNat) ↔
      ∀ tick ∈ groupTicks 10 (loopStart start previous) passes,
        999 * reading tick + reading start % 1000 = 0 := by
  have bounds := (groupTicks_loopStart 10 clocked).1
  rw [attitudes_eq, List.forall_mem_map]
  refine forall₂_congr fun tick member => ?_
  exact timestamp_right_iff (Nat.le_of_lt (bounds tick member).1) (bounds tick member).2

/-- Right messages come in their order. -/
theorem increasing_of_elapsed {start previous : Nat} {passes : List TimedPass}
    (clocked : Clocked start previous passes)
    (elapsed : ∀ message ∈ attitudes (loopStart start previous) passes,
      message.2.toNat = (message.1 - start) * 1000 / chFrequency.toNat) :
    ((attitudes (loopStart start previous) passes).map Prod.snd).Pairwise (· < ·) := by
  obtain ⟨bounds, rising⟩ := groupTicks_loopStart 10 clocked
  rw [attitudes_eq, List.forall_mem_map] at elapsed
  rw [attitudes_eq, List.map_map, List.pairwise_map]
  refine rising.imp_of_mem fun {first second} firstMember secondMember before => ?_
  have firstTime := elapsed first firstMember
  have secondTime := elapsed second secondMember
  have firstBound := bounds first firstMember
  rw [show chFrequency.toNat = 1000 from rfl, Nat.mul_div_cancel _ (by decide)]
    at firstTime secondTime
  change st2msSinceStart (reading first) (reading start) <
    st2msSinceStart (reading second) (reading start)
  rw [UInt32.lt_iff_toNat_lt]
  exact firstTime.trans_lt (Nat.lt_of_lt_of_eq (by omega) secondTime.symm)

/-- At most one message is right. -/
theorem right_single {start previous : Nat} {passes : List TimedPass}
    (clocked : Clocked start previous passes)
    (right : ∀ tick ∈ groupTicks 10 (loopStart start previous) passes,
      999 * reading tick + reading start % 1000 = 0) :
    (groupTicks 10 (loopStart start previous) passes).length ≤ 1 := by
  obtain ⟨bounds, rising⟩ := groupTicks_loopStart 10 clocked
  cases ticks : groupTicks 10 (loopStart start previous) passes with
  | nil => exact Nat.zero_le 1
  | cons first others =>
      cases others with
      | nil => exact Nat.le_refl 1
      | cons second rest =>
          rw [ticks] at right rising bounds
          have firstBound := bounds first List.mem_cons_self
          have secondBound := bounds second (List.mem_cons_of_mem first List.mem_cons_self)
          have before := List.rel_of_pairwise_cons rising List.mem_cons_self
          have same := right_reading_unique (right first List.mem_cons_self)
            (right second (List.mem_cons_of_mem first List.mem_cons_self))
          have equal := eq_of_reading_eq (Nat.le_of_lt before) (by omega) same
          omega

/-- The messages of a run follow the clock if and only if each is sent at the one reading
of the clock for which the conversion is right; and then there is at most one. -/
theorem followsClock_iff {start previous : Nat} {passes : List TimedPass}
    (clocked : Clocked start previous passes) :
    (FollowsClock start (attitudes (loopStart start previous) passes) ↔
      ∀ tick ∈ groupTicks 10 (loopStart start previous) passes,
        999 * reading tick + reading start % 1000 = 0) ∧
    (FollowsClock start (attitudes (loopStart start previous) passes) →
      (groupTicks 10 (loopStart start previous) passes).length ≤ 1) := by
  have right_iff := elapsed_iff clocked
  refine ⟨⟨fun follows => right_iff.mp follows.elapsed, fun right => ?_⟩, fun follows => ?_⟩
  · have elapsed := right_iff.mpr right
    exact ⟨elapsed, increasing_of_elapsed clocked elapsed⟩
  · exact right_single clocked (right_iff.mp follows.elapsed)

/-- Ten frames of ten milliseconds from a start at tick 0. -/
def firstTenth : List TimedPass :=
  (List.range 10).map fun frame => ⟨10 * (frame + 1), zeroGlobals⟩

theorem clocked_firstTenth : Clocked 0 0 firstTenth where
  started := Nat.le_refl 0
  ordered := by decide
  behind := fun pass _ => Nat.zero_le pass.tick
  within := by
    intro pass member
    obtain ⟨frame, inRange, rfl⟩ := List.mem_map.mp member
    have below := List.mem_range.mp inRange
    change 10 * (frame + 1) < 0 + 2 ^ 32
    omega

theorem not_followsClock_firstTenth : ¬ FollowsClock 0 (attitudes (loopStart 0 0) firstTenth) := by
  rw [(followsClock_iff clocked_firstTenth).1]
  decide +kernel

/-- The first message says 100000 milliseconds instead of 100. -/
theorem timestamp_scaled : ¬ ∀ start previous passes, Clocked start previous passes →
    FollowsClock start (attitudes (loopStart start previous) passes) := by
  intro follows
  have sent : attitudes (loopStart 0 0) firstTenth = [(100, 100000)] := by decide +kernel
  have elapsed := (follows 0 0 firstTenth clocked_firstTenth).elapsed (100, 100000)
    (by rw [sent]; exact List.mem_singleton.mpr rfl)
  exact absurd elapsed (by decide)

end ChibiCopter.Flight
