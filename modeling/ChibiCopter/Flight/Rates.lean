import ChibiCopter.Flight.Schedule
import ChibiCopter.Flight.Spacing

/-!
# The rates of the task groups

The due frames are at least ten ticks apart and the task groups take their shares of
them.  Together this bounds the time between two executions of a group from both sides,
and with it the number of executions in any stretch of time.
-/

namespace ChibiCopter.Flight

open Clock Cyclic

/-- A due pass counts one frame more. -/
theorem nextFrame_eq {loop : MainLoop} {count : Nat}
    (counter_eq : loop.frameCounter = count % 100) : loop.nextFrame = count % 100 + 1 := by
  have below : count % 100 < 100 := Nat.mod_lt _ (by decide)
  rw [MainLoop.nextFrame, counter_eq]
  exact Nat.mod_eq_of_lt (by omega)

theorem frameCounter_mainPass {loop : MainLoop} {count : Nat}
    (counter_eq : loop.frameCounter = count % 100) {currentTime : UInt32}
    (due : loop.Due currentTime) (rx : Spektrum.Receiver) :
    (mainPass currentTime rx loop).2.frameCounter = (count + 1) % 100 := by
  rw [mainPass, if_pos due, nextFrame_eq counter_eq]
  exact next_mod (by decide) count

/-- A group runs in every due frame whose number is a multiple of its divisor. -/
theorem groupTicks_eq {divisor : Nat} (divides : divisor ∣ 100) {loop : MainLoop} {count : Nat}
    (counter_eq : loop.frameCounter = count % 100) (passes : List TimedPass) :
    groupTicks divisor loop passes = every divisor count (dueTicks loop passes) := by
  induction passes generalizing loop count with
  | nil => rfl
  | cons pass passes ih =>
      rw [groupTicks, dueTicks, Transducer.collect_cons, Transducer.collect_cons]
      by_cases due : loop.Due (reading pass.tick)
      · have rest := @ih (mainPass (reading pass.tick) pass.rx loop).2 (count + 1)
          (frameCounter_mainPass counter_eq due pass.rx)
        rw [if_pos due, List.singleton_append, every]
        rw [nextFrame_eq counter_eq, mod_next divides]
        by_cases multiple : (count + 1) % divisor = 0
        · rw [if_pos ⟨due, multiple⟩, if_pos multiple, List.singleton_append]
          exact congrArg (pass.tick :: ·) rest
        · rw [if_neg fun both => multiple both.2, if_neg multiple, List.nil_append]
          exact rest
      · have kept : (mainPass (reading pass.tick) pass.rx loop).2 = loop := by
          rw [mainPass, if_neg due]
        have rest := @ih (mainPass (reading pass.tick) pass.rx loop).2 count
          (by rw [kept, counter_eq])
        rw [if_neg due, if_neg fun both => due both.1, List.nil_append, List.nil_append]
        exact rest

/-- No reading of the clock is far behind the frames that have been due. -/
theorem tick_le_dueTicks {limit : Nat} (bounded : limit ≤ 2 ^ 32 - 10) {loop : MainLoop}
    {last now : Nat} (last_eq : loop.previousTime = reading last) (ordered : last ≤ now)
    (early : now < last + 10) {passes : List TimedPass} (polled : Polled limit now passes)
    {pass : TimedPass} (member : pass ∈ passes) :
    pass.tick ≤ last + 9 + (dueTicks loop passes).length * (9 + limit) := by
  induction passes generalizing loop last now with
  | nil => cases member
  | cons first passes ih =>
      obtain ⟨⟨forward, soon⟩, later⟩ := List.isChain_cons_cons.mp polled
      have due_iff_late := due_iff last_eq (ordered.trans forward) (by omega)
      rw [dueTicks, Transducer.collect_cons]
      by_cases due : loop.Due (reading first.tick)
      · have rest := @ih (mainPass (reading first.tick) first.rx loop).2 first.tick first.tick
          (by rw [mainPass, if_pos due]) (Nat.le_refl _) (by omega) later
        rw [if_pos due, List.singleton_append, List.length_cons, Nat.succ_mul]
        rcases List.mem_cons.mp member with rfl | inRest
        · omega
        · have bound : pass.tick ≤ first.tick + 9 + (timedScheduler.collect _
              (timedScheduler.step first loop).2 passes).length * (9 + limit) := rest inRest
          omega
      · have waits := mt due_iff_late.mpr due
        rw [if_neg due, List.nil_append]
        rcases List.mem_cons.mp member with rfl | inRest
        · omega
        · exact @ih (mainPass (reading first.tick) first.rx loop).2 last first.tick
            (by rw [mainPass, if_neg due]; exact last_eq) (ordered.trans forward) (by omega) later
            inRest

theorem isChain_groupTicks {limit start : Nat} (bounded : limit ≤ 2 ^ 32 - 10)
    {passes : List TimedPass} (polled : Polled limit start passes) (startTime : UInt32)
    {divisor : Nat} (member : divisor ∈ divisors) :
    (start :: groupTicks divisor ⟨startTime, reading start, 0⟩ passes).IsChain
      fun earlier later =>
        earlier + divisor * 10 ≤ later ∧ later ≤ earlier + divisor * (9 + limit) := by
  have positive : 0 < divisor := Nat.pos_of_dvd_of_pos (divides_period member) (by decide)
  have spaced : Spaced limit start (dueTicks ⟨startTime, reading start, 0⟩ passes) :=
    spaced_dueTicks bounded rfl (Nat.le_refl start) (by omega) polled
  rw [@groupTicks_eq divisor (divides_period member) _ 0 rfl]
  refine every_spaced positive (by simp) (by simp) (spaced.imp fun earlier later gap => ?_)
  omega

/-- No group runs before its first share of the time has gone by. -/
theorem le_of_mem_groupTicks {limit start : Nat} (bounded : limit ≤ 2 ^ 32 - 10)
    {passes : List TimedPass} (polled : Polled limit start passes) (startTime : UInt32)
    {divisor : Nat} (member : divisor ∈ divisors) {tick : Nat}
    (runs : tick ∈ groupTicks divisor ⟨startTime, reading start, 0⟩ passes) :
    start + divisor * 10 ≤ tick := by
  have positive : 0 < divisor := Nat.pos_of_dvd_of_pos (divides_period member) (by decide)
  have room := @length_filter_mul_le (divisor * 10) tick start _
    ((isChain_groupTicks bounded polled startTime member).imp fun _ _ gap => gap.1)
  have counted : 0 < ((groupTicks divisor ⟨startTime, reading start, 0⟩ passes).filter
      (· ≤ tick)).length :=
    List.length_pos_of_mem (List.mem_filter.mpr ⟨runs, decide_eq_true (Nat.le_refl tick)⟩)
  have least := Nat.mul_le_mul_right (divisor * 10) counted
  omega

/-- In every run that polls the clock often enough, each task group keeps its rate: the
start and its executions are at least ten and at most nine and the polling limit times
its divisor apart, no stretch of time has more of them than that allows, and none of them
is missing at any reading of the clock. -/
theorem rates_kept {limit start : Nat} (bounded : limit ≤ 2 ^ 32 - 10)
    {passes : List TimedPass} (polled : Polled limit start passes) (startTime : UInt32)
    {divisor : Nat} (member : divisor ∈ divisors) :
    let executions := groupTicks divisor ⟨startTime, reading start, 0⟩ passes
    ((start :: executions).IsChain fun earlier later =>
      earlier + divisor * 10 ≤ later ∧ later ≤ earlier + divisor * (9 + limit)) ∧
    (∀ span, (executions.filter (· ≤ start + span)).length ≤ span / (divisor * 10)) ∧
    ∀ pass ∈ passes,
      pass.tick + limit ≤ start + (executions.length + 1) * (divisor * (9 + limit)) := by
  intro executions
  have positive : 0 < divisor := Nat.pos_of_dvd_of_pos (divides_period member) (by decide)
  have chain := isChain_groupTicks bounded polled startTime member
  refine ⟨chain, fun span => ?_, fun pass inPasses => ?_⟩
  · have room := @length_filter_mul_le (divisor * 10) (start + span) start _
      (chain.imp fun _ _ gap => gap.1)
    rw [Nat.add_sub_cancel_left] at room
    exact (Nat.le_div_iff_mul_le (by omega)).mpr room
  · have reached := @tick_le_dueTicks limit bounded ⟨startTime, reading start, 0⟩ start start rfl
      (Nat.le_refl start) (by omega) passes polled pass inPasses
    have few := lt_length_every positive 0 (dueTicks ⟨startTime, reading start, 0⟩ passes)
    rw [← @groupTicks_eq divisor (divides_period member) _ 0 rfl, Nat.zero_mod, Nat.zero_add]
      at few
    have frames : ((dueTicks ⟨startTime, reading start, 0⟩ passes).length + 1) * (9 + limit) ≤
        divisor * (executions.length + 1) * (9 + limit) :=
      Nat.mul_le_mul_right (9 + limit) few
    rw [Nat.succ_mul] at frames
    rw [← Nat.mul_assoc, Nat.mul_comm (executions.length + 1)]
    omega

/-- Four groups of a run that polls the clock every ten ticks. -/
theorem rates_kept_steady :
    let executions := groupTicks 4 ⟨0, 0, 0⟩
      ((List.range 12).map fun k => ⟨10 * (k + 1), Spektrum.zeroGlobals⟩)
    executions = [40, 80, 120] ∧
      (executions.filter (· ≤ 0 + 100)).length ≤ 100 / (4 * 10) := by
  have polled : Polled 10 0
      ((List.range 12).map fun k => ⟨10 * (k + 1), Spektrum.zeroGlobals⟩) := by
    simp [Polled, List.range, List.range.loop]
  exact ⟨by decide +kernel, (rates_kept (by omega) polled 0 (by decide)).2.1 100⟩

end ChibiCopter.Flight
