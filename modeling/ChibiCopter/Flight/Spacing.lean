import ChibiCopter.Flight.Timestamps

/-!
# The spacing of due frames

The loop sees differences of clock readings modulo 2 ^ 32 and nothing else.  As long as
it polls the clock often enough, no difference goes all the way round, so that a pass is
due exactly when ten ticks have gone by, however often the clock has wrapped.
-/

namespace ChibiCopter.Flight

open Clock

/-- The ticks of the due passes of a run. -/
def dueTicks (loop : MainLoop) (passes : List TimedPass) : List Nat :=
  timedScheduler.collect (fun pass loop =>
    if loop.Due (reading pass.tick) then [pass.tick] else []) loop passes

/-- The clock does not go back, and is read again within some number of ticks. -/
def Polled (limit start : Nat) (passes : List TimedPass) : Prop :=
  (start :: passes.map TimedPass.tick).IsChain fun earlier later =>
    earlier ≤ later ∧ later ≤ earlier + limit

/-- Each frame comes at least ten ticks behind the one before it, and no later than the
first reading of the clock behind them. -/
def Spaced (limit start : Nat) (frames : List Nat) : Prop :=
  (start :: frames).IsChain fun earlier later =>
    earlier + 10 ≤ later ∧ later ≤ earlier + 9 + limit

/-- Whether a pass is due, on the clock without end. -/
theorem due_iff {loop : MainLoop} {last tick : Nat} (last_eq : loop.previousTime = reading last)
    (ordered : last ≤ tick) (near : tick < last + 2 ^ 32) :
    loop.Due (reading tick) ↔ last + 10 ≤ tick := by
  rw [MainLoop.Due, last_eq, ge_iff_le, le_sub_reading_iff ordered near]
  rfl

/-- The frames behind a reading that was not due yet. -/
theorem spaced_dueTicks {limit : Nat} (bounded : limit ≤ 2 ^ 32 - 10) {loop : MainLoop}
    {last now : Nat} (last_eq : loop.previousTime = reading last) (ordered : last ≤ now)
    (early : now < last + 10) {passes : List TimedPass} (polled : Polled limit now passes) :
    Spaced limit last (dueTicks loop passes) := by
  induction passes generalizing loop last now with
  | nil => exact List.isChain_singleton last
  | cons pass passes ih =>
      obtain ⟨⟨forward, soon⟩, later⟩ := List.isChain_cons_cons.mp polled
      have due_iff_late := due_iff last_eq (ordered.trans forward) (by omega)
      rw [dueTicks, Transducer.collect_cons]
      by_cases due : loop.Due (reading pass.tick)
      · have late := due_iff_late.mp due
        have rest := @ih (mainPass (reading pass.tick) pass.rx loop).2 pass.tick pass.tick
          (by rw [mainPass, if_pos due]) (Nat.le_refl _) (by omega) later
        rw [if_pos due]
        exact List.isChain_cons_cons.mpr ⟨⟨late, by omega⟩, rest⟩
      · have waits := mt due_iff_late.mpr due
        rw [if_neg due]
        exact @ih (mainPass (reading pass.tick) pass.rx loop).2 last pass.tick
          (by rw [mainPass, if_neg due]; exact last_eq) (ordered.trans forward) (by omega) later

/-- In every run that polls the clock often enough, the start and the due frames are
spaced, so that no stretch of time has more frames than tens of ticks. -/
theorem frames_spaced {limit start : Nat} (bounded : limit ≤ 2 ^ 32 - 10)
    {passes : List TimedPass} (polled : Polled limit start passes) (startTime : UInt32) :
    Spaced limit start (dueTicks ⟨startTime, reading start, 0⟩ passes) ∧
      ∀ span, ((dueTicks ⟨startTime, reading start, 0⟩ passes).filter
        (· ≤ start + span)).length ≤ span / 10 := by
  have spaced : Spaced limit start (dueTicks ⟨startTime, reading start, 0⟩ passes) :=
    spaced_dueTicks bounded rfl (Nat.le_refl start) (by omega) polled
  refine ⟨spaced, fun span => ?_⟩
  have room := @length_filter_mul_le 10 (start + span) start _ (spaced.imp fun _ _ gap => gap.1)
  rw [Nat.add_sub_cancel_left] at room
  exact (Nat.le_div_iff_mul_le (by omega)).mpr room

/-- Two frames on either side of the end of the clock. -/
def acrossWrap : List TimedPass :=
  [⟨2 ^ 32 - 6, Spektrum.zeroGlobals⟩, ⟨2 ^ 32 - 1, Spektrum.zeroGlobals⟩,
    ⟨2 ^ 32 + 4, Spektrum.zeroGlobals⟩, ⟨2 ^ 32 + 12, Spektrum.zeroGlobals⟩]

theorem frames_spaced_acrossWrap :
    dueTicks ⟨0, reading (2 ^ 32 - 20), 0⟩ acrossWrap = [2 ^ 32 - 6, 2 ^ 32 + 4] ∧
      Spaced 14 (2 ^ 32 - 20) (dueTicks ⟨0, reading (2 ^ 32 - 20), 0⟩ acrossWrap) :=
  ⟨by decide +kernel, (frames_spaced (by omega)
    (by simp [Polled, acrossWrap]) 0).1⟩

end ChibiCopter.Flight
