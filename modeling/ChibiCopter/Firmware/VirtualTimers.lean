/-!
# The virtual timers of the operating system

The program arms a virtual timer and is called back when it expires.  The operating system
is not part of the program: its timers are a parameter, with the behaviour that their
documentation promises for calls whose preconditions are met.
-/

namespace ChibiCopter.Firmware

/-- The virtual timers of an operating system.  A tick of the system timer says whether
the function of the timer is called. -/
structure VirtualTimers where
  VirtualTimer : Type
  unset : VirtualTimer
  chVTIsArmedI : VirtualTimer → Bool
  chVTResetI : VirtualTimer → VirtualTimer
  chVTSetI : VirtualTimer → Nat → VirtualTimer
  tick : VirtualTimer → Bool × VirtualTimer

namespace VirtualTimers

variable {timers : VirtualTimers}

/-- A timer behind some ticks. -/
def ticked (timers : VirtualTimers) (vt : timers.VirtualTimer) : Nat → timers.VirtualTimer
  | 0 => vt
  | ticks + 1 => timers.ticked (timers.tick vt).2 ticks

/-- Left alone, the timer is armed for some ticks, and its function is called at the last
of them and at no other. -/
structure Expires (timers : VirtualTimers) (left : Nat) (vt : timers.VirtualTimer) : Prop where
  armed_iff : ∀ ticks, timers.chVTIsArmedI (timers.ticked vt ticks) = true ↔ ticks < left
  called_iff : ∀ ticks, (timers.tick (timers.ticked vt ticks)).1 = true ↔ ticks + 1 = left

/-- What the program relies on: an armed timer can be reset, and a timer that is not armed
can be set to a positive time. -/
structure Documented (timers : VirtualTimers) : Prop where
  reset_unarms : ∀ vt, timers.chVTIsArmedI vt = true →
    timers.chVTIsArmedI (timers.chVTResetI vt) = false
  set_arms : ∀ vt time, timers.chVTIsArmedI vt = false → 0 < time →
    timers.Expires time (timers.chVTSetI vt time)

theorem Expires.tick {left : Nat} {vt : timers.VirtualTimer}
    (expires : timers.Expires left vt) : timers.Expires (left - 1) (timers.tick vt).2 where
  armed_iff ticks := (expires.armed_iff (ticks + 1)).trans (by omega)
  called_iff ticks := (expires.called_iff (ticks + 1)).trans (by omega)

theorem Expires.isArmed {left : Nat} {vt : timers.VirtualTimer}
    (expires : timers.Expires left vt) : timers.chVTIsArmedI vt = decide (0 < left) :=
  Bool.eq_iff_iff.mpr ((expires.armed_iff 0).trans decide_eq_true_iff.symm)

theorem Expires.called {left : Nat} {vt : timers.VirtualTimer}
    (expires : timers.Expires left vt) : (timers.tick vt).1 = decide (left = 1) :=
  Bool.eq_iff_iff.mpr ((expires.called_iff 0).trans
    (eq_comm.trans decide_eq_true_iff.symm))

/-- A timer that is reset if it is armed, and then set. -/
theorem Documented.reset_set (documented : timers.Documented) (vt : timers.VirtualTimer)
    {time : Nat} (positive : 0 < time) :
    timers.Expires time (timers.chVTSetI
      (if timers.chVTIsArmedI vt then timers.chVTResetI vt else vt) time) := by
  refine documented.set_arms _ time ?_ positive
  cases armed : timers.chVTIsArmedI vt with
  | true => exact documented.reset_unarms vt armed
  | false => exact armed

end VirtualTimers

/-! ## Timers that count down -/

/-- Timers that hold the ticks that are left, if they are armed. -/
def countdown : VirtualTimers where
  VirtualTimer := Option Nat
  unset := none
  chVTIsArmedI := Option.isSome
  chVTResetI _ := none
  chVTSetI _ time := some time
  tick
    | none => (false, none)
    | some time => if time ≤ 1 then (true, none) else (false, some (time - 1))

theorem countdown_ticked_none (ticks : Nat) : countdown.ticked none ticks = none := by
  induction ticks with
  | zero => rfl
  | succ ticks ih => exact ih

theorem countdown_silent : countdown.Expires 0 none where
  armed_iff ticks := by
    rw [countdown_ticked_none]
    exact ⟨nofun, nofun⟩
  called_iff ticks := by
    rw [countdown_ticked_none]
    exact ⟨nofun, nofun⟩

theorem countdown_expires (time : Nat) : countdown.Expires (time + 1) (some (time + 1)) := by
  induction time with
  | zero =>
      refine ⟨fun ticks => ?_, fun ticks => ?_⟩
      · cases ticks with
        | zero => exact ⟨fun _ => Nat.one_pos, fun _ => rfl⟩
        | succ ticks => exact (countdown_silent.armed_iff ticks).trans (by omega)
      · cases ticks with
        | zero => exact ⟨fun _ => rfl, fun _ => rfl⟩
        | succ ticks => exact (countdown_silent.called_iff ticks).trans (by omega)
  | succ time ih =>
      refine ⟨fun ticks => ?_, fun ticks => ?_⟩
      · cases ticks with
        | zero => exact ⟨fun _ => Nat.succ_pos _, fun _ => rfl⟩
        | succ ticks => exact (ih.armed_iff ticks).trans (by omega)
      · cases ticks with
        | zero => exact ⟨nofun, fun last => by omega⟩
        | succ ticks => exact (ih.called_iff ticks).trans (by omega)

theorem countdown_documented : countdown.Documented where
  reset_unarms _ _ := rfl
  set_arms _ time _ positive := by
    obtain ⟨time, rfl⟩ := Nat.exists_eq_succ_of_ne_zero (Nat.ne_of_gt positive)
    exact countdown_expires time

end ChibiCopter.Firmware
