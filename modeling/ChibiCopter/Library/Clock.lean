import Mathlib.Algebra.Ring.Nat
import Mathlib.Data.List.Chain

/-!
# A clock of 32 bits

The clock counts ticks without end, and a reading keeps 32 bits of them.  The
difference of two readings is the time between them, as long as the clock has not gone
all the way round.
-/

namespace Clock

/-- What a reading at some tick gives. -/
def reading (tick : Nat) : UInt32 := UInt32.ofNat tick

theorem toNat_sub_reading {earlier later : Nat} (ordered : earlier ≤ later)
    (near : later < earlier + 2 ^ 32) :
    (reading later - reading earlier).toNat = later - earlier := by
  rw [reading, reading, UInt32.toNat_sub, UInt32.toNat_ofNat', UInt32.toNat_ofNat']
  omega

/-- Whether a time has gone by can be read off the clock. -/
theorem le_sub_reading_iff {earlier later : Nat} (ordered : earlier ≤ later)
    (near : later < earlier + 2 ^ 32) (time : UInt32) :
    time ≤ reading later - reading earlier ↔ earlier + time.toNat ≤ later := by
  rw [UInt32.le_iff_toNat_le, toNat_sub_reading ordered near]
  omega

/-- Within one round, different ticks have different readings. -/
theorem eq_of_reading_eq {earlier later : Nat} (ordered : earlier ≤ later)
    (near : later < earlier + 2 ^ 32) (same : reading earlier = reading later) :
    earlier = later := by
  have none := toNat_sub_reading ordered near
  rw [same, UInt32.sub_self] at none
  have zero : (0 : UInt32).toNat = 0 := rfl
  omega

/-- Moments with gaps between them are few: there is room for no more than one in each
gap. -/
theorem length_filter_mul_le {gap bound start : Nat} {moments : List Nat}
    (spaced : (start :: moments).IsChain fun earlier later => earlier + gap ≤ later) :
    (moments.filter (· ≤ bound)).length * gap ≤ bound - start := by
  induction moments generalizing start with
  | nil => exact (Nat.zero_mul gap).le.trans (Nat.zero_le _)
  | cons moment moments ih =>
      obtain ⟨apart, later⟩ := List.isChain_cons_cons.mp spaced
      have rest := ih later
      rw [List.filter_cons]
      by_cases inside : moment ≤ bound
      · rw [if_pos (decide_eq_true inside), List.length_cons, Nat.succ_mul]
        omega
      · rw [if_neg fun counted => inside (of_decide_eq_true counted)]
        omega

end Clock
