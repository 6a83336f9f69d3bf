import Mathlib.Data.List.Chain
import Mathlib.Data.List.Induction

/-!
# Cyclic counters

A counter that starts again when a period is full stands at the number of events
modulo the period.  Whether a divisor of the period divides the number of an event can
therefore be read off the counter, and what happens at the multiples of the divisor
happens at the events d, 2d, 3d and so on.
-/

namespace Cyclic

/-- The counter behind one more event. -/
def next (period count : Nat) : Nat := if count + 1 ≥ period then 0 else count + 1

theorem next_mod {period : Nat} (positive : 0 < period) (n : Nat) :
    next period (n % period) = (n + 1) % period := by
  have below : n % period < period := Nat.mod_lt n positive
  rw [next, ← Nat.mod_add_mod n period 1]
  by_cases full : n % period + 1 ≥ period
  · have last : n % period + 1 = period := Nat.le_antisymm below full
    rw [if_pos full, last, Nat.mod_self]
  · rw [if_neg full, Nat.mod_eq_of_lt (Nat.lt_of_not_le full)]

/-- The counter tells which divisors of the period divide the number of the next event. -/
theorem mod_next {period divisor : Nat} (divides : divisor ∣ period) (n : Nat) :
    (n % period + 1) % divisor = (n + 1) % divisor := by
  rw [← Nat.mod_add_mod (n % period), Nat.mod_mod_of_dvd n divides, Nat.mod_add_mod]

/-! ## Multiples -/

/-- The first multiples of a divisor. -/
def multiples (divisor count : Nat) : List Nat := (List.range count).map fun k => (k + 1) * divisor

@[simp] theorem length_multiples (divisor count : Nat) :
    (multiples divisor count).length = count := by
  rw [multiples, List.length_map, List.length_range]

theorem multiples_succ (divisor count : Nat) :
    multiples divisor (count + 1) = multiples divisor count ++ [(count + 1) * divisor] := by
  rw [multiples, List.range_succ, List.map_append]
  rfl

/-- The numbers, from 1 on, of the entries that some test finds. -/
def occurrences {α : Type*} (found : α → Bool) (entries : List α) : List Nat :=
  ((entries.zipIdx 1).filter fun entry => found entry.1).map Prod.snd

theorem occurrences_concat {α : Type*} (found : α → Bool) (entries : List α) (entry : α) :
    occurrences found (entries ++ [entry]) =
      occurrences found entries ++ if found entry then [entries.length + 1] else [] := by
  rw [occurrences, List.zipIdx_append, List.filter_append, List.map_append, Nat.add_comm]
  cases found_eq : found entry <;> simp [occurrences, found_eq]

/-- What occurs exactly at the multiples of a divisor occurs as often as the divisor
goes into the number of entries. -/
theorem occurrences_eq_multiples {α : Type*} {found : α → Bool} {entries : List α}
    {divisor : Nat}
    (regular : ∀ ix entry, entries[ix]? = some entry →
      (found entry = true ↔ (ix + 1) % divisor = 0)) :
    occurrences found entries = multiples divisor (entries.length / divisor) := by
  induction entries using List.reverseRecOn with
  | nil => rw [List.length_nil, Nat.zero_div]; rfl
  | append_singleton entries entry ih =>
      have front : ∀ ix earlier, entries[ix]? = some earlier →
          (found earlier = true ↔ (ix + 1) % divisor = 0) := by
        intro ix earlier at_ix
        have inside : ix < entries.length := (List.getElem?_eq_some_iff.mp at_ix).1
        exact regular ix earlier (by rw [List.getElem?_append_left inside, at_ix])
      have last := regular entries.length entry List.getElem?_concat_length
      rw [occurrences_concat, ih front, List.length_append, List.length_singleton]
      by_cases multiple : (entries.length + 1) % divisor = 0
      · have quotient := Nat.div_add_mod (entries.length + 1) divisor
        rw [multiple, Nat.add_zero, Nat.succ_div_of_mod_eq_zero multiple] at quotient
        rw [if_pos (last.mpr multiple), Nat.succ_div_of_mod_eq_zero multiple, multiples_succ,
          ← quotient, Nat.mul_comm]
      · rw [if_neg fun occurs => multiple (last.mp occurs), List.append_nil,
          Nat.succ_div_of_mod_ne_zero multiple]

/-! ## Every so many moments -/

/-- The moments whose numbers are multiples of a divisor, when some came before. -/
def every {α : Type*} (divisor : Nat) : Nat → List α → List α
  | _, [] => []
  | count, moment :: moments =>
      if (count + 1) % divisor = 0 then moment :: every divisor (count + 1) moments
      else every divisor (count + 1) moments

theorem succ_mod_cases {divisor : Nat} (positive : 0 < divisor) (count : Nat) :
    ((count + 1) % divisor = 0 ∧ count % divisor + 1 = divisor) ∨
      (count + 1) % divisor = count % divisor + 1 := by
  have below : count % divisor < divisor := Nat.mod_lt count positive
  rw [← next_mod positive, next]
  by_cases full : count % divisor + 1 ≥ divisor
  · exact Or.inl ⟨if_pos full, Nat.le_antisymm below full⟩
  · exact Or.inr (if_neg full)

/-- The moments between two of them are fewer than the divisor. -/
theorem lt_length_every {α : Type*} {divisor : Nat} (positive : 0 < divisor) (count : Nat)
    (moments : List α) :
    count % divisor + moments.length < divisor * ((every divisor count moments).length + 1) := by
  induction moments generalizing count with
  | nil =>
      rw [every, List.length_nil, Nat.zero_add, Nat.mul_one]
      exact Nat.mod_lt count positive
  | cons moment moments ih =>
      have rest := ih (count + 1)
      rw [every, List.length_cons]
      rcases succ_mod_cases positive count with ⟨multiple, full⟩ | between
      · rw [if_pos multiple, List.length_cons, Nat.mul_succ]
        rw [multiple] at rest
        omega
      · rw [if_neg (by omega)]
        rw [between] at rest
        omega

/-- Where neighbours are a bounded time apart, the chosen moments are as many times that
time apart. -/
theorem every_spaced {divisor low high : Nat} (positive : 0 < divisor) {count last now : Nat}
    {moments : List Nat} (late : last + count % divisor * low ≤ now)
    (soon : now ≤ last + count % divisor * high)
    (spaced : (now :: moments).IsChain fun earlier later =>
      earlier + low ≤ later ∧ later ≤ earlier + high) :
    (last :: every divisor count moments).IsChain fun earlier later =>
      earlier + divisor * low ≤ later ∧ later ≤ earlier + divisor * high := by
  induction moments generalizing count last now with
  | nil => exact List.isChain_singleton last
  | cons moment moments ih =>
      obtain ⟨⟨apart, near⟩, later⟩ := List.isChain_cons_cons.mp spaced
      have reached : last + (count % divisor + 1) * low ≤ moment ∧
          moment ≤ last + (count % divisor + 1) * high := by
        rw [Nat.succ_mul, Nat.succ_mul]
        omega
      rw [every]
      rcases succ_mod_cases positive count with ⟨multiple, full⟩ | between
      · rw [full] at reached
        rw [if_pos multiple]
        exact List.isChain_cons_cons.mpr
          ⟨reached, ih (by simp [multiple]) (by simp [multiple]) later⟩
      · rw [← between] at reached
        rw [if_neg (by omega)]
        exact ih reached.1 reached.2 later

end Cyclic
