import ChibiCopter.Library.CString

/-!
# Loops with a pointer into memory

A loop over a C string has no length: it reads the cell under its pointer, is left when
that cell fails a condition, and advances the pointer otherwise.  `scan` runs such a loop
with fuel over a memory that has a value in every cell, and records the cells it reads.
If a stretch of the memory holds a value that fails the condition, the loop is left
inside the stretch, with what the stretch says as a list.  `strncmp` has a length, and
reads no more cells than it says.
-/

namespace Scan

variable {α σ : Type*}

/-- A stretch of the memory. -/
def cells (memory : Nat → α) : Nat → Nat → List α
  | _, 0 => []
  | place, count + 1 => memory place :: cells memory (place + 1) count

/-- How a loop was left. -/
structure Stop (σ : Type*) where
  pointer : Nat
  state : σ
  reads : List Nat

/-- The loop, `none` when it runs out of fuel. -/
def scan (condition : α → Bool) (body : σ → α → σ) (memory : Nat → α) :
    Nat → Nat → σ → Option (Stop σ)
  | 0, _, _ => none
  | fuel + 1, pointer, state =>
      if condition (memory pointer) then
        (scan condition body memory fuel (pointer + 1) (body state (memory pointer))).map
          fun stop => { stop with reads := pointer :: stop.reads }
      else some ⟨pointer, state, [pointer]⟩

@[simp] theorem length_cells (memory : Nat → α) (place count : Nat) :
    (cells memory place count).length = count := by
  induction count generalizing place with
  | zero => rfl
  | succ count ih => rw [cells, List.length_cons, ih]

theorem drop_cells (memory : Nat → α) (place count skipped : Nat) :
    (cells memory place count).drop skipped = cells memory (place + skipped) (count - skipped) := by
  induction skipped generalizing place count with
  | zero => rfl
  | succ skipped ih =>
      cases count with
      | zero => rw [Nat.zero_sub, cells, cells, List.drop_nil]
      | succ count =>
          rw [cells, List.drop_succ_cons, ih, Nat.succ_sub_succ, Nat.add_assoc, Nat.add_comm 1]

theorem take_cells (memory : Nat → α) (place count limit : Nat) :
    (cells memory place count).take limit = cells memory place (min limit count) := by
  induction limit generalizing place count with
  | zero => rw [List.take_zero, Nat.zero_min, cells]
  | succ limit ih =>
      cases count with
      | zero => rw [Nat.min_zero, cells, List.take_nil]
      | succ count => rw [cells, List.take_succ_cons, ih, Nat.succ_min_succ, cells]

/-- Some value of the stretch fails the condition. -/
def Stops (condition : α → Bool) (values : List α) : Prop :=
  ∃ value ∈ values, condition value = false

theorem Stops.tail {condition : α → Bool} {value : α} {values : List α}
    (stops : Stops condition (value :: values)) (holds : condition value = true) :
    Stops condition values := by
  obtain ⟨other, member, fails⟩ := stops
  rcases List.mem_cons.mp member with rfl | later
  · rw [holds] at fails
    cases fails
  · exact ⟨other, later, fails⟩

theorem Stops.length_lt {condition : α → Bool} {values : List α}
    (stops : Stops condition values) : (values.takeWhile condition).length < values.length := by
  induction values with
  | nil =>
      obtain ⟨value, member, -⟩ := stops
      exact absurd member List.not_mem_nil
  | cons value values ih =>
      cases holds : condition value with
      | false =>
          rw [List.takeWhile_cons_of_neg (by simp [holds])]
          exact Nat.zero_lt_succ _
      | true =>
          rw [List.takeWhile_cons_of_pos holds]
          exact Nat.succ_lt_succ (ih (stops.tail holds))

/-- Behind the values that satisfy the condition stands the rest of the list. -/
theorem drop_length_takeWhile (condition : α → Bool) (values : List α) :
    values.drop (values.takeWhile condition).length = values.dropWhile condition := by
  calc
    values.drop (values.takeWhile condition).length =
        (values.takeWhile condition ++ values.dropWhile condition).drop
          (values.takeWhile condition).length := by
      rw [List.takeWhile_append_dropWhile]
    _ = values.dropWhile condition := List.drop_left

/-- A loop over a stretch in which some value fails the condition is left at the first
such value.  It has read the cells up to there and worked on those in front. -/
theorem scan_eq {condition : α → Bool} (body : σ → α → σ) {memory : Nat → α}
    {place count fuel : Nat} (stops : Stops condition (cells memory place count))
    (enough : count ≤ fuel) (state : σ) {front : List α}
    (front_eq : (cells memory place count).takeWhile condition = front) :
    scan condition body memory fuel place state =
      some ⟨place + front.length, front.foldl body state,
        List.range' place (front.length + 1)⟩ := by
  subst front_eq
  induction count generalizing place fuel state with
  | zero =>
      obtain ⟨value, member, -⟩ := stops
      exact absurd member List.not_mem_nil
  | succ count ih =>
      cases fuel with
      | zero => exact absurd enough (Nat.not_succ_le_zero count)
      | succ fuel =>
          rw [cells] at stops ⊢
          rw [scan]
          cases holds : condition (memory place) with
          | false =>
              rw [List.takeWhile_cons_of_neg (by simp [holds]), if_neg Bool.false_ne_true]
              rfl
          | true =>
              rw [List.takeWhile_cons_of_pos holds, if_pos rfl,
                ih (stops.tail holds) (Nat.le_of_succ_le_succ enough), List.length_cons,
                List.range'_succ, Option.map_some, List.foldl_cons, Nat.add_right_comm]
              rfl

theorem mem_cells (memory : Nat → α) {place count index : Nat} (from_place : place ≤ index)
    (inside : index < place + count) : memory index ∈ cells memory place count := by
  induction count generalizing place with
  | zero => exact absurd inside (Nat.not_lt.mpr from_place)
  | succ count ih =>
      rw [cells]
      by_cases here : index = place
      · rw [here]
        exact List.mem_cons_self
      · exact List.mem_cons_of_mem _ (ih (by omega) (by omega))

/-! ## Comparing characters -/

open CString

theorem first_cells (memory : Nat → UInt8) (place : Nat) {count : Nat} (some : 0 < count) :
    first (cells memory place count) = memory place := by
  cases count with
  | zero => exact absurd some (Nat.lt_irrefl 0)
  | succ count => rfl

/-- `strncmp` of the memory under a pointer with a string, and the cells it reads. -/
def strncmpAt (memory : Nat → UInt8) : Nat → List UInt8 → Nat → Int × List Nat
  | _, _, 0 => (0, [])
  | place, name, n + 1 =>
      if memory place ≠ first name then
        (((memory place).toNat : Int) - (first name).toNat, [place])
      else if memory place = 0 then (0, [place])
      else
        let rest := strncmpAt memory (place + 1) name.tail n
        (rest.1, place :: rest.2)

theorem strncmpAt_value (memory : Nat → UInt8) (place : Nat) (name : List UInt8) {n count : Nat}
    (enough : n ≤ count) :
    (strncmpAt memory place name n).1 = strncmp (cells memory place count) name n := by
  induction n generalizing place name count with
  | zero => rfl
  | succ n ih =>
      cases count with
      | zero => exact absurd enough (Nat.not_succ_le_zero n)
      | succ count =>
          rw [strncmpAt, strncmp, first_cells memory place (Nat.zero_lt_succ count)]
          by_cases different : memory place ≠ first name
          · rw [if_pos different, if_pos different]
          · rw [if_neg different, if_neg different]
            by_cases nul : memory place = 0
            · rw [if_pos nul, if_pos nul]
            · rw [if_neg nul, if_neg nul]
              exact ih (place + 1) name.tail (Nat.le_of_succ_le_succ enough)

/-- No more than `n` characters are read. -/
theorem mem_strncmpAt {memory : Nat → UInt8} {place : Nat} {name : List UInt8} {n cell : Nat}
    (read : cell ∈ (strncmpAt memory place name n).2) : cell < place + n := by
  induction n generalizing place name with
  | zero => exact absurd read List.not_mem_nil
  | succ n ih =>
      rw [strncmpAt] at read
      by_cases different : memory place ≠ first name
      · rw [if_pos different] at read
        have here := List.mem_singleton.mp read
        omega
      · rw [if_neg different] at read
        by_cases nul : memory place = 0
        · rw [if_pos nul] at read
          have here := List.mem_singleton.mp read
          omega
        · rw [if_neg nul] at read
          rcases List.mem_cons.mp read with here | later
          · omega
          · have bound := ih later
            omega

end Scan
