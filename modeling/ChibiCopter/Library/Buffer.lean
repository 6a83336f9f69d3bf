import Mathlib.Data.List.Basic

/-!
# Buffers filled from the left

A fixed-size buffer that a program fills one cell at a time holds a known text in
its first cells and stale cells behind it.  `filled` is that text.  A store into
the first free cell appends to it.
-/

namespace Buffer

variable {α : Type*} {size : Nat}

/-- The first `count` cells of a buffer. -/
def filled (buffer : Vector α size) (count : Nat) : List α :=
  buffer.toList.take count

@[simp] theorem filled_zero (buffer : Vector α size) : filled buffer 0 = [] :=
  List.take_zero

theorem length_filled {buffer : Vector α size} {count : Nat}
    (bound : count ≤ size) : (filled buffer count).length = count := by
  rw [filled, List.length_take, Vector.length_toList]
  exact Nat.min_eq_left bound

theorem filled_full (buffer : Vector α size) : filled buffer size = buffer.toList :=
  List.take_of_length_le (Nat.le_of_eq Vector.length_toList)

theorem toList_store (buffer : Vector α size) (index : Nat) (value : α) :
    (buffer.setIfInBounds index value).toList = buffer.toList.set index value := by
  simp only [Vector.toList, Vector.toArray_setIfInBounds, Array.toList_setIfInBounds]

/-- Storing into the first free cell appends to the filled part. -/
theorem filled_store (buffer : Vector α size) {count : Nat} (value : α)
    (bound : count < size) :
    filled (buffer.setIfInBounds count value) (count + 1) =
      filled buffer count ++ [value] := by
  have inside : count < (buffer.toList.set count value).length := by
    rw [List.length_set, Vector.length_toList]
    exact bound
  rw [filled, filled, toList_store, List.take_add_one,
    List.getElem?_eq_getElem inside, List.getElem_set_self,
    List.take_set_of_le (Nat.le_refl count)]
  rfl

end Buffer
