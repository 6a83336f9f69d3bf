import Mathlib.Algebra.Group.Nat.Even
import Mathlib.Data.List.DropRight
import Mathlib.Data.List.Infix

/-!
# Trailing runs and adjacent pairs

How often a list ends in a given symbol, and what this says about the pairs of
adjacent symbols that appear when the list grows at its end.  A matcher that reads
symbols one by one and remembers only whether the last one began a pair is
described by these two notions.
-/

namespace TrailingRun

variable {α : Type*} {symbol other next : α} {text : List α}

/-- Texts without a pair have no pair in front of their last symbol. -/
theorem pairFree_of_concat (free : ¬ [symbol, other] <:+: text ++ [next]) :
    ¬ [symbol, other] <:+: text :=
  fun found => free (found.trans (List.prefix_append text [next]).isInfix)

variable [DecidableEq α]

/-- The number of copies of `symbol` at the end of `text`. -/
def trailing (symbol : α) (text : List α) : Nat :=
  (text.rtakeWhile fun entry => decide (entry = symbol)).length

@[simp] theorem trailing_nil : trailing symbol [] = 0 := rfl

theorem trailing_concat_self : trailing symbol (text ++ [symbol]) = trailing symbol text + 1 := by
  rw [trailing, List.rtakeWhile_concat, if_pos (by simp), List.length_append]
  rfl

theorem trailing_concat_ne (different : next ≠ symbol) :
    trailing symbol (text ++ [next]) = 0 := by
  rw [trailing, List.rtakeWhile_concat, if_neg (by simpa using different)]
  rfl

/-- A text with a trailing run ends in its symbol. -/
theorem exists_concat_of_trailing (positive : 0 < trailing symbol text) :
    ∃ front, text = front ++ [symbol] := by
  induction text using List.reverseRecOn with
  | nil => exact absurd positive (Nat.lt_irrefl 0)
  | append_singleton front next ih =>
      by_cases same : next = symbol
      · exact ⟨front, by rw [same]⟩
      · rw [trailing_concat_ne same] at positive
        exact absurd positive (Nat.lt_irrefl 0)

/-- Behind a trailing run of its first symbol, the second would complete the pair. -/
theorem ne_of_pairFree (free : ¬ [symbol, other] <:+: text ++ [next])
    (positive : 0 < trailing symbol text) : next ≠ other := by
  rintro rfl
  obtain ⟨front, rfl⟩ := exists_concat_of_trailing positive
  exact free ⟨front, [], by simp⟩

end TrailingRun
