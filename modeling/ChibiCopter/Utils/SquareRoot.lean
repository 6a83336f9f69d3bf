import ChibiCopter.Library.Newton
import Mathlib.Algebra.Order.Ring.Rat

/-!
# The replacement for the square root

`nr_sqrt` takes a fixed number of Newton steps from the guess 10, and leaves its loop
early when a step changes nothing.  The arithmetic is that of exact rational numbers
here.  No step divides by zero, every value behind the first step lies above the root,
the values come down to it, and the early exit is only an optimisation.
-/

namespace ChibiCopter.Utils

open Newton

def nrIttrCount : Nat := 5

/-- The assignment to `output` in the loop of `nr_sqrt`. -/
def sqrtIteration (input output : ℚ) : ℚ := output - ((output * output) - input) / (2 * output)

/-- The loop with some passes left: the value of `output` behind it, and whether the
`break` has left it. -/
def nrSqrtLoop (input : ℚ) : Nat → ℚ → ℚ × Bool
  | 0, output => (output, false)
  | count + 1, oldOutput =>
      let output := sqrtIteration input oldOutput
      if oldOutput = output then (output, true) else nrSqrtLoop input count output

/-- `nr_sqrt` with some number in place of `NR_ITTR_COUNT`. -/
def nrSqrtWith (count : Nat) (input : ℚ) : ℚ := (nrSqrtLoop input count 10).1

def nrSqrt (input : ℚ) : ℚ := nrSqrtWith nrIttrCount input

/-- The loop without the early exit. -/
def plainLoop (input : ℚ) : Nat → ℚ → ℚ
  | 0, output => output
  | count + 1, output => plainLoop input count (sqrtIteration input output)

theorem plainLoop_eq (input : ℚ) (count : Nat) (output : ℚ) :
    plainLoop input count output = (next input)^[count] output := by
  induction count generalizing output with
  | zero => rfl
  | succ count ih => exact ih (sqrtIteration input output)

/-- The loop is left early at a value that further passes would keep. -/
theorem nrSqrtLoop_eq (input : ℚ) (count : Nat) (output : ℚ) :
    (nrSqrtLoop input count output).1 = plainLoop input count output ∧
      ((nrSqrtLoop input count output).2 = true →
        sqrtIteration input (nrSqrtLoop input count output).1 =
          (nrSqrtLoop input count output).1) := by
  induction count generalizing output with
  | zero => exact ⟨rfl, nofun⟩
  | succ count ih =>
      rw [nrSqrtLoop, plainLoop]
      by_cases unchanged : output = sqrtIteration input output
      · have fixed : next input output = output := unchanged.symm
        simp only [if_pos unchanged]
        rw [← unchanged, plainLoop_eq, Function.iterate_fixed fixed]
        exact ⟨rfl, fun _ => fixed⟩
      · simp only [if_neg unchanged]
        exact ih (sqrtIteration input output)

theorem nrSqrtWith_eq (count : Nat) (input : ℚ) :
    nrSqrtWith count input = (next input)^[count] 10 :=
  (nrSqrtLoop_eq input count 10).1.trans (plainLoop_eq input count 10)

theorem nrSqrtWith_pos {input : ℚ} (nonneg : 0 ≤ input) (count : Nat) :
    0 < nrSqrtWith count input := by
  rw [nrSqrtWith_eq]
  exact iterate_pos nonneg (by norm_num) count

/-- The result of a pass is not below the root. -/
theorem le_nrSqrtWith_mul_self {input : ℚ} (nonneg : 0 ≤ input) (count : Nat) :
    input ≤ nrSqrtWith (count + 1) input * nrSqrtWith (count + 1) input := by
  rw [nrSqrtWith_eq]
  exact le_iterate_mul_iterate nonneg (by norm_num) count

/-- From the first pass on, no pass makes the result larger. -/
theorem nrSqrtWith_succ_le {input : ℚ} (nonneg : 0 ≤ input) (count : Nat) :
    nrSqrtWith (count + 2) input ≤ nrSqrtWith (count + 1) input := by
  rw [nrSqrtWith_eq, nrSqrtWith_eq]
  exact iterate_succ_le nonneg (by norm_num) count

/-- For every input that is not negative and every number of passes, the value behind
the passes is positive, from the first pass on it is not below the root and never
increases, and the early exit happens at the root itself and changes nothing. -/
theorem nrSqrt_safe {input : ℚ} (nonneg : 0 ≤ input) :
    (∀ count, 0 < nrSqrtWith count input) ∧
      (∀ count, input ≤ nrSqrtWith (count + 1) input * nrSqrtWith (count + 1) input) ∧
      (∀ count, nrSqrtWith (count + 2) input ≤ nrSqrtWith (count + 1) input) ∧
      (∀ count, (nrSqrtLoop input count 10).2 = true →
        nrSqrtWith count input * nrSqrtWith count input = input) ∧
      ∀ count, nrSqrtWith count input = plainLoop input count 10 := by
  refine ⟨nrSqrtWith_pos nonneg, le_nrSqrtWith_mul_self nonneg, nrSqrtWith_succ_le nonneg,
    fun count stopped => ?_, fun count => (nrSqrtLoop_eq input count 10).1⟩
  have fixed := (nrSqrtLoop_eq input count 10).2 stopped
  exact (next_eq_self_iff (nrSqrtWith_pos nonneg count)).mp fixed

/-- The root of 100 is the guess, so that the loop is left at once. -/
theorem nrSqrt_safe_hundred :
    nrSqrtLoop 100 nrIttrCount 10 = (10, true) ∧
      nrSqrtWith nrIttrCount 100 * nrSqrtWith nrIttrCount 100 = 100 := by
  have stopped : nrSqrtLoop 100 nrIttrCount 10 = (10, true) := by decide +kernel
  refine ⟨stopped, (nrSqrt_safe (by norm_num)).2.2.2.1 nrIttrCount ?_⟩
  rw [stopped]

end ChibiCopter.Utils
