import Mathlib.Data.List.TakeWhile

/-!
# Strings in memory, as C reads them

A C string is given by the memory from its first byte on: a list of bytes, behind
whose end there is a NUL.  The string ends at the first NUL, and a function that
honours this is a function of `text`, so that stale bytes behind the NUL have no
influence on it.  `strncmp` and `atoi` are the functions of the C library, with
`int` and `long` of 32 bits.
-/

namespace CString

/-- The byte that the pointer points to. -/
def first (memory : List UInt8) : UInt8 := memory.headD 0

@[simp] theorem first_nil : first [] = 0 := rfl

@[simp] theorem first_cons (c : UInt8) (memory : List UInt8) : first (c :: memory) = c := rfl

/-- The characters in front of the first NUL. -/
def text (memory : List UInt8) : List UInt8 := memory.takeWhile (· ≠ 0)

/-- The characters of the string with the NUL that ends it. -/
def terminated (memory : List UInt8) : List UInt8 := text memory ++ [0]

/-- The result depends on the string and not on the memory behind it. -/
def ReadsText {β : Type*} (f : List UInt8 → β) : Prop :=
  ∀ memory, f (text memory) = f memory

theorem text_append_nul (front rest : List UInt8) :
    text (front ++ 0 :: rest) = text front := by
  induction front with
  | nil => rfl
  | cons c front ih =>
      by_cases nul : c = 0
      · simp [text, nul]
      · simpa [text, nul] using ih

theorem text_of_nulFree {memory : List UInt8} (nulFree : 0 ∉ memory) : text memory = memory :=
  List.takeWhile_eq_self_iff.mpr fun c member => by
    simpa using fun nul : c = 0 => nulFree (nul ▸ member)

/-- Whatever lies behind a stored NUL is not read. -/
theorem ReadsText.append_nul {β : Type*} {f : List UInt8 → β} (reads : ReadsText f)
    (front rest : List UInt8) : f (front ++ 0 :: rest) = f front := by
  rw [← reads, text_append_nul, reads]

theorem readsText_first : ReadsText first := by
  intro memory
  cases memory with
  | nil => rfl
  | cons c memory =>
      by_cases nul : c = 0
      · simp [text, nul]
      · simp [text, nul]

theorem terminated_eq (memory : List UInt8) :
    terminated memory =
      first memory :: if first memory = 0 then [] else terminated memory.tail := by
  cases memory with
  | nil => rfl
  | cons c memory =>
      by_cases nul : c = 0
      · simp [terminated, text, nul]
      · simp [terminated, text, nul]

/-- The first characters of a string do not depend on what is behind them. -/
theorem take_terminated_append (front rest : List UInt8) :
    (terminated (front ++ rest)).take front.length = (terminated front).take front.length := by
  induction front with
  | nil => rfl
  | cons c front ih =>
      by_cases nul : c = 0
      · simp [terminated, text, nul]
      · rw [List.cons_append, terminated_eq, terminated_eq (c :: front), first_cons, if_neg nul,
          first_cons, if_neg nul, List.length_cons, List.take_succ_cons, List.take_succ_cons,
          List.tail_cons, List.tail_cons, ih]

/-- Two texts without NUL agree in the length of the first exactly if it is a prefix. -/
theorem take_terminated_eq_iff {front name : List UInt8} (nulFree : 0 ∉ front)
    (nameFree : 0 ∉ name) :
    (terminated front).take front.length = (terminated name).take front.length ↔
      front <+: name := by
  rw [terminated, terminated, text_of_nulFree nulFree, text_of_nulFree nameFree, List.take_left,
    ← List.prefix_iff_eq_take, List.prefix_concat_iff]
  refine or_iff_right ?_
  rintro rfl
  exact nulFree List.mem_concat_self

/-! ## Comparing the first characters of two strings -/

/-- `strncmp`: the sign of the result is that of the first difference. -/
def strncmp : List UInt8 → List UInt8 → Nat → Int
  | _, _, 0 => 0
  | left, right, n + 1 =>
      if first left ≠ first right then
        ((first left).toNat : Int) - (first right).toNat
      else if first left = 0 then 0
      else strncmp left.tail right.tail n

/-- The result is 0 exactly for strings that agree in their first `n` characters. -/
theorem strncmp_eq_zero_iff {left right : List UInt8} {n : Nat} :
    strncmp left right n = 0 ↔ (terminated left).take n = (terminated right).take n := by
  induction n generalizing left right with
  | zero => simp [strncmp]
  | succ n ih =>
      rw [terminated_eq left, terminated_eq right, List.take_succ_cons,
        List.take_succ_cons, List.cons.injEq, strncmp]
      by_cases different : first left = first right
      · by_cases nul : first right = 0
        · simp only [different, nul, ne_eq, not_true_eq_false, if_false, if_true, and_self]
        · simp only [different, nul, ne_eq, not_true_eq_false, if_false, true_and, ih]
      · have apart : (first left).toNat ≠ (first right).toNat :=
          fun equal => different (UInt8.toNat_inj.mp equal)
        simp only [different, ne_eq, not_false_eq_true, if_true, false_and, iff_false]
        omega

/-- One character is compared by its code. -/
theorem strncmp_one (left right : List UInt8) :
    strncmp left right 1 = ((first left).toNat : Int) - (first right).toNat := by
  rw [strncmp]
  by_cases different : first left = first right
  · simp [different, strncmp]
  · simp [different]

/-! ## Reading a decimal number -/

def isspace (c : UInt8) : Bool := c = 0x20 ∨ (0x09 ≤ c ∧ c ≤ 0x0D)

def isdigit (c : UInt8) : Bool := 0x30 ≤ c ∧ c ≤ 0x39

/-- The number that the digits at the front of the memory spell. -/
def leadingNumber (memory : List UInt8) : Nat :=
  (memory.takeWhile isdigit).foldl (fun value c => 10 * value + (c.toNat - 0x30)) 0

/-- The number behind an optional sign. -/
def signedNumber (memory : List UInt8) : Int :=
  if first memory = 0x2D then -(leadingNumber memory.tail : Int)
  else if first memory = 0x2B then leadingNumber memory.tail
  else leadingNumber memory

/-- `atoi`: behind white space a decimal number, saturated to 32 bits. -/
def atoi (memory : List UInt8) : Int :=
  max (-2147483648) (min 2147483647 (signedNumber (memory.dropWhile isspace)))

/-- Taking characters that are never NUL stops at the end of the string. -/
theorem takeWhile_text {condition : UInt8 → Bool} (stops : condition 0 = false)
    (memory : List UInt8) : (text memory).takeWhile condition = memory.takeWhile condition := by
  induction memory with
  | nil => rfl
  | cons c memory ih =>
      by_cases nul : c = 0
      · simp [text, nul, stops]
      · cases holds : condition c with
        | false => simp [text, nul, holds]
        | true => simpa [text, nul, holds] using ih

theorem dropWhile_text {condition : UInt8 → Bool} (stops : condition 0 = false)
    (memory : List UInt8) :
    (text memory).dropWhile condition = text (memory.dropWhile condition) := by
  induction memory with
  | nil => rfl
  | cons c memory ih =>
      by_cases nul : c = 0
      · simp [text, nul, stops]
      · cases holds : condition c with
        | false => simp [text, nul, holds]
        | true => simpa [text, nul, holds] using ih

theorem text_tail {memory : List UInt8} (more : first memory ≠ 0) :
    (text memory).tail = text memory.tail := by
  cases memory with
  | nil => rfl
  | cons c memory =>
      have nul : c ≠ 0 := more
      simp [text, nul]

theorem readsText_leadingNumber : ReadsText leadingNumber := by
  intro memory
  rw [leadingNumber, takeWhile_text (by decide), leadingNumber]

theorem readsText_signedNumber : ReadsText signedNumber := by
  intro memory
  have head_eq : first (text memory) = first memory := readsText_first memory
  rw [signedNumber, signedNumber, head_eq, readsText_leadingNumber memory]
  by_cases nul : first memory = 0
  · rw [nul, if_neg (by decide), if_neg (by decide), if_neg (by decide), if_neg (by decide)]
  · rw [text_tail nul, readsText_leadingNumber memory.tail]

theorem readsText_atoi : ReadsText atoi := by
  intro memory
  rw [atoi, dropWhile_text (by decide), readsText_signedNumber, atoi]

/-! ## Loops over a string -/

/-- While the characters satisfy the condition, a step is made with each, and then the
state is returned in some form. -/
structure IsLoop {σ β : Type*} (f : σ → List UInt8 → β) (condition : UInt8 → Bool)
    (step : σ → UInt8 → σ) (out : σ → β) : Prop where
  nil : ∀ state, f state [] = out state
  cons : ∀ state c memory,
    f state (c :: memory) = if condition c then f (step state c) memory else out state

namespace IsLoop

variable {σ β : Type*} {f : σ → List UInt8 → β} {condition : UInt8 → Bool}
  {step : σ → UInt8 → σ} {out : σ → β}

theorem eq_foldl (loop : IsLoop f condition step out) (state : σ) (memory : List UInt8) :
    f state memory = out ((memory.takeWhile condition).foldl step state) := by
  induction memory generalizing state with
  | nil => exact loop.nil state
  | cons c memory ih =>
      rw [loop.cons]
      cases holds : condition c with
      | false =>
          rw [if_neg Bool.false_ne_true, List.takeWhile_cons_of_neg (by simp [holds])]
          rfl
      | true =>
          rw [if_pos rfl, List.takeWhile_cons_of_pos holds, ih]
          rfl

/-- A loop that a NUL ends does not read behind it. -/
theorem readsText (loop : IsLoop f condition step out) (stops : condition 0 = false) (state : σ) :
    ReadsText (f state) := by
  intro memory
  rw [loop.eq_foldl, loop.eq_foldl, takeWhile_text stops]

end IsLoop

end CString
