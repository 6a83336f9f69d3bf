import ChibiCopter.Gps.Unbounded
import ChibiCopter.Library.Positional
import Mathlib.Tactic.IntervalCases

/-!
# Coordinates in degrees and minutes

A coordinate is sent as degrees and minutes, `dddmm.ffff`, and kept in hundred
thousandths of a degree.  `_GPSParseLatLonTerm` adds up ten thousandths of a minute
from at most four digits behind the point and divides by 6.  That is the floor of the
exact value, however many digits there are.
-/

namespace ChibiCopter.Gps

open CString Positional

/-- The character of a decimal digit. -/
def digitChar (digit : Fin 10) : UInt8 := 0x30 + UInt8.ofNat digit.val

def point : UInt8 := Char.toUInt8 '.'

/-- Digits, and possibly a point with more digits behind it. -/
def decimalText (whole : List (Fin 10)) (decimals : Option (List (Fin 10))) : List UInt8 :=
  whole.map digitChar ++
    match decimals with
    | none => []
    | some digits => point :: digits.map digitChar

/-- A coordinate of the form `dddmm` or `dddmm.ffff`. -/
structure Coordinate where
  degrees : Nat
  minutes : Nat
  whole : List (Fin 10)
  decimals : Option (List (Fin 10))
  minutes_lt : minutes < 60
  whole_eq : natValue whole = 100 * degrees + minutes
  whole_le : whole.length ≤ 5

namespace Coordinate

def text (coordinate : Coordinate) : List UInt8 :=
  decimalText coordinate.whole coordinate.decimals

/-- The minutes with all their decimals. -/
def exactMinutes (coordinate : Coordinate) : ℚ :=
  coordinate.minutes + fraction (coordinate.decimals.getD [])

/-- The coordinate in hundred thousandths of a degree, rounded down. -/
def rounded (coordinate : Coordinate) : Int :=
  ⌊100000 * ((coordinate.degrees : ℚ) + coordinate.exactMinutes / 60)⌋

end Coordinate

/-! ## The digit loops -/

@[simp] theorem gpsIsDigit_digitChar (digit : Fin 10) : gpsIsDigit (digitChar digit) = true := by
  revert digit
  decide

theorem le_digitChar (digit : Fin 10) : 0x30 ≤ digitChar digit := by
  revert digit
  decide

theorem digitChar_toNat (digit : Fin 10) : (digitChar digit).toNat - 0x30 = digit.val := by
  revert digit
  decide

/-- Reading digits behind a number appends them to it. -/
theorem unboundedAtol_digits (front digits : List (Fin 10)) (rest : List UInt8) :
    unboundedAtol (natValue front) (digits.map digitChar ++ rest) =
      unboundedAtol (natValue (front ++ digits)) rest := by
  induction digits generalizing front with
  | nil => rw [List.append_nil, List.map_nil, List.nil_append]
  | cons digit digits ih =>
      have step : 10 * natValue front + digit.val = natValue (front ++ [digit]) := by
        rw [natValue_concat, Nat.add_comm]
      rw [List.map_cons, List.cons_append, unboundedAtol, gpsIsDigit_digitChar, if_pos rfl,
        digitChar_toNat, step, ih, List.append_assoc, List.singleton_append]

theorem unboundedAtol_whole (digits : List (Fin 10)) {rest : List UInt8}
    (stops : gpsIsDigit (first rest) = false) :
    unboundedAtol 0 (digits.map digitChar ++ rest) = natValue digits := by
  have loop := unboundedAtol_digits [] digits rest
  rw [List.nil_append] at loop
  refine loop.trans ?_
  cases rest with
  | nil => rfl
  | cons c rest =>
      rw [first_cons] at stops
      rw [unboundedAtol, stops, if_neg Bool.false_ne_true]

theorem dropWhile_digits (digits : List (Fin 10)) {rest : List UInt8}
    (stops : gpsIsDigit (first rest) = false) :
    (digits.map digitChar ++ rest).dropWhile gpsIsDigit = rest := by
  induction digits with
  | nil =>
      cases rest with
      | nil => rfl
      | cons c rest =>
          rw [first_cons] at stops
          rw [List.map_nil, List.nil_append, List.dropWhile_cons_of_neg (by simp [stops])]
  | cons digit digits ih =>
      rw [List.map_cons, List.cons_append, List.dropWhile_cons_of_pos (gpsIsDigit_digitChar digit),
        ih]

/-- The weight of the next digit decays to 0 behind the last one that counts. -/
theorem unboundedSeconds_digits (tenkMinutes k : Nat) (digits : List (Fin 10)) :
    unboundedSeconds tenkMinutes (10 ^ k / 10) (digits.map digitChar) =
      tenkMinutes + shifted k digits := by
  induction digits generalizing tenkMinutes k with
  | nil =>
      cases k with
      | zero => rfl
      | succ k => rfl
  | cons digit digits ih =>
      rw [List.map_cons, unboundedSeconds, gpsIsDigit_digitChar, if_pos rfl, digitChar_toNat]
      cases k with
      | zero =>
          have rest := ih tenkMinutes 0
          rw [shifted] at rest ⊢
          rw [show 10 ^ 0 / 10 * digit.val = 0 from Nat.zero_mul _]
          exact rest
      | succ k =>
          have weight : 10 ^ (k + 1) / 10 = 10 ^ k := by
            rw [Nat.pow_succ, Nat.mul_div_cancel _ (by decide)]
          rw [weight, ih, shifted, Nat.add_assoc]

/-! ## The whole coordinate -/

theorem number_decimalText (whole : List (Fin 10)) (decimals : Option (List (Fin 10))) :
    unboundedAtol 0 (decimalText whole decimals) = natValue whole ∧
      fourDecimals (decimalText whole decimals) = shifted 4 (decimals.getD []) := by
  cases decimals with
  | none =>
      have stops : gpsIsDigit (first []) = false := by decide
      refine ⟨unboundedAtol_whole whole stops, ?_⟩
      rw [fourDecimals, decimalText, dropWhile_digits whole stops, first_nil,
        if_neg (by decide), Option.getD_none, shifted]
  | some digits =>
      have stops : gpsIsDigit (first (point :: digits.map digitChar)) = false := by
        rw [first_cons]
        decide
      refine ⟨unboundedAtol_whole whole stops, ?_⟩
      have seconds := unboundedSeconds_digits 0 4 digits
      rw [Nat.zero_add] at seconds
      rw [fourDecimals, decimalText, dropWhile_digits whole stops, first_cons,
        if_pos (by decide), List.tail_cons, Option.getD_some]
      exact seconds

/-- What `_GPSParseLatLonTerm` computes from digits, a point and more digits. -/
theorem toInt_latLonTerm {whole : List (Fin 10)} (short : whole.length ≤ 5)
    (decimals : Option (List (Fin 10))) :
    (latLonTerm (decimalText whole decimals)).toInt =
      ((natValue whole / 100 * 100000 +
        (natValue whole % 100 * 10000 + shifted 4 (decimals.getD [])) / 6 : Nat) : Int) := by
  have left_lt : natValue whole < 10 ^ 5 :=
    Nat.lt_of_lt_of_le (natValue_lt whole (by decide)) (Nat.pow_le_pow_right (by decide) short)
  have seconds_lt := shifted_lt 4 (decimals.getD []) (show 0 < 10 by decide)
  obtain ⟨number_eq, decimals_eq⟩ := number_decimalText whole decimals
  rw [latLonTerm_ofNat (by omega), unboundedLatLon_eq, number_eq, decimals_eq]
  exact (toInt_ofNat_eq_iff _).mpr (by omega)

/-- Cutting the text behind its fourteenth character cuts off decimals only. -/
theorem decimalText_take {whole : List (Fin 10)} (short : whole.length ≤ 5)
    (decimals : Option (List (Fin 10))) :
    (decimalText whole decimals).take 14 =
      decimalText whole (decimals.map (·.take (13 - whole.length))) := by
  cases decimals with
  | none =>
      apply List.take_of_length_le
      rw [decimalText, List.length_append, List.length_map, List.length_nil]
      omega
  | some digits =>
      have rest : 14 - (whole.map digitChar).length = 13 - whole.length + 1 := by
        rw [List.length_map]
        omega
      rw [decimalText, List.take_append, List.take_of_length_le (by simpa using by omega), rest,
        List.take_succ_cons, ← List.map_take]
      rfl

/-- Dividing ten thousandths of a minute by 6 rounds the exact coordinate down. -/
theorem Coordinate.rounded_eq (coordinate : Coordinate) :
    coordinate.rounded =
      ((coordinate.degrees * 100000 + (coordinate.minutes * 10000 +
        shifted 4 (coordinate.decimals.getD [])) / 6 : Nat) : Int) := by
  let seconds : ℚ := (10 : ℕ) ^ 4 * fraction (coordinate.decimals.getD [])
  have seconds_nonneg : 0 ≤ seconds := mul_nonneg (by positivity) (fraction_nonneg _)
  have floor_seconds : ⌊seconds⌋₊ = shifted 4 (coordinate.decimals.getD []) :=
    floor_pow_mul_fraction 4 (coordinate.decimals.getD [])
  have scaled : 100000 * ((coordinate.degrees : ℚ) + coordinate.exactMinutes / 60) =
      (seconds + (coordinate.minutes * 10000 : ℕ)) / (6 : ℕ) +
        (coordinate.degrees * 100000 : ℕ) := by
    rw [Coordinate.exactMinutes]
    push_cast [seconds]
    ring
  rw [Coordinate.rounded, scaled, ← Int.natCast_floor_eq_floor (by positivity),
    Nat.floor_add_natCast (by positivity), Nat.floor_div_natCast,
    Nat.floor_add_natCast seconds_nonneg, floor_seconds]
  rw [Nat.add_comm, Nat.add_comm (shifted 4 _)]

/-- The term buffer's fourteen characters suffice for the exact coordinate. -/
theorem Coordinate.latLonTerm_take (coordinate : Coordinate) :
    (latLonTerm (coordinate.text.take 14)).toInt = coordinate.rounded := by
  have minutes_lt := coordinate.minutes_lt
  have degrees_eq : natValue coordinate.whole / 100 = coordinate.degrees := by
    rw [coordinate.whole_eq]
    omega
  have minutes_eq : natValue coordinate.whole % 100 = coordinate.minutes := by
    rw [coordinate.whole_eq]
    omega
  have decimals_eq : shifted 4 ((coordinate.decimals.map
      (·.take (13 - coordinate.whole.length))).getD []) =
        shifted 4 (coordinate.decimals.getD []) := by
    have enough : 4 ≤ 13 - coordinate.whole.length := by
      have short := coordinate.whole_le
      omega
    cases coordinate.decimals with
    | none => rfl
    | some digits => exact shifted_take digits enough
  rw [Coordinate.text, decimalText_take coordinate.whole_le,
    toInt_latLonTerm coordinate.whole_le, degrees_eq, minutes_eq, decimals_eq,
    coordinate.rounded_eq]

end ChibiCopter.Gps
