import ChibiCopter.Gps.Parser

/-!
# The coordinate arithmetic over unbounded numbers

The loops of `_GPSatol` and `_GPSParseLatLonTerm` once more, with natural numbers in place
of 32-bit ones.  The machine arithmetic is this modulo 2 ^ 32 as long as the number in
front of the point fits, so that the result is the unbounded one exactly if that fits an
`int32_t`.
-/

namespace ChibiCopter.Gps

open CString

/-- The loop of `_GPSatol`. -/
def unboundedAtol (ret : Nat) : List UInt8 → Nat
  | [] => ret
  | c :: str => if gpsIsDigit c then unboundedAtol (10 * ret + (c.toNat - 0x30)) str else ret

/-- The loop behind the decimal point. -/
def unboundedSeconds (tenkMinutes mult : Nat) : List UInt8 → Nat
  | [] => tenkMinutes
  | c :: p =>
      if gpsIsDigit c then unboundedSeconds (tenkMinutes + mult * (c.toNat - 0x30)) (mult / 10) p
      else tenkMinutes

/-- The body of `_GPSParseLatLonTerm`. -/
def unboundedLatLon (term : List UInt8) : Nat :=
  let left := unboundedAtol 0 term
  let tenkMinutes := (left % 100) * 10000
  let p := term.dropWhile gpsIsDigit
  let tenkMinutes :=
    if first p = 0x2E then unboundedSeconds tenkMinutes 1000 p.tail else tenkMinutes
  (left / 100) * 100000 + tenkMinutes / 6

/-- The first four decimals as a whole number. -/
def fourDecimals (term : List UInt8) : Nat :=
  let p := term.dropWhile gpsIsDigit
  if first p = 0x2E then unboundedSeconds 0 1000 p.tail else 0

/-! ## Only the string is read -/

theorem isLoop_unboundedAtol :
    IsLoop unboundedAtol gpsIsDigit (fun ret c => 10 * ret + (c.toNat - 0x30)) id :=
  ⟨fun _ => rfl, fun _ _ _ => rfl⟩

theorem isLoop_unboundedSeconds :
    IsLoop (fun seconds => unboundedSeconds seconds.1 seconds.2) gpsIsDigit
      (fun seconds c => (seconds.1 + seconds.2 * (c.toNat - 0x30), seconds.2 / 10)) Prod.fst :=
  ⟨fun _ => rfl, fun _ _ _ => rfl⟩

theorem readsText_unboundedAtol (ret : Nat) : ReadsText (unboundedAtol ret) :=
  isLoop_unboundedAtol.readsText (by decide) ret

theorem readsText_unboundedSeconds (tenkMinutes mult : Nat) :
    ReadsText (unboundedSeconds tenkMinutes mult) :=
  isLoop_unboundedSeconds.readsText (by decide) (tenkMinutes, mult)

theorem readsText_fourDecimals : ReadsText fourDecimals := by
  intro memory
  have point_eq := readsText_first (memory.dropWhile gpsIsDigit)
  rw [fourDecimals, fourDecimals, dropWhile_text (by decide), point_eq]
  by_cases point : first (memory.dropWhile gpsIsDigit) = 0x2E
  · have more : first (memory.dropWhile gpsIsDigit) ≠ 0 := by
      rw [point]
      decide
    rw [text_tail more, readsText_unboundedSeconds]
  · rw [if_neg point, if_neg point]

/-! ## The loops modulo 2 ^ 32 -/

theorem digit_bounds {c : UInt8} (isDigit : gpsIsDigit c = true) :
    0x30 ≤ c.toNat ∧ c.toNat ≤ 0x39 := by
  simpa [gpsIsDigit, UInt8.le_iff_toNat_le] using isDigit

theorem toUInt32_digit {c : UInt8} (isDigit : gpsIsDigit c = true) :
    c.toUInt32 = UInt32.ofNat (c.toNat - 0x30) + 0x30 := by
  have split : c.toNat - 0x30 + 0x30 = c.toNat := Nat.sub_add_cancel (digit_bounds isDigit).1
  calc
    c.toUInt32 = UInt32.ofNat (c.toNat - 0x30 + 0x30) := by
      rw [split, UInt32.ofNat_uInt8ToNat]
    _ = UInt32.ofNat (c.toNat - 0x30) + 0x30 := UInt32.ofNat_add _ _

theorem gpsAtolLoop_ofNat (ret : Nat) (str : List UInt8) :
    gpsAtolLoop (Int32.ofNat ret) str = Int32.ofNat (unboundedAtol ret str) := by
  induction str generalizing ret with
  | nil => rfl
  | cons c str ih =>
      rw [gpsAtolLoop, unboundedAtol]
      cases isDigit : gpsIsDigit c with
      | false => rfl
      | true =>
          have char_eq : c.toUInt32.toInt32 = Int32.ofNat (c.toNat - 0x30) + 0x30 := by
            rw [toUInt32_digit isDigit, UInt32.toInt32_add, UInt32.toInt32_ofNat']
            rfl
          have step : 10 * Int32.ofNat ret + c.toUInt32.toInt32 - 0x30 =
              Int32.ofNat (10 * ret + (c.toNat - 0x30)) := by
            rw [char_eq, ← Int32.add_assoc, Int32.add_sub_cancel, Int32.ofNat_add,
              Int32.ofNat_mul]
            rfl
          rw [if_pos rfl, if_pos rfl, step, ih]

theorem gpsAtol_ofNat (term : List UInt8) :
    gpsAtol term = UInt32.ofNat (unboundedAtol 0 term) := by
  have loop := gpsAtolLoop_ofNat 0 term
  rw [gpsAtol, ← Int32.toUInt32_ofNat', ← loop]
  rfl

theorem secondsLoop_ofNat (tenkMinutes : Nat) {mult : Nat} (small : mult < 2 ^ 32)
    (p : List UInt8) :
    secondsLoop (UInt32.ofNat tenkMinutes) (UInt32.ofNat mult) p =
      UInt32.ofNat (unboundedSeconds tenkMinutes mult p) := by
  induction p generalizing tenkMinutes mult with
  | nil => rfl
  | cons c p ih =>
      rw [secondsLoop, unboundedSeconds]
      cases isDigit : gpsIsDigit c with
      | false => rfl
      | true =>
          have char_eq : c.toUInt32 - 0x30 = UInt32.ofNat (c.toNat - 0x30) := by
            rw [toUInt32_digit isDigit, UInt32.add_sub_cancel]
          have weight : UInt32.ofNat mult / 10 = UInt32.ofNat (mult / 10) :=
            (UInt32.ofNat_div small (by decide)).symm
          rw [if_pos rfl, if_pos rfl, char_eq, ← UInt32.ofNat_mul, ← UInt32.ofNat_add, weight]
          exact ih _ (by omega)

/-! ## The decimals -/

theorem unboundedSeconds_eq (tenkMinutes mult : Nat) (p : List UInt8) :
    unboundedSeconds tenkMinutes mult p = tenkMinutes + unboundedSeconds 0 mult p := by
  induction p generalizing tenkMinutes mult with
  | nil => rfl
  | cons c p ih =>
      rw [unboundedSeconds, unboundedSeconds]
      split
      · rw [ih, ih (0 + _), Nat.zero_add, Nat.add_assoc]
      · rfl

theorem unboundedSeconds_le (mult : Nat) (p : List UInt8) :
    unboundedSeconds 0 mult p ≤ 10 * mult := by
  induction p generalizing mult with
  | nil => exact Nat.zero_le _
  | cons c p ih =>
      rw [unboundedSeconds]
      cases isDigit : gpsIsDigit c with
      | false => exact Nat.zero_le _
      | true =>
          have below := (digit_bounds isDigit).2
          have rest := ih (mult / 10)
          have nine : mult * (c.toNat - 0x30) ≤ mult * 9 := Nat.mul_le_mul_left mult (by omega)
          rw [if_pos rfl, unboundedSeconds_eq]
          omega

theorem fourDecimals_le (term : List UInt8) : fourDecimals term ≤ 10000 := by
  unfold fourDecimals
  dsimp only
  split
  · have bound := unboundedSeconds_le 1000 (term.dropWhile gpsIsDigit).tail
    omega
  · exact Nat.zero_le _

theorem unboundedLatLon_eq (term : List UInt8) :
    unboundedLatLon term = unboundedAtol 0 term / 100 * 100000 +
      (unboundedAtol 0 term % 100 * 10000 + fourDecimals term) / 6 := by
  unfold unboundedLatLon fourDecimals
  dsimp only
  split
  · rw [unboundedSeconds_eq]
  · rw [Nat.add_zero]

/-! ## The result -/

theorem minutes_ofNat {left : Nat} (left_lt : left < 2 ^ 32) :
    UInt32.ofNat left % 100 * 10000 = UInt32.ofNat (left % 100 * 10000) := by
  rw [UInt32.ofNat_mul, UInt32.ofNat_mod left_lt (by decide)]
  rfl

/-- The result is right modulo 2 ^ 32, if the number in front of the point is. -/
theorem latLonTerm_ofNat {term : List UInt8} (small : unboundedAtol 0 term < 2 ^ 32) :
    latLonTerm term = Int32.ofNat (unboundedLatLon term) := by
  have few := fourDecimals_le term
  have left_eq := gpsAtol_ofNat term
  have minutes_eq := minutes_ofNat small
  have seconds_eq :
      (if first (term.dropWhile gpsIsDigit) = 0x2E then
        secondsLoop (UInt32.ofNat (unboundedAtol 0 term % 100 * 10000)) 1000
          (term.dropWhile gpsIsDigit).tail
      else UInt32.ofNat (unboundedAtol 0 term % 100 * 10000)) =
        UInt32.ofNat (unboundedAtol 0 term % 100 * 10000 + fourDecimals term) := by
    unfold fourDecimals
    dsimp only
    split
    · have loop := secondsLoop_ofNat (unboundedAtol 0 term % 100 * 10000)
        (show 1000 < 2 ^ 32 by decide) (term.dropWhile gpsIsDigit).tail
      rw [unboundedSeconds_eq] at loop
      exact loop
    · rw [Nat.add_zero]
  have value_eq {tenkMinutes : Nat} (fits : tenkMinutes < 2 ^ 32) :
      UInt32.ofNat (unboundedAtol 0 term / 100 * 100000 + tenkMinutes / 6) =
        UInt32.ofNat (unboundedAtol 0 term) / 100 * 100000 + UInt32.ofNat tenkMinutes / 6 := by
    rw [UInt32.ofNat_add, UInt32.ofNat_mul, UInt32.ofNat_div small (by decide),
      UInt32.ofNat_div fits (by decide)]
    rfl
  rw [latLonTerm, left_eq, minutes_eq, seconds_eq, unboundedLatLon_eq, ← UInt32.toInt32_ofNat',
    value_eq (by omega)]

theorem toInt_ofNat_eq_iff (value : Nat) :
    (Int32.ofNat value).toInt = value ↔ value ≤ 2147483647 := by
  constructor
  · intro same
    have below := Int32.toInt_lt (Int32.ofNat value)
    omega
  · exact fun fits => Int32.toInt_ofNat_of_lt (Nat.lt_succ_of_le fits)

end ChibiCopter.Gps
