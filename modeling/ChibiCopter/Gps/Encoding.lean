import ChibiCopter.Gps.Position

/-!
# Positions as text

Every position in hundred thousandths of a degree can be sent: the remainder behind the
whole degrees, taken six times, is a number of ten thousandths of a minute, so that four
decimals of the minutes spell it.  `_GPSParseLatLonTerm` divides by 6 and has the position
back, without loss.  A number of satellites is sent as digits, possibly none.
-/

namespace ChibiCopter.Gps

open CString Positional

/-! ## Coordinates -/

local instance decimalBase : NeZero 10 := ⟨by decide⟩

/-- The coordinate with as many hundred thousandths of a degree. -/
def Coordinate.ofValue (width value : Nat) (fits : 100 * (value / 100000) + 60 ≤ 10 ^ width)
    (short : width ≤ 5) : Coordinate where
  degrees := value / 100000
  minutes := 6 * (value % 100000) / 10000
  whole := spelled width (100 * (value / 100000) + 6 * (value % 100000) / 10000)
  decimals := some (spelled 4 (6 * (value % 100000)))
  minutes_lt := by omega
  whole_eq := by
    rw [natValue_spelled]
    exact Nat.mod_eq_of_lt (by omega)
  whole_le := by rwa [length_spelled]

/-- Nothing is lost on the way. -/
theorem Coordinate.rounded_ofValue {width value : Nat}
    (fits : 100 * (value / 100000) + 60 ≤ 10 ^ width) (short : width ≤ 5) :
    (Coordinate.ofValue width value fits short).rounded = value := by
  have decimals_eq : shifted 4 ((Coordinate.ofValue width value fits short).decimals.getD []) =
      6 * (value % 100000) % 10000 := shifted_spelled 4 _
  rw [Coordinate.rounded_eq, decimals_eq, Coordinate.ofValue]
  have minutes_eq : 6 * (value % 100000) / 10000 * 10000 + 6 * (value % 100000) % 10000 =
      6 * (value % 100000) := Nat.div_add_mod' _ _
  rw [minutes_eq, Nat.mul_div_cancel_left _ (by decide), Nat.div_add_mod']

/-- A position in hundred thousandths of a degree, north and east being positive. -/
structure Location where
  latitude : Int
  longitude : Int
  latitude_le : latitude.natAbs ≤ 9000000
  longitude_le : longitude.natAbs ≤ 18000000

namespace Location

variable (location : Location)

def latitudeText : List UInt8 :=
  (Coordinate.ofValue 4 location.latitude.natAbs
    (by have := location.latitude_le; omega) (by decide)).text

def longitudeText : List UInt8 :=
  (Coordinate.ofValue 5 location.longitude.natAbs
    (by have := location.longitude_le; omega) (by decide)).text

def northSouth : UInt8 := Char.toUInt8 (if location.latitude < 0 then 'S' else 'N')

def eastWest : UInt8 := Char.toUInt8 (if location.longitude < 0 then 'W' else 'E')

/-- The four fields of a position. -/
def fields : List (List UInt8) :=
  [location.latitudeText, [location.northSouth], location.longitudeText, [location.eastWest]]

theorem plain_fields : ∀ field ∈ location.fields, Plain field := by
  have northSouth_plain : Plain [location.northSouth] := by
    unfold northSouth
    split <;> decide
  have eastWest_plain : Plain [location.eastWest] := by
    unfold eastWest
    split <;> decide
  simp only [fields, List.forall_mem_cons]
  exact ⟨plain_coordinate _, northSouth_plain, plain_coordinate _, eastWest_plain,
    List.forall_mem_nil _⟩

/-- The hemisphere gives the sign back. -/
theorem signed_eq {value : Int} {width : Nat}
    (fits : 100 * (value.natAbs / 100000) + 60 ≤ 10 ^ width) (short : width ≤ 5)
    {negative positive : Char}
    (different : Char.toUInt8 positive ≠ Char.toUInt8 negative) :
    (signed negative [Char.toUInt8 (if value < 0 then negative else positive)]
      (Coordinate.ofValue width value.natAbs fits short).text).toInt = value := by
  rw [toInt_signed, Coordinate.rounded_ofValue]
  by_cases below : value < 0
  · rw [if_pos below, if_pos rfl]
    omega
  · rw [if_neg below, if_neg different]
    omega

theorem toInt_latitude :
    (signed 'S' [location.northSouth] location.latitudeText).toInt = location.latitude := by
  rw [northSouth, latitudeText, signed_eq]
  decide

theorem toInt_longitude :
    (signed 'W' [location.eastWest] location.longitudeText).toInt = location.longitude := by
  rw [eastWest, longitudeText, signed_eq]
  decide

end Location

/-! ## Numbers of satellites -/

/-- A number of satellites, or of a satellite, in digits.  No digits at all say 0. -/
structure SatelliteNumber where
  digits : List (Fin 10)
  small : natValue digits < 256
  short : digits.length ≤ 14

namespace SatelliteNumber

def text (number : SatelliteNumber) : List UInt8 := number.digits.map digitChar

def value (number : SatelliteNumber) : Nat := natValue number.digits

end SatelliteNumber

theorem isspace_digitChar (digit : Fin 10) : isspace (digitChar digit) = false := by
  revert digit
  decide

theorem isdigit_digitChar (digit : Fin 10) : isdigit (digitChar digit) = true := by
  revert digit
  decide

theorem digitChar_ne_sign (digit : Fin 10) :
    digitChar digit ≠ 0x2D ∧ digitChar digit ≠ 0x2B := by
  revert digit
  decide

theorem takeWhile_digits (digits : List (Fin 10)) :
    (digits.map digitChar).takeWhile isdigit = digits.map digitChar := by
  refine List.takeWhile_eq_self_iff.mpr fun c member => ?_
  obtain ⟨digit, -, rfl⟩ := List.mem_map.mp member
  exact isdigit_digitChar digit

theorem leadingNumber_digits (digits : List (Fin 10)) :
    leadingNumber (digits.map digitChar) = natValue digits := by
  rw [leadingNumber, takeWhile_digits]
  induction digits using List.reverseRecOn with
  | nil => rfl
  | append_singleton digits digit ih =>
      rw [List.map_append, List.foldl_append, ih, natValue_concat]
      simp only [List.map_cons, List.map_nil, List.foldl_cons, List.foldl_nil, digitChar_toNat]
      rw [Nat.add_comm]

/-- `atoi` of digits is the number that they spell. -/
theorem atoi_digits {digits : List (Fin 10)} (fits : natValue digits ≤ 2147483647) :
    atoi (digits.map digitChar) = natValue digits := by
  have number_eq : signedNumber (digits.map digitChar) = leadingNumber (digits.map digitChar) := by
    cases digits with
    | nil => rfl
    | cons digit digits =>
        obtain ⟨noMinus, noPlus⟩ := digitChar_ne_sign digit
        rw [signedNumber, List.map_cons, first_cons, if_neg noMinus, if_neg noPlus]
  have blank : (digits.map digitChar).dropWhile isspace = digits.map digitChar := by
    cases digits with
    | nil => rfl
    | cons digit digits =>
        rw [List.map_cons, List.dropWhile_cons_of_neg (by simp [isspace_digitChar])]
  rw [atoi, blank, number_eq, leadingNumber_digits]
  omega

/-- The number of a field is stored as it was sent. -/
theorem SatelliteNumber.toNat_atoi (number : SatelliteNumber) :
    (UInt8.ofInt (atoi (number.text.take 14))).toNat = number.value := by
  have small := number.small
  have whole : number.text.take 14 = number.digits.map digitChar :=
    List.take_of_length_le (by rw [text, List.length_map]; exact number.short)
  rw [whole, atoi_digits (by omega), value, UInt8.ofInt, UInt8.toNat_ofNat']
  omega

end ChibiCopter.Gps
