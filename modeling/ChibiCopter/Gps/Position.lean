import ChibiCopter.Gps.Coordinate
import ChibiCopter.Gps.Sentence

/-!
# The position in a sentence

GPGGA, GPRMC and GPGLL sentences carry the same four fields at different places: the
latitude, its hemisphere, the longitude and its hemisphere.  The coordinate is stored
when its field ends and its sign is set when the field behind it ends; no later field
of the sentence touches it.
-/

namespace ChibiCopter.Gps

open CString

/-- The number of the latitude field in the sentences that carry a position. -/
def latitudeNumber : SentenceType → Option Nat
  | .gpgga => some 2
  | .gprmc => some 3
  | .gpgll => some 1
  | .gpgsa | .gpgsv | .gpvtg | .unknown => none

/-- The fields that are read as a coordinate or its hemisphere. -/
def Field.positional : Field → Bool
  | .latitude | .northSouth | .longitude | .eastWest => true
  | _ => false

theorem fieldOf_position {kind : SentenceType} {number : Nat}
    (position : latitudeNumber kind = some number) :
    fieldOf kind number = some .latitude ∧ fieldOf kind (number + 1) = some .northSouth ∧
      fieldOf kind (number + 1 + 1) = some .longitude ∧
      fieldOf kind (number + 1 + 1 + 1) = some .eastWest := by
  cases kind with
  | gpgga | gprmc | gpgll =>
      cases position
      exact ⟨rfl, rfl, rfl, rfl⟩
  | gpgsa | gpgsv | gpvtg | unknown => exact absurd position (by simp [latitudeNumber])

/-- How far behind the latitude a field of the position stands. -/
def Field.place : Field → Option Nat
  | .latitude => some 0
  | .northSouth => some 1
  | .longitude => some 2
  | .eastWest => some 3
  | _ => none

theorem Field.place_of_positional {field : Field} (positional : field.positional = true) :
    ∃ place, field.place = some place ∧ place < 4 := by
  cases field with
  | latitude | northSouth | longitude | eastWest => exact ⟨_, rfl, by decide⟩
  | status | quality | numVisible | mode | prn => cases positional

/-- A field of the position tells where the position begins. -/
theorem fieldOf_place {kind : SentenceType} {number place : Nat} {field : Field}
    (found : fieldOf kind number = some field) (placed : field.place = some place) :
    ∃ start, latitudeNumber kind = some start ∧ number = start + place := by
  cases kind with
  | gpgga =>
      simp only [fieldOf, gpggaField] at found
      split at found
      all_goals cases found
      all_goals cases placed
      all_goals exact ⟨2, rfl, rfl⟩
  | gprmc =>
      simp only [fieldOf, gprmcField] at found
      split at found
      all_goals cases found
      all_goals cases placed
      all_goals exact ⟨3, rfl, rfl⟩
  | gpgll =>
      simp only [fieldOf, gpgllField] at found
      split at found
      all_goals cases found
      all_goals cases placed
      all_goals exact ⟨1, rfl, rfl⟩
  | gpgsa =>
      simp only [fieldOf, gpgsaField] at found
      split at found
      · cases found
        cases placed
      · split at found
        · cases found
          cases placed
        · cases found
  | gpgsv | gpvtg | unknown => cases found

/-- Behind the four fields of the position no field is read as one. -/
theorem fieldOf_behind {kind : SentenceType} {number later : Nat}
    (position : latitudeNumber kind = some number) (behind : number + 4 ≤ later)
    {field : Field} (found : fieldOf kind later = some field) : field.positional = false := by
  cases positional : field.positional with
  | false => rfl
  | true =>
      obtain ⟨place, placed, small⟩ := Field.place_of_positional positional
      obtain ⟨start, start_eq, later_eq⟩ := fieldOf_place found placed
      have same : number = start := Option.some.inj (position.symm.trans start_eq)
      omega

theorem update_positional {field : Field} (other : field.positional = false)
    (text : List UInt8) (working : Working) :
    (field.update text working).data.lat = working.data.lat ∧
      (field.update text working).data.lon = working.data.lon := by
  cases field with
  | latitude | northSouth | longitude | eastWest => exact absurd other (by decide)
  | status | quality | numVisible | mode | prn => exact ⟨rfl, rfl⟩

theorem foldFields_append (kind : SentenceType) (number : Nat)
    (front back : List (List UInt8)) (working : Working) :
    foldFields kind number (front ++ back) working =
      foldFields kind (number + front.length) back (foldFields kind number front working) := by
  induction front generalizing number working with
  | nil => rfl
  | cons field front ih =>
      rw [List.cons_append, foldFields, ih, foldFields, List.length_cons, Nat.add_assoc,
        Nat.add_comm 1]

/-- Fields that are not read as a position leave it as it was. -/
theorem foldFields_positional {kind : SentenceType} {number : Nat}
    (other : ∀ later field, number ≤ later → fieldOf kind later = some field →
      field.positional = false) (fields : List (List UInt8)) (working : Working) :
    (foldFields kind number fields working).data.lat = working.data.lat ∧
      (foldFields kind number fields working).data.lon = working.data.lon := by
  induction fields generalizing number working with
  | nil => exact ⟨rfl, rfl⟩
  | cons field fields ih =>
      obtain ⟨lat_eq, lon_eq⟩ := @ih (number + 1)
        (fun later read behind => other later read (by omega))
        (updateField kind number (field.take 14) working)
      have update_eq : (updateField kind number (field.take 14) working).data.lat =
            working.data.lat ∧
          (updateField kind number (field.take 14) working).data.lon = working.data.lon := by
        unfold updateField
        cases found : fieldOf kind number with
        | none => exact ⟨rfl, rfl⟩
        | some read =>
            exact update_positional (other number read (Nat.le_refl number) found) _ working
      rw [foldFields, lat_eq, lon_eq]
      exact update_eq

/-- A coordinate with the sign that its hemisphere gives it. -/
def signed (negative : Char) (hemisphere coordinate : List UInt8) : Int32 :=
  if first (hemisphere.take 14) = Char.toUInt8 negative then -latLonTerm (coordinate.take 14)
  else latLonTerm (coordinate.take 14)

/-- The position that a sentence leaves is that of its four fields. -/
theorem foldFields_position {kind : SentenceType} {front : List (List UInt8)}
    (position : latitudeNumber kind = some (front.length + 1)) (lat ns lon ew : List UInt8)
    (back : List (List UInt8)) (working : Working) :
    (foldFields kind 1 (front ++ [lat, ns, lon, ew] ++ back) working).data.lat =
        signed 'S' ns lat ∧
      (foldFields kind 1 (front ++ [lat, ns, lon, ew] ++ back) working).data.lon =
        signed 'W' ew lon := by
  obtain ⟨lat_field, ns_field, lon_field, ew_field⟩ := fieldOf_position position
  obtain ⟨lat_eq, lon_eq⟩ := foldFields_positional
    (fun later field behind found => fieldOf_behind position behind found) back
    (foldFields kind (front.length + 1) [lat, ns, lon, ew] (foldFields kind 1 front working))
  have place_eq : 1 + front.length = front.length + 1 := Nat.add_comm 1 front.length
  have behind_eq : 1 + (front ++ [lat, ns, lon, ew]).length = front.length + 1 + 4 := by
    rw [List.length_append, ← Nat.add_assoc, place_eq]
    rfl
  rw [foldFields_append, behind_eq, foldFields_append, place_eq, lat_eq, lon_eq]
  simp only [foldFields, updateField, lat_field, ns_field, lon_field, ew_field, Field.update,
    signed]
  constructor
  · split <;> split <;> rfl
  · split <;> split <;> rfl

theorem named_of_position {kind : SentenceType} {number : Nat}
    (position : latitudeNumber kind = some number) : kind ∈ sentenceTypes := by
  cases kind with
  | gpgga | gprmc | gpgll => decide
  | gpgsa | gpgsv | gpvtg | unknown => exact absurd position (by simp [latitudeNumber])

theorem plain_digits (digits : List (Fin 10)) : Plain (digits.map digitChar) := by
  intro c member
  obtain ⟨digit, -, rfl⟩ := List.mem_map.mp member
  exact isText_of_le (le_digitChar digit)

theorem plain_coordinate (coordinate : Coordinate) : Plain coordinate.text := by
  intro c member
  unfold Coordinate.text decimalText at member
  rcases List.mem_append.mp member with inWhole | inDecimals
  · exact plain_digits coordinate.whole c inWhole
  · cases decimals_eq : coordinate.decimals with
    | none =>
        rw [decimals_eq] at inDecimals
        exact absurd inDecimals List.not_mem_nil
    | some digits =>
        rw [decimals_eq] at inDecimals
        rcases List.mem_cons.mp inDecimals with rfl | inDigits
        · decide
        · exact plain_digits digits c inDigits

/-- The hemisphere letter is the sign of the exact coordinate. -/
theorem toInt_signed (negative : Char) (letter : UInt8) (coordinate : Coordinate) :
    (signed negative [letter] coordinate.text).toInt =
      (if letter = Char.toUInt8 negative then -1 else 1) * coordinate.rounded := by
  have value_eq := coordinate.latLonTerm_take
  have nonneg : 0 ≤ coordinate.rounded := by
    rw [coordinate.rounded_eq]
    exact Int.natCast_nonneg _
  have below := Int32.toInt_lt (latLonTerm (coordinate.text.take 14))
  rw [signed, show first ([letter].take 14) = letter from rfl]
  by_cases negated : letter = Char.toUInt8 negative
  · rw [if_pos negated, if_pos negated, Int32.toInt_neg, value_eq, Int.neg_one_mul]
    exact Int.bmod_eq_of_le (by omega) (by omega)
  · rw [if_neg negated, if_neg negated, value_eq, Int.one_mul]

/-- A position is decoded exactly, up to the floor, whatever was received before, in the
other fields, and behind the characters that the term buffer can hold. -/
theorem position_decoded {gps : Globals} (reachable : Reachable gps) {kind : SentenceType}
    {front back : List (List UInt8)}
    (position : latitudeNumber kind = some (front.length + 1))
    (plain : ∀ field ∈ front ++ back, Plain field)
    (count : front.length + 4 + back.length ≤ 255) (lat lon : Coordinate) {ns ew c : UInt8}
    (nsLetter : ns = Char.toUInt8 'N' ∨ ns = Char.toUInt8 'S')
    (ewLetter : ew = Char.toUInt8 'E' ∨ ew = Char.toUInt8 'W')
    (ends : endsSentence c = true) :
    let stream := dollar ::
      body kind.name (front ++ [lat.text, [ns], lon.text, [ew]] ++ back) ++ [c]
    let data := (parser.final gps stream).gpsWorkingData
    data.lat.toInt = (if ns = Char.toUInt8 'S' then -1 else 1) * lat.rounded ∧
      data.lon.toInt = (if ew = Char.toUInt8 'W' then -1 else 1) * lon.rounded := by
  intro stream data
  have nsPlain : Plain [ns] := by
    rcases nsLetter with rfl | rfl <;> decide
  have ewPlain : Plain [ew] := by
    rcases ewLetter with rfl | rfl <;> decide
  have fieldsPlain : ∀ field ∈ front ++ [lat.text, [ns], lon.text, [ew]] ++ back, Plain field := by
    intro field member
    simp only [List.mem_cons, List.mem_append, List.not_mem_nil, or_false] at member
    rcases member with (inFront | rfl | rfl | rfl | rfl) | inBack
    · exact plain field (List.mem_append_left back inFront)
    · exact plain_coordinate lat
    · exact nsPlain
    · exact plain_coordinate lon
    · exact ewPlain
    · exact plain field (List.mem_append_right front inBack)
  have fieldCount : (front ++ [lat.text, [ns], lon.text, [ew]] ++ back).length ≤ 255 := by
    rw [List.length_append, List.length_append]
    exact count
  have working_eq := working_ended reachable (named_of_position position) fieldsPlain fieldCount
    ⟨c, [], rfl, ends, List.not_mem_nil⟩
  obtain ⟨lat_eq, lon_eq⟩ :=
    foldFields_position position lat.text [ns] lon.text [ew] back gps.working
  have data_eq : data = (foldFields kind 1
      (front ++ [lat.text, [ns], lon.text, [ew]] ++ back) gps.working).data :=
    congrArg Working.data working_eq
  rw [data_eq, lat_eq, lon_eq, toInt_signed, toInt_signed]
  exact ⟨rfl, rfl⟩

/-- A latitude of sixteen characters, two more than the term buffer holds. -/
def longLatitude : Coordinate where
  degrees := 48
  minutes := 7
  whole := [4, 8, 0, 7]
  decimals := some [0, 3, 8, 1, 2, 3, 4, 5, 6, 7, 8]
  minutes_lt := by decide
  whole_eq := by decide
  whole_le := by decide

/-- A longitude without a point. -/
def shortLongitude : Coordinate where
  degrees := 11
  minutes := 31
  whole := [0, 1, 1, 3, 1]
  decimals := none
  minutes_lt := by decide
  whole_eq := by decide
  whole_le := by decide

theorem position_decoded_gpgga :
    let stream := dollar :: body gpggaTerm
      [[], longLatitude.text, ascii ['S'], shortLongitude.text, ascii ['E'], ascii ['1']] ++ [star]
    let data := (parser.final (gpsParserInit zeroGlobals) stream).gpsWorkingData
    data.lat.toInt = -4811730 ∧ data.lon.toInt = 1151666 := by
  have decoded := @position_decoded _ (reachable_init zeroGlobals) .gpgga [[]] [ascii ['1']] rfl
    (by decide) (by decide) longLatitude shortLongitude (Char.toUInt8 'S') (Char.toUInt8 'E')
    star (Or.inr rfl) (Or.inl rfl) (by decide)
  rw [Coordinate.rounded_eq, Coordinate.rounded_eq] at decoded
  exact ⟨decoded.1.trans (by decide), decoded.2.trans (by decide)⟩

end ChibiCopter.Gps
