import ChibiCopter.Gps.Readings

/-!
# The range of the coordinate arithmetic

`_GPSatol` adds up a signed 32-bit number, and `_GPSParseLatLonTerm` goes on with unsigned
ones.  Both say what the same loops over unbounded numbers say, as long as the number in
the term, cut behind its fourth decimal, is at most 2147450.1887.  Nothing keeps the
number so small: fourteen characters can spell larger ones, and no loop checks.
-/

namespace ChibiCopter.Gps

open CString Positional

/-- The values that the accumulator of the loop takes. -/
def accumulated (ret : Nat) : List UInt8 → List Nat
  | [] => []
  | c :: str =>
      if gpsIsDigit c then
        (10 * ret + (c.toNat - 0x30)) :: accumulated (10 * ret + (c.toNat - 0x30)) str
      else []

/-- The arithmetic does not leave 32 bits: no value of the accumulator is too large, and
the result is that over unbounded numbers. -/
structure InRange (term : List UInt8) : Prop where
  accumulator : ∀ value ∈ accumulated 0 term, value ≤ 2147483647
  result : (latLonTerm term).toInt = unboundedLatLon term

/-- The number in the term in ten thousandths. -/
def tenThousandths (term : List UInt8) : Nat := 10000 * unboundedAtol 0 term + fourDecimals term

/-! ## One term -/

theorem le_unboundedAtol (ret : Nat) (str : List UInt8) : ret ≤ unboundedAtol ret str := by
  induction str generalizing ret with
  | nil => exact Nat.le_refl ret
  | cons c str ih =>
      rw [unboundedAtol]
      split
      · exact Nat.le_trans (by omega) (ih _)
      · exact Nat.le_refl ret

/-- The accumulator never decreases, so that its last value bounds all. -/
theorem accumulated_le_iff {ret bound : Nat} (start : ret ≤ bound) (str : List UInt8) :
    (∀ value ∈ accumulated ret str, value ≤ bound) ↔ unboundedAtol ret str ≤ bound := by
  induction str generalizing ret with
  | nil => exact iff_of_true (List.forall_mem_nil _) start
  | cons c str ih =>
      rw [accumulated, unboundedAtol]
      cases gpsIsDigit c with
      | false => exact iff_of_true (List.forall_mem_nil _) start
      | true =>
          simp only [if_true, List.forall_mem_cons]
          constructor
          · rintro ⟨next, later⟩
            exact (ih next).mp later
          · intro last
            have next := Nat.le_trans (le_unboundedAtol _ str) last
            exact ⟨next, (ih next).mpr last⟩

/-- The range of the result is a range of the number in the term. -/
theorem unboundedLatLon_le_iff (term : List UInt8) :
    unboundedLatLon term ≤ 2147483647 ↔ tenThousandths term ≤ 21474501887 := by
  have few := fourDecimals_le term
  rw [unboundedLatLon_eq, tenThousandths]
  omega

theorem inRange_iff (term : List UInt8) :
    InRange term ↔ tenThousandths term ≤ 21474501887 := by
  have whole_le : unboundedAtol 0 term ≤ 10000 * unboundedAtol 0 term := by omega
  rw [← unboundedLatLon_le_iff]
  constructor
  · rintro ⟨accumulator, result⟩
    have small := (accumulated_le_iff (Nat.zero_le _) term).mp accumulator
    rw [latLonTerm_ofNat (by omega)] at result
    exact (toInt_ofNat_eq_iff _).mp result
  · intro fits
    have number := (unboundedLatLon_le_iff term).mp fits
    have small : unboundedAtol 0 term ≤ 2147483647 := by
      rw [tenThousandths] at number
      omega
    constructor
    · exact (accumulated_le_iff (Nat.zero_le _) term).mpr small
    · rw [latLonTerm_ofNat (by omega)]
      exact (toInt_ofNat_eq_iff _).mpr fits

/-- A well-formed coordinate never overflows. -/
theorem Coordinate.inRange (coordinate : Coordinate) : InRange (coordinate.text.take 14) := by
  have whole_lt : natValue coordinate.whole < 10 ^ 5 :=
    Nat.lt_of_lt_of_le (natValue_lt coordinate.whole (by decide))
      (Nat.pow_le_pow_right (by decide) coordinate.whole_le)
  have few := fourDecimals_le (coordinate.text.take 14)
  have number_eq : unboundedAtol 0 (coordinate.text.take 14) = natValue coordinate.whole := by
    rw [Coordinate.text, decimalText_take coordinate.whole_le]
    exact (number_decimalText coordinate.whole _).1
  rw [inRange_iff, tenThousandths, number_eq]
  omega

/-! ## All calls of a run -/

/-- The call ends a field that is read as a coordinate. -/
def EndsCoordinate (c : UInt8) (gps : Globals) : Prop :=
  EndsField c ∧
    (fieldOf gps.sentenceType gps.sentenceOffset = some .latitude ∨
      fieldOf gps.sentenceType gps.sentenceOffset = some .longitude)

instance (c : UInt8) (gps : Globals) : Decidable (EndsCoordinate c gps) :=
  inferInstanceAs (Decidable (_ ∧ _))

/-- The terms that a call hands to `_GPSParseLatLonTerm`, with all that the buffer holds
behind the NUL. -/
def coordinateTerms (c : UInt8) (gps : Globals) : List (List UInt8) :=
  if EndsCoordinate c gps then [(terminateTerm gps).term.toList] else []

/-- The fields that were received for these terms, cut behind their fourteenth character. -/
def coordinateTexts (c : UInt8) (gps : Globals) : List (List UInt8) :=
  if EndsCoordinate c gps then [gps.view.text] else []

/-- The end of a field that is read changes the data by its terminated term. -/
theorem working_endsField {c : UInt8} {gps : Globals} (ends : EndsField c) {field : Field}
    (found : fieldOf gps.sentenceType gps.sentenceOffset = some field) :
    (gpsParseChar c gps).2.working =
      field.update (terminateTerm gps).term.toList gps.working := by
  have parsed : (gpsParseTerm gps).working =
      field.update (terminateTerm gps).term.toList gps.working := by
    rw [gpsParseTerm_field (ne_zero_of_fieldOf found), Globals.readNumber_some found,
      Globals.read, working_terminateTerm]
    rfl
  rcases ends with rfl | ends
  · rw [gpsParseChar_comma]
    exact parsed
  · rw [gpsParseChar_ends gps ends]
    exact parsed

/-- What is computed from such a term is what the call stores. -/
theorem coordinateTerms_stored {c : UInt8} {gps : Globals} {term : List UInt8}
    (member : term ∈ coordinateTerms c gps) :
    (gpsParseChar c gps).2.gpsWorkingData.lat = latLonTerm term ∨
      (gpsParseChar c gps).2.gpsWorkingData.lon = latLonTerm term := by
  unfold coordinateTerms at member
  split at member
  case isFalse => exact absurd member List.not_mem_nil
  case isTrue ends =>
      rw [List.mem_singleton.mp member]
      rcases ends.2 with latitude | longitude
      · have stored := congrArg Working.data (working_endsField ends.1 latitude)
        exact Or.inl (congrArg GpsData.lat stored)
      · have stored := congrArg Working.data (working_endsField ends.1 longitude)
        exact Or.inr (congrArg GpsData.lon stored)

theorem tenThousandths_term {gps : Globals} (fits : gps.Fits) :
    tenThousandths (terminateTerm gps).term.toList = tenThousandths gps.view.text := by
  obtain ⟨rest, memory_eq⟩ := terminateTerm_toList fits
  rw [tenThousandths, memory_eq, (readsText_unboundedAtol 0).append_nul,
    readsText_fourDecimals.append_nul, tenThousandths]

/-- No call of a run leaves the range if and only if no coordinate that was received in
the run is above 2147450.1887. -/
theorem coordinates_inRange_iff (globals : Globals) (stream : List UInt8) :
    (∀ term ∈ parser.collect coordinateTerms (gpsParserInit globals) stream, InRange term) ↔
      ∀ text ∈ parser.collect coordinateTexts (gpsParserInit globals) stream,
        tenThousandths text ≤ 21474501887 := by
  rw [parser.forall_mem_collect_iff, parser.forall_mem_collect_iff]
  refine forall₄_congr fun earlier c later _ => ?_
  have fits := fits_of_reachable ((reachable_init globals).run earlier)
  unfold coordinateTerms coordinateTexts
  by_cases ends : EndsCoordinate c (parser.final (gpsParserInit globals) earlier)
  · rw [if_pos ends, if_pos ends, List.forall_mem_singleton, List.forall_mem_singleton,
      inRange_iff, tenThousandths_term fits]
  · rw [if_neg ends, if_neg ends]
    exact iff_of_true (List.forall_mem_nil _) (List.forall_mem_nil _)

/-- Ten digits in a field for a latitude. -/
def longNumber : List UInt8 := List.replicate 10 (Char.toUInt8 '9')

theorem coordinate_overflows :
    ¬ ∀ globals stream,
      ∀ term ∈ parser.collect coordinateTerms (gpsParserInit globals) stream, InRange term := by
  intro inRange
  have called : longNumber ++ List.replicate 5 0 ∈ parser.collect coordinateTerms
      (gpsParserInit zeroGlobals) (dollar :: body gpgllTerm [longNumber, []]) := by
    decide +kernel
  have accumulator := (inRange _ _ _ called).accumulator
  have last : 9999999999 ∈ accumulated 0 (longNumber ++ List.replicate 5 0) := by decide
  exact absurd (accumulator _ last) (by decide)

end ChibiCopter.Gps
