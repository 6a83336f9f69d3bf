import ChibiCopter.Gps.Parser
import ChibiCopter.Library.Buffer

/-!
# What the fields of a sentence say

The sentences share a small set of fields: a coordinate, the hemisphere behind it, a
fix status, a satellite number.  `fieldOf` is the table of the fields that are read,
by sentence type and number, and `Field.update` is what a field's text does to the
working data.  `gpsParseTerm` behind the first term is this table applied to the
terminated term buffer.
-/

namespace ChibiCopter.Gps

open CString Buffer

/-- The data that fields write. -/
structure Working where
  data : GpsData
  satellites : GpsSatellites
  deriving DecidableEq, Repr

namespace Globals

def working (gps : Globals) : Working := ⟨gps.gpsWorkingData, gps.gpsWorkingSatellites⟩

def setWorking (gps : Globals) (working : Working) : Globals :=
  { gps with gpsWorkingData := working.data, gpsWorkingSatellites := working.satellites }

@[simp] theorem setWorking_working (gps : Globals) : gps.setWorking gps.working = gps := rfl

end Globals

inductive Field where
  | latitude
  | northSouth
  | longitude
  | eastWest
  | status
  | quality
  | numVisible
  | mode
  | prn (ix : Fin 12)
  deriving DecidableEq, Repr

/-- The fields of each sentence that are read, by their number. -/
def gpggaField : Nat → Option Field
  | 2 => some .latitude
  | 3 => some .northSouth
  | 4 => some .longitude
  | 5 => some .eastWest
  | 6 => some .quality
  | 7 => some .numVisible
  | _ => none

def gprmcField : Nat → Option Field
  | 2 => some .status
  | 3 => some .latitude
  | 4 => some .northSouth
  | 5 => some .longitude
  | 6 => some .eastWest
  | _ => none

def gpgllField : Nat → Option Field
  | 1 => some .latitude
  | 2 => some .northSouth
  | 3 => some .longitude
  | 4 => some .eastWest
  | 6 => some .status
  | _ => none

def gpgsaField (number : Nat) : Option Field :=
  if number = 2 then some .mode
  else if satellite : 3 ≤ number ∧ number < 15 then some (.prn ⟨number - 3, by omega⟩)
  else none

def fieldOf : SentenceType → Nat → Option Field
  | .gpgga => gpggaField
  | .gprmc => gprmcField
  | .gpgll => gpgllField
  | .gpgsa => gpgsaField
  | .gpgsv | .gpvtg | .unknown => fun _ => none

/-- What the text of a field does to the working data. -/
def Field.update (field : Field) (text : List UInt8) (working : Working) : Working :=
  match field with
  | .latitude => { working with data.lat := latLonTerm text }
  | .northSouth =>
      if first text = Char.toUInt8 'S' then { working with data.lat := -working.data.lat }
      else working
  | .longitude => { working with data.lon := latLonTerm text }
  | .eastWest =>
      if first text = Char.toUInt8 'W' then { working with data.lon := -working.data.lon }
      else working
  | .status =>
      { working with data.dataGood := if first text = Char.toUInt8 'A' then 1 else 0 }
  | .quality =>
      { working with
        data.dataGood := if Char.toUInt8 '0' < first text then 1 else 0
        data.fixType := if first text = Char.toUInt8 '0' then 0 else working.data.fixType }
  | .numVisible => { working with satellites.numVisible := UInt8.ofInt (atoi text) }
  | .mode =>
      { working with
        data.dataGood := if Char.toUInt8 '0' < first text then 1 else 0
        data.fixType := first text }
  | .prn ix =>
      { working with satellites := working.satellites.setPrn ix (UInt8.ofInt (atoi text)) }

/-- What the text of the field with some number does, whether it is read or not. -/
def updateField (kind : SentenceType) (number : Nat) (text : List UInt8)
    (working : Working) : Working :=
  match fieldOf kind number with
  | some field => field.update text working
  | none => working

theorem fieldOf_zero (kind : SentenceType) : fieldOf kind 0 = none := by
  cases kind <;> rfl

/-- The first term is no field. -/
theorem ne_zero_of_fieldOf {kind : SentenceType} {number : Nat} {field : Field}
    (found : fieldOf kind number = some field) : number ≠ 0 := by
  rintro rfl
  rw [fieldOf_zero] at found
  cases found

theorem updateField_none {kind : SentenceType} {number : Nat}
    (unread : fieldOf kind number = none) (text : List UInt8) (working : Working) :
    updateField kind number text working = working := by
  rw [updateField, unread]

theorem updateField_some {kind : SentenceType} {number : Nat} {field : Field}
    (found : fieldOf kind number = some field) (text : List UInt8) (working : Working) :
    updateField kind number text working = field.update text working := by
  rw [updateField, found]

/-! ## The fields see their own text only -/

theorem readsText_gpsAtolLoop (ret : Int32) : ReadsText (gpsAtolLoop ret) :=
  isLoop_gpsAtolLoop.readsText (by decide) ret

theorem readsText_secondsLoop (tenkMinutes mult : UInt32) :
    ReadsText (secondsLoop tenkMinutes mult) :=
  isLoop_secondsLoop.readsText (by decide) (tenkMinutes, mult)

theorem readsText_latLonTerm : ReadsText latLonTerm := by
  intro memory
  have left_eq : gpsAtol (text memory) = gpsAtol memory := by
    rw [gpsAtol, readsText_gpsAtolLoop, gpsAtol]
  have point_eq := readsText_first (memory.dropWhile gpsIsDigit)
  rw [latLonTerm, latLonTerm, left_eq, dropWhile_text (by decide), point_eq]
  by_cases point : first (memory.dropWhile gpsIsDigit) = 0x2E
  · have more : first (memory.dropWhile gpsIsDigit) ≠ 0 := by
      rw [point]
      decide
    rw [text_tail more, readsText_secondsLoop]
  · simp only [point, if_false]

theorem readsText_update (field : Field) (working : Working) :
    ReadsText fun text => field.update text working := by
  intro memory
  have first_eq : first (text memory) = first memory := readsText_first memory
  have number_eq : atoi (text memory) = atoi memory := readsText_atoi memory
  have coordinate_eq : latLonTerm (text memory) = latLonTerm memory :=
    readsText_latLonTerm memory
  cases field <;> simp only [Field.update, first_eq, number_eq, coordinate_eq]

theorem readsText_updateField (kind : SentenceType) (number : Nat) (working : Working) :
    ReadsText fun text => updateField kind number text working := by
  intro memory
  unfold updateField
  cases fieldOf kind number with
  | none => rfl
  | some field => exact readsText_update field working memory

/-! ## The switch of the source is the table -/

namespace Globals

/-- Reading a field from the term buffer. -/
def read (gps : Globals) (field : Field) : Globals :=
  gps.setWorking (field.update gps.term.toList gps.working)

/-- Reading the field with some number from the term buffer. -/
def readNumber (gps : Globals) (kind : SentenceType) (number : Nat) : Globals :=
  gps.setWorking (updateField kind number gps.term.toList gps.working)

theorem readNumber_some {gps : Globals} {kind : SentenceType} {number : Nat} {field : Field}
    (found : fieldOf kind number = some field) : gps.readNumber kind number = gps.read field := by
  rw [readNumber, updateField, found, read]

theorem readNumber_none {gps : Globals} {kind : SentenceType} {number : Nat}
    (unread : fieldOf kind number = none) : gps.readNumber kind number = gps := by
  rw [readNumber, updateField, unread, setWorking_working]

end Globals

theorem termFirst_eq_zero_iff (gps : Globals) (c : UInt8) :
    termFirst gps [c] = 0 ↔ first gps.term.toList = c := by
  rw [termFirst, strncmp_one, first_cons, Int.sub_eq_zero, Int.ofNat_inj, UInt8.toNat_inj]

theorem termFirst_pos_iff (gps : Globals) (c : UInt8) :
    termFirst gps [c] > 0 ↔ c < first gps.term.toList := by
  rw [termFirst, strncmp_one, first_cons, UInt8.lt_iff_toNat_lt]
  omega

theorem parseLatitude_eq (gps : Globals) : parseLatitude gps = gps.read .latitude := rfl

theorem parseLongitude_eq (gps : Globals) : parseLongitude gps = gps.read .longitude := rfl

theorem parseNorthSouth_eq (gps : Globals) : parseNorthSouth gps = gps.read .northSouth := by
  rw [parseNorthSouth, Globals.read, Field.update, ascii, List.map_singleton]
  by_cases south : first gps.term.toList = Char.toUInt8 'S'
  · rw [if_pos ((termFirst_eq_zero_iff gps _).mpr south), if_pos south, Int32.mul_neg,
      Int32.mul_one]
    rfl
  · rw [if_neg fun zero => south ((termFirst_eq_zero_iff gps _).mp zero), if_neg south]
    rfl

theorem parseEastWest_eq (gps : Globals) : parseEastWest gps = gps.read .eastWest := by
  rw [parseEastWest, Globals.read, Field.update, ascii, List.map_singleton]
  by_cases west : first gps.term.toList = Char.toUInt8 'W'
  · rw [if_pos ((termFirst_eq_zero_iff gps _).mpr west), if_pos west, Int32.mul_neg,
      Int32.mul_one]
    rfl
  · rw [if_neg fun zero => west ((termFirst_eq_zero_iff gps _).mp zero), if_neg west]
    rfl

theorem parseStatus_eq (gps : Globals) : parseStatus gps = gps.read .status := by
  simp only [parseStatus, ascii, List.map_singleton, termFirst_eq_zero_iff]
  rfl

theorem parseQuality_eq (gps : Globals) : parseQuality gps = gps.read .quality := by
  have untouched (data : GpsData) :
      termFirst { gps with gpsWorkingData := data } [Char.toUInt8 '0'] =
        termFirst gps [Char.toUInt8 '0'] := rfl
  simp only [parseQuality, ascii, List.map_singleton, untouched, termFirst_eq_zero_iff,
    termFirst_pos_iff, Globals.read, Field.update]
  by_cases noFix : first gps.term.toList = Char.toUInt8 '0'
  · simp only [noFix, if_true]
    rfl
  · simp only [noFix, if_false]
    rfl

theorem parseNumVisible_eq (gps : Globals) : parseNumVisible gps = gps.read .numVisible := rfl

theorem parseMode_eq (gps : Globals) : parseMode gps = gps.read .mode := by
  have head_eq : gps.term[0] = first gps.term.toList := by
    rw [first, List.headD_eq_head?_getD, List.head?_eq_getElem?]
    simp
  simp only [parseMode, ascii, List.map_singleton, termFirst_pos_iff, head_eq]
  rfl

theorem parsePrn_eq (ix : Fin 12) (gps : Globals) : parsePrn ix gps = gps.read (.prn ix) := rfl

theorem parseGpgga_eq (gps : Globals) :
    parseGpgga gps = gps.readNumber .gpgga gps.sentenceOffset := by
  unfold parseGpgga
  split
  case h_1 number => rw [number, Globals.readNumber_some rfl, parseLatitude_eq]
  case h_2 number => rw [number, Globals.readNumber_some rfl, parseNorthSouth_eq]
  case h_3 number => rw [number, Globals.readNumber_some rfl, parseLongitude_eq]
  case h_4 number => rw [number, Globals.readNumber_some rfl, parseEastWest_eq]
  case h_5 number => rw [number, Globals.readNumber_some rfl, parseQuality_eq]
  case h_6 number => rw [number, Globals.readNumber_some rfl, parseNumVisible_eq]
  case h_7 => rw [Globals.readNumber_none (by simp only [fieldOf, gpggaField])]

theorem parseGprmc_eq (gps : Globals) :
    parseGprmc gps = gps.readNumber .gprmc gps.sentenceOffset := by
  unfold parseGprmc
  split
  case h_1 number => rw [number, Globals.readNumber_some rfl, parseStatus_eq]
  case h_2 number => rw [number, Globals.readNumber_some rfl, parseLatitude_eq]
  case h_3 number => rw [number, Globals.readNumber_some rfl, parseNorthSouth_eq]
  case h_4 number => rw [number, Globals.readNumber_some rfl, parseLongitude_eq]
  case h_5 number => rw [number, Globals.readNumber_some rfl, parseEastWest_eq]
  case h_6 => rw [Globals.readNumber_none (by simp only [fieldOf, gprmcField])]

theorem parseGpgll_eq (gps : Globals) :
    parseGpgll gps = gps.readNumber .gpgll gps.sentenceOffset := by
  unfold parseGpgll
  split
  case h_1 number => rw [number, Globals.readNumber_some rfl, parseLatitude_eq]
  case h_2 number => rw [number, Globals.readNumber_some rfl, parseNorthSouth_eq]
  case h_3 number => rw [number, Globals.readNumber_some rfl, parseLongitude_eq]
  case h_4 number => rw [number, Globals.readNumber_some rfl, parseEastWest_eq]
  case h_5 number => rw [number, Globals.readNumber_some rfl, parseStatus_eq]
  case h_6 => rw [Globals.readNumber_none (by simp only [fieldOf, gpgllField])]

theorem fieldOf_prn (ix : Fin 12) : fieldOf .gpgsa (ix.val + 3) = some (.prn ix) := by
  rw [fieldOf, gpgsaField, if_neg (by omega), dif_pos (by omega)]
  rfl

theorem fieldOf_gpgsa_none {number : Nat} (unread : number < 2 ∨ 14 < number) :
    fieldOf .gpgsa number = none := by
  rw [fieldOf, gpgsaField, if_neg (by omega), dif_neg (by omega)]

theorem parsePrn_number {gps : Globals} {ix : Fin 12}
    (number : gps.sentenceOffset = ix.val + 3) :
    parsePrn ix gps = gps.readNumber .gpgsa gps.sentenceOffset := by
  rw [number, Globals.readNumber_some (fieldOf_prn ix), parsePrn_eq]

theorem parseGpgsa_eq (gps : Globals) :
    parseGpgsa gps = gps.readNumber .gpgsa gps.sentenceOffset := by
  unfold parseGpgsa
  split
  case h_1 number => rw [number, Globals.readNumber_some rfl, parseMode_eq]
  case h_14 =>
      have unread : gps.sentenceOffset < 2 ∨ 14 < gps.sentenceOffset := by grind
      rw [Globals.readNumber_none (fieldOf_gpgsa_none unread)]
  all_goals exact parsePrn_number ‹_›

@[simp] theorem sentenceType_terminateTerm (gps : Globals) :
    (terminateTerm gps).sentenceType = gps.sentenceType := by
  unfold terminateTerm
  split <;> rfl

@[simp] theorem sentenceOffset_terminateTerm (gps : Globals) :
    (terminateTerm gps).sentenceOffset = gps.sentenceOffset := by
  unfold terminateTerm
  split <;> rfl

@[simp] theorem working_terminateTerm (gps : Globals) :
    (terminateTerm gps).working = gps.working := by
  unfold terminateTerm
  split <;> rfl

/-- Behind the first term, a term does what the table says about its number, on the
terminated buffer. -/
theorem gpsParseTerm_field {gps : Globals} (field : gps.sentenceOffset ≠ 0) :
    gpsParseTerm gps =
      (terminateTerm gps).readNumber gps.sentenceType gps.sentenceOffset := by
  simp only [gpsParseTerm, if_neg field, sentenceType_terminateTerm]
  cases gps.sentenceType with
  | gpgga => rw [parseGpgga_eq, sentenceOffset_terminateTerm]
  | gprmc => rw [parseGprmc_eq, sentenceOffset_terminateTerm]
  | gpgll => rw [parseGpgll_eq, sentenceOffset_terminateTerm]
  | gpgsa => rw [parseGpgsa_eq, sentenceOffset_terminateTerm]
  | gpgsv | gpvtg | unknown => rw [Globals.readNumber_none rfl]

end ChibiCopter.Gps
