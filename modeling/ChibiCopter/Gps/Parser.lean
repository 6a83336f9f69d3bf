import ChibiCopter.Library.CString
import ChibiCopter.Library.Transducer
import Mathlib.Data.Vector.Basic

/-!
# The NMEA parser of the GPS receiver

`GPS.c` reads the sentences of the GPS receiver one character at a time.  Its globals
are one record here, and each function of the source is a function on it under its
own name.  `char` is unsigned on the target, `int` and `long` have 32 bits, and the
two offsets count modulo 256.  The mutexes protect the public data against other
threads and do not appear.
-/

namespace ChibiCopter.Gps

open CString

/-- The constants `GPS_SENTENCE_*`. -/
inductive SentenceType where
  | unknown
  | gpgga
  | gprmc
  | gpgll
  | gpgsa
  | gpgsv
  | gpvtg
  deriving DecidableEq, Repr

def ascii (characters : List Char) : List UInt8 := characters.map Char.toUInt8

def gpggaTerm : List UInt8 := ascii ['G', 'P', 'G', 'G', 'A']

def gprmcTerm : List UInt8 := ascii ['G', 'P', 'R', 'M', 'C']

def gpgllTerm : List UInt8 := ascii ['G', 'P', 'G', 'L', 'L']

def gpgsaTerm : List UInt8 := ascii ['G', 'P', 'G', 'S', 'A']

def gpgsvTerm : List UInt8 := ascii ['G', 'P', 'G', 'S', 'V']

def gpvtgTerm : List UInt8 := ascii ['G', 'P', 'V', 'T', 'G']

/-- `gps_state_t`. -/
structure GpsState where
  sentenceType : SentenceType
  term : Vector UInt8 15
  sentenceOffset : Nat
  termOffset : Nat
  valid : UInt8
  deriving DecidableEq, Repr

/-- The fields of `gps_data_t` that some function reads or writes. -/
structure GpsData where
  fixType : UInt8
  dataGood : UInt8
  lat : Int32
  lon : Int32
  alt : Int32
  deriving DecidableEq, Repr

/-- The fields of `gps_satellites_t` that some function reads or writes. -/
structure GpsSatellites where
  numVisible : UInt8
  prn : Vector UInt8 12
  deriving DecidableEq, Repr

def GpsSatellites.setPrn (satellites : GpsSatellites) (ix : Fin 12) (number : UInt8) :
    GpsSatellites :=
  { satellites with prn := satellites.prn.set ix number }

/-- The globals of `GPS.c`. -/
structure Globals extends GpsState where
  gpsData : GpsData
  gpsWorkingData : GpsData
  gpsSatellites : GpsSatellites
  gpsWorkingSatellites : GpsSatellites
  deriving DecidableEq, Repr

def fixType (gps : Globals) : UInt8 := gps.gpsData.fixType

def getLatitude (gps : Globals) : Int32 := gps.gpsData.lat

def getLongitude (gps : Globals) : Int32 := gps.gpsData.lon

def getAltitude (gps : Globals) : Int32 := gps.gpsData.alt

def getNumSatellites (gps : Globals) : UInt8 := gps.gpsSatellites.numVisible

/-- `GPSParserInit` leaves the term buffer and all data as it finds them. -/
def gpsParserInit (globals : Globals) : Globals :=
  { globals with
    sentenceType := .unknown
    valid := 0
    sentenceOffset := 0
    termOffset := 0 }

/-! ## Numbers in a term -/

def gpsIsDigit (c : UInt8) : Bool := c ≥ 0x30 && c ≤ 0x39

/-- The loop of `_GPSatol`. -/
def gpsAtolLoop (ret : Int32) : List UInt8 → Int32
  | [] => ret
  | c :: str =>
      if gpsIsDigit c then gpsAtolLoop (10 * ret + c.toUInt32.toInt32 - 0x30) str else ret

def gpsAtol (str : List UInt8) : UInt32 := (gpsAtolLoop 0 str).toUInt32

/-- The loop behind the decimal point. -/
def secondsLoop (tenkMinutes mult : UInt32) : List UInt8 → UInt32
  | [] => tenkMinutes
  | c :: p =>
      if gpsIsDigit c then secondsLoop (tenkMinutes + mult * (c.toUInt32 - 0x30)) (mult / 10) p
      else tenkMinutes

/-- The body of `_GPSParseLatLonTerm`, for any memory in place of `gps_state.term`. -/
def latLonTerm (term : List UInt8) : Int32 :=
  let left := gpsAtol term
  let tenkMinutes := (left % 100) * 10000
  let p := term.dropWhile gpsIsDigit
  let tenkMinutes :=
    if first p = 0x2E then secondsLoop tenkMinutes 1000 p.tail else tenkMinutes
  ((left / 100) * 100000 + tenkMinutes / 6).toInt32

def gpsParseLatLonTerm (gps : Globals) : Int32 := latLonTerm gps.term.toList

/-- The body of the loop of `_GPSatol`. -/
def atolStep (ret : Int32) (c : UInt8) : Int32 := 10 * ret + c.toUInt32.toInt32 - 0x30

/-- The body of the loop behind the decimal point, on `tenk_minutes` and `mult`. -/
def secondsStep (seconds : UInt32 × UInt32) (c : UInt8) : UInt32 × UInt32 :=
  (seconds.1 + seconds.2 * (c.toUInt32 - 0x30), seconds.2 / 10)

theorem isLoop_gpsAtolLoop : IsLoop gpsAtolLoop gpsIsDigit atolStep id :=
  ⟨fun _ => rfl, fun _ _ _ => rfl⟩

theorem isLoop_secondsLoop :
    IsLoop (fun seconds => secondsLoop seconds.1 seconds.2) gpsIsDigit secondsStep Prod.fst :=
  ⟨fun _ => rfl, fun _ _ _ => rfl⟩

/-! ## One term -/

/-- `strncmp(gps_state.term, text, 1)`. -/
def termFirst (gps : Globals) (text : List UInt8) : Int := strncmp gps.term.toList text 1

def parseLatitude (gps : Globals) : Globals :=
  { gps with gpsWorkingData.lat := gpsParseLatLonTerm gps }

def parseNorthSouth (gps : Globals) : Globals :=
  if termFirst gps (ascii ['S']) = 0 then
    { gps with gpsWorkingData.lat := gps.gpsWorkingData.lat * -1 }
  else gps

def parseLongitude (gps : Globals) : Globals :=
  { gps with gpsWorkingData.lon := gpsParseLatLonTerm gps }

def parseEastWest (gps : Globals) : Globals :=
  if termFirst gps (ascii ['W']) = 0 then
    { gps with gpsWorkingData.lon := gps.gpsWorkingData.lon * -1 }
  else gps

def parseStatus (gps : Globals) : Globals :=
  { gps with gpsWorkingData.dataGood := if termFirst gps (ascii ['A']) = 0 then 1 else 0 }

def parseQuality (gps : Globals) : Globals :=
  let gps :=
    { gps with gpsWorkingData.dataGood := if termFirst gps (ascii ['0']) > 0 then 1 else 0 }
  if termFirst gps (ascii ['0']) = 0 then { gps with gpsWorkingData.fixType := 0 } else gps

def parseNumVisible (gps : Globals) : Globals :=
  { gps with gpsWorkingSatellites.numVisible := UInt8.ofInt (atoi gps.term.toList) }

def parseMode (gps : Globals) : Globals :=
  { gps with
    gpsWorkingData.dataGood := if termFirst gps (ascii ['0']) > 0 then 1 else 0
    gpsWorkingData.fixType := gps.term[0] }

/-- The cases 3 to 14 of a GPGSA sentence, which differ in the index only. -/
def parsePrn (ix : Fin 12) (gps : Globals) : Globals :=
  { gps with
    gpsWorkingSatellites :=
      gps.gpsWorkingSatellites.setPrn ix (UInt8.ofInt (atoi gps.term.toList)) }

/-- The switch on the field number of a GPGGA sentence. -/
def parseGpgga (gps : Globals) : Globals :=
  match gps.sentenceOffset with
  | 2 => parseLatitude gps
  | 3 => parseNorthSouth gps
  | 4 => parseLongitude gps
  | 5 => parseEastWest gps
  | 6 => parseQuality gps
  | 7 => parseNumVisible gps
  | _ => gps

def parseGprmc (gps : Globals) : Globals :=
  match gps.sentenceOffset with
  | 2 => parseStatus gps
  | 3 => parseLatitude gps
  | 4 => parseNorthSouth gps
  | 5 => parseLongitude gps
  | 6 => parseEastWest gps
  | _ => gps

def parseGpgll (gps : Globals) : Globals :=
  match gps.sentenceOffset with
  | 1 => parseLatitude gps
  | 2 => parseNorthSouth gps
  | 3 => parseLongitude gps
  | 4 => parseEastWest gps
  | 6 => parseStatus gps
  | _ => gps

def parseGpgsa (gps : Globals) : Globals :=
  match gps.sentenceOffset with
  | 2 => parseMode gps
  | 3 => parsePrn 0 gps
  | 4 => parsePrn 1 gps
  | 5 => parsePrn 2 gps
  | 6 => parsePrn 3 gps
  | 7 => parsePrn 4 gps
  | 8 => parsePrn 5 gps
  | 9 => parsePrn 6 gps
  | 10 => parsePrn 7 gps
  | 11 => parsePrn 8 gps
  | 12 => parsePrn 9 gps
  | 13 => parsePrn 10 gps
  | 14 => parsePrn 11 gps
  | _ => gps

/-- The first term of a sentence names its type.  The comparison is as long as the
received term, and a term that matches no name leaves the type as it was. -/
def parseTypeTerm (gps : Globals) : Globals :=
  let term := gps.term.toList
  if strncmp term gpggaTerm gps.termOffset = 0 then { gps with sentenceType := .gpgga }
  else if strncmp term gprmcTerm gps.termOffset = 0 then { gps with sentenceType := .gprmc }
  else if strncmp term gpgllTerm gps.termOffset = 0 then { gps with sentenceType := .gpgll }
  else if strncmp term gpgsaTerm gps.termOffset = 0 then { gps with sentenceType := .gpgsa }
  else if strncmp term gpgsvTerm gps.termOffset = 0 then { gps with sentenceType := .gpgsv }
  else if strncmp term gpvtgTerm gps.termOffset = 0 then { gps with sentenceType := .gpvtg }
  else gps

/-- The NUL that every term but the first gets. -/
def terminateTerm (gps : Globals) : Globals :=
  if gps.termOffset < 15 then { gps with term := gps.term.setIfInBounds gps.termOffset 0 }
  else gps

def gpsParseTerm (gps : Globals) : Globals :=
  if gps.sentenceOffset = 0 then parseTypeTerm gps
  else
    let gps := terminateTerm gps
    match gps.sentenceType with
    | .gpgga => parseGpgga gps
    | .gprmc => parseGprmc gps
    | .gpgll => parseGpgll gps
    | .gpgsa => parseGpgsa gps
    | .gpgsv => gps
    | .gpvtg => gps
    | .unknown => gps

/-! ## One character -/

/-- The branch that `_GPSParseSentence` enters, `none` for its default branch, and the
globals behind it.  No branch has a body yet. -/
def gpsParseSentence (gps : Globals) : Option SentenceType × Globals :=
  match gps.sentenceType with
  | .gpgga => (some .gpgga, gps)
  | .gprmc => (some .gprmc, gps)
  | .gpgll => (some .gpgll, gps)
  | .gpgsa => (some .gpgsa, gps)
  | .gpgsv => (some .gpgsv, gps)
  | .gpvtg => (some .gpvtg, gps)
  | .unknown => (none, gps)

/-- The character that ends a term. -/
def comma : UInt8 := Char.toUInt8 ','

/-- The character that begins a sentence. -/
def dollar : UInt8 := Char.toUInt8 '$'

def carriageReturn : UInt8 := 0x0D

def lineFeed : UInt8 := 0x0A

def star : UInt8 := Char.toUInt8 '*'

/-- The characters that end a sentence. -/
def endsSentence (c : UInt8) : Bool := c = carriageReturn ∨ c = lineFeed ∨ c = star

/-- The result of a call and the branch of `_GPSParseSentence` that it entered. -/
structure CharResult where
  valid : UInt8
  dispatched : Option SentenceType
  deriving DecidableEq, Repr

def gpsParseChar (c : UInt8) (gps : Globals) : CharResult × Globals :=
  if c = comma then
    let gps := gpsParseTerm gps
    let gps :=
      { gps with sentenceOffset := (gps.sentenceOffset + 1) % 256, termOffset := 0 }
    (⟨gps.valid, none⟩, gps)
  else if endsSentence c then
    let (dispatched, gps) := gpsParseSentence (gpsParseTerm gps)
    let gps := { gps with sentenceOffset := 0, termOffset := 0 }
    (⟨gps.valid, dispatched⟩, gps)
  else if c = dollar then
    let gps :=
      { gps with sentenceType := .unknown, sentenceOffset := 0, termOffset := 0, valid := 0 }
    (⟨gps.valid, none⟩, gps)
  else
    let gps :=
      if gps.termOffset < 14 then
        { gps with
          term := gps.term.setIfInBounds gps.termOffset c
          termOffset := (gps.termOffset + 1) % 256 }
      else gps
    (⟨gps.valid, none⟩, gps)

/-- The parser as a machine that answers each character with the result of the call. -/
def parser : Transducer Globals UInt8 CharResult := ⟨gpsParseChar⟩

@[simp] theorem parser_step (c : UInt8) (gps : Globals) :
    parser.step c gps = gpsParseChar c gps := rfl

/-! ## What one call does -/

@[simp] theorem endsSentence_carriageReturn : endsSentence carriageReturn = true := by decide

@[simp] theorem endsSentence_lineFeed : endsSentence lineFeed = true := by decide

@[simp] theorem endsSentence_star : endsSentence star = true := by decide

@[simp] theorem endsSentence_dollar : endsSentence dollar = false := by decide

theorem gpsParseChar_comma (gps : Globals) :
    gpsParseChar comma gps =
      (⟨(gpsParseTerm gps).valid, none⟩,
        { gpsParseTerm gps with
          sentenceOffset := ((gpsParseTerm gps).sentenceOffset + 1) % 256
          termOffset := 0 }) := by
  rw [gpsParseChar, if_pos rfl]

theorem gpsParseSentence_state (gps : Globals) : (gpsParseSentence gps).2 = gps := by
  unfold gpsParseSentence
  split <;> rfl

theorem ne_comma_of_endsSentence {c : UInt8} (ends : endsSentence c = true) : c ≠ comma := by
  rintro rfl
  exact absurd ends (by decide)

theorem ne_dollar_of_endsSentence {c : UInt8} (ends : endsSentence c = true) : c ≠ dollar := by
  rintro rfl
  exact absurd ends (by decide)

theorem gpsParseChar_ends {c : UInt8} (gps : Globals) (ends : endsSentence c = true) :
    gpsParseChar c gps =
      (⟨(gpsParseTerm gps).valid, (gpsParseSentence (gpsParseTerm gps)).1⟩,
        { gpsParseTerm gps with sentenceOffset := 0, termOffset := 0 }) := by
  simp only [gpsParseChar, if_neg (ne_comma_of_endsSentence ends), if_pos ends,
    gpsParseSentence_state]

theorem gpsParseChar_dollar (gps : Globals) :
    gpsParseChar dollar gps =
      (⟨0, none⟩,
        { gps with
          sentenceType := .unknown, sentenceOffset := 0, termOffset := 0, valid := 0 }) := by
  have different : dollar ≠ comma := by decide
  simp only [gpsParseChar, if_neg different, endsSentence_dollar, Bool.false_eq_true, if_false,
    if_true]

/-- A character that neither begins nor ends a sentence or a term. -/
structure IsText (c : UInt8) : Prop where
  ne_comma : c ≠ comma
  ne_ends : endsSentence c = false
  ne_dollar : c ≠ dollar

instance (c : UInt8) : Decidable (IsText c) :=
  decidable_of_iff (c ≠ comma ∧ endsSentence c = false ∧ c ≠ dollar)
    ⟨fun ⟨ne_comma, ne_ends, ne_dollar⟩ => ⟨ne_comma, ne_ends, ne_dollar⟩,
      fun isText => ⟨isText.ne_comma, isText.ne_ends, isText.ne_dollar⟩⟩

/-- A character of a term is stored while the buffer has room for it. -/
theorem gpsParseChar_store {c : UInt8} {gps : Globals} (isText : IsText c)
    (room : gps.termOffset < 14) :
    gpsParseChar c gps =
      (⟨gps.valid, none⟩,
        { gps with
          term := gps.term.setIfInBounds gps.termOffset c
          termOffset := gps.termOffset + 1 }) := by
  have small : (gps.termOffset + 1) % 256 = gps.termOffset + 1 := Nat.mod_eq_of_lt (by omega)
  simp only [gpsParseChar, if_neg isText.ne_comma, isText.ne_ends, Bool.false_eq_true, if_false,
    if_neg isText.ne_dollar, if_pos room, small]

theorem gpsParseChar_full {c : UInt8} {gps : Globals} (isText : IsText c)
    (full : ¬ gps.termOffset < 14) : gpsParseChar c gps = (⟨gps.valid, none⟩, gps) := by
  simp only [gpsParseChar, if_neg isText.ne_comma, isText.ne_ends, Bool.false_eq_true, if_false,
    if_neg isText.ne_dollar, if_neg full]

/-- Every character is of one of four kinds. -/
theorem char_cases (c : UInt8) : c = comma ∨ endsSentence c = true ∨ c = dollar ∨ IsText c := by
  by_cases isComma : c = comma
  · exact Or.inl isComma
  · by_cases isDollar : c = dollar
    · exact Or.inr (Or.inr (Or.inl isDollar))
    · cases ends : endsSentence c with
      | true => exact Or.inr (Or.inl rfl)
      | false => exact Or.inr (Or.inr (Or.inr ⟨isComma, ends, isDollar⟩))

/-- The states that some call of `GPSParserInit` leaves. -/
def Initialised (gps : Globals) : Prop := ∃ globals, gps = gpsParserInit globals

def Reachable : Globals → Prop := parser.Reachable Initialised

/-- The globals before the program runs. -/
def zeroGlobals : Globals where
  sentenceType := .unknown
  term := Vector.replicate 15 0
  sentenceOffset := 0
  termOffset := 0
  valid := 0
  gpsData := ⟨0, 0, 0, 0, 0⟩
  gpsWorkingData := ⟨0, 0, 0, 0, 0⟩
  gpsSatellites := ⟨0, Vector.replicate 12 0⟩
  gpsWorkingSatellites := ⟨0, Vector.replicate 12 0⟩

theorem reachable_init (globals : Globals) : Reachable (gpsParserInit globals) :=
  .start ⟨globals, rfl⟩

end ChibiCopter.Gps
