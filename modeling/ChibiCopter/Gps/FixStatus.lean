import ChibiCopter.Gps.Position

/-!
# The fix status of the sentence kinds

Four kinds of sentences report whether there is a fix: GPGGA by a quality digit, GPRMC
and GPGLL by a letter, and GPGSA by a mode from 1 to 3, of which 1 means no fix.  They
write the same two variables.  The first three agree on their meaning.  The mode is
compared as if 0 meant no fix, and its character is stored where the others store
numbers.
-/

namespace ChibiCopter.Gps

open CString

/-! ## What sentences report -/

/-- What a well-formed sentence says about the fix. -/
inductive Report where
  | gpgga (quality : Fin 10)
  | gprmc (status : List UInt8)
  | gpgll (status : List UInt8)
  | gpgsa (mode : Fin 10) (isMode : mode.val = 1 ∨ mode.val = 2 ∨ mode.val = 3)
  | gpgsv
  | gpvtg

namespace Report

def kind : Report → SentenceType
  | gpgga _ => .gpgga
  | gprmc _ => .gprmc
  | gpgll _ => .gpgll
  | gpgsa _ _ => .gpgsa
  | gpgsv => .gpgsv
  | gpvtg => .gpvtg

/-- The text of the field that reports. -/
def text : Report → List UInt8
  | gpgga quality => [digitChar quality]
  | gprmc status => status
  | gpgll status => status
  | gpgsa mode _ => [digitChar mode]
  | gpgsv => []
  | gpvtg => []

/-- Whether there is a fix, if the sentence says so. -/
def good : Report → Option Bool
  | gpgga quality => some (quality.val ≠ 0)
  | gprmc status => some (status.head? = some (Char.toUInt8 'A'))
  | gpgll status => some (status.head? = some (Char.toUInt8 'A'))
  | gpgsa mode _ => some (mode.val = 2 ∨ mode.val = 3)
  | gpgsv => none
  | gpvtg => none

/-- The type of the fix, if the sentence says so. -/
def fix : Report → Option UInt8
  | gpgga quality => if quality.val = 0 then some 0 else none
  | gpgsa mode _ => some (UInt8.ofNat mode.val)
  | gprmc _ | gpgll _ | gpgsv | gpvtg => none

end Report

/-- The number of the field that reports the fix status. -/
def statusNumber : SentenceType → Option Nat
  | .gpgga => some 6
  | .gprmc => some 2
  | .gpgll => some 6
  | .gpgsa => some 2
  | .gpgsv | .gpvtg | .unknown => none

/-- A complete sentence with its report among arbitrary other fields.  The first
character of the ending ends the sentence; a checksum and the line end may follow. -/
structure StatusSentence where
  report : Report
  fields : List (List UInt8)
  ending : List UInt8
  carried : ∀ number, statusNumber report.kind = some number →
    fields[number - 1]? = some report.text
  plain : ∀ field ∈ fields, Plain field
  count : fields.length ≤ 255
  ends : ∃ c rest, ending = c :: rest ∧ endsSentence c = true ∧ comma ∉ rest ∧ dollar ∉ rest

def StatusSentence.text (sentence : StatusSentence) : List UInt8 :=
  dollar :: body sentence.report.kind.name sentence.fields ++ sentence.ending

/-- The working data behind a sentence report what it said. -/
structure Faithful (gps : Globals) (sentence : StatusSentence) : Prop where
  good : ∀ good, sentence.report.good = some good →
    ((parser.final gps sentence.text).gpsWorkingData.dataGood = 1 ↔ good = true)
  fix : ∀ mode, sentence.report.fix = some mode →
    (parser.final gps sentence.text).gpsWorkingData.fixType = mode

/-- The status of the last sentence that reports one, none being no fix. -/
def lastGood (good : Bool) (sentences : List StatusSentence) : Bool :=
  sentences.foldl (fun good sentence => sentence.report.good.getD good) good

/-- The working data behind some sentences. -/
def dataBehind (gps : Globals) (sentences : List StatusSentence) : GpsData :=
  (parser.final gps (sentences.flatMap StatusSentence.text)).gpsWorkingData

/-- Behind each of the sentences, the type of the fix is one of four and the status is
the last one reported. -/
def StatusKept (gps : Globals) (sentences : List StatusSentence) : Prop :=
  ∀ front back, sentences = front ++ back →
    (dataBehind gps front).fixType ∈ [0, 1, 2, 3] ∧
      ((dataBehind gps front).dataGood = 1 ↔ lastGood false front = true)

/-! ## One field writes the status -/

def Field.aboutFix : Field → Bool
  | .status | .quality | .mode => true
  | _ => false

theorem fieldOf_aboutFix {kind : SentenceType} {number : Nat} {field : Field}
    (found : fieldOf kind number = some field) (about : field.aboutFix = true) :
    statusNumber kind = some number := by
  cases kind with
  | gpgga =>
      simp only [fieldOf, gpggaField] at found
      split at found
      all_goals cases found
      all_goals first | rfl | cases about
  | gprmc =>
      simp only [fieldOf, gprmcField] at found
      split at found
      all_goals cases found
      all_goals first | rfl | cases about
  | gpgll =>
      simp only [fieldOf, gpgllField] at found
      split at found
      all_goals cases found
      all_goals first | rfl | cases about
  | gpgsa =>
      simp only [fieldOf, gpgsaField] at found
      split at found
      · rename_i number_eq
        rw [number_eq]
        rfl
      · split at found
        · cases found
          cases about
        · cases found
  | gpgsv | gpvtg | unknown => cases found

/-- The two variables of the status are the same. -/
structure SameStatus (first second : Working) : Prop where
  dataGood_eq : first.data.dataGood = second.data.dataGood
  fixType_eq : first.data.fixType = second.data.fixType

namespace SameStatus

theorem refl (working : Working) : SameStatus working working := ⟨rfl, rfl⟩

theorem trans {first second third : Working} (left : SameStatus first second)
    (right : SameStatus second third) : SameStatus first third :=
  ⟨left.dataGood_eq.trans right.dataGood_eq, left.fixType_eq.trans right.fixType_eq⟩

end SameStatus

theorem sameStatus_setLat (value : Int32) (working : Working) :
    SameStatus { working with data.lat := value } working := ⟨rfl, rfl⟩

theorem sameStatus_setLon (value : Int32) (working : Working) :
    SameStatus { working with data.lon := value } working := ⟨rfl, rfl⟩

theorem sameStatus_update {field : Field} (other : field.aboutFix = false) (text : List UInt8)
    (working : Working) : SameStatus (field.update text working) working := by
  cases field with
  | status | quality | mode => cases other
  | latitude => exact sameStatus_setLat (latLonTerm text) working
  | longitude => exact sameStatus_setLon (latLonTerm text) working
  | numVisible | prn => exact ⟨rfl, rfl⟩
  | northSouth | eastWest =>
      rw [Field.update]
      split
      · exact ⟨rfl, rfl⟩
      · exact .refl working

theorem sameStatus_updateField {kind : SentenceType} {number : Nat}
    (other : statusNumber kind ≠ some number) (text : List UInt8) (working : Working) :
    SameStatus (updateField kind number text working) working := by
  cases found : fieldOf kind number with
  | none =>
      rw [updateField_none found]
      exact .refl working
  | some field =>
      rw [updateField_some found]
      cases about : field.aboutFix with
      | true => exact absurd (fieldOf_aboutFix found about) other
      | false => exact sameStatus_update about text working

/-- Fields at other numbers leave the status. -/
theorem sameStatus_foldFields {kind : SentenceType} {number : Nat} {fields : List (List UInt8)}
    (other : ∀ place, number ≤ place → place < number + fields.length →
      statusNumber kind ≠ some place) (working : Working) :
    SameStatus (foldFields kind number fields working) working := by
  induction fields generalizing number working with
  | nil => exact .refl working
  | cons field fields ih =>
      rw [List.length_cons] at other
      have rest := @ih (number + 1)
        (fun place behind below => other place (by omega) (by omega))
        (updateField kind number (field.take 14) working)
      exact rest.trans (sameStatus_updateField (other number (by omega) (by omega)) _ working)

/-- The status behind a sentence is the one that its field gives. -/
theorem foldFields_status {kind : SentenceType} {number : Nat}
    (status : statusNumber kind = some number) (positive : 0 < number)
    {fields : List (List UInt8)} {text : List UInt8} (carried : fields[number - 1]? = some text)
    (working : Working) :
    ∃ before, SameStatus before working ∧
      SameStatus (foldFields kind 1 fields working)
        (updateField kind number (text.take 14) before) := by
  obtain ⟨below, text_eq⟩ := List.getElem?_eq_some_iff.mp carried
  have split : fields = fields.take (number - 1) ++ text :: fields.drop number := by
    have behind : number - 1 + 1 = number := by omega
    conv_lhs => rw [← List.take_append_drop (number - 1) fields]
    rw [List.drop_eq_getElem_cons below, text_eq, behind]
  have front_length : (fields.take (number - 1)).length = number - 1 :=
    List.length_take_of_le (by omega)
  have place_eq : 1 + (number - 1) = number := by omega
  have elsewhere {place : Nat} (away : place ≠ number) : statusNumber kind ≠ some place := by
    rw [status]
    exact fun same => away (Option.some.inj same).symm
  refine ⟨foldFields kind 1 (fields.take (number - 1)) working, ?_, ?_⟩
  · exact sameStatus_foldFields
      (fun place _ below => elsewhere (by rw [front_length] at below; omega)) working
  · rw [split, foldFields_append, front_length, place_eq, foldFields, ← split]
    exact sameStatus_foldFields (fun place behind _ => elsewhere (by omega)) _

/-! ## What the code stores for a report -/

namespace Report

def storedGood : Report → Option UInt8
  | gpgga quality => some (if quality.val = 0 then 0 else 1)
  | gprmc status | gpgll status =>
      some (if status.head? = some (Char.toUInt8 'A') then 1 else 0)
  | gpgsa _ _ => some 1
  | gpgsv | gpvtg => none

def storedFix : Report → Option UInt8
  | gpgga quality => if quality.val = 0 then some 0 else none
  | gpgsa mode _ => some (digitChar mode)
  | gprmc _ | gpgll _ | gpgsv | gpvtg => none

theorem kind_eq_gpgsa {report : Report} (kind_eq : report.kind = .gpgsa) :
    ∃ mode isMode, report = gpgsa mode isMode := by
  cases report with
  | gpgsa mode isMode => exact ⟨mode, isMode, rfl⟩
  | gpgga | gprmc | gpgll | gpgsv | gpvtg => cases kind_eq

theorem kind_named (report : Report) : report.kind ∈ sentenceTypes := by
  have known : report.kind ≠ .unknown := by
    cases report <;> exact nofun
  exact mem_sentenceTypes known

end Report

theorem first_take_eq_iff (status : List UInt8) {c : UInt8} (visible : c ≠ 0) :
    first (status.take 14) = c ↔ status.head? = some c := by
  cases status with
  | nil => exact ⟨fun nul => absurd nul.symm visible, nofun⟩
  | cons d status => exact Option.some_inj.symm

theorem digitChar_eq_zero_iff (digit : Fin 10) :
    digitChar digit = Char.toUInt8 '0' ↔ digit.val = 0 := by
  revert digit
  decide

theorem zero_lt_digitChar_iff (digit : Fin 10) :
    Char.toUInt8 '0' < digitChar digit ↔ digit.val ≠ 0 := by
  revert digit
  decide

/-- A report field stores its own values and leaves the others. -/
theorem updateField_report (report : Report) {number : Nat}
    (status : statusNumber report.kind = some number) (before : Working) :
    (updateField report.kind number (report.text.take 14) before).data.dataGood =
        report.storedGood.getD before.data.dataGood ∧
      (updateField report.kind number (report.text.take 14) before).data.fixType =
        report.storedFix.getD before.data.fixType := by
  have letter : Char.toUInt8 'A' ≠ 0 := by decide
  cases report with
  | gpgga quality =>
      cases status
      have found : fieldOf (Report.gpgga quality).kind 6 = some .quality := rfl
      rw [updateField_some found]
      have text_first : first ((Report.gpgga quality).text.take 14) = digitChar quality := rfl
      simp only [Field.update, text_first, digitChar_eq_zero_iff, zero_lt_digitChar_iff,
        Report.storedGood, Report.storedFix]
      by_cases noFix : quality.val = 0
      · simp [noFix]
      · simp [noFix]
  | gprmc text =>
      cases status
      have found : fieldOf (Report.gprmc text).kind 2 = some .status := rfl
      rw [updateField_some found]
      simp only [Field.update, Report.text, first_take_eq_iff text letter]
      exact ⟨rfl, rfl⟩
  | gpgll text =>
      cases status
      have found : fieldOf (Report.gpgll text).kind 6 = some .status := rfl
      rw [updateField_some found]
      simp only [Field.update, Report.text, first_take_eq_iff text letter]
      exact ⟨rfl, rfl⟩
  | gpgsa mode isMode =>
      cases status
      have found : fieldOf (Report.gpgsa mode isMode).kind 2 = some .mode := rfl
      rw [updateField_some found]
      have text_first : first ((Report.gpgsa mode isMode).text.take 14) = digitChar mode := rfl
      have isFix : mode.val ≠ 0 := by omega
      simp only [Field.update, text_first, zero_lt_digitChar_iff, if_pos isFix]
      exact ⟨rfl, rfl⟩
  | gpgsv | gpvtg => cases status

theorem working_statusSentence {gps : Globals} (reachable : Reachable gps)
    (sentence : StatusSentence) :
    (parser.final gps sentence.text).working =
      foldFields sentence.report.kind 1 sentence.fields gps.working := by
  obtain ⟨c, rest, ending_eq, ends, commaFree, -⟩ := sentence.ends
  exact working_ended reachable sentence.report.kind_named sentence.plain sentence.count
    ⟨c, rest, ending_eq, ends, commaFree⟩

/-- What a sentence leaves in the two variables. -/
theorem status_stored {gps : Globals} (reachable : Reachable gps) (sentence : StatusSentence) :
    (parser.final gps sentence.text).gpsWorkingData.dataGood =
        sentence.report.storedGood.getD gps.gpsWorkingData.dataGood ∧
      (parser.final gps sentence.text).gpsWorkingData.fixType =
        sentence.report.storedFix.getD gps.gpsWorkingData.fixType := by
  have working_eq := working_statusSentence reachable sentence
  have data_eq : (parser.final gps sentence.text).gpsWorkingData =
      (foldFields sentence.report.kind 1 sentence.fields gps.working).data :=
    congrArg Working.data working_eq
  rw [data_eq]
  cases status : statusNumber sentence.report.kind with
  | none =>
      have same := @sameStatus_foldFields sentence.report.kind 1 sentence.fields
        (fun place _ _ => by rw [status]; exact nofun) gps.working
      cases report_eq : sentence.report with
      | gpgga | gprmc | gpgll | gpgsa => rw [report_eq] at status; cases status
      | gpgsv | gpvtg =>
          rw [report_eq] at same
          exact ⟨same.dataGood_eq, same.fixType_eq⟩
  | some number =>
      have positive : 0 < number := by
        cases report_eq : sentence.report <;> rw [report_eq] at status <;> cases status <;> decide
      obtain ⟨before, before_eq, after_eq⟩ := foldFields_status status positive
        (sentence.carried number status) gps.working
      obtain ⟨good_eq, fix_eq⟩ := updateField_report sentence.report status before
      constructor
      · exact after_eq.dataGood_eq.trans (good_eq.trans (congrArg _ before_eq.dataGood_eq))
      · exact after_eq.fixType_eq.trans (fix_eq.trans (congrArg _ before_eq.fixType_eq))

/-! ## Which sentences are taken over faithfully -/

/-- A stored status means what the sentence said, unless it is a mode. -/
theorem Report.storedGood_iff {report : Report} (other : report.kind ≠ .gpgsa)
    (good : Bool) (dataGood : UInt8) (same : dataGood = 1 ↔ good = true) :
    report.storedGood.getD dataGood = 1 ↔ report.good.getD good = true := by
  cases report with
  | gpgga quality => simp [storedGood, Report.good]
  | gprmc status | gpgll status => simp [storedGood, Report.good]
  | gpgsa mode isMode => exact absurd rfl other
  | gpgsv | gpvtg => exact same

/-- The only other type of fix that is stored is 0. -/
theorem Report.storedFix_eq {report : Report} (other : report.kind ≠ .gpgsa) :
    report.storedFix = report.fix ∧ ∀ mode, report.fix = some mode → mode = 0 := by
  cases report with
  | gpgga quality =>
      refine ⟨rfl, fun mode same => ?_⟩
      rw [Report.fix] at same
      split at same
      · exact (Option.some.inj same).symm
      · cases same
  | gpgsa mode isMode => exact absurd rfl other
  | gprmc status | gpgll status | gpgsv | gpvtg => exact ⟨rfl, nofun⟩

theorem digitChar_ne_ofNat (digit : Fin 10) : digitChar digit ≠ UInt8.ofNat digit.val := by
  revert digit
  decide

theorem digitChar_not_type (digit : Fin 10) : digitChar digit ∉ [0, 1, 2, 3] := by
  revert digit
  decide

/-- A sentence is taken over faithfully unless it is a GPGSA. -/
theorem faithful_iff_kind {gps : Globals} (reachable : Reachable gps)
    (sentence : StatusSentence) :
    Faithful gps sentence ↔ sentence.report.kind ≠ .gpgsa := by
  obtain ⟨good_eq, fix_eq⟩ := status_stored reachable sentence
  constructor
  · intro faithful kind_eq
    obtain ⟨mode, isMode, report_eq⟩ := Report.kind_eq_gpgsa kind_eq
    have stored := faithful.fix
    rw [fix_eq, report_eq] at stored
    exact digitChar_ne_ofNat mode (stored (UInt8.ofNat mode.val) rfl)
  · intro other
    constructor
    · intro good said
      rw [good_eq]
      have stored := Report.storedGood_iff other (decide (gps.gpsWorkingData.dataGood = 1))
        gps.gpsWorkingData.dataGood (by simp)
      rwa [said, Option.getD_some] at stored
    · intro mode said
      rw [fix_eq, (Report.storedFix_eq other).1, said, Option.getD_some]

theorem lastGood_concat (good : Bool) (front : List StatusSentence) (last : StatusSentence) :
    lastGood good (front ++ [last]) = last.report.good.getD (lastGood good front) := by
  rw [lastGood, List.foldl_append]
  rfl

theorem dataBehind_concat (gps : Globals) (front : List StatusSentence)
    (last : StatusSentence) :
    dataBehind gps (front ++ [last]) =
      (parser.final (parser.final gps (front.flatMap StatusSentence.text))
        last.text).gpsWorkingData := by
  rw [dataBehind, List.flatMap_append, List.flatMap_singleton, parser.final_append]

/-- Without modes, the status is the last one and the type of the fix stays 0. -/
theorem status_run {gps : Globals} (reachable : Reachable gps)
    (noFix : gps.gpsWorkingData.dataGood = 0) (noType : gps.gpsWorkingData.fixType = 0)
    {sentences : List StatusSentence}
    (other : ∀ sentence ∈ sentences, sentence.report.kind ≠ .gpgsa) :
    (dataBehind gps sentences).fixType = 0 ∧
      ((dataBehind gps sentences).dataGood = 1 ↔ lastGood false sentences = true) := by
  induction sentences using List.reverseRecOn with
  | nil => exact ⟨noType, by simp [dataBehind, noFix, lastGood]⟩
  | append_singleton front last ih =>
      have earlier := ih fun sentence member => other sentence (List.mem_append_left [last] member)
      have kind_ne : last.report.kind ≠ .gpgsa := other last List.mem_concat_self
      obtain ⟨good_eq, fix_eq⟩ :=
        status_stored (reachable.run (front.flatMap StatusSentence.text)) last
      obtain ⟨stored_eq, fix_zero⟩ := Report.storedFix_eq kind_ne
      rw [dataBehind_concat, lastGood_concat, good_eq, fix_eq]
      refine ⟨?_, Report.storedGood_iff kind_ne _ _ earlier.2⟩
      rw [stored_eq]
      cases said : last.report.fix with
      | none => exact earlier.1
      | some mode => exact fix_zero mode said

/-- Status and type of the fix are taken over faithfully from every sentence but a
GPGSA, and from every sequence of sentences without one. -/
theorem fixStatus_iff {gps : Globals} (reachable : Reachable gps) :
    (∀ sentence, Faithful gps sentence ↔ sentence.report.kind ≠ .gpgsa) ∧
      (gps.gpsWorkingData.dataGood = 0 → gps.gpsWorkingData.fixType = 0 →
        ∀ sentences, StatusKept gps sentences ↔
          ∀ sentence ∈ sentences, sentence.report.kind ≠ .gpgsa) := by
  refine ⟨faithful_iff_kind reachable, fun noFix noType sentences => ⟨?_, ?_⟩⟩
  · intro kept sentence member kind_eq
    obtain ⟨front, back, rfl⟩ := List.append_of_mem member
    have behind := (kept (front ++ [sentence]) back (by simp)).1
    obtain ⟨-, fix_eq⟩ :=
      status_stored (reachable.run (front.flatMap StatusSentence.text)) sentence
    obtain ⟨mode, isMode, report_eq⟩ := Report.kind_eq_gpgsa kind_eq
    rw [dataBehind_concat, fix_eq, report_eq] at behind
    exact digitChar_not_type mode behind
  · rintro other front back rfl
    obtain ⟨fix_eq, good_iff⟩ := status_run reachable noFix noType fun sentence member =>
      other sentence (List.mem_append_left back member)
    rw [fix_eq]
    exact ⟨by decide, good_iff⟩

/-- A receiver without a fix. -/
def noFix : StatusSentence where
  report := .gpgsa ⟨1, by decide⟩ (Or.inl rfl)
  fields := [ascii ['A'], ascii ['1']] ++ List.replicate 15 []
  ending := star :: ascii ['1', 'E'] ++ [carriageReturn, lineFeed]
  carried := by
    intro number status
    cases status
    rfl
  plain := by decide
  count := by decide
  ends := ⟨star, ascii ['1', 'E'] ++ [carriageReturn, lineFeed], rfl, by decide, by decide,
    by decide⟩

theorem fixStatus_noFix :
    ¬ Faithful (gpsParserInit zeroGlobals) noFix ∧
      ¬ StatusKept (gpsParserInit zeroGlobals) [noFix] := by
  obtain ⟨single, run⟩ := fixStatus_iff (reachable_init zeroGlobals)
  constructor
  · exact fun faithful => (single noFix).mp faithful rfl
  · exact fun kept => (run rfl rfl [noFix]).mp kept noFix (List.mem_singleton.mpr rfl) rfl

/-- No fix is read as a good one. -/
theorem fixStatus_misread : ¬ ∀ gps, Reachable gps → ∀ sentence, Faithful gps sentence := by
  intro faithful
  have good := (faithful (gpsParserInit zeroGlobals) (reachable_init zeroGlobals) noFix).good
    false rfl
  have stored : (parser.final (gpsParserInit zeroGlobals) noFix.text).gpsWorkingData.dataGood =
      1 := by decide +kernel
  exact absurd (good.mp stored) (by decide)

end ChibiCopter.Gps
