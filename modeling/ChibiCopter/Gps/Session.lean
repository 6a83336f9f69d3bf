import ChibiCopter.Gps.Encoding
import ChibiCopter.Gps.FixStatus
import ChibiCopter.Library.Overwrite
import Mathlib.Data.Vector.Basic

/-!
# Whole sessions

A receiver of NMEA sends sentences of all six kinds in any order, with a checksum or
without, and each says something about the position, the fix or the satellites.  The
parser reads the stream one character at a time, and its working data hold the last
thing that was said about each of these, decoded to what it was in front of the encoding.
The exceptions are those of the GPGSA mode: its number 1, for no fix, is taken for a fix,
and the type of the fix holds its character.
-/

namespace ChibiCopter.Gps

open CString Positional

/-! ## Sentences -/

/-- The text of a field that the parser does not read. -/
abbrev UnreadText := { text : List UInt8 // Plain text }

/-- A mode of the fix: 1 for none, 2 for one in the plane and 3 for one in space. -/
abbrev FixMode := { mode : Fin 10 // mode.val = 1 ∨ mode.val = 2 ∨ mode.val = 3 }

/-- What a sentence says, with the fields up to the last one that is read. -/
inductive Content where
  | gpgga (utc : UnreadText) (location : Location) (quality : Fin 10) (visible : SatelliteNumber)
  | gprmc (utc : UnreadText) (valid : Bool) (location : Location)
  | gpgll (location : Location) (utc : UnreadText) (valid : Bool)
  | gpgsa (selection : UnreadText) (mode : FixMode) (satellites : Vector SatelliteNumber 12)
  | gpgsv
  | gpvtg

namespace Content

def statusLetter (valid : Bool) : UInt8 := Char.toUInt8 (if valid then 'A' else 'V')

def kind : Content → SentenceType
  | gpgga .. => .gpgga
  | gprmc .. => .gprmc
  | gpgll .. => .gpgll
  | gpgsa .. => .gpgsa
  | gpgsv => .gpgsv
  | gpvtg => .gpvtg

def fields : Content → List (List UInt8)
  | gpgga utc location quality visible =>
      utc.val :: location.fields ++ [[digitChar quality], visible.text]
  | gprmc utc valid location => utc.val :: [statusLetter valid] :: location.fields
  | gpgll location utc valid => location.fields ++ [utc.val, [statusLetter valid]]
  | gpgsa selection mode satellites =>
      selection.val :: [digitChar mode.val] :: satellites.toList.map SatelliteNumber.text
  | gpgsv | gpvtg => []

/-- The position, if the sentence has one. -/
def location? : Content → Option (Int × Int)
  | gpgga _ location _ _ | gprmc _ _ location | gpgll location _ _ =>
      some (location.latitude, location.longitude)
  | gpgsa .. | gpgsv | gpvtg => none

/-- The report about the fix. -/
def report : Content → Report
  | gpgga _ _ quality _ => .gpgga quality
  | gprmc _ valid _ => .gprmc [statusLetter valid]
  | gpgll _ _ valid => .gpgll [statusLetter valid]
  | gpgsa _ mode _ => .gpgsa mode.val mode.property
  | gpgsv => .gpgsv
  | gpvtg => .gpvtg

/-- Whether there is a fix. -/
def good? (content : Content) : Option Bool := content.report.good

/-- The type of the fix. -/
def fix? (content : Content) : Option UInt8 := content.report.fix

/-- The number of visible satellites. -/
def visible? : Content → Option Nat
  | gpgga _ _ _ visible => some visible.value
  | gprmc .. | gpgll .. | gpgsa .. | gpgsv | gpvtg => none

/-- The satellites of the fix. -/
def satellites? : Content → Option (Vector Nat 12)
  | gpgsa _ _ satellites => some (satellites.map SatelliteNumber.value)
  | gpgga .. | gprmc .. | gpgll .. | gpgsv | gpvtg => none

end Content

/-- A sentence as it is sent: what it says, further fields, and how it ends. -/
structure NavSentence where
  content : Content
  further : List UnreadText
  ending : List UInt8
  further_le : further.length ≤ 240
  ends : Ending ending

def NavSentence.fields (sentence : NavSentence) : List (List UInt8) :=
  sentence.content.fields ++ sentence.further.map Subtype.val

def NavSentence.text (sentence : NavSentence) : List UInt8 :=
  dollar :: body sentence.content.kind.name sentence.fields ++ sentence.ending

/-! ## What has been said -/

/-- The working data without their encoding. -/
@[ext] structure Navigation where
  location : Int × Int
  good : Bool
  fix : UInt8
  visible : Nat
  satellites : Vector Nat 12
  deriving DecidableEq

def Working.navigation (working : Working) : Navigation where
  location := (working.data.lat.toInt, working.data.lon.toInt)
  good := working.data.dataGood ≠ 0
  fix := working.data.fixType
  visible := working.satellites.numVisible.toNat
  satellites := working.satellites.prn.map UInt8.toNat

/-- The last thing said about each of the components. -/
def Navigation.last (navigation : Navigation) (contents : List Content) : Navigation where
  location := (contents.filterMap Content.location?).getLastD navigation.location
  good := (contents.filterMap Content.good?).getLastD navigation.good
  fix := (contents.filterMap Content.fix?).getLastD navigation.fix
  visible := (contents.filterMap Content.visible?).getLastD navigation.visible
  satellites := (contents.filterMap Content.satellites?).getLastD navigation.satellites

/-- A GPGSA sentence that says there is no fix. -/
def Content.misread : Content → Bool
  | gpgsa _ mode _ => mode.val.val = 1
  | gpgga .. | gprmc .. | gpgll .. | gpgsv | gpvtg => false

/-- The working data hold the last that was said of the position and the satellites.  They
hold the last status of the fix unless a GPGSA without a fix has said it, and the last type
of the fix unless a GPGSA has said it. -/
structure Decoded (before reached : Navigation) (contents : List Content) : Prop where
  location_eq : reached.location = (before.last contents).location
  visible_eq : reached.visible = (before.last contents).visible
  satellites_eq : reached.satellites = (before.last contents).satellites
  good_iff : reached.good = (before.last contents).good ↔
    ∀ content, Overwrite.lastSetting Content.good? contents = some content →
      content.misread = false
  fix_iff : reached.fix = (before.last contents).fix ↔
    ∀ content, Overwrite.lastSetting Content.fix? contents = some content →
      content.kind ≠ .gpgsa

/-! ## What the code stores -/

namespace Content

def storedGood? (content : Content) : Option Bool :=
  content.report.storedGood.map fun good => good ≠ 0

def storedFix? (content : Content) : Option UInt8 := content.report.storedFix

end Content

/-- One more sentence. -/
def Navigation.store (navigation : Navigation) (content : Content) : Navigation where
  location := content.location?.getD navigation.location
  good := content.storedGood?.getD navigation.good
  fix := content.storedFix?.getD navigation.fix
  visible := content.visible?.getD navigation.visible
  satellites := content.satellites?.getD navigation.satellites

theorem storedGood?_eq_iff {content : Content} (said : content.good?.isSome) :
    content.storedGood? = content.good? ↔ content.misread = false := by
  cases content with
  | gpgga utc location quality visible =>
      refine iff_of_true ?_ rfl
      change some _ = some _
      by_cases noFix : quality.val = 0
      · simp [noFix]
      · simp [noFix]
  | gprmc utc valid location => exact iff_of_true (by cases valid <;> rfl) rfl
  | gpgll location utc valid => exact iff_of_true (by cases valid <;> rfl) rfl
  | gpgsa selection mode satellites =>
      have isMode := mode.property
      change some true = some (decide (mode.val.val = 2 ∨ mode.val.val = 3)) ↔
        decide (mode.val.val = 1) = false
      rw [Option.some_inj, eq_comm, decide_eq_true_iff, decide_eq_false_iff_not]
      omega
  | gpgsv | gpvtg => cases said

theorem storedFix?_eq_iff {content : Content} (said : content.fix?.isSome) :
    content.storedFix? = content.fix? ↔ content.kind ≠ .gpgsa := by
  cases content with
  | gpgsa selection mode satellites =>
      refine iff_of_false (fun same => ?_) (fun other => other rfl)
      exact digitChar_ne_ofNat mode.val (Option.some.inj same)
  | gpgga utc location quality visible => exact iff_of_true rfl nofun
  | gprmc | gpgll | gpgsv | gpvtg => cases said

/-- What the code stores of some contents is what they said, but for the exceptions. -/
theorem decoded_store (before : Navigation) (contents : List Content) :
    Decoded before (contents.foldl Navigation.store before) contents where
  location_eq :=
    Overwrite.foldl_eq_getLastD Navigation.location Content.location? (fun _ _ => rfl) _ _
  visible_eq :=
    Overwrite.foldl_eq_getLastD Navigation.visible Content.visible? (fun _ _ => rfl) _ _
  satellites_eq :=
    Overwrite.foldl_eq_getLastD Navigation.satellites Content.satellites? (fun _ _ => rfl) _ _
  good_iff := by
    have isSome_eq (content : Content) :
        content.storedGood?.isSome = content.good?.isSome := by
      cases content <;> rfl
    rw [Overwrite.foldl_eq_getLastD Navigation.good Content.storedGood? (fun _ _ => rfl)]
    refine (Overwrite.getLastD_filterMap_eq_iff isSome_eq _ _).trans ?_
    exact forall₂_congr fun content last =>
      storedGood?_eq_iff (Overwrite.isSome_of_lastSetting last)
  fix_iff := by
    have isSome_eq (content : Content) : content.storedFix?.isSome = content.fix?.isSome := by
      cases content <;> rfl
    rw [Overwrite.foldl_eq_getLastD Navigation.fix Content.storedFix? (fun _ _ => rfl)]
    refine (Overwrite.getLastD_filterMap_eq_iff isSome_eq _ _).trans ?_
    exact forall₂_congr fun content last =>
      storedFix?_eq_iff (Overwrite.isSome_of_lastSetting last)

/-! ## Fields -/

theorem fieldOf_further {content : Content} {number : Nat}
    (behind : 1 + content.fields.length ≤ number) : fieldOf content.kind number = none := by
  cases content with
  | gpgga utc location quality visible =>
      have late : 8 ≤ number := behind
      simp only [Content.kind, fieldOf, gpggaField]
      split <;> first | rfl | omega
  | gprmc utc valid location =>
      have late : 7 ≤ number := behind
      simp only [Content.kind, fieldOf, gprmcField]
      split <;> first | rfl | omega
  | gpgll location utc valid =>
      have late : 7 ≤ number := behind
      simp only [Content.kind, fieldOf, gpgllField]
      split <;> first | rfl | omega
  | gpgsa selection mode satellites =>
      have late : 15 ≤ number := by
        simpa [Content.fields] using behind
      exact fieldOf_gpgsa_none (Or.inr late)
  | gpgsv | gpvtg => rfl

theorem update_northSouth (value : Int32) (ns : List UInt8) (working : Working) :
    Field.northSouth.update ns { working with data.lat := value } =
      { working with data.lat := if first ns = Char.toUInt8 'S' then -value else value } := by
  rw [Field.update]
  split <;> rfl

theorem update_eastWest (value : Int32) (ew : List UInt8) (working : Working) :
    Field.eastWest.update ew { working with data.lon := value } =
      { working with data.lon := if first ew = Char.toUInt8 'W' then -value else value } := by
  rw [Field.update]
  split <;> rfl

/-- The four fields of a position write it and nothing else. -/
theorem foldFields_four {kind : SentenceType} {number : Nat}
    (position : latitudeNumber kind = some number) (lat ns lon ew : List UInt8)
    (working : Working) :
    foldFields kind number [lat, ns, lon, ew] working =
      { working with data.lat := signed 'S' ns lat, data.lon := signed 'W' ew lon } := by
  obtain ⟨lat_field, ns_field, lon_field, ew_field⟩ := fieldOf_position position
  rw [foldFields, updateField_some lat_field, foldFields, updateField_some ns_field, foldFields,
    updateField_some lon_field, foldFields, updateField_some ew_field, foldFields,
    Field.update, update_northSouth, Field.update, update_eastWest, signed, signed]

theorem navigation_location {kind : SentenceType} {number : Nat}
    (position : latitudeNumber kind = some number) (location : Location) (working : Working) :
    (foldFields kind number location.fields working).navigation =
      { working.navigation with location := (location.latitude, location.longitude) } := by
  rw [Location.fields, foldFields_four position]
  exact Navigation.ext (Prod.ext location.toInt_latitude location.toInt_longitude) rfl rfl rfl rfl

theorem navigation_quality (quality : Fin 10) (working : Working) :
    (Field.quality.update ([digitChar quality].take 14) working).navigation =
      { working.navigation with
        good := quality.val ≠ 0
        fix := if quality.val = 0 then 0 else working.navigation.fix } := by
  have first_eq : first ([digitChar quality].take 14) = digitChar quality := rfl
  simp only [Field.update, Working.navigation, first_eq, digitChar_eq_zero_iff,
    zero_lt_digitChar_iff]
  by_cases noFix : quality.val = 0
  · simp [noFix]
  · simp [noFix]

theorem navigation_mode (mode : FixMode) (working : Working) :
    (Field.mode.update ([digitChar mode.val].take 14) working).navigation =
      { working.navigation with good := true, fix := digitChar mode.val } := by
  have first_eq : first ([digitChar mode.val].take 14) = digitChar mode.val := rfl
  have isMode := mode.property
  have isFix : mode.val.val ≠ 0 := by omega
  simp only [Field.update, Working.navigation, first_eq, zero_lt_digitChar_iff, if_pos isFix]
  rfl

theorem navigation_status (valid : Bool) (working : Working) :
    (Field.status.update ([Content.statusLetter valid].take 14) working).navigation =
      { working.navigation with good := valid } := by
  cases valid with
  | false => rfl
  | true => rfl

theorem navigation_numVisible (number : SatelliteNumber) (working : Working) :
    (Field.numVisible.update (number.text.take 14) working).navigation =
      { working.navigation with visible := number.value } :=
  Navigation.ext rfl rfl rfl number.toNat_atoi rfl

/-- The satellite numbers from some place of the table on. -/
theorem foldFields_satellites {start : Nat} {numbers : List SatelliteNumber}
    (fits : start + numbers.length ≤ 12) (working : Working) :
    let reached := foldFields .gpgsa (start + 3) (numbers.map SatelliteNumber.text) working
    reached.data = working.data ∧
      reached.satellites.numVisible = working.satellites.numVisible ∧
      ∀ (ix : Nat) (inside : ix < 12), reached.satellites.prn[ix].toNat =
        if ix < start then working.satellites.prn[ix].toNat
        else (numbers[ix - start]?.map SatelliteNumber.value).getD
          working.satellites.prn[ix].toNat := by
  induction numbers generalizing start working with
  | nil => exact ⟨rfl, rfl, fun ix _ => by simp [foldFields]⟩
  | cons number numbers ih =>
      rw [List.length_cons] at fits
      have found : fieldOf .gpgsa (start + 3) = some (.prn ⟨start, by omega⟩) :=
        fieldOf_prn ⟨start, by omega⟩
      obtain ⟨data_eq, visible_eq, prn_eq⟩ := @ih (start + 1) (by omega)
        (updateField .gpgsa (start + 3) (number.text.take 14) working)
      rw [List.map_cons, foldFields, Nat.add_right_comm start 3 1]
      rw [updateField_some found] at data_eq visible_eq prn_eq ⊢
      refine ⟨data_eq, visible_eq, fun ix inside => (prn_eq ix inside).trans ?_⟩
      simp only [Field.update, GpsSatellites.setPrn, Vector.getElem_set]
      rcases Nat.lt_trichotomy ix start with before | rfl | behind
      · rw [if_pos (by omega), if_neg (by omega), if_pos before]
      · rw [if_pos (by omega), if_pos rfl, if_neg (by omega), Nat.sub_self,
          number.toNat_atoi]
        rfl
      · have place_eq : ix - start = ix - (start + 1) + 1 := by omega
        rw [if_neg (by omega), if_neg (by omega), if_neg (by omega), place_eq,
          List.getElem?_cons_succ]

theorem navigation_satellites (satellites : Vector SatelliteNumber 12) (working : Working) :
    (foldFields .gpgsa 3 (satellites.toList.map SatelliteNumber.text) working).navigation =
      { working.navigation with satellites := satellites.map SatelliteNumber.value } := by
  have fits : 0 + satellites.toList.length ≤ 12 := by simp
  obtain ⟨data_eq, visible_eq, prn_eq⟩ := foldFields_satellites fits working
  refine Navigation.ext ?_ ?_ ?_ (congrArg UInt8.toNat visible_eq) (Vector.ext fun ix inside => ?_)
  · exact congrArg (fun data : GpsData => (data.lat.toInt, data.lon.toInt)) data_eq
  · exact congrArg (fun data : GpsData => decide (data.dataGood ≠ 0)) data_eq
  · exact congrArg GpsData.fixType data_eq
  · have entry_eq := prn_eq ix inside
    rw [if_neg (Nat.not_lt_zero ix), Nat.sub_zero, Vector.getElem?_toList,
      Vector.getElem?_eq_getElem inside] at entry_eq
    exact (Vector.getElem_map UInt8.toNat inside).trans
      (entry_eq.trans (Vector.getElem_map SatelliteNumber.value inside).symm)

/-! ## Sentences -/

theorem named_content (content : Content) : content.kind ∈ sentenceTypes := by
  have known : content.kind ≠ .unknown := by
    cases content <;> exact nofun
  exact mem_sentenceTypes known

theorem plain_statusLetter (valid : Bool) : Plain [Content.statusLetter valid] := by
  cases valid <;> decide

theorem plain_content (content : Content) : ∀ field ∈ content.fields, Plain field := by
  cases content with
  | gpgga utc location quality visible =>
      simp only [Content.fields, List.cons_append, List.forall_mem_cons, List.forall_mem_append]
      exact ⟨utc.property, location.plain_fields, plain_digits [quality],
        plain_digits visible.digits, List.forall_mem_nil _⟩
  | gprmc utc valid location =>
      simp only [Content.fields, List.forall_mem_cons]
      exact ⟨utc.property, plain_statusLetter valid, location.plain_fields⟩
  | gpgll location utc valid =>
      simp only [Content.fields, List.forall_mem_append, List.forall_mem_cons]
      exact ⟨location.plain_fields, utc.property, plain_statusLetter valid,
        List.forall_mem_nil _⟩
  | gpgsa selection mode satellites =>
      simp only [Content.fields, List.forall_mem_cons]
      refine ⟨selection.property, plain_digits [mode.val], fun field member => ?_⟩
      obtain ⟨number, -, rfl⟩ := List.mem_map.mp member
      exact plain_digits number.digits
  | gpgsv | gpvtg => exact List.forall_mem_nil _

theorem length_content (content : Content) : content.fields.length ≤ 14 := by
  cases content with
  | gpgsa selection mode satellites => simp [Content.fields]
  | gpgga | gprmc | gpgll => simp [Content.fields, Location.fields]
  | gpgsv | gpvtg => exact Nat.zero_le 14

/-- What the code stores for a sentence, the working data hold behind it. -/
theorem navigation_content (content : Content) (working : Working) :
    (foldFields content.kind 1 content.fields working).navigation =
      working.navigation.store content := by
  cases content with
  | gpgga utc location quality visible =>
      have quality_field : fieldOf .gpgga (1 + 1 + location.fields.length) = some .quality := rfl
      have visible_field : fieldOf .gpgga (1 + 1 + location.fields.length + 1) =
        some .numVisible := rfl
      rw [Content.kind, Content.fields, List.cons_append, foldFields, updateField_none rfl,
        foldFields_append, foldFields, updateField_some quality_field, foldFields,
        updateField_some visible_field, foldFields, navigation_numVisible, navigation_quality,
        navigation_location rfl]
      have stored := (@storedGood?_eq_iff (.gpgga utc location quality visible) rfl).mpr rfl
      refine Navigation.ext rfl (congrArg (·.getD working.navigation.good) stored).symm ?_ rfl rfl
      change (if quality.val = 0 then 0 else working.navigation.fix) =
        (if quality.val = 0 then some 0 else none).getD working.navigation.fix
      split <;> rfl
  | gprmc utc valid location =>
      rw [Content.kind, Content.fields, foldFields, updateField_none rfl, foldFields,
        @updateField_some .gprmc (1 + 1) .status rfl, navigation_location rfl, navigation_status]
      cases valid <;> rfl
  | gpgll location utc valid =>
      have status_field : fieldOf .gpgll (1 + location.fields.length + 1) = some .status := rfl
      rw [Content.kind, Content.fields, foldFields_append, foldFields, updateField_none rfl,
        foldFields, updateField_some status_field, foldFields, navigation_status,
        navigation_location rfl]
      cases valid <;> rfl
  | gpgsa selection mode satellites =>
      rw [Content.kind, Content.fields, foldFields, updateField_none rfl, foldFields,
        @updateField_some .gpgsa (1 + 1) .mode rfl, navigation_satellites, navigation_mode]
      rfl
  | gpgsv | gpvtg => rfl

theorem navigation_sentence {gps : Globals} (reachable : Reachable gps) (sentence : NavSentence) :
    (parser.final gps sentence.text).working.navigation =
      gps.working.navigation.store sentence.content := by
  have plain : ∀ field ∈ sentence.fields, Plain field := by
    intro field member
    rcases List.mem_append.mp member with inContent | inFurther
    · exact plain_content sentence.content field inContent
    · obtain ⟨further, -, rfl⟩ := List.mem_map.mp inFurther
      exact further.property
  have count : sentence.fields.length ≤ 255 := by
    have read := length_content sentence.content
    have further := sentence.further_le
    rw [NavSentence.fields, List.length_append, List.length_map]
    omega
  rw [NavSentence.text,
    working_ended reachable (named_content sentence.content) plain count sentence.ends,
    NavSentence.fields, foldFields_append,
    foldFields_unread (fun later behind => fieldOf_further behind)]
  exact navigation_content sentence.content gps.working

/-- A session is heard one sentence after the other. -/
theorem navigation_session {gps : Globals} (reachable : Reachable gps)
    (session : List NavSentence) :
    (parser.final gps (session.flatMap NavSentence.text)).working.navigation =
      (session.map NavSentence.content).foldl Navigation.store gps.working.navigation := by
  induction session generalizing gps with
  | nil => rfl
  | cons sentence session ih =>
      rw [List.flatMap_cons, parser.final_append, ih (reachable.run sentence.text),
        navigation_sentence reachable, List.map_cons, List.foldl_cons]

/-- Whatever sentences of the six kinds are received, in whatever order, from whatever
state: the working data hold the last position that was sent, the last visible number and
the last table of satellites, decoded without loss.  They hold the last fix status that was
sent unless a GPGSA of mode 1 has sent it, and the last type of the fix unless a GPGSA has. -/
theorem session_decoded {gps : Globals} (reachable : Reachable gps)
    (session : List NavSentence) :
    Decoded gps.working.navigation
      (parser.final gps (session.flatMap NavSentence.text)).working.navigation
      (session.map NavSentence.content) := by
  rw [navigation_session reachable]
  exact decoded_store gps.working.navigation (session.map NavSentence.content)

theorem ending_star : Ending [star] := ⟨star, [], rfl, by decide, by decide⟩

theorem ending_lineFeed : Ending [lineFeed] := ⟨lineFeed, [], rfl, by decide, by decide⟩

section Brief

attribute [local instance] decimalBase

/-- A fix in the southern hemisphere, its satellites, and the same place without a fix. -/
def briefSession : List NavSentence :=
  let place : Location := ⟨-3356789, 15112345, by decide, by decide⟩
  let nine : SatelliteNumber := ⟨[0, 9], by decide, by decide⟩
  let utc : UnreadText := ⟨[], by decide⟩
  [⟨.gpgga utc place 1 nine, [], [star], by decide, ending_star⟩,
    ⟨.gpgsa utc ⟨3, by decide⟩ (Vector.replicate 12 nine), [], [lineFeed], by decide, ending_lineFeed⟩,
    ⟨.gprmc utc false place, [], [star], by decide, ending_star⟩]

end Brief

theorem session_decoded_brief :
    let reached := (parser.final (gpsParserInit zeroGlobals)
      (briefSession.flatMap NavSentence.text)).working.navigation
    reached.location = (-3356789, 15112345) ∧ reached.visible = 9 ∧
      reached.satellites = Vector.replicate 12 9 ∧ reached.good = false ∧ reached.fix ≠ 3 := by
  have said : (gpsParserInit zeroGlobals).working.navigation.last
      (briefSession.map NavSentence.content) =
        ⟨(-3356789, 15112345), false, 3, 9, Vector.replicate 12 9⟩ := by decide +kernel
  obtain ⟨location_eq, visible_eq, satellites_eq, good_iff, fix_iff⟩ :=
    session_decoded (reachable_init zeroGlobals) briefSession
  rw [said] at location_eq visible_eq satellites_eq good_iff fix_iff
  refine ⟨location_eq, visible_eq, satellites_eq, good_iff.mpr ?_, fun same => ?_⟩
  · rintro content ⟨⟩
    rfl
  · exact fix_iff.mp same _ rfl rfl

end ChibiCopter.Gps
