import ChibiCopter.Gps.Position

/-!
# What is published

`_GPSParseSentence` is to copy the working data of a valid sentence to the data that
the accessors read, and to set the flag that `GPSParseChar` returns.  Its branches are
still empty.  No call writes the public data, and the flag is 0 in every reachable
state, so that no fix ever gets out of the parser.
-/

namespace ChibiCopter.Gps

open Positional

/-- A complete GPGGA sentence that reports a fix. -/
structure FixSentence where
  utc : List UInt8
  latitude : Coordinate
  north : Bool
  longitude : Coordinate
  east : Bool
  quality : Fin 10
  satellites : List (Fin 10)
  others : List (List UInt8)
  terminator : UInt8
  utc_plain : Plain utc
  quality_ne_zero : quality.val ≠ 0
  satellites_counted : satellites ≠ [] ∧ natValue satellites ≤ 255
  others_plain : ∀ field ∈ others, Plain field
  others_length : others.length = 7
  ends : endsSentence terminator = true

namespace FixSentence

def northSouth (fix : FixSentence) : UInt8 := Char.toUInt8 (if fix.north then 'N' else 'S')

def eastWest (fix : FixSentence) : UInt8 := Char.toUInt8 (if fix.east then 'E' else 'W')

def fields (fix : FixSentence) : List (List UInt8) :=
  [fix.utc, fix.latitude.text, [fix.northSouth], fix.longitude.text, [fix.eastWest],
    [digitChar fix.quality], fix.satellites.map digitChar] ++ fix.others

/-- The characters in front of the one that ends the sentence. -/
def text (fix : FixSentence) : List UInt8 := dollar :: body gpggaTerm fix.fields

theorem length_fields (fix : FixSentence) : fix.fields.length = 14 := by
  rw [fields, List.length_append, fix.others_length]
  rfl

theorem plain_fields (fix : FixSentence) :
    ∀ field ∈ gpggaTerm :: fix.fields, Plain field := by
  have northSouth_plain : Plain [fix.northSouth] := by
    unfold northSouth
    split <;> decide
  have eastWest_plain : Plain [fix.eastWest] := by
    unfold eastWest
    split <;> decide
  simp only [fields, List.forall_mem_cons, List.cons_append, List.nil_append]
  exact ⟨plain_name .gpgga, fix.utc_plain, plain_coordinate fix.latitude, northSouth_plain,
    plain_coordinate fix.longitude, eastWest_plain, plain_digits [fix.quality],
    plain_digits fix.satellites, fix.others_plain⟩

end FixSentence

/-- The call with the character that ends a fix sentence. -/
def fixCall (gps : Globals) (fix : FixSentence) : CharResult × Globals :=
  gpsParseChar fix.terminator (parser.final gps fix.text)

/-- The call announces a valid sentence, and the accessors return its values. -/
structure Published (gps : Globals) (fix : FixSentence) : Prop where
  valid : (fixCall gps fix).1.valid ≠ 0
  latitude : getLatitude (fixCall gps fix).2 = (fixCall gps fix).2.gpsWorkingData.lat
  longitude : getLongitude (fixCall gps fix).2 = (fixCall gps fix).2.gpsWorkingData.lon
  satellites :
    getNumSatellites (fixCall gps fix).2 = (fixCall gps fix).2.gpsWorkingSatellites.numVisible

/-- The parser reads the fix, and the call enters the branch that is to publish it. -/
theorem fix_read {gps : Globals} (reachable : Reachable gps) (fix : FixSentence) :
    (fixCall gps fix).1.dispatched = some .gpgga ∧
      (fixCall gps fix).2.working = foldFields .gpgga 1 fix.fields gps.working := by
  have count : fix.fields.length ≤ 255 := by
    rw [fix.length_fields]
    decide
  have before := view_final reachable fix.text
  rw [FixSentence.text, (yields_body gps.view fix.plain_fields).final_eq] at before
  obtain ⟨kind_eq, working_eq⟩ :=
    close_sentence gps.view (kind_of_name (show .gpgga ∈ sentenceTypes by decide)) count
  have fits : (parser.final gps fix.text).Fits := fits_of_reachable (reachable.run fix.text)
  constructor
  · rw [fixCall, dispatched_step fix.terminator fits, Reader.read_ends _ fix.ends,
      FixSentence.text, before]
    exact congrArg branch kind_eq
  · have step := congrArg Reader.working (view_step fix.terminator fits)
    rw [Reader.read_ends _ fix.ends, FixSentence.text, before] at step
    exact step.trans working_eq

/-! ## No call publishes -/

/-- Nothing that other threads can see differs. -/
structure SamePublic (gps other : Globals) : Prop where
  valid_eq : gps.valid = other.valid
  data_eq : gps.gpsData = other.gpsData
  satellites_eq : gps.gpsSatellites = other.gpsSatellites

namespace SamePublic

theorem refl (gps : Globals) : SamePublic gps gps := ⟨rfl, rfl, rfl⟩

theorem trans {first second third : Globals} (left : SamePublic first second)
    (right : SamePublic second third) : SamePublic first third :=
  ⟨left.valid_eq.trans right.valid_eq, left.data_eq.trans right.data_eq,
    left.satellites_eq.trans right.satellites_eq⟩

end SamePublic

theorem samePublic_parseTypeTerm (gps : Globals) : SamePublic (parseTypeTerm gps) gps := by
  dsimp only [parseTypeTerm]
  repeat' split
  all_goals exact ⟨rfl, rfl, rfl⟩

theorem samePublic_terminateTerm (gps : Globals) : SamePublic (terminateTerm gps) gps := by
  unfold terminateTerm
  split
  · exact ⟨rfl, rfl, rfl⟩
  · exact .refl gps

theorem samePublic_gpsParseTerm (gps : Globals) : SamePublic (gpsParseTerm gps) gps := by
  by_cases field : gps.sentenceOffset = 0
  · rw [gpsParseTerm, if_pos field]
    exact samePublic_parseTypeTerm gps
  · have read : SamePublic (gpsParseTerm gps) (terminateTerm gps) := by
      rw [gpsParseTerm_field field]
      exact ⟨rfl, rfl, rfl⟩
    exact read.trans (samePublic_terminateTerm gps)

/-- A call returns the flag that it leaves. -/
theorem gpsParseChar_valid (c : UInt8) (gps : Globals) :
    (gpsParseChar c gps).1.valid = (gpsParseChar c gps).2.valid := by
  rcases char_cases c with rfl | ends | rfl | isText
  · rw [gpsParseChar_comma]
  · rw [gpsParseChar_ends gps ends]
  · rw [gpsParseChar_dollar]
  · by_cases room : gps.termOffset < 14
    · rw [gpsParseChar_store isText room]
    · rw [gpsParseChar_full isText room]

/-- The dollar clears the flag, and no other character writes anything public. -/
theorem samePublic_gpsParseChar (c : UInt8) {gps : Globals} (invalid : gps.valid = 0) :
    SamePublic (gpsParseChar c gps).2 gps := by
  obtain ⟨valid_eq, data_eq, satellites_eq⟩ := samePublic_gpsParseTerm gps
  rcases char_cases c with rfl | ends | rfl | isText
  · rw [gpsParseChar_comma]
    exact ⟨valid_eq, data_eq, satellites_eq⟩
  · rw [gpsParseChar_ends gps ends]
    exact ⟨valid_eq, data_eq, satellites_eq⟩
  · rw [gpsParseChar_dollar]
    exact ⟨invalid.symm, rfl, rfl⟩
  · by_cases room : gps.termOffset < 14
    · rw [gpsParseChar_store isText room]
      exact ⟨rfl, rfl, rfl⟩
    · rw [gpsParseChar_full isText room]
      exact .refl gps

theorem invalid_of_reachable {gps : Globals} (reachable : Reachable gps) : gps.valid = 0 := by
  refine Transducer.Reachable.satisfies reachable (fun gps => gps.valid = 0) ?_ ?_
  · rintro state ⟨globals, rfl⟩
    rfl
  · intro c state invalid
    exact (samePublic_gpsParseChar c invalid).valid_eq.trans invalid

/-- The public data stay what they were over every run. -/
theorem samePublic_final {gps : Globals} (reachable : Reachable gps) (stream : List UInt8) :
    SamePublic (parser.final gps stream) gps := by
  have invalid : gps.valid = 0 := invalid_of_reachable reachable
  refine parser.final_invariant (fun state => SamePublic state gps) ?_ (.refl gps) stream
  intro c state same
  exact (samePublic_gpsParseChar c (same.valid_eq.trans invalid)).trans same

/-- No fix is published: the parser reads the whole sentence and enters the branch that is
to publish it, but the call that ends the sentence returns 0, and the accessors return
what they returned before it began. -/
theorem fix_unpublished {gps : Globals} (reachable : Reachable gps) (fix : FixSentence) :
    ¬ Published gps fix ∧
      ((fixCall gps fix).1.dispatched = some .gpgga ∧
        (fixCall gps fix).2.working = foldFields .gpgga 1 fix.fields gps.working) ∧
      (fixCall gps fix).1.valid = 0 ∧
      getLatitude (fixCall gps fix).2 = getLatitude gps ∧
      getLongitude (fixCall gps fix).2 = getLongitude gps ∧
      getNumSatellites (fixCall gps fix).2 = getNumSatellites gps := by
  have same : SamePublic (fixCall gps fix).2 gps := by
    rw [fixCall, ← parser_step, ← parser.final_concat]
    exact samePublic_final reachable (fix.text ++ [fix.terminator])
  have returned : (fixCall gps fix).1.valid = 0 := by
    rw [fixCall, gpsParseChar_valid]
    exact same.valid_eq.trans (invalid_of_reachable reachable)
  refine ⟨fun published => published.valid returned, fix_read reachable fix, returned,
    ?_, ?_, ?_⟩
  · exact congrArg GpsData.lat same.data_eq
  · exact congrArg GpsData.lon same.data_eq
  · exact congrArg GpsSatellites.numVisible same.satellites_eq

/-- A fix with eight satellites in the southern hemisphere. -/
def southernFix : FixSentence where
  utc := ascii ['1', '2']
  latitude := longLatitude
  north := false
  longitude := shortLongitude
  east := true
  quality := ⟨2, by decide⟩
  satellites := [⟨8, by decide⟩]
  others := List.replicate 7 []
  terminator := star
  utc_plain := by decide
  quality_ne_zero := by decide
  satellites_counted := by decide
  others_plain := by decide
  others_length := rfl
  ends := by decide

theorem southernFix_unpublished : ¬ Published (gpsParserInit zeroGlobals) southernFix :=
  (fix_unpublished (reachable_init zeroGlobals) southernFix).1

/-- The parser has read the fix, and the accessors do not know it. -/
theorem publication_missing : ¬ ∀ gps, Reachable gps → ∀ fix, Published gps fix := by
  intro publishes
  have published := publishes (gpsParserInit zeroGlobals) (reachable_init zeroGlobals) southernFix
  have latitude_eq := published.latitude
  exact absurd latitude_eq (by decide +kernel)

end ChibiCopter.Gps
