import ChibiCopter.Gps.Readings
import ChibiCopter.Library.Overwrite

/-!
# Receiving the same text again

Most fields overwrite what they are about.  The two hemisphere fields turn the sign of
a coordinate that is already there, but each of them comes directly behind the
coordinate itself, so that the sign of a value is set once.  A text that begins with a
dollar therefore settles the working data: received again, it changes nothing.
-/

namespace ChibiCopter.Gps

open Overwrite

/-! ## Signs behind coordinates -/

/-- Every sign is set by the reading directly behind that of its coordinate. -/
def Paired : Option Field → List Reading → Prop
  | _, [] => True
  | previous, reading :: readings =>
      (reading.field = .northSouth → previous = some .latitude) ∧
        (reading.field = .eastWest → previous = some .longitude) ∧
        Paired (some reading.field) readings

theorem latitude_before {kind : SentenceType} {number : Nat}
    (sign : fieldOf kind (number + 1) = some .northSouth) :
    fieldOf kind number = some .latitude := by
  obtain ⟨start, position, number_eq⟩ := fieldOf_place sign rfl
  rw [Nat.succ_injective number_eq]
  exact (fieldOf_position position).1

theorem longitude_before {kind : SentenceType} {number : Nat}
    (sign : fieldOf kind (number + 1) = some .eastWest) :
    fieldOf kind number = some .longitude := by
  obtain ⟨start, position, number_eq⟩ := fieldOf_place sign rfl
  rw [Nat.succ_injective number_eq]
  exact (fieldOf_position position).2.2.1

/-- If the current field is a sign, then its coordinate was read last. -/
structure Ready (previous : Option Field) (state : Reader) : Prop where
  bounded : state.number < 256
  latitude : fieldOf state.kind state.number = some .northSouth → previous = some .latitude
  longitude : fieldOf state.kind state.number = some .eastWest → previous = some .longitude

/-- The field read last, one more character on. -/
def lastRead (previous : Option Field) (reading : Option Reading) : Option Field :=
  (reading.map Reading.field).or previous

theorem Ready.first {state : Reader} (first : state.number = 0) (previous : Option Field) :
    Ready previous state := by
  have unread : fieldOf state.kind state.number = none := by rw [first, fieldOf_zero]
  refine ⟨by omega, ?_, ?_⟩
  · rw [unread]
    exact nofun
  · rw [unread]
    exact nofun

theorem Ready.read {previous : Option Field} {state : Reader} (ready : Ready previous state)
    (c : UInt8) : Ready (lastRead previous (state.reading c)) (state.read c).2 := by
  have bounded := ready.bounded
  rcases char_cases c with rfl | ends | rfl | isText
  · rw [Reader.read_comma]
    by_cases wraps : state.number = 255
    · exact .first (by rw [wraps]) _
    · have number_eq : (state.number + 1) % 256 = state.number + 1 :=
        Nat.mod_eq_of_lt (by omega)
      have read_before {field : Field}
          (found : fieldOf state.close.kind state.number = some field) :
          lastRead previous (state.reading comma) = some field := by
        rw [Reader.close_kind (ne_zero_of_fieldOf found)] at found
        rw [Reader.reading_some (Or.inl rfl) found]
        rfl
      refine ⟨Nat.mod_lt _ (by decide), ?_, ?_⟩
      · intro sign
        rw [number_eq] at sign
        exact read_before (latitude_before sign)
      · intro sign
        rw [number_eq] at sign
        exact read_before (longitude_before sign)
  · rw [Reader.read_ends state ends]
    exact .first rfl _
  · rw [Reader.read_dollar]
    exact .first rfl _
  · rw [Reader.read_text state isText, Reader.reading_mid isText.not_endsField]
    exact ⟨bounded, ready.latitude, ready.longitude⟩

theorem Ready.sign {previous : Option Field} {state : Reader} (ready : Ready previous state)
    {c : UInt8} {reading : Reading} (read : state.reading c = some reading) :
    (reading.field = .northSouth → previous = some .latitude) ∧
      (reading.field = .eastWest → previous = some .longitude) := by
  obtain ⟨-, -, found⟩ := Reader.reading_inv read
  exact ⟨fun sign => ready.latitude (sign ▸ found), fun sign => ready.longitude (sign ▸ found)⟩

/-- In every stream, each sign is set directly behind its coordinate. -/
theorem paired_readings {previous : Option Field} {state : Reader}
    (ready : Ready previous state) (stream : List UInt8) :
    Paired previous (readings state stream) := by
  induction stream generalizing previous state with
  | nil => trivial
  | cons c stream ih =>
      have rest := ih (ready.read c)
      rw [readings_cons]
      cases read : state.reading c with
      | none =>
          rw [read] at rest
          exact rest
      | some reading =>
          rw [read] at rest
          exact ⟨(ready.sign read).1, (ready.sign read).2, rest⟩

/-! ## Readings that are paired settle the data -/

/-- The values that the working data consist of. -/
inductive Cell where
  | lat
  | lon
  | alt
  | dataGood
  | fixType
  | numVisible
  | prn (ix : Fin 12)
  deriving DecidableEq

def Working.value (cell : Cell) (working : Working) : Int :=
  match cell with
  | .lat => working.data.lat.toInt
  | .lon => working.data.lon.toInt
  | .alt => working.data.alt.toInt
  | .dataGood => working.data.dataGood.toNat
  | .fixType => working.data.fixType.toNat
  | .numVisible => working.satellites.numVisible.toNat
  | .prn ix => (working.satellites.prn.get ix).toNat

theorem Working.ext_value {first second : Working}
    (same : ∀ cell, first.value cell = second.value cell) : first = second := by
  have byte {a b : UInt8} (equal : (a.toNat : Int) = b.toNat) : a = b :=
    UInt8.toNat_inj.mp (Int.ofNat_inj.mp equal)
  have prn_eq : first.satellites.prn = second.satellites.prn := by
    refine Vector.ext fun ix below => ?_
    exact byte (same (.prn ⟨ix, below⟩))
  obtain ⟨⟨fixType, dataGood, lat, lon, alt⟩, ⟨numVisible, prn⟩⟩ := first
  obtain ⟨⟨fixType', dataGood', lat', lon', alt'⟩, ⟨numVisible', prn'⟩⟩ := second
  have lat_eq : lat = lat' := Int32.toInt_inj.mp (same .lat)
  have lon_eq : lon = lon' := Int32.toInt_inj.mp (same .lon)
  have alt_eq : alt = alt' := Int32.toInt_inj.mp (same .alt)
  have dataGood_eq : dataGood = dataGood' := byte (same .dataGood)
  have fixType_eq : fixType = fixType' := byte (same .fixType)
  have numVisible_eq : numVisible = numVisible' := byte (same .numVisible)
  subst lat_eq lon_eq alt_eq dataGood_eq fixType_eq numVisible_eq
  cases prn_eq
  rfl

theorem value_setPrn (working : Working) (ix cellIx : Fin 12) (number : UInt8) :
    Working.value (.prn cellIx)
        { working with satellites := working.satellites.setPrn ix number } =
      if ix = cellIx then (number.toNat : Int) else working.value (.prn cellIx) := by
  change (((working.satellites.prn.set ix number)[cellIx.val].toNat : Nat) : Int) =
    if ix = cellIx then (number.toNat : Int) else working.satellites.prn[cellIx.val].toNat
  rw [Vector.getElem_set]
  by_cases same : ix = cellIx
  · rw [if_pos same, if_pos (congrArg Fin.val same)]
  · rw [if_neg same, if_neg fun equal => same (Fin.ext equal)]

theorem settles_setLat (value : Int32) (cell : Cell) :
    Settles (Working.value cell) fun working => { working with data.lat := value } := by
  cases cell with
  | lat => exact Or.inr fun _ _ => rfl
  | lon | alt | dataGood | fixType | numVisible | prn => exact Or.inl fun _ => rfl

theorem settles_setLon (value : Int32) (cell : Cell) :
    Settles (Working.value cell) fun working => { working with data.lon := value } := by
  cases cell with
  | lon => exact Or.inr fun _ _ => rfl
  | lat | alt | dataGood | fixType | numVisible | prn => exact Or.inl fun _ => rfl

/-- A field that is no sign settles every value. -/
theorem settles_update {field : Field} (noLatitude : field ≠ .northSouth)
    (noLongitude : field ≠ .eastWest) (text : List UInt8) (cell : Cell) :
    Settles (Working.value cell) (field.update text) := by
  cases field with
  | northSouth => exact absurd rfl noLatitude
  | eastWest => exact absurd rfl noLongitude
  | latitude => exact settles_setLat (latLonTerm text) cell
  | longitude => exact settles_setLon (latLonTerm text) cell
  | status =>
      cases cell with
      | dataGood => exact Or.inr fun _ _ => rfl
      | lat | lon | alt | fixType | numVisible | prn => exact Or.inl fun _ => rfl
  | numVisible =>
      cases cell with
      | numVisible => exact Or.inr fun _ _ => rfl
      | lat | lon | alt | dataGood | fixType | prn => exact Or.inl fun _ => rfl
  | mode =>
      cases cell with
      | dataGood | fixType => exact Or.inr fun _ _ => rfl
      | lat | lon | alt | numVisible | prn => exact Or.inl fun _ => rfl
  | quality =>
      cases cell with
      | fixType =>
          by_cases noFix : CString.first text = Char.toUInt8 '0'
          · exact Or.inr fun _ _ => by simp only [Working.value, Field.update, if_pos noFix]
          · exact Or.inl fun _ => by simp only [Working.value, Field.update, if_neg noFix]
      | dataGood => exact Or.inr fun _ _ => rfl
      | lat | lon | alt | numVisible | prn => exact Or.inl fun _ => rfl
  | prn ix =>
      cases cell with
      | prn cellIx =>
          by_cases same : ix = cellIx
          · exact Or.inr fun _ _ => by simp only [Field.update, value_setPrn, if_pos same]
          · exact Or.inl fun _ => by simp only [Field.update, value_setPrn, if_neg same]
      | lat | lon | alt | dataGood | fixType | numVisible => exact Or.inl fun _ => rfl

theorem keeps_northSouth (text : List UInt8) {cell : Cell} (away : cell ≠ .lat) :
    Keeps (Working.value cell) (Field.northSouth.update text) := by
  intro working
  by_cases south : CString.first text = Char.toUInt8 'S'
  · rw [Field.update, if_pos south]
    cases cell <;> first | exact absurd rfl away | rfl
  · rw [Field.update, if_neg south]

theorem keeps_eastWest (text : List UInt8) {cell : Cell} (away : cell ≠ .lon) :
    Keeps (Working.value cell) (Field.eastWest.update text) := by
  intro working
  by_cases west : CString.first text = Char.toUInt8 'W'
  · rw [Field.update, if_pos west]
    cases cell <;> first | exact absurd rfl away | rfl
  · rw [Field.update, if_neg west]

theorem determined_northSouth (text : List UInt8) :
    Determined (Working.value .lat) (Field.northSouth.update text) := by
  intro first second same
  have lat_eq : first.data.lat = second.data.lat := Int32.toInt_inj.mp same
  by_cases south : CString.first text = Char.toUInt8 'S'
  · simp only [Field.update, if_pos south, Working.value, lat_eq]
  · simp only [Field.update, if_neg south, same]

theorem determined_eastWest (text : List UInt8) :
    Determined (Working.value .lon) (Field.eastWest.update text) := by
  intro first second same
  have lon_eq : first.data.lon = second.data.lon := Int32.toInt_inj.mp same
  by_cases west : CString.first text = Char.toUInt8 'W'
  · simp only [Field.update, if_pos west, Working.value, lon_eq]
  · simp only [Field.update, if_neg west, same]

/-- A sign behind its own coordinate settles what was settled before. -/
theorem settles_sign {own cell : Cell} {before sign : Working → Working}
    (keeps : ∀ {other : Cell}, other ≠ own → Keeps (Working.value other) sign)
    (determined : Determined (Working.value own) sign)
    (settled : Settles (Working.value cell) before) (set : Sets (Working.value own) before) :
    Settles (Working.value cell) (sign ∘ before) := by
  by_cases same : cell = own
  · subst same
    exact Or.inr (set.determined determined)
  · exact Settles.comp (Or.inl (keeps same)) settled

/-- The readings so far settle every value, and the coordinate read last is set. -/
structure Settled (previous : Option Field) (before : Working → Working) : Prop where
  settles : ∀ cell, Settles (Working.value cell) before
  latitude : previous = some .latitude → Sets (Working.value .lat) before
  longitude : previous = some .longitude → Sets (Working.value .lon) before

theorem Settled.apply {previous : Option Field} {before : Working → Working}
    (settled : Settled previous before) {reading : Reading}
    (latitude : reading.field = .northSouth → previous = some .latitude)
    (longitude : reading.field = .eastWest → previous = some .longitude) :
    Settled (some reading.field) (reading.apply ∘ before) := by
  obtain ⟨kind, field, text⟩ := reading
  refine ⟨fun cell => ?_, ?_, ?_⟩
  · by_cases north : field = .northSouth
    · subst north
      exact settles_sign (keeps_northSouth text) (determined_northSouth text)
        (settled.settles cell) (settled.latitude (latitude rfl))
    · by_cases east : field = .eastWest
      · subst east
        exact settles_sign (keeps_eastWest text) (determined_eastWest text)
          (settled.settles cell) (settled.longitude (longitude rfl))
      · exact (settles_update north east text cell).comp (settled.settles cell)
  · intro last
    cases last
    have sets : Sets (Working.value .lat) (Field.latitude.update text) := fun _ _ => rfl
    exact sets.comp_left before
  · intro last
    cases last
    have sets : Sets (Working.value .lon) (Field.longitude.update text) := fun _ _ => rfl
    exact sets.comp_left before

theorem Settled.applyAll {previous : Option Field} {before : Working → Working}
    (settled : Settled previous before) {readings : List Reading}
    (paired : Paired previous readings) (cell : Cell) :
    Settles (Working.value cell) (applyAll readings ∘ before) := by
  induction readings generalizing previous before with
  | nil => exact settled.settles cell
  | cons reading readings ih =>
      obtain ⟨latitude, longitude, rest⟩ := paired
      exact ih (settled.apply latitude longitude) rest

/-- Readings that are paired from the start have nothing to do the second time. -/
theorem applyAll_idempotent {readings : List Reading} (paired : Paired none readings)
    (working : Working) :
    applyAll readings (applyAll readings working) = applyAll readings working := by
  have fresh : Settled none id := ⟨fun cell => settles_id _, nofun, nofun⟩
  refine Working.ext_value fun cell => ?_
  exact (fresh.applyAll paired cell).idempotent working

/-! ## The text again -/

theorem paired_dollar (state : Reader) (stream : List UInt8) :
    Paired none (readings state (dollar :: stream)) := by
  rw [readings_cons, Reader.reading_mid not_endsField_dollar, Reader.read_dollar]
  exact paired_readings (.first rfl none) stream

/-- A text that begins with a dollar changes nothing when it is received again, and no
sign is set twice in it. -/
theorem repetition_idle {gps : Globals} (reachable : Reachable gps) (stream : List UInt8) :
    (parser.final gps (dollar :: stream ++ dollar :: stream)).working =
        (parser.final gps (dollar :: stream)).working ∧
      Paired none (readings gps.view (dollar :: stream ++ dollar :: stream)) := by
  have once : reader.final gps.view (dollar :: stream) =
      (parser.final gps (dollar :: stream)).view := (view_final reachable _).symm
  have twice_readings : readings (reader.final gps.view (dollar :: stream)) (dollar :: stream) =
      readings gps.view (dollar :: stream) := readings_dollar _ _ stream
  constructor
  · have once_eq : (parser.final gps (dollar :: stream)).working =
        applyAll (readings gps.view (dollar :: stream)) gps.working :=
      (congrArg Reader.working once).symm.trans (working_final gps.view (dollar :: stream))
    have twice_eq : (parser.final gps (dollar :: stream ++ dollar :: stream)).working =
        applyAll (readings gps.view (dollar :: stream ++ dollar :: stream)) gps.working :=
      (congrArg Reader.working (view_final reachable _)).trans (working_final gps.view _)
    rw [twice_eq, once_eq, readings_append, twice_readings, applyAll_append,
      applyAll_idempotent (paired_dollar gps.view stream)]
  · exact paired_dollar gps.view (stream ++ dollar :: stream)

/-- A position south of the equator, cut behind its second hemisphere letter. -/
theorem repetition_idle_south :
    let stream := body gpggaTerm [[], ascii ['1', '0', '0'], ascii ['S'], ascii ['2'], ascii ['W']]
    (parser.final (gpsParserInit zeroGlobals) (dollar :: stream ++ dollar :: stream)).working =
        (parser.final (gpsParserInit zeroGlobals) (dollar :: stream)).working ∧
      Paired none (readings (gpsParserInit zeroGlobals).view
        (dollar :: stream ++ dollar :: stream)) :=
  repetition_idle (reachable_init zeroGlobals) _

end ChibiCopter.Gps
