import ChibiCopter.Gps.Position

/-!
# Surplus fields

The table has no field behind the fourteenth, and surplus fields say nothing as long as
the field counter counts them.  It has eight bits: the 256th field is taken for the name
of a sentence, and the fields behind it for the first fields of a sentence of that type.
-/

namespace ChibiCopter.Gps

open CString

/-- Whatever some number of surplus fields say, a sentence does to the working data what
it does without them. -/
def SurplusIgnored (gps : Globals) (tag : List UInt8) (front : List (List UInt8))
    (ending : List UInt8) (count : Nat) : Prop :=
  ∀ surplus : List (List UInt8), surplus.length = count → (∀ field ∈ surplus, Plain field) →
    (parser.final gps (dollar :: body tag (front ++ surplus) ++ ending)).working =
      (parser.final gps (dollar :: body tag front ++ ending)).working

/-! ## Up to 256 fields -/

theorem fieldOf_surplus (kind : SentenceType) {number : Nat} (large : 15 ≤ number) :
    fieldOf kind number = none := by
  cases kind with
  | gpgsa => exact fieldOf_gpgsa_none (Or.inr large)
  | gpgga =>
      rw [fieldOf, gpggaField]
      all_goals omega
  | gprmc =>
      rw [fieldOf, gprmcField]
      all_goals omega
  | gpgll =>
      rw [fieldOf, gpgllField]
      all_goals omega
  | gpgsv | gpvtg | unknown => rfl

/-- Behind 17 fields, the table has nothing to say. -/
theorem foldFields_surplus (kind : SentenceType) {front : List (List UInt8)}
    (complete : front.length = 17) (surplus : List (List UInt8)) (working : Working) :
    foldFields kind 1 (front ++ surplus) working = foldFields kind 1 front working := by
  rw [foldFields_append, complete]
  exact foldFields_unread (fun later behind => fieldOf_surplus kind (by omega)) surplus _

theorem number_foldl {state : Reader} (small : state.number < 256)
    (fields : List (List UInt8)) :
    (fields.foldl Reader.next state).number = (state.number + fields.length) % 256 := by
  induction fields generalizing state with
  | nil => exact (Nat.mod_eq_of_lt small).symm
  | cons field fields ih =>
      have number_eq : (state.next field).number = (state.number + 1) % 256 := rfl
      have reduced : (state.number + 1) % 256 < 256 := Nat.mod_lt _ (by decide)
      rw [List.foldl_cons, ih (number_eq ▸ reduced), number_eq, Nat.mod_add_mod,
        List.length_cons, Nat.add_assoc, Nat.add_comm 1]

theorem number_begin (state : Reader) (tag : List UInt8) (fields : List (List UInt8)) :
    (fields.foldl Reader.next (state.begin tag)).number = fields.length % 256 := by
  have small : (state.begin tag).number < 256 := Nat.zero_lt_succ 255
  rw [number_foldl small]
  exact congrArg (· % 256) (Nat.zero_add fields.length)

theorem close_counted (state : Reader) {kind : SentenceType} (named : kind ∈ sentenceTypes)
    {front : List (List UInt8)} (complete : front.length = 17) {surplus : List (List UInt8)}
    (count : 17 + surplus.length ≤ 255) :
    ((front ++ surplus).foldl Reader.next (state.begin kind.name)).close.working =
      foldFields kind 1 front state.working := by
  have short : (front ++ surplus).length ≤ 255 := by
    rw [List.length_append, complete]
    exact count
  rw [(close_sentence state (kind_of_name named) short).2, foldFields_surplus kind complete]

/-- The 256th field is taken for a first term and does nothing to the data. -/
theorem close_surplus (state : Reader) {kind : SentenceType} (named : kind ∈ sentenceTypes)
    {front : List (List UInt8)} (complete : front.length = 17) {surplus : List (List UInt8)}
    (count : 17 + surplus.length ≤ 256) :
    ((front ++ surplus).foldl Reader.next (state.begin kind.name)).close.working =
      foldFields kind 1 front state.working := by
  by_cases counted : 17 + surplus.length ≤ 255
  · exact close_counted state named complete counted
  · obtain ⟨earlier, last, rfl⟩ : ∃ earlier last, surplus = earlier ++ [last] := by
      cases surplus using List.reverseRecOn with
      | nil => exact absurd (by decide) counted
      | append_singleton earlier last => exact ⟨earlier, last, rfl⟩
    rw [List.length_append, List.length_singleton] at count counted
    have length_eq : (front ++ (earlier ++ [last])).length = 256 := by
      rw [List.length_append, List.length_append, List.length_singleton, complete]
      omega
    have first : ((front ++ (earlier ++ [last])).foldl Reader.next
        (state.begin kind.name)).number = 0 := by
      rw [number_begin, length_eq]
    rw [Reader.close_first first, ← List.append_assoc, List.foldl_append]
    exact close_counted state named complete (by omega)

/-! ## From 257 fields on -/

/-- A text that is neither a first term nor a hemisphere. -/
structure Filler (text : List UInt8) : Prop where
  plain : Plain text
  short : text.take 14 = text
  unnamed : recognised text = none
  northern : first text ≠ Char.toUInt8 'S'

/-- The parser takes its fields for those of a GPGLL sentence and has read the latitude
from a text. -/
structure Overwritten (text : List UInt8) (state : Reader) : Prop where
  kind_eq : state.close.kind = .gpgll
  lat_eq : state.close.working.data.lat = latLonTerm text

theorem lat_setLon (value : Int32) (working : Working) :
    { working with data.lon := value }.data.lat = working.data.lat := rfl

/-- A text that is no southern hemisphere is either the latitude or without influence on it. -/
theorem lat_update (field : Field) {text : List UInt8} (northern : first text ≠ Char.toUInt8 'S')
    (working : Working) :
    (field.update text working).data.lat = working.data.lat ∨
      (field.update text working).data.lat = latLonTerm text := by
  cases positional : field.positional with
  | false => exact Or.inl (update_positional positional text working).1
  | true =>
      cases field with
      | latitude => exact Or.inr rfl
      | northSouth => exact Or.inl (by rw [Field.update, if_neg northern])
      | longitude => exact Or.inl (lat_setLon (latLonTerm text) working)
      | eastWest =>
          rw [Field.update]
          split
          · exact Or.inl rfl
          · exact Or.inl rfl
      | status | quality | numVisible | mode | prn => cases positional

theorem lat_updateField (kind : SentenceType) (number : Nat) {text : List UInt8}
    (northern : first text ≠ Char.toUInt8 'S') (working : Working) :
    (updateField kind number text working).data.lat = working.data.lat ∨
      (updateField kind number text working).data.lat = latLonTerm text := by
  cases found : fieldOf kind number with
  | none => exact Or.inl (by rw [updateField_none found])
  | some field =>
      rw [updateField_some found]
      exact lat_update field northern working

/-- More of the same text keeps the latitude, also where it is taken for a first term. -/
theorem Overwritten.next {text : List UInt8} (filler : Filler text) {state : Reader}
    (overwritten : Overwritten text state) : Overwritten text (state.next text) := by
  have text_eq : (state.next text).text = text := filler.short
  have kind_eq : (state.next text).kind = .gpgll := overwritten.kind_eq
  have working_eq : (state.next text).working = state.close.working := rfl
  by_cases first : (state.next text).number = 0
  · constructor
    · rw [Reader.close, if_pos first, text_eq, filler.unnamed]
      exact kind_eq
    · rw [Reader.close_first first]
      exact overwritten.lat_eq
  · constructor
    · rw [Reader.close_kind first]
      exact kind_eq
    · rw [Reader.close, if_neg first, text_eq, working_eq]
      rcases lat_updateField (state.next text).kind (state.next text).number filler.northern
        state.close.working with kept | read
      · exact kept.trans overwritten.lat_eq
      · exact read

theorem Overwritten.replicate {text : List UInt8} (filler : Filler text) {state : Reader}
    (overwritten : Overwritten text state) (count : Nat) :
    Overwritten text ((List.replicate count text).foldl Reader.next state) := by
  induction count generalizing state with
  | zero => exact overwritten
  | succ count ih => exact ih (overwritten.next filler)

/-- A name in the place of the 256th field, and a latitude behind it. -/
theorem overwritten_wrap {text : List UInt8} (filler : Filler text) {state : Reader}
    (last : state.number = 255) : Overwritten text ((state.next gpgllTerm).next text) := by
  have wrapped : (state.next gpgllTerm).number = 0 := by
    rw [Reader.next, last]
  have recognised_eq : recognised (state.next gpgllTerm).text = some .gpgll :=
    @recognised_name .gpgll (by decide)
  have kind_eq : ((state.next gpgllTerm).next text).kind = .gpgll := by
    rw [Reader.next, Reader.close, if_pos wrapped, recognised_eq]
    rfl
  have number_eq : ((state.next gpgllTerm).next text).number = 1 := by
    rw [Reader.next, wrapped]
  have behind : ((state.next gpgllTerm).next text).number ≠ 0 := by
    rw [number_eq]
    exact Nat.one_ne_zero
  have text_eq : ((state.next gpgllTerm).next text).text = text := filler.short
  constructor
  · rw [Reader.close_kind behind, kind_eq]
  · have latitude : fieldOf .gpgll 1 = some .latitude := rfl
    rw [Reader.close, if_neg behind, kind_eq, number_eq, text_eq, updateField_some latitude]
    rfl

/-- Surplus fields up to the 255th, a name, and more fields. -/
def wrapping (text : List UInt8) (more : Nat) : List (List UInt8) :=
  List.replicate 238 text ++ gpgllTerm :: text :: List.replicate more text

theorem length_wrapping (text : List UInt8) (more : Nat) :
    (wrapping text more).length = 240 + more := by
  simp only [wrapping, List.length_append, List.length_cons, List.length_replicate]
  omega

theorem plain_wrapping {text : List UInt8} (plain : Plain text) (more : Nat) :
    ∀ field ∈ wrapping text more, Plain field := by
  intro field member
  rcases List.mem_append.mp member with early | late
  · rw [List.eq_of_mem_replicate early]
    exact plain
  · rcases List.mem_cons.mp late with rfl | later
    · exact plain_name .gpgll
    · have same : field ∈ List.replicate (more + 1) text := later
      rw [List.eq_of_mem_replicate same]
      exact plain

theorem overwritten_wrapping (state : Reader) (tag : List UInt8) {front : List (List UInt8)}
    (complete : front.length = 17) {text : List UInt8} (filler : Filler text) (more : Nat) :
    Overwritten text ((front ++ wrapping text more).foldl Reader.next (state.begin tag)) := by
  have last : ((front ++ List.replicate 238 text).foldl Reader.next
      (state.begin tag)).number = 255 := by
    rw [number_begin, List.length_append, complete, List.length_replicate]
  rw [wrapping, ← List.append_assoc, List.foldl_append, List.foldl_cons, List.foldl_cons]
  exact (overwritten_wrap filler last).replicate filler more

def zeroText : List UInt8 := ascii ['0']

def oneText : List UInt8 := ascii ['1']

theorem filler_zeroText : Filler zeroText := ⟨by decide, rfl, by decide, by decide⟩

theorem filler_oneText : Filler oneText := ⟨by decide, rfl, by decide, by decide⟩

/-- Whatever a latitude is, some text says another. -/
theorem filler_other (lat : Int32) : ∃ text, Filler text ∧ latLonTerm text ≠ lat := by
  have apart : latLonTerm zeroText ≠ latLonTerm oneText := by decide
  by_cases same : latLonTerm zeroText = lat
  · exact ⟨oneText, filler_oneText, fun other => apart (same.trans other.symm)⟩
  · exact ⟨zeroText, filler_zeroText, same⟩

/-- Surplus fields are ignored, whatever they say, if and only if the sentence has no
more than 256 fields. -/
theorem surplus_ignored_iff {gps : Globals} (reachable : Reachable gps) {kind : SentenceType}
    (named : kind ∈ sentenceTypes) {front : List (List UInt8)} (complete : front.length = 17)
    (plain : ∀ field ∈ front, Plain field) {ending : List UInt8} (ends : Ending ending)
    (count : Nat) :
    SurplusIgnored gps kind.name front ending count ↔ 17 + count ≤ 256 := by
  have allPlain {surplus : List (List UInt8)} (surplusPlain : ∀ field ∈ surplus, Plain field) :
      ∀ field ∈ kind.name :: (front ++ surplus), Plain field :=
    List.forall_mem_cons.mpr ⟨plain_name kind, List.forall_mem_append.mpr ⟨plain, surplusPlain⟩⟩
  have few : front.length ≤ 255 := by
    rw [complete]
    decide
  have cut := working_ended reachable named plain few ends
  constructor
  · intro ignored
    by_contra many
    obtain ⟨more, rfl⟩ : ∃ more, count = 240 + more := ⟨count - 240, by omega⟩
    obtain ⟨text, filler, other⟩ :=
      filler_other (foldFields kind 1 front gps.working).data.lat
    have wrapped := plain_wrapping filler.plain more
    have same := ignored (wrapping text more) (length_wrapping text more) wrapped
    rw [working_closed reachable (allPlain wrapped) ends, cut] at same
    have read := (overwritten_wrapping gps.view kind.name complete filler more).lat_eq
    rw [same] at read
    exact other read.symm
  · intro counted surplus length_eq surplusPlain
    rw [working_closed reachable (allPlain surplusPlain) ends, cut]
    exact close_surplus gps.view named complete (length_eq ▸ counted)

/-- 17 empty fields, none of which a GPVTG sentence reads. -/
def emptyFields : List (List UInt8) := List.replicate 17 []

theorem not_surplusIgnored_gpvtg :
    ¬ SurplusIgnored (gpsParserInit zeroGlobals) gpvtgTerm emptyFields [star] 240 := by
  have ends : Ending [star] := ⟨star, [], rfl, by decide, by decide⟩
  intro ignored
  have bound := (@surplus_ignored_iff _ (reachable_init zeroGlobals) .gpvtg (by decide)
    emptyFields (by decide) (by decide) [star] ends 240).mp ignored
  exact absurd bound (by decide)

/-- A sentence that carries no position writes one with its 257th field. -/
theorem surplus_written :
    ¬ ∀ gps, Reachable gps → ∀ kind ∈ sentenceTypes, ∀ fields : List (List UInt8),
      (∀ field ∈ fields, Plain field) →
        (parser.final gps (dollar :: body kind.name fields ++ [star])).working =
          (parser.final gps (dollar :: body kind.name (fields.take 17) ++ [star])).working := by
  intro ignored
  have same := ignored (gpsParserInit zeroGlobals) (reachable_init zeroGlobals) .gpvtg (by decide)
    (List.replicate 255 [] ++ [gpgllTerm, oneText]) (by decide +kernel)
  exact absurd (congrArg (fun working => working.data.lat) same) (by decide +kernel)

end ChibiCopter.Gps
