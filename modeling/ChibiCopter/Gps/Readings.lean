import ChibiCopter.Gps.Position

/-!
# The fields that a stream reads

A reading is the end of a field that is in the table, with the type of the sentence
and the text of the field.  The readings of a stream are what it does to the working
data: the data behind the stream are those before it with one reading applied after
the other.  Which readings there are depends on the characters and not on the data.
-/

namespace ChibiCopter.Gps

structure Reading where
  kind : SentenceType
  field : Field
  text : List UInt8
  deriving DecidableEq, Repr

def Reading.apply (reading : Reading) (working : Working) : Working :=
  reading.field.update reading.text working

def applyAll (readings : List Reading) (working : Working) : Working :=
  readings.foldl (fun working reading => reading.apply working) working

theorem applyAll_append (front back : List Reading) (working : Working) :
    applyAll (front ++ back) working = applyAll back (applyAll front working) :=
  List.foldl_append

/-- Whether a character ends a field. -/
def EndsField (c : UInt8) : Prop := c = comma ∨ endsSentence c = true

instance (c : UInt8) : Decidable (EndsField c) :=
  inferInstanceAs (Decidable (c = comma ∨ endsSentence c = true))

theorem IsText.not_endsField {c : UInt8} (isText : IsText c) : ¬ EndsField c := by
  rintro (isComma | ends)
  · exact isText.ne_comma isComma
  · exact absurd ends (by rw [isText.ne_ends]; decide)

theorem not_endsField_dollar : ¬ EndsField dollar := by decide

/-- The reading that a character completes. -/
def Reader.reading (c : UInt8) (state : Reader) : Option Reading :=
  if EndsField c then
    (fieldOf state.kind state.number).map fun field => ⟨state.kind, field, state.text⟩
  else none

/-- All readings that a stream completes. -/
def readings (state : Reader) (stream : List UInt8) : List Reading :=
  reader.collect (fun c state => (state.reading c).toList) state stream

@[simp] theorem readings_nil (state : Reader) : readings state [] = [] := rfl

@[simp] theorem readings_cons (state : Reader) (c : UInt8) (stream : List UInt8) :
    readings state (c :: stream) =
      (state.reading c).toList ++ readings (state.read c).2 stream := rfl

theorem readings_append (state : Reader) (front back : List UInt8) :
    readings state (front ++ back) =
      readings state front ++ readings (reader.final state front) back :=
  reader.collect_append _ state front back

namespace Reader

theorem reading_some {state : Reader} {c : UInt8} {field : Field} (ends : EndsField c)
    (found : fieldOf state.kind state.number = some field) :
    state.reading c = some ⟨state.kind, field, state.text⟩ := by
  rw [reading, if_pos ends, found, Option.map_some]

theorem reading_none {state : Reader} {c : UInt8}
    (unread : EndsField c → fieldOf state.kind state.number = none) :
    state.reading c = none := by
  unfold reading
  split
  · rw [unread ‹_›, Option.map_none]
  · rfl

theorem reading_mid {state : Reader} {c : UInt8} (mid : ¬ EndsField c) :
    state.reading c = none := by
  rw [reading, if_neg mid]

theorem reading_inv {state : Reader} {c : UInt8} {reading : Reading}
    (read : state.reading c = some reading) :
    EndsField c ∧ state.kind = reading.kind ∧
      fieldOf state.kind state.number = some reading.field := by
  by_cases ends : EndsField c
  · rw [Reader.reading, if_pos ends, Option.map_eq_some_iff] at read
    obtain ⟨field, found, rfl⟩ := read
    exact ⟨ends, rfl, found⟩
  · rw [reading_mid ends] at read
    cases read

/-- Closing a field applies its reading. -/
theorem close_working {state : Reader} {c : UInt8} (ends : EndsField c) :
    state.close.working = applyAll (state.reading c).toList state.working := by
  by_cases first : state.number = 0
  · have unread : fieldOf state.kind state.number = none := by rw [first, fieldOf_zero]
    rw [close, if_pos first, reading_none fun _ => unread]
    rfl
  · rw [close, if_neg first]
    cases found : fieldOf state.kind state.number with
    | none =>
        rw [reading_none fun _ => found, updateField_none found]
        rfl
    | some field =>
        rw [reading_some ends found, updateField_some found]
        rfl

theorem read_working (state : Reader) (c : UInt8) :
    (state.read c).2.working = applyAll (state.reading c).toList state.working := by
  rcases char_cases c with rfl | ends | rfl | isText
  · rw [read_comma]
    exact close_working (Or.inl rfl)
  · rw [read_ends state ends]
    exact close_working (Or.inr ends)
  · rw [read_dollar, reading_mid not_endsField_dollar]
    rfl
  · rw [read_text state isText, reading_mid isText.not_endsField]
    rfl

end Reader

/-- The data behind a stream are the data before it with all readings applied. -/
theorem working_final (state : Reader) (stream : List UInt8) :
    (reader.final state stream).working = applyAll (readings state stream) state.working := by
  induction stream generalizing state with
  | nil => rfl
  | cons c stream ih =>
      rw [Transducer.final_cons, ih, readings_cons, applyAll_append, reader_step,
        Reader.read_working]

/-! ## The data have no influence -/

/-- Two readers that differ in their data only. -/
structure SameControl (first second : Reader) : Prop where
  kind_eq : first.kind = second.kind
  number_eq : first.number = second.number
  text_eq : first.text = second.text

namespace SameControl

variable {first second : Reader}

theorem reading_eq (same : SameControl first second) (c : UInt8) :
    first.reading c = second.reading c := by
  rw [Reader.reading, Reader.reading, same.kind_eq, same.number_eq, same.text_eq]

theorem close (same : SameControl first second) :
    first.close.kind = second.close.kind := by
  unfold Reader.close
  rw [same.number_eq]
  split
  · rw [same.kind_eq, same.text_eq]
  · exact same.kind_eq

theorem read (same : SameControl first second) (c : UInt8) :
    SameControl (first.read c).2 (second.read c).2 := by
  rcases char_cases c with rfl | ends | rfl | isText
  · rw [Reader.read_comma, Reader.read_comma, same.number_eq]
    exact ⟨same.close, rfl, rfl⟩
  · rw [Reader.read_ends first ends, Reader.read_ends second ends]
    exact ⟨same.close, rfl, rfl⟩
  · rw [Reader.read_dollar, Reader.read_dollar]
    exact ⟨rfl, rfl, rfl⟩
  · rw [Reader.read_text first isText, Reader.read_text second isText, same.text_eq]
    exact ⟨same.kind_eq, same.number_eq, rfl⟩

theorem readings_eq (same : SameControl first second) (stream : List UInt8) :
    readings first stream = readings second stream := by
  induction stream generalizing first second with
  | nil => rfl
  | cons c stream ih =>
      rw [readings_cons, readings_cons, same.reading_eq c, ih (same.read c)]

end SameControl

/-- From a dollar on, the readings are those of the text alone. -/
theorem readings_dollar (first second : Reader) (stream : List UInt8) :
    readings first (dollar :: stream) = readings second (dollar :: stream) := by
  have same : SameControl (first.read dollar).2 (second.read dollar).2 := by
    rw [Reader.read_dollar, Reader.read_dollar]
    exact ⟨rfl, rfl, rfl⟩
  rw [readings_cons, readings_cons, Reader.reading_mid not_endsField_dollar,
    Reader.reading_mid not_endsField_dollar, same.readings_eq stream]

end ChibiCopter.Gps
