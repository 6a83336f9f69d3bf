import ChibiCopter.Gps.Fields

/-!
# Sentences field by field

`Reader` is the parser without its buffer: it knows the type of the sentence, the
number of the current field and the text of that field, which is cut behind its
fourteenth character.  The parser refines it.  What `GPS.c` keeps in the term buffer
behind the current text, from earlier and longer terms, has no influence.
-/

namespace ChibiCopter.Gps

open CString Buffer

/-! ## The reader -/

def sentenceTypes : List SentenceType := [.gpgga, .gprmc, .gpgll, .gpgsa, .gpgsv, .gpvtg]

theorem mem_sentenceTypes {kind : SentenceType} (known : kind ≠ .unknown) :
    kind ∈ sentenceTypes := by
  cases kind with
  | unknown => exact absurd rfl known
  | gpgga | gprmc | gpgll | gpgsa | gpgsv | gpvtg => decide

theorem unknown_not_mem : SentenceType.unknown ∉ sentenceTypes := by decide

/-- The first term of a sentence of some type. -/
def SentenceType.name : SentenceType → List UInt8
  | .gpgga => gpggaTerm
  | .gprmc => gprmcTerm
  | .gpgll => gpgllTerm
  | .gpgsa => gpgsaTerm
  | .gpgsv => gpgsvTerm
  | .gpvtg => gpvtgTerm
  | .unknown => []

/-- A received first term agrees with a name as far as it goes. -/
def Agrees (term name : List UInt8) : Prop :=
  (terminated term).take term.length = (terminated name).take term.length

instance (term name : List UInt8) : Decidable (Agrees term name) :=
  inferInstanceAs (Decidable (_ = _))

/-- The first type with whose name a received first term agrees. -/
def recognised (term : List UInt8) : Option SentenceType :=
  sentenceTypes.find? fun kind => Agrees term kind.name

/-- The branch of `_GPSParseSentence` for a type. -/
def branch : SentenceType → Option SentenceType
  | .unknown => none
  | kind => some kind

@[ext] structure Reader where
  kind : SentenceType
  number : Nat
  text : List UInt8
  working : Working
  deriving DecidableEq, Repr

namespace Reader

/-- The end of a field: the first one gives the type, the others are read. -/
def close (reader : Reader) : Reader :=
  if reader.number = 0 then
    { reader with kind := (recognised reader.text).getD reader.kind }
  else
    { reader with
      working := updateField reader.kind reader.number reader.text reader.working }

def read (c : UInt8) (reader : Reader) : Option SentenceType × Reader :=
  if c = comma then
    (none, { reader.close with number := (reader.number + 1) % 256, text := [] })
  else if endsSentence c then
    (branch reader.close.kind, { reader.close with number := 0, text := [] })
  else if c = dollar then (none, { reader with kind := .unknown, number := 0, text := [] })
  else (none, { reader with text := (reader.text ++ [c]).take 14 })

end Reader

/-- The reader as a machine that answers with the branch a sentence is sent to. -/
def reader : Transducer Reader UInt8 (Option SentenceType) := ⟨Reader.read⟩

@[simp] theorem reader_step (c : UInt8) (state : Reader) : reader.step c state = state.read c := rfl

/-! ## The parser refines the reader -/

namespace Globals

/-- The reader that the parser implements: its text is the filled part of the buffer. -/
def view (gps : Globals) : Reader where
  kind := gps.sentenceType
  number := gps.sentenceOffset
  text := filled gps.term gps.termOffset
  working := gps.working

/-- The current term and a NUL fit into the buffer. -/
def Fits (gps : Globals) : Prop := gps.termOffset ≤ 14

theorem Fits.length_text {gps : Globals} (fits : gps.Fits) :
    gps.view.text.length = gps.termOffset :=
  length_filled (Nat.le_succ_of_le fits)

end Globals

theorem strncmp_term_iff {gps : Globals} (fits : gps.Fits) (name : List UInt8) :
    strncmp gps.term.toList name gps.termOffset = 0 ↔ Agrees gps.view.text name := by
  have split : gps.term.toList = gps.view.text ++ gps.term.toList.drop gps.termOffset :=
    (List.take_append_drop gps.termOffset gps.term.toList).symm
  have prefix_eq := take_terminated_append gps.view.text (gps.term.toList.drop gps.termOffset)
  rw [← split, fits.length_text] at prefix_eq
  rw [strncmp_eq_zero_iff, prefix_eq, Agrees, fits.length_text]

/-- The chain of comparisons finds the first name that the term agrees with. -/
theorem parseTypeTerm_eq {gps : Globals} (fits : gps.Fits) :
    parseTypeTerm gps =
      { gps with sentenceType := (recognised gps.view.text).getD gps.sentenceType } := by
  simp only [parseTypeTerm, strncmp_term_iff fits, recognised, sentenceTypes, List.find?_cons,
    List.find?_nil, SentenceType.name]
  repeat' split
  all_goals simp_all

theorem terminateTerm_toList {gps : Globals} (fits : gps.Fits) :
    ∃ rest, (terminateTerm gps).term.toList = gps.view.text ++ 0 :: rest := by
  have inside : gps.termOffset < 15 := Nat.lt_succ_of_le fits
  refine ⟨gps.term.toList.drop (gps.termOffset + 1), ?_⟩
  rw [terminateTerm, if_pos inside, toList_store, List.set_eq_take_append_cons_drop,
    if_pos (by simpa using inside)]
  rfl

/-- The end of a term is the end of the field. -/
theorem gpsParseTerm_close {gps : Globals} (fits : gps.Fits) :
    (gpsParseTerm gps).sentenceType = gps.view.close.kind ∧
      (gpsParseTerm gps).working = gps.view.close.working ∧
      (gpsParseTerm gps).sentenceOffset = gps.sentenceOffset := by
  by_cases field : gps.sentenceOffset = 0
  · have numbered : gps.view.number = 0 := field
    rw [gpsParseTerm, if_pos field, parseTypeTerm_eq fits, Reader.close, if_pos numbered]
    exact ⟨rfl, rfl, rfl⟩
  · have numbered : gps.view.number ≠ 0 := field
    obtain ⟨rest, memory_eq⟩ := terminateTerm_toList fits
    have update_eq := (readsText_updateField gps.sentenceType gps.sentenceOffset
      gps.working).append_nul gps.view.text rest
    rw [gpsParseTerm_field field, Reader.close, if_neg numbered, Globals.readNumber,
      memory_eq, working_terminateTerm]
    exact ⟨sentenceType_terminateTerm gps, update_eq, sentenceOffset_terminateTerm gps⟩

theorem gpsParseSentence_branch (gps : Globals) :
    (gpsParseSentence gps).1 = branch gps.sentenceType := by
  unfold gpsParseSentence
  cases gps.sentenceType <;> rfl

namespace Reader

theorem close_first {state : Reader} (first : state.number = 0) :
    state.close.working = state.working := by
  rw [close, if_pos first]

/-- Behind the first term the type is fixed. -/
theorem close_kind {state : Reader} (behind : state.number ≠ 0) :
    state.close.kind = state.kind := by
  rw [close, if_neg behind]

theorem read_comma (reader : Reader) :
    reader.read comma =
      (none, { reader.close with number := (reader.number + 1) % 256, text := [] }) := by
  rw [read, if_pos rfl]

theorem read_ends {c : UInt8} (reader : Reader) (ends : endsSentence c = true) :
    reader.read c = (branch reader.close.kind, { reader.close with number := 0, text := [] }) := by
  rw [read, if_neg (ne_comma_of_endsSentence ends), if_pos ends]

theorem read_dollar (reader : Reader) :
    reader.read dollar = (none, { reader with kind := .unknown, number := 0, text := [] }) := by
  rw [read, if_neg (by decide), if_neg (by decide), if_pos rfl]

theorem read_text {c : UInt8} (reader : Reader) (isText : IsText c) :
    reader.read c = (none, { reader with text := (reader.text ++ [c]).take 14 }) := by
  rw [read, if_neg isText.ne_comma, isText.ne_ends, if_neg Bool.false_ne_true,
    if_neg isText.ne_dollar]

end Reader

theorem fits_step (c : UInt8) {gps : Globals} (fits : gps.Fits) :
    (gpsParseChar c gps).2.Fits := by
  rcases char_cases c with rfl | ends | rfl | isText
  · rw [gpsParseChar_comma]
    exact Nat.zero_le 14
  · rw [gpsParseChar_ends gps ends]
    exact Nat.zero_le 14
  · rw [gpsParseChar_dollar]
    exact Nat.zero_le 14
  · by_cases room : gps.termOffset < 14
    · rw [gpsParseChar_store isText room]
      exact room
    · rw [gpsParseChar_full isText room]
      exact fits

theorem view_step (c : UInt8) {gps : Globals} (fits : gps.Fits) :
    (gpsParseChar c gps).2.view = (gps.view.read c).2 := by
  rcases char_cases c with rfl | ends | rfl | isText
  · obtain ⟨kind_eq, working_eq, number_eq⟩ := gpsParseTerm_close fits
    rw [gpsParseChar_comma, Reader.read_comma, number_eq]
    exact Reader.ext kind_eq rfl (filled_zero (gpsParseTerm gps).term) working_eq
  · obtain ⟨kind_eq, working_eq, -⟩ := gpsParseTerm_close fits
    rw [gpsParseChar_ends gps ends, Reader.read_ends gps.view ends]
    exact Reader.ext kind_eq rfl (filled_zero (gpsParseTerm gps).term) working_eq
  · rw [gpsParseChar_dollar, Reader.read_dollar]
    exact Reader.ext rfl rfl (filled_zero gps.term) rfl
  · rw [Reader.read_text gps.view isText]
    by_cases room : gps.termOffset < 14
    · have text_eq : (gps.view.text ++ [c]).take 14 = gps.view.text ++ [c] := by
        apply List.take_of_length_le
        rw [List.length_append, fits.length_text]
        exact room
      rw [gpsParseChar_store isText room, text_eq]
      exact Reader.ext rfl rfl (filled_store gps.term c (Nat.lt_succ_of_lt room)) rfl
    · have full : gps.termOffset = 14 := Nat.le_antisymm fits (Nat.le_of_not_lt room)
      have text_eq : (gps.view.text ++ [c]).take 14 = gps.view.text := by
        rw [← full, ← fits.length_text, List.take_left]
      rw [gpsParseChar_full isText room, text_eq]

theorem dispatched_step (c : UInt8) {gps : Globals} (fits : gps.Fits) :
    (gpsParseChar c gps).1.dispatched = (gps.view.read c).1 := by
  rcases char_cases c with rfl | ends | rfl | isText
  · rw [gpsParseChar_comma, Reader.read_comma]
  · rw [gpsParseChar_ends gps ends, Reader.read_ends gps.view ends, gpsParseSentence_branch,
      (gpsParseTerm_close fits).1]
  · rw [gpsParseChar_dollar, Reader.read_dollar]
  · rw [Reader.read_text gps.view isText]
    by_cases room : gps.termOffset < 14
    · rw [gpsParseChar_store isText room]
    · rw [gpsParseChar_full isText room]

/-- While the current term fits into the buffer, the parser is the reader. -/
theorem parser_refines :
    parser.Refines reader Globals.Fits Globals.view CharResult.dispatched where
  kept c _ fits := fits_step c fits
  view_step c _ fits := view_step c fits
  answer_step c _ fits := dispatched_step c fits

theorem fits_of_reachable {gps : Globals} (reachable : Reachable gps) : gps.Fits := by
  refine Transducer.Reachable.satisfies reachable Globals.Fits ?_ fun c _ => fits_step c
  rintro state ⟨globals, rfl⟩
  exact Nat.zero_le 14

end ChibiCopter.Gps
