import ChibiCopter.Gps.Readings
import Mathlib.Data.List.DropRight

/-!
# The position at the end of a sentence

`_GPSParseSentence` is to copy the working data, so that a position should be whole
when it is entered: both coordinates parsed since the dollar of the sentence.  A
terminator may come at any field.  The field number rises by one at each comma and the
type is fixed behind the first term, so that the fields below the current one have all
been parsed; hence the position is whole exactly if some term since the dollar has
ended at the longitude or behind it.  Whether one has can be seen in the received text,
cut into its terms.
-/

namespace ChibiCopter.Gps

/-! ## What has been parsed since the dollar -/

/-- `since` is what has been received behind the last dollar. -/
structure SinceDollar (received before since : List UInt8) : Prop where
  received_eq : received = before ++ dollar :: since
  unopened : dollar ∉ since

/-- A field of a sentence of some type has been parsed since the last dollar. -/
def ParsedSince (gps : Globals) (received : List UInt8) (kind : SentenceType)
    (field : Field) : Prop :=
  ∃ before since, SinceDollar received before since ∧
    ∃ reading ∈ readings (parser.final gps (before ++ [dollar])).view since,
      reading.kind = kind ∧ reading.field = field

/-- A term in a text, with the number of its field. -/
structure Term where
  number : Nat
  text : List UInt8
  deriving DecidableEq, Repr

/-- The current term behind one more character.  Field numbers count modulo 256. -/
def Term.extend (c : UInt8) (term : Term) : Term :=
  if c = comma then ⟨(term.number + 1) % 256, []⟩
  else if endsSentence c then ⟨0, []⟩
  else ⟨term.number, term.text ++ [c]⟩

/-- The term that a character ends. -/
def Term.ended? (c : UInt8) (term : Term) : Option Term :=
  if EndsField c then some term else none

def splitter : Transducer Term UInt8 Unit := ⟨fun c term => ((), term.extend c)⟩

/-- The current term behind a text. -/
def currentTerm (text : List UInt8) : Term := splitter.final ⟨0, []⟩ text

/-- The terms that have ended in a text. -/
def endedTerms (text : List UInt8) : List Term :=
  splitter.collect (fun c term => (term.ended? c).toList) ⟨0, []⟩ text

/-- The type that the last known name among the first terms gives. -/
def namedType (terms : List Term) : SentenceType :=
  (terms.filterMap fun term =>
    if term.number = 0 then recognised (term.text.take 14) else none).getLastD .unknown

/-- The text behind the last dollar, all of it if there is none. -/
def behindDollar (received : List UInt8) : List UInt8 :=
  received.rtakeWhile fun c => c ≠ dollar

theorem Term.extend_ends {c : UInt8} (ends : endsSentence c = true) (term : Term) :
    term.extend c = ⟨0, []⟩ := by
  rw [extend, if_neg (ne_comma_of_endsSentence ends), if_pos ends]

theorem Term.extend_text {c : UInt8} (isText : IsText c) (term : Term) :
    term.extend c = ⟨term.number, term.text ++ [c]⟩ := by
  rw [extend, if_neg isText.ne_comma, isText.ne_ends]
  rfl

theorem currentTerm_concat (text : List UInt8) (c : UInt8) :
    currentTerm (text ++ [c]) = (currentTerm text).extend c := splitter.final_concat _ _ _

theorem endedTerms_concat (text : List UInt8) (c : UInt8) :
    endedTerms (text ++ [c]) =
      endedTerms text ++ if EndsField c then [currentTerm text] else [] := by
  rw [endedTerms, Transducer.collect_concat, endedTerms, ← currentTerm, Term.ended?]
  split <;> rfl

theorem namedType_concat (terms : List Term) (term : Term) :
    namedType (terms ++ [term]) =
      if term.number = 0 then (recognised (term.text.take 14)).getD (namedType terms)
      else namedType terms := by
  rw [namedType, List.filterMap_append]
  by_cases first : term.number = 0
  · rw [if_pos first]
    cases found : recognised (term.text.take 14) with
    | none => simp [first, found, namedType]
    | some kind => simp [first, found]
  · simp [first, namedType]

theorem behindDollar_dollar (received : List UInt8) :
    behindDollar (received ++ [dollar]) = [] :=
  List.rtakeWhile_concat_neg _ _ _ (by simp)

theorem behindDollar_concat {c : UInt8} (other : c ≠ dollar) (received : List UInt8) :
    behindDollar (received ++ [c]) = behindDollar received ++ [c] :=
  List.rtakeWhile_concat_pos _ _ _ (by simpa using other)

/-- What the reader knows of the text since the dollar. -/
structure Knows (state : Reader) (text : List UInt8) : Prop where
  kind_eq : state.kind = namedType (endedTerms text)
  number_eq : state.number = (currentTerm text).number
  text_eq : state.text = (currentTerm text).text.take 14

theorem Knows.close {state : Reader} {text : List UInt8} (knows : Knows state text) :
    state.close.kind = namedType (endedTerms text ++ [currentTerm text]) := by
  rw [Reader.close, namedType_concat, ← knows.number_eq, ← knows.text_eq, ← knows.kind_eq]
  split <;> rfl

theorem Knows.read {state : Reader} {received : List UInt8}
    (knows : Knows state (behindDollar received)) (c : UInt8) :
    Knows (state.read c).2 (behindDollar (received ++ [c])) := by
  rcases char_cases c with rfl | ends | rfl | isText
  · have ends : EndsField comma := Or.inl rfl
    rw [behindDollar_concat (by decide), Reader.read_comma]
    refine ⟨?_, ?_, ?_⟩
    · rw [endedTerms_concat, if_pos ends]
      exact knows.close
    · rw [currentTerm_concat, Term.extend, if_pos rfl, knows.number_eq]
    · rw [currentTerm_concat, Term.extend, if_pos rfl]
      rfl
  · have endsField : EndsField c := Or.inr ends
    rw [behindDollar_concat (ne_dollar_of_endsSentence ends), Reader.read_ends state ends]
    refine ⟨?_, ?_, ?_⟩
    · rw [endedTerms_concat, if_pos endsField]
      exact knows.close
    · rw [currentTerm_concat, Term.extend_ends ends]
    · rw [currentTerm_concat, Term.extend_ends ends]
      rfl
  · rw [behindDollar_dollar, Reader.read_dollar]
    exact ⟨rfl, rfl, rfl⟩
  · rw [behindDollar_concat isText.ne_dollar, Reader.read_text state isText]
    refine ⟨?_, ?_, ?_⟩
    · rw [endedTerms_concat, if_neg isText.not_endsField, List.append_nil]
      exact knows.kind_eq
    · rw [currentTerm_concat, Term.extend_text isText]
      exact knows.number_eq
    · rw [currentTerm_concat, Term.extend_text isText, knows.text_eq]
      exact take_take_concat _ _ _

/-- All fields of the current sentence below the current one have been read. -/
def Covers (done : List Reading) (state : Reader) : Prop :=
  ∀ number field, number < state.number → fieldOf state.kind number = some field →
    ∃ reading ∈ done, reading.kind = state.kind ∧ reading.field = field

theorem covers_first {done : List Reading} {state : Reader} (first : state.number = 0) :
    Covers done state := by
  intro number field below
  omega

/-- One more comma adds the field that it ends. -/
theorem Covers.comma {done : List Reading} {state : Reader} (covers : Covers done state) :
    Covers (done ++ (state.reading comma).toList) (state.read comma).2 := by
  rw [Reader.read_comma]
  intro number field below found
  have reached : number ≤ state.number := by
    have bound := Nat.mod_le (state.number + 1) 256
    exact Nat.le_of_lt_succ (Nat.lt_of_lt_of_le below bound)
  have behind : state.number ≠ 0 := by
    have later := ne_zero_of_fieldOf found
    omega
  simp only [Reader.close_kind behind] at found ⊢
  rcases Nat.lt_or_eq_of_le reached with earlier | current
  · obtain ⟨reading, member, same⟩ := covers number field earlier found
    exact ⟨reading, List.mem_append_left _ member, same⟩
  · subst current
    refine ⟨⟨state.kind, field, state.text⟩, List.mem_append_right done ?_, rfl, rfl⟩
    rw [Reader.reading_some (Or.inl rfl) found]
    exact List.mem_singleton.mpr rfl

theorem Covers.read {done : List Reading} {state : Reader} (covers : Covers done state)
    (c : UInt8) : Covers (done ++ (state.reading c).toList) (state.read c).2 := by
  rcases char_cases c with rfl | ends | rfl | isText
  · exact covers.comma
  · rw [Reader.read_ends state ends]
    exact covers_first rfl
  · rw [Reader.read_dollar]
    exact covers_first rfl
  · rw [Reader.read_text state isText, Reader.reading_mid isText.not_endsField]
    simpa [Covers] using covers

/-- From the first term on, the readings cover all fields below the current one. -/
theorem covers_final {state : Reader} (first : state.number = 0) (stream : List UInt8) :
    Covers (readings state stream) (reader.final state stream) := by
  refine reader.final_history (fun received => Covers (readings state received))
    (covers_first first) (fun received c covers => ?_) stream
  rw [readings_append, readings_cons, readings_nil, List.append_nil]
  exact covers.read c

/-! ## Whole positions -/

/-- Since the last dollar, a term has ended while the sentence had some type and the
field number had reached a bound. -/
def TermReached (gps : Globals) (received : List UInt8) (kind : SentenceType)
    (bound : Nat) : Prop :=
  ∃ before since, SinceDollar received before since ∧
    ∃ front d back, since = front ++ d :: back ∧ EndsField d ∧
      (parser.final gps (before ++ dollar :: front)).sentenceType = kind ∧
      bound ≤ (parser.final gps (before ++ dollar :: front)).sentenceOffset

theorem view_behind_dollar {gps : Globals} (reachable : Reachable gps)
    (before front : List UInt8) :
    (parser.final gps (before ++ dollar :: front)).view =
      reader.final (parser.final gps (before ++ [dollar])).view front := by
  rw [← view_final (reachable.run (before ++ [dollar])), ← parser.final_append,
    List.append_assoc, List.singleton_append]

theorem number_behind_dollar (gps : Globals) (before : List UInt8) :
    (parser.final gps (before ++ [dollar])).view.number = 0 := by
  rw [parser.final_concat, parser_step, gpsParseChar_dollar]
  rfl

/-- Behind the longitude, both coordinates have been parsed. -/
theorem TermReached.parsed {gps : Globals} (reachable : Reachable gps) {received : List UInt8}
    {kind : SentenceType} {number : Nat} (position : latitudeNumber kind = some number)
    (term : TermReached gps received kind (number + 2)) :
    ParsedSince gps received kind .latitude ∧ ParsedSince gps received kind .longitude := by
  obtain ⟨before, since, split, front, d, back, rfl, ends, rfl, bound⟩ := term
  obtain ⟨lat_field, -, lon_field, -⟩ := fieldOf_position position
  have view_eq := view_behind_dollar reachable before front
  have first := number_behind_dollar gps before
  have covers := covers_final first front
  rw [← view_eq] at covers
  have parsed {field : Field} {place : Nat}
      (found : fieldOf (parser.final gps (before ++ dollar :: front)).view.kind place = some field)
      (reached : place ≤ (parser.final gps (before ++ dollar :: front)).view.number) :
      ParsedSince gps received (parser.final gps (before ++ dollar :: front)).view.kind field := by
    refine ⟨before, front ++ d :: back, split, ?_⟩
    rw [readings_append, readings_cons, ← view_eq]
    rcases Nat.lt_or_eq_of_le reached with earlier | current
    · obtain ⟨reading, member, same⟩ := covers place field earlier found
      exact ⟨reading, List.mem_append_left _ member, same⟩
    · subst current
      rw [Reader.reading_some ends found]
      exact ⟨_, List.mem_append_right _ (List.mem_append_left _ (List.mem_singleton.mpr rfl)),
        rfl, rfl⟩
  exact ⟨parsed lat_field (Nat.le_of_add_right_le bound), parsed lon_field bound⟩

/-- The longitude is parsed at its own number. -/
theorem ParsedSince.reached {gps : Globals} (reachable : Reachable gps) {received : List UInt8}
    {kind : SentenceType} {number : Nat} (position : latitudeNumber kind = some number)
    (parsed : ParsedSince gps received kind .longitude) :
    TermReached gps received kind (number + 2) := by
  obtain ⟨before, since, split, reading, member, rfl, field_eq⟩ := parsed
  obtain ⟨front, d, back, since_eq, read⟩ := reader.mem_collect_iff.mp member
  rw [← view_behind_dollar reachable, Option.mem_toList] at read
  obtain ⟨ends, kind_eq, found⟩ := Reader.reading_inv read
  rw [field_eq] at found
  obtain ⟨start, start_position, number_eq⟩ := fieldOf_place found rfl
  rw [kind_eq, position] at start_position
  cases start_position
  exact ⟨before, since, split, front, d, back, since_eq, ends, kind_eq, Nat.le_of_eq number_eq.symm⟩

end ChibiCopter.Gps
