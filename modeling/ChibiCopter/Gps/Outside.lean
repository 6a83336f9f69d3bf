import ChibiCopter.Gps.Sentence

/-!
# Text outside sentences

Behind a terminator the parser is not between sentences: the field number is 0 and
the type stays, so that the next comma begins field 1 of a sentence that no dollar
has opened.  The first term of such text may even find a type, since an empty term
agrees with the first name.  The data are safe as long as no such field is in the
table, and in particular when no comma stands outside a sentence.
-/

namespace ChibiCopter.Gps

/-- Whether a dollar has been received and no terminator since. -/
def insideStep (inside : Bool) (c : UInt8) : Bool :=
  if c = dollar then true else if endsSentence c then false else inside

def inside (received : List UInt8) : Bool := received.foldl insideStep false

theorem inside_concat (received : List UInt8) (c : UInt8) :
    inside (received ++ [c]) = insideStep (inside received) c := by
  rw [inside, List.foldl_append]
  rfl

theorem insideStep_eq_true_iff (before : Bool) (c : UInt8) :
    insideStep before c = true ↔ c = dollar ∨ (endsSentence c = false ∧ before = true) := by
  unfold insideStep
  by_cases begins : c = dollar
  · simp [begins]
  · cases endsSentence c <;> simp [begins]

theorem insideStep_dollar (before : Bool) : insideStep before dollar = true :=
  (insideStep_eq_true_iff before dollar).mpr (Or.inl rfl)

/-- A call outside a sentence: nothing is open, and the character opens nothing. -/
def Outside (received : List UInt8) (c : UInt8) : Prop := inside received = false ∧ c ≠ dollar

/-- The characters received outside leave the working data as they were. -/
def OutsideKept (gps : Globals) (stream : List UInt8) : Prop :=
  ∀ earlier c later, stream = earlier ++ c :: later → Outside earlier c →
    (gpsParseChar c (parser.final gps earlier)).2.working = (parser.final gps earlier).working

/-- The character does not end a field that is in the table. -/
def EndsUnread (gps : Globals) (c : UInt8) : Prop :=
  c = comma ∨ endsSentence c = true → fieldOf gps.sentenceType gps.sentenceOffset = none

theorem Reader.close_unread {state : Reader} (unread : fieldOf state.kind state.number = none) :
    state.close.working = state.working := by
  rw [Reader.close]
  split
  · rfl
  · exact updateField_none unread state.text state.working

/-- Only the end of a field in the table changes data. -/
theorem working_step {gps : Globals} (fits : gps.Fits) {c : UInt8} (unread : EndsUnread gps c) :
    (gpsParseChar c gps).2.working = gps.working := by
  have step : (gpsParseChar c gps).2.working = (gps.view.read c).2.working :=
    congrArg Reader.working (view_step c fits)
  rw [step]
  rcases char_cases c with rfl | ends | rfl | isText
  · rw [Reader.read_comma]
    exact gps.view.close_unread (unread (Or.inl rfl))
  · rw [Reader.read_ends gps.view ends]
    exact Reader.close_unread (unread (Or.inr ends))
  · rw [Reader.read_dollar]
    rfl
  · rw [Reader.read_text gps.view isText]
    rfl

/-- No comma stands outside a sentence. -/
def CommasInside (stream : List UInt8) : Prop :=
  ∀ earlier later, stream = earlier ++ comma :: later → inside earlier = true

theorem CommasInside.front {stream : List UInt8} {c : UInt8}
    (commas : CommasInside (stream ++ [c])) : CommasInside stream := by
  intro earlier later stream_eq
  exact commas earlier (later ++ [c]) (by rw [stream_eq]; simp)

/-- Only commas advance the field number, and terminators take it back to 0. -/
theorem sentenceOffset_outside (globals : Globals) {stream : List UInt8}
    (commas : CommasInside stream) (outside : inside stream = false) :
    (parser.final (gpsParserInit globals) stream).sentenceOffset = 0 := by
  refine parser.final_history (fun received gps =>
    CommasInside received → inside received = false → gps.sentenceOffset = 0)
    (fun _ _ => rfl) ?_ stream commas outside
  intro received c ih commas outside
  rw [inside_concat] at outside
  rcases char_cases c with rfl | ends | rfl | isText
  · have opened : inside received = true := commas received [] rfl
    rw [opened] at outside
    exact absurd outside (by decide)
  · rw [parser_step, gpsParseChar_ends _ ends]
  · rw [insideStep_dollar] at outside
    exact absurd outside (by decide)
  · have before : inside received = false := by
      cases opened : inside received with
      | false => rfl
      | true =>
          rw [(insideStep_eq_true_iff _ c).mpr (Or.inr ⟨isText.ne_ends, opened⟩)] at outside
          exact absurd outside (by decide)
    rw [parser_step]
    by_cases room : (parser.final (gpsParserInit globals) received).termOffset < 14
    · rw [gpsParseChar_store isText room]
      exact ih commas.front before
    · rw [gpsParseChar_full isText room]
      exact ih commas.front before

/-- Data are kept outside sentences in every run that ends no field of the table there,
and so in every run that has its commas inside sentences. -/
theorem outside_kept (globals : Globals) (stream : List UInt8) :
    ((∀ earlier c later, stream = earlier ++ c :: later → Outside earlier c →
        EndsUnread (parser.final (gpsParserInit globals) earlier) c) →
      OutsideKept (gpsParserInit globals) stream) ∧
    (CommasInside stream → OutsideKept (gpsParserInit globals) stream) := by
  have fits (earlier : List UInt8) : (parser.final (gpsParserInit globals) earlier).Fits :=
    fits_of_reachable ((reachable_init globals).run earlier)
  constructor
  · intro unread earlier c later stream_eq outside
    exact working_step (fits earlier) (unread earlier c later stream_eq outside)
  · intro commas earlier c later stream_eq outside
    have before : CommasInside earlier := by
      intro first rest earlier_eq
      exact commas first (rest ++ c :: later) (by rw [stream_eq, earlier_eq]; simp)
    have number_eq := sentenceOffset_outside globals before outside.1
    refine working_step (fits earlier) fun _ => ?_
    rw [number_eq, fieldOf_zero]

theorem outside_kept_emptySentence :
    OutsideKept (gpsParserInit zeroGlobals) [dollar, comma, star, lineFeed] := by
  refine (outside_kept zeroGlobals [dollar, comma, star, lineFeed]).2 ?_
  intro earlier later stream_eq
  have other : comma ≠ dollar ∧ comma ≠ star ∧ comma ≠ lineFeed := by decide
  obtain ⟨rfl, -⟩ : earlier = [dollar] ∧ later = [star, lineFeed] := by
    simpa [List.cons_eq_append_iff, other] using stream_eq
  decide

/-- Three commas and a digit write a latitude without any dollar. -/
theorem outside_written : ¬ ∀ globals stream, OutsideKept (gpsParserInit globals) stream := by
  intro kept
  have same := kept zeroGlobals [comma, comma, Char.toUInt8 '1', comma]
    [comma, comma, Char.toUInt8 '1'] comma [] rfl ⟨rfl, by decide⟩
  exact absurd (congrArg (fun working => working.data.lat) same) (by decide +kernel)

end ChibiCopter.Gps
