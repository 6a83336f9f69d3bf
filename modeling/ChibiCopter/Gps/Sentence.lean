import ChibiCopter.Gps.Reader
import Mathlib.Data.List.Induction

/-!
# Whole sentences

A sentence is a dollar, the name of its type, fields behind commas and a terminator.
`interpret` says what its text does to the working data: split at the commas, cut the
fields, and apply the table of the named type to one field after the other.  The
parser does just this to every sentence with at most 255 fields.
-/

namespace ChibiCopter.Gps

open CString

/-- A text without commas, dollars and terminators. -/
def Plain (text : List UInt8) : Prop := ∀ c ∈ text, IsText c

instance (text : List UInt8) : Decidable (Plain text) :=
  List.decidableBAll IsText text

/-- All characters with a meaning of their own stand in front of the digits. -/
theorem isText_of_le {c : UInt8} (above : 0x30 ≤ c) : IsText c := by
  refine ⟨?_, ?_, ?_⟩
  · rintro rfl
    exact absurd above (by decide)
  · cases ends : endsSentence c with
    | false => rfl
    | true =>
        have named : c = carriageReturn ∨ c = lineFeed ∨ c = star := of_decide_eq_true ends
        rcases named with rfl | rfl | rfl
        · exact absurd above (by decide)
        · exact absurd above (by decide)
        · exact absurd above (by decide)
  · rintro rfl
    exact absurd above (by decide)

/-- The text between the dollar and the first terminator. -/
def body (tag : List UInt8) (fields : List (List UInt8)) : List UInt8 :=
  [comma].intercalate (tag :: fields)

/-- A sentence with the checksum behind it. -/
def sentence (tag : List UInt8) (fields : List (List UInt8)) (checksum : List UInt8) :
    List UInt8 :=
  dollar :: body tag fields ++ star :: checksum ++ [carriageReturn, lineFeed]

/-- One field after the other, cut to fourteen characters. -/
def foldFields (kind : SentenceType) : Nat → List (List UInt8) → Working → Working
  | _, [], working => working
  | number, field :: fields, working =>
      foldFields kind (number + 1) fields (updateField kind number (field.take 14) working)

/-- What the text of a sentence says. -/
def interpret (text : List UInt8) (working : Working) : Working :=
  match text.splitOn comma with
  | [] => working
  | tag :: fields =>
      match sentenceTypes.find? fun kind => kind.name = tag with
      | some kind => foldFields kind 1 fields working
      | none => working

theorem body_eq (tag : List UInt8) (fields : List (List UInt8)) :
    body tag fields = tag ++ fields.flatMap (comma :: ·) := by
  induction fields generalizing tag with
  | nil => simp [body, List.intercalate]
  | cons field fields ih =>
      rw [List.flatMap_cons, List.cons_append, ← ih field, body, body]
      simp [List.intercalate]

theorem splitOn_body {tag : List UInt8} {fields : List (List UInt8)}
    (plain : ∀ field ∈ tag :: fields, Plain field) :
    (body tag fields).splitOn comma = tag :: fields :=
  List.splitOn_intercalate comma
    (fun field member found => (plain field member comma found).ne_comma rfl)
    (List.cons_ne_nil tag fields)

theorem find_name {kind : SentenceType} (named : kind ∈ sentenceTypes) :
    (sentenceTypes.find? fun other => other.name = kind.name) = some kind := by
  cases kind with
  | unknown => exact absurd named unknown_not_mem
  | gpgga | gprmc | gpgll | gpgsa | gpgsv | gpvtg => decide

theorem interpret_name {kind : SentenceType} (named : kind ∈ sentenceTypes)
    {fields : List (List UInt8)} (plain : ∀ field ∈ kind.name :: fields, Plain field)
    (working : Working) :
    interpret (body kind.name fields) working = foldFields kind 1 fields working := by
  simp only [interpret, splitOn_body plain, find_name named]

/-- A sentence that begins with no part of a name says nothing. -/
theorem interpret_foreign {tag : List UInt8} {fields : List (List UInt8)}
    (foreign : ∀ kind ∈ sentenceTypes, ¬ tag <+: kind.name)
    (plain : ∀ field ∈ tag :: fields, Plain field) (working : Working) :
    interpret (body tag fields) working = working := by
  have unnamed : (sentenceTypes.find? fun kind => kind.name = tag) = none := by
    refine List.find?_eq_none.mpr fun kind named same => foreign kind named ?_
    exact of_decide_eq_true same ▸ List.prefix_rfl
  simp only [interpret, splitOn_body plain, unnamed]

/-! ## The reader over one sentence -/

namespace Reader

/-- Behind a dollar and a first term. -/
def begin (state : Reader) (tag : List UInt8) : Reader :=
  { state with kind := .unknown, number := 0, text := tag.take 14 }

/-- Behind one more comma and field. -/
def next (state : Reader) (field : List UInt8) : Reader :=
  { state.close with number := (state.number + 1) % 256, text := field.take 14 }

end Reader

theorem take_take_concat (text : List UInt8) (c : UInt8) (limit : Nat) :
    (text.take limit ++ [c]).take limit = (text ++ [c]).take limit := by
  by_cases short : text.length ≤ limit
  · rw [List.take_of_length_le short]
  · have filled : (text.take limit).length = limit := by
      rw [List.length_take]
      omega
    rw [List.take_append_of_le_length (by omega), List.take_append_of_le_length (by omega),
      List.take_take, Nat.min_self]

/-- The characters of a field collect, up to the fourteenth. -/
theorem yields_text {state : Reader} (empty : state.text = []) {text : List UInt8}
    (plain : Plain text) : reader.Yields state text [] { state with text := text.take 14 } := by
  induction text using List.reverseRecOn with
  | nil =>
      have same : { state with text := [] } = state := Reader.ext rfl rfl empty.symm rfl
      rw [List.take_nil, same]
      exact .refl state
  | append_singleton text c ih =>
      have front : Plain text := fun entry member => plain entry (List.mem_append_left [c] member)
      have isText : IsText c := plain c List.mem_concat_self
      have step := Reader.read_text { state with text := text.take 14 } isText
      rw [take_take_concat] at step
      exact (ih front).append (.silent step)

theorem yields_begin (state : Reader) {tag : List UInt8} (plain : Plain tag) :
    reader.Yields state (dollar :: tag) [] (state.begin tag) := by
  have opened : reader.Yields state [dollar] [] _ := .silent (Reader.read_dollar state)
  exact opened.append (yields_text rfl plain)

theorem yields_next (state : Reader) {field : List UInt8} (plain : Plain field) :
    reader.Yields state (comma :: field) [] (state.next field) := by
  have closed : reader.Yields state [comma] [] _ := .silent (Reader.read_comma state)
  exact closed.append (yields_text rfl plain)

theorem yields_fields (state : Reader) {fields : List (List UInt8)}
    (plain : ∀ field ∈ fields, Plain field) :
    reader.Yields state (fields.flatMap (comma :: ·)) [] (fields.foldl Reader.next state) := by
  induction fields generalizing state with
  | nil => exact .refl state
  | cons field fields ih =>
      exact (yields_next state (plain field List.mem_cons_self)).append
        (ih (state.next field) fun later member => plain later (List.mem_cons_of_mem field member))

/-- A sentence up to its terminator. -/
theorem yields_body (state : Reader) {tag : List UInt8} {fields : List (List UInt8)}
    (plain : ∀ field ∈ tag :: fields, Plain field) :
    reader.Yields state (dollar :: body tag fields) []
      (fields.foldl Reader.next (state.begin tag)) := by
  rw [body_eq, ← List.cons_append]
  exact (yields_begin state (plain tag List.mem_cons_self)).append
    (yields_fields _ fun field member => plain field (List.mem_cons_of_mem tag member))

/-- From a field on, the reader does what the table says about it and all later ones. -/
theorem close_fields {state : Reader} {field : List UInt8} {fields : List (List UInt8)}
    (text_eq : state.text = field.take 14) (read : state.number ≠ 0)
    (bound : state.number + fields.length ≤ 255) :
    (fields.foldl Reader.next state).close.kind = state.kind ∧
      (fields.foldl Reader.next state).close.working =
        foldFields state.kind state.number (field :: fields) state.working := by
  induction fields generalizing state field with
  | nil =>
      rw [List.foldl_nil, Reader.close, if_neg read, text_eq]
      exact ⟨rfl, rfl⟩
  | cons later fields ih =>
      rw [List.length_cons] at bound
      have number_eq : (state.next later).number = state.number + 1 :=
        Nat.mod_eq_of_lt (by omega)
      have kind_eq : (state.next later).kind = state.kind := by
        rw [Reader.next, Reader.close, if_neg read]
      have working_eq : (state.next later).working =
          updateField state.kind state.number (field.take 14) state.working := by
        rw [Reader.next, Reader.close, if_neg read, text_eq]
      have rest := @ih (state.next later) later rfl (by omega) (by omega)
      rw [kind_eq, number_eq, working_eq] at rest
      exact rest

/-- A whole sentence: its first term gives the type, and the table the rest. -/
theorem close_sentence (state : Reader) {tag : List UInt8} {fields : List (List UInt8)}
    {kind : SentenceType} (kind_eq : (recognised (tag.take 14)).getD .unknown = kind)
    (count : fields.length ≤ 255) :
    (fields.foldl Reader.next (state.begin tag)).close.kind = kind ∧
      (fields.foldl Reader.next (state.begin tag)).close.working =
        foldFields kind 1 fields state.working := by
  subst kind_eq
  cases fields with
  | nil => exact ⟨rfl, rfl⟩
  | cons field fields =>
      rw [List.length_cons] at count
      exact @close_fields ((state.begin tag).next field) field fields rfl Nat.one_ne_zero
        (Nat.add_comm 1 fields.length ▸ count)

/-! ## First terms -/

theorem nulFree_name (kind : SentenceType) : 0 ∉ kind.name := by
  cases kind <;> decide

theorem plain_name (kind : SentenceType) : Plain kind.name := by
  cases kind <;> decide

theorem length_name_le (kind : SentenceType) : kind.name.length ≤ 5 := by
  cases kind <;> decide

theorem recognised_name {kind : SentenceType} (named : kind ∈ sentenceTypes) :
    recognised (kind.name.take 14) = some kind := by
  cases kind with
  | unknown => exact absurd named unknown_not_mem
  | gpgga | gprmc | gpgll | gpgsa | gpgsv | gpvtg => decide

/-- A whole name gives its type. -/
theorem kind_of_name {kind : SentenceType} (named : kind ∈ sentenceTypes) :
    (recognised (kind.name.take 14)).getD .unknown = kind := by
  rw [recognised_name named, Option.getD_some]

theorem recognised_nil : recognised [] = some .gpgga := by decide

/-- A term is recognised only if it agrees with some name as far as it goes. -/
theorem recognised_none {tag : List UInt8} (nulFree : 0 ∉ tag)
    (foreign : ∀ kind ∈ sentenceTypes, ¬ tag <+: kind.name) :
    recognised (tag.take 14) = none := by
  refine List.find?_eq_none.mpr fun kind named agrees => foreign kind named ?_
  have cutFree : 0 ∉ tag.take 14 := fun member => nulFree (List.mem_of_mem_take member)
  have front : tag.take 14 <+: kind.name :=
    (take_terminated_eq_iff cutFree (nulFree_name kind)).mp (of_decide_eq_true agrees)
  have short : tag.length ≤ 14 := by
    have bound := front.length_le.trans (length_name_le kind)
    rw [List.length_take] at bound
    omega
  rwa [List.take_of_length_le short] at front

/-! ## The reader behind a sentence -/

/-- A line outside a sentence can change the type and nothing else. -/
theorem yields_line (state : Reader) {line : List UInt8} {c : UInt8} {kind : SentenceType}
    (first : state.number = 0) (empty : state.text = []) (plain : Plain line)
    (ends : endsSentence c = true) (kind_eq : (recognised (line.take 14)).getD state.kind = kind) :
    reader.Yields state (line ++ [c]) (branch kind).toList { state with kind := kind } := by
  have close_eq : { state with text := line.take 14 }.close =
      { state with kind := kind, text := line.take 14 } := by
    rw [Reader.close, if_pos first, kind_eq]
  have collected : reader.Yields state line [] { state with text := line.take 14 } :=
    yields_text empty plain
  have closed := Reader.read_ends { state with text := line.take 14 } ends
  have restored : { state with kind := kind, number := 0, text := [] } =
      { state with kind := kind } := Reader.ext rfl first.symm empty.symm rfl
  rw [close_eq] at closed
  have ended : reader.Yields _ [c] _ _ := .single closed
  rw [restored] at ended
  exact collected.append ended

/-- The first terminator sends the sentence to the branch of its type. -/
theorem yields_ended (state : Reader) {tag : List UInt8} {fields : List (List UInt8)}
    {kind : SentenceType} (plain : ∀ field ∈ tag :: fields, Plain field) {c : UInt8}
    (ends : endsSentence c = true) (kind_eq : (recognised (tag.take 14)).getD .unknown = kind)
    (count : fields.length ≤ 255) :
    reader.Yields state (dollar :: body tag fields ++ [c]) (branch kind).toList
      ⟨kind, 0, [], foldFields kind 1 fields state.working⟩ := by
  obtain ⟨close_kind, close_working⟩ := close_sentence state kind_eq count
  have closed := Reader.read_ends (fields.foldl Reader.next (state.begin tag)) ends
  rw [close_kind, show { (fields.foldl Reader.next (state.begin tag)).close with
      number := 0, text := [] } = ⟨kind, 0, [], foldFields kind 1 fields state.working⟩ from
    Reader.ext close_kind rfl rfl close_working] at closed
  have ended : reader.Yields _ [c] _ _ := .single closed
  exact (yields_body state plain).append ended

/-- A sentence with its checksum and line end: three terminators, of which the last
ends an empty line. -/
theorem yields_sentence (state : Reader) {tag : List UInt8} {fields : List (List UInt8)}
    {checksum : List UInt8} {kind : SentenceType}
    (plain : ∀ field ∈ tag :: fields, Plain field) (checksumPlain : Plain checksum)
    (kind_eq : (recognised (tag.take 14)).getD .unknown = kind) (count : fields.length ≤ 255) :
    reader.Yields state (sentence tag fields checksum)
      ((branch kind).toList ++
        ((branch ((recognised (checksum.take 14)).getD kind)).toList ++ [.gpgga]))
      ⟨.gpgga, 0, [], foldFields kind 1 fields state.working⟩ := by
  have ended := yields_ended state plain endsSentence_star kind_eq count
  have returned := yields_line ⟨kind, 0, [], foldFields kind 1 fields state.working⟩ rfl rfl
    checksumPlain endsSentence_carriageReturn rfl
  have fed := yields_line
    ⟨(recognised (checksum.take 14)).getD kind, 0, [], foldFields kind 1 fields state.working⟩
    rfl rfl (List.forall_mem_nil IsText) endsSentence_lineFeed rfl
  have whole := ended.append (returned.append fed)
  simpa [sentence, recognised_nil, branch] using whole

/-! ## The parser over one sentence -/

theorem view_final {gps : Globals} (reachable : Reachable gps) (stream : List UInt8) :
    (parser.final gps stream).view = reader.final gps.view stream :=
  parser_refines.view_final (fits_of_reachable reachable) stream

/-- Data that the reader ends with are the parser's working data. -/
theorem working_of_yields {gps : Globals} (reachable : Reachable gps) {stream : List UInt8}
    {entries : List SentenceType} {target : Reader}
    (yields : reader.Yields gps.view stream entries target) :
    (parser.final gps stream).working = target.working := by
  rw [← yields.final_eq, ← view_final reachable]
  rfl

/-- No comma, no field: text behind the end of a sentence leaves the data. -/
theorem working_commaFree {state : Reader} (first : state.number = 0) {text : List UInt8}
    (commaFree : comma ∉ text) : (reader.final state text).working = state.working := by
  induction text generalizing state with
  | nil => rfl
  | cons c text ih =>
      have later : comma ∉ text := fun member => commaFree (List.mem_cons_of_mem c member)
      rw [Transducer.final_cons, reader_step]
      rcases char_cases c with rfl | ends | rfl | isText
      · exact absurd List.mem_cons_self commaFree
      · rw [Reader.read_ends state ends, ih rfl later]
        exact Reader.close_first first
      · rw [Reader.read_dollar, ih rfl later]
      · rw [Reader.read_text state isText]
        exact ih first later

/-- The text from the end of a sentence on: a terminator, and behind it a checksum and
the line end, or anything else without a comma. -/
def Ending (ending : List UInt8) : Prop :=
  ∃ c rest, ending = c :: rest ∧ endsSentence c = true ∧ comma ∉ rest

/-- However many fields a whole sentence has, its end closes the last one. -/
theorem working_closed {gps : Globals} (reachable : Reachable gps) {tag : List UInt8}
    {fields : List (List UInt8)} (plain : ∀ field ∈ tag :: fields, Plain field)
    {ending : List UInt8} (ends : Ending ending) :
    (parser.final gps (dollar :: body tag fields ++ ending)).working =
      (fields.foldl Reader.next (gps.view.begin tag)).close.working := by
  obtain ⟨c, rest, rfl, ends, commaFree⟩ := ends
  have view_eq := congrArg Reader.working
    (view_final reachable (dollar :: body tag fields ++ c :: rest))
  rw [reader.final_append, (yields_body gps.view plain).final_eq, Transducer.final_cons,
    reader_step, Reader.read_ends _ ends] at view_eq
  exact view_eq.trans (working_commaFree rfl commaFree)

/-- What a whole sentence does to the working data. -/
theorem working_ended {gps : Globals} (reachable : Reachable gps) {kind : SentenceType}
    (named : kind ∈ sentenceTypes) {fields : List (List UInt8)}
    (plain : ∀ field ∈ fields, Plain field) (count : fields.length ≤ 255)
    {ending : List UInt8} (ends : Ending ending) :
    (parser.final gps (dollar :: body kind.name fields ++ ending)).working =
      foldFields kind 1 fields gps.working := by
  have allPlain : ∀ field ∈ kind.name :: fields, Plain field :=
    List.forall_mem_cons.mpr ⟨plain_name kind, plain⟩
  rw [working_closed reachable allPlain ends]
  exact (close_sentence gps.view (kind_of_name named) count).2

theorem foldFields_unread {kind : SentenceType} {number : Nat}
    (unread : ∀ later, number ≤ later → fieldOf kind later = none)
    (fields : List (List UInt8)) (working : Working) :
    foldFields kind number fields working = working := by
  induction fields generalizing number with
  | nil => rfl
  | cons field fields ih =>
      rw [foldFields, updateField_none (unread number (Nat.le_refl number))]
      exact ih fun later behind => unread later (Nat.le_of_succ_le behind)

theorem foldFields_unknown (number : Nat) (fields : List (List UInt8)) (working : Working) :
    foldFields .unknown number fields working = working :=
  foldFields_unread (fun _ _ => rfl) fields working

/-- A sentence that begins with a known name, or with no part of one, does to the
working data what its text says, and its checksum and line end do nothing. -/
theorem sentence_interpreted {gps : Globals} (reachable : Reachable gps) (tag : List UInt8)
    (fields : List (List UInt8)) (checksum : List UInt8)
    (plain : ∀ field ∈ tag :: fields, Plain field) (nulFree : 0 ∉ tag)
    (checksumPlain : Plain checksum) (count : fields.length ≤ 255)
    (known : (∃ kind ∈ sentenceTypes, tag = kind.name) ∨
      ∀ kind ∈ sentenceTypes, ¬ tag <+: kind.name) :
    (parser.final gps (sentence tag fields checksum)).working =
        interpret (body tag fields) gps.working ∧
      (parser.final gps (sentence tag fields checksum)).working =
        (parser.final gps (dollar :: body tag fields ++ [star])).working := by
  have run {kind : SentenceType} (kind_eq : (recognised (tag.take 14)).getD .unknown = kind) :
      (parser.final gps (sentence tag fields checksum)).working =
          foldFields kind 1 fields gps.working ∧
        (parser.final gps (dollar :: body tag fields ++ [star])).working =
          foldFields kind 1 fields gps.working :=
    ⟨working_of_yields reachable (yields_sentence gps.view plain checksumPlain kind_eq count),
      working_of_yields reachable
        (yields_ended gps.view plain endsSentence_star kind_eq count)⟩
  obtain ⟨kind, named, rfl⟩ | foreign := known
  · obtain ⟨whole, ended⟩ := run (kind_of_name named)
    rw [whole, ended, interpret_name named plain]
    exact ⟨rfl, rfl⟩
  · have kind_eq : (recognised (tag.take 14)).getD .unknown = .unknown := by
      rw [recognised_none nulFree foreign, Option.getD_none]
    obtain ⟨whole, ended⟩ := run kind_eq
    rw [whole, ended, interpret_foreign foreign plain, foldFields_unknown]
    exact ⟨rfl, rfl⟩

/-- A position, and a checksum behind it that is one digit short. -/
theorem sentence_interpreted_gpgga :
    (parser.final (gpsParserInit zeroGlobals)
        (sentence gpggaTerm [[], ascii ['4', '5', '3', '3', '.', '3', '5'], ascii ['S']]
          (ascii ['7']))).working =
      ⟨⟨0, 0, -4555583, 0, 0⟩, ⟨0, Vector.replicate 12 0⟩⟩ :=
  (sentence_interpreted (reachable_init zeroGlobals) gpggaTerm
    [[], ascii ['4', '5', '3', '3', '.', '3', '5'], ascii ['S']] (ascii ['7'])
    (by decide) (by decide) (by decide) (by decide)
    (Or.inl ⟨.gpgga, by decide, rfl⟩)).1.trans (by decide +kernel)

end ChibiCopter.Gps
