import ChibiCopter.Gps.Sentence

/-!
# How often a sentence is dispatched

A sentence with its checksum and line end has three terminators: the star, CR and LF.
Each of them enters `_GPSParseSentence`.  The star finds the type of the sentence.
The checksum digits in front of CR are no part of a name, so that the type is still
there.  In front of LF stands an empty term, which agrees with the first name.
-/

namespace ChibiCopter.Gps

open CString

/-- The branches of `_GPSParseSentence` that a stream enters, in order. -/
def dispatches (gps : Globals) (stream : List UInt8) : List SentenceType :=
  (parser.outputs gps stream).filterMap CharResult.dispatched

/-- The stream is one sentence of some type for `_GPSParseSentence`. -/
def DispatchedOnce (gps : Globals) (stream : List UInt8) (kind : SentenceType) : Prop :=
  dispatches gps stream = [kind]

def isHexDigit (c : UInt8) : Bool :=
  isdigit c || (0x41 ≤ c && c ≤ 0x46) || (0x61 ≤ c && c ≤ 0x66)

/-- Entries that the reader reports are the parser's dispatches. -/
theorem dispatches_of_yields {gps : Globals} (reachable : Reachable gps) {stream : List UInt8}
    {entries : List SentenceType} {target : Reader}
    (yields : reader.Yields gps.view stream entries target) :
    dispatches gps stream = entries := by
  have outputs_eq := parser_refines.map_outputs (fits_of_reachable reachable) stream
  rw [← yields.reports_eq, ← outputs_eq, List.filterMap_map]
  rfl

theorem le_of_isHexDigit {c : UInt8} (hex : isHexDigit c = true) : 0x30 ≤ c := by
  simp only [isHexDigit, isdigit, Bool.or_eq_true, Bool.and_eq_true, decide_eq_true_eq] at hex
  rcases hex with (⟨low, -⟩ | ⟨low, -⟩) | ⟨low, -⟩
  · exact low
  · exact UInt8.le_trans (by decide) low
  · exact UInt8.le_trans (by decide) low

theorem name_eq_cons {kind : SentenceType} (named : kind ∈ sentenceTypes) :
    ∃ rest, kind.name = Char.toUInt8 'G' :: rest := by
  cases kind with
  | unknown => exact absurd named unknown_not_mem
  | gpgga | gprmc | gpgll | gpgsa | gpgsv | gpvtg => exact ⟨_, rfl⟩

/-- Two hexadecimal digits are no part of a name. -/
theorem recognised_hex {h1 h2 : UInt8} (hex1 : isHexDigit h1 = true)
    (hex2 : isHexDigit h2 = true) : recognised [h1, h2] = none := by
  refine @recognised_none [h1, h2] ?_ fun kind named front => ?_
  · intro nul
    rcases List.mem_pair.mp nul with rfl | rfl
    · exact absurd hex1 (by decide)
    · exact absurd hex2 (by decide)
  · obtain ⟨rest, name_eq⟩ := name_eq_cons named
    rw [name_eq, List.cons_prefix_cons] at front
    rw [front.1] at hex1
    exact absurd hex1 (by decide)

theorem branch_named {kind : SentenceType} (named : kind ∈ sentenceTypes) :
    branch kind = some kind := by
  cases kind with
  | unknown => exact absurd named unknown_not_mem
  | gpgga | gprmc | gpgll | gpgsa | gpgsv | gpvtg => rfl

/-- Every sentence is dispatched twice under its own type and once as GPGGA. -/
theorem sentence_dispatches {gps : Globals} (reachable : Reachable gps) {kind : SentenceType}
    (named : kind ∈ sentenceTypes) {fields : List (List UInt8)}
    (plain : ∀ field ∈ fields, Plain field) (count : fields.length < 256) {h1 h2 : UInt8}
    (hex1 : isHexDigit h1 = true) (hex2 : isHexDigit h2 = true) :
    dispatches gps (sentence kind.name fields [h1, h2]) = [kind, kind, .gpgga] := by
  have allPlain : ∀ field ∈ kind.name :: fields, Plain field :=
    List.forall_mem_cons.mpr ⟨plain_name kind, plain⟩
  have checksumPlain : Plain [h1, h2] := by
    intro c member
    rcases List.mem_pair.mp member with rfl | rfl
    · exact isText_of_le (le_of_isHexDigit hex1)
    · exact isText_of_le (le_of_isHexDigit hex2)
  have kept : (recognised ([h1, h2].take 14)).getD kind = kind := by
    rw [show [h1, h2].take 14 = [h1, h2] from rfl, recognised_hex hex1 hex2, Option.getD_none]
  have yields := yields_sentence gps.view allPlain checksumPlain (kind_of_name named)
    (Nat.le_of_lt_succ count)
  rw [kept, branch_named named] at yields
  exact dispatches_of_yields reachable yields

/-- No sentence with its checksum and line end is dispatched once. -/
theorem not_dispatchedOnce {gps : Globals} (reachable : Reachable gps) {kind : SentenceType}
    (named : kind ∈ sentenceTypes) {fields : List (List UInt8)}
    (plain : ∀ field ∈ fields, Plain field) (count : fields.length < 256) {h1 h2 : UInt8}
    (hex1 : isHexDigit h1 = true) (hex2 : isHexDigit h2 = true) :
    ¬ DispatchedOnce gps (sentence kind.name fields [h1, h2]) kind := by
  rw [DispatchedOnce, sentence_dispatches reachable named plain count hex1 hex2]
  intro single
  exact absurd (congrArg List.length single) (by simp)

/-- A track sentence without fields. -/
theorem not_dispatchedOnce_gpvtg :
    ¬ DispatchedOnce (gpsParserInit zeroGlobals)
      (sentence SentenceType.gpvtg.name [] [Char.toUInt8 '5', Char.toUInt8 '2']) .gpvtg :=
  not_dispatchedOnce (reachable_init zeroGlobals) (by decide) (List.forall_mem_nil Plain)
    (by decide) (by decide) (by decide)

theorem dispatched_again : ¬ ∀ gps, Reachable gps → ∀ kind ∈ sentenceTypes,
    ∀ fields : List (List UInt8), (∀ field ∈ fields, Plain field) → fields.length < 256 →
    ∀ h1 h2, isHexDigit h1 = true → isHexDigit h2 = true →
      DispatchedOnce gps (sentence kind.name fields [h1, h2]) kind := by
  intro once
  have single := once (gpsParserInit zeroGlobals) (reachable_init zeroGlobals) .gpvtg (by decide)
    [] (List.forall_mem_nil Plain) (by decide) (Char.toUInt8 '5') (Char.toUInt8 '2')
    (by decide) (by decide)
  exact absurd single (by unfold DispatchedOnce; decide +kernel)

end ChibiCopter.Gps
