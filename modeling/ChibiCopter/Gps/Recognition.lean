import ChibiCopter.Gps.Sentence

/-!
# Which first terms name a sentence

The first term of a sentence is compared with the names over its own length only.  A
whole name is found, and a term that is no part of a name leaves the type unknown.
In between are the proper beginnings of names: each of them passes for the first name
it begins, and the empty term passes for the first name of all.
-/

namespace ChibiCopter.Gps

/-- The type that a first term names. -/
def typeNamed (term : List UInt8) : SentenceType :=
  (sentenceTypes.find? fun kind => kind.name = term).getD .unknown

/-- A dollar, the term and a comma leave the type that the term names. -/
def RecognisedExactly (gps : Globals) (term : List UInt8) : Prop :=
  (parser.final gps (dollar :: term ++ [comma])).sentenceType = typeNamed term

def ProperPrefix (term name : List UInt8) : Prop := term <+: name ∧ term ≠ name

theorem typeNamed_name {kind : SentenceType} (named : kind ∈ sentenceTypes) :
    typeNamed kind.name = kind := by
  rw [typeNamed, find_name named, Option.getD_some]

theorem typeNamed_unknown {term : List UInt8} (other : ∀ kind ∈ sentenceTypes, term ≠ kind.name) :
    typeNamed term = .unknown := by
  have unnamed : (sentenceTypes.find? fun kind => kind.name = term) = none := by
    refine List.find?_eq_none.mpr fun kind named same => other kind named ?_
    exact (of_decide_eq_true same).symm
  rw [typeNamed, unnamed, Option.getD_none]

theorem length_name {kind : SentenceType} (named : kind ∈ sentenceTypes) :
    kind.name.length = 5 := by
  cases kind with
  | unknown => exact absurd named unknown_not_mem
  | gpgga | gprmc | gpgll | gpgsa | gpgsv | gpvtg => rfl

/-- No name begins another one, so that its proper beginnings name nothing. -/
theorem ProperPrefix.unnamed {term : List UInt8} {kind : SentenceType}
    (named : kind ∈ sentenceTypes) (proper : ProperPrefix term kind.name) :
    ∀ other ∈ sentenceTypes, term ≠ other.name := by
  intro other otherNamed same
  have lengths : term.length = kind.name.length := by
    rw [same, length_name otherNamed, length_name named]
  exact proper.2 (proper.1.eq_of_length lengths)

/-- A part of a name passes for some type. -/
theorem recognised_of_prefix {term : List UInt8} {kind : SentenceType}
    (named : kind ∈ sentenceTypes) (front : term <+: kind.name) :
    ∃ found ∈ sentenceTypes, recognised (term.take 14) = some found := by
  have short : term.length ≤ 14 := by
    have bound := front.length_le
    rw [length_name named] at bound
    omega
  have nulFree : 0 ∉ term := fun member => nulFree_name kind (front.subset member)
  have agrees : Agrees term kind.name :=
    (CString.take_terminated_eq_iff nulFree (nulFree_name kind)).mpr front
  rw [List.take_of_length_le short]
  cases search : recognised term with
  | none => exact absurd (decide_eq_true agrees) (List.find?_eq_none.mp search kind named)
  | some found => exact ⟨found, List.mem_of_find?_eq_some search, rfl⟩

/-- The type behind a first term, whatever the state before. -/
theorem sentenceType_firstTerm {gps : Globals} (reachable : Reachable gps) {term : List UInt8}
    (plain : Plain term) :
    (parser.final gps (dollar :: term ++ [comma])).sentenceType =
      (recognised (term.take 14)).getD .unknown := by
  have closed : reader.Yields (gps.view.begin term) [comma] [] _ :=
    .silent (Reader.read_comma (gps.view.begin term))
  have whole := (yields_begin gps.view plain).append closed
  exact congrArg Reader.kind ((view_final reachable _).trans whole.final_eq)

/-- A term is recognised exactly if and only if it is no proper beginning of a name. -/
theorem recognisedExactly_iff {gps : Globals} (reachable : Reachable gps) {term : List UInt8}
    (plain : Plain term) (nulFree : 0 ∉ term) :
    RecognisedExactly gps term ↔ ¬ ∃ kind ∈ sentenceTypes, ProperPrefix term kind.name := by
  rw [RecognisedExactly, sentenceType_firstTerm reachable plain]
  constructor
  · rintro exact_type ⟨kind, named, proper⟩
    obtain ⟨found, foundNamed, search⟩ := recognised_of_prefix named proper.1
    rw [search, Option.getD_some, typeNamed_unknown (proper.unnamed named)] at exact_type
    rw [exact_type] at foundNamed
    exact absurd foundNamed unknown_not_mem
  · intro whole
    by_cases begins : ∃ kind ∈ sentenceTypes, term <+: kind.name
    · obtain ⟨kind, named, front⟩ := begins
      have same : term = kind.name := by
        by_contra different
        exact whole ⟨kind, named, front, different⟩
      rw [same, kind_of_name named, typeNamed_name named]
    · have foreign : ∀ kind ∈ sentenceTypes, ¬ term <+: kind.name :=
        fun kind named front => begins ⟨kind, named, front⟩
      rw [recognised_none nulFree foreign, Option.getD_none, typeNamed_unknown]
      intro kind named same
      exact foreign kind named (same ▸ List.prefix_rfl)

/-- A name with one more letter is none. -/
theorem recognisedExactly_longer :
    RecognisedExactly (gpsParserInit zeroGlobals) (gpggaTerm ++ ascii ['A']) := by
  refine (recognisedExactly_iff (reachable_init zeroGlobals) (by decide) (by decide)).mpr ?_
  rintro ⟨kind, named, front, -⟩
  have bound := front.length_le
  rw [length_name named] at bound
  exact absurd bound (by decide)

/-- The two letters of the talker pass for a position sentence. -/
theorem recognised_inexactly : ¬ ∀ gps, Reachable gps → ∀ term, Plain term → 0 ∉ term →
    RecognisedExactly gps term := by
  intro recognises
  have talker := recognises (gpsParserInit zeroGlobals) (reachable_init zeroGlobals)
    (ascii ['G', 'P']) (by decide) (by decide)
  exact absurd talker (by unfold RecognisedExactly; decide +kernel)

end ChibiCopter.Gps
