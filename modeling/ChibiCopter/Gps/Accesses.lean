import ChibiCopter.Gps.Readings
import ChibiCopter.Library.Scan

/-!
# Accesses to the term buffer

No scan of a term has a length.  `_GPSatol` and `_GPSParseLatLonTerm` stop at the first
character that is no digit, and only the NUL behind the term makes sure that there is
one.  Here they run on a memory that holds the term buffer, with arbitrary values behind
it, and record the cells they read.
-/

namespace ChibiCopter.Gps

open CString Buffer Scan

/-- The memory holds the buffer, from its cell 0 on. -/
def Holds (memory : Nat → UInt8) (term : Vector UInt8 15) : Prop :=
  cells memory 0 15 = term.toList

instance (memory : Nat → UInt8) (term : Vector UInt8 15) : Decidable (Holds memory term) :=
  inferInstanceAs (Decidable (_ = _))

/-! ## The loops on the memory -/

/-- `_GPSParseLatLonTerm` and the cells it reads, `none` when a loop runs out of fuel. -/
def latLonAccess (memory : Nat → UInt8) (fuel : Nat) : Option (Int32 × List Nat) := do
  let ret ← scan gpsIsDigit atolStep memory fuel 0 0
  let left := ret.state.toUInt32
  let tenkMinutes := (left % 100) * 10000
  let p ← scan gpsIsDigit (fun _ _ => ()) memory fuel 0 ()
  if memory p.pointer = 0x2E then
    -- `*++p` leaves out the point itself
    let seconds ← scan gpsIsDigit secondsStep memory fuel (p.pointer + 1) (tenkMinutes, 1000)
    some (((left / 100) * 100000 + seconds.state.1 / 6).toInt32,
      ret.reads ++ p.reads ++ p.pointer :: seconds.reads)
  else
    some (((left / 100) * 100000 + tenkMinutes / 6).toInt32, ret.reads ++ p.reads ++ [p.pointer])

/-- The comparisons of the first term and the cells they read. -/
def typeAccess (memory : Nat → UInt8) (termOffset : Nat) :
    List SentenceType → Option SentenceType × List Nat
  | [] => (none, [])
  | kind :: kinds =>
      let compared := strncmpAt memory 0 kind.name termOffset
      if compared.1 = 0 then (some kind, compared.2)
      else
        let rest := typeAccess memory termOffset kinds
        (rest.1, compared.2 ++ rest.2)

/-- The cells that a call stores into. -/
def storedCells (c : UInt8) (gps : Globals) : List Nat :=
  if EndsField c then
    if gps.sentenceOffset ≠ 0 ∧ gps.termOffset < 15 then [gps.termOffset] else []
  else if c = dollar then []
  else if gps.termOffset < 14 then [gps.termOffset]
  else []

/-! ## The loops do what the functions on lists do -/

theorem first_dropWhile (memory : Nat → UInt8) {count : Nat} {front : List UInt8}
    (front_eq : (cells memory 0 count).takeWhile gpsIsDigit = front)
    (inside : front.length < count) :
    first ((cells memory 0 count).dropWhile gpsIsDigit) = memory front.length ∧
      ((cells memory 0 count).dropWhile gpsIsDigit).tail =
        cells memory (front.length + 1) (count - (front.length + 1)) := by
  rw [← drop_length_takeWhile, front_eq]
  constructor
  · rw [drop_cells, first_cells memory _ (Nat.sub_pos_of_lt inside), Nat.zero_add]
  · rw [List.tail_drop, drop_cells, Nat.zero_add]

/-- The NUL is no digit. -/
theorem stops_of_nul {memory : Nat → UInt8} {nul place : Nat} (terminated : memory nul = 0)
    (before : place ≤ nul) : Stops gpsIsDigit (cells memory place (nul + 1 - place)) := by
  refine ⟨memory nul, mem_cells memory before (by omega), ?_⟩
  rw [terminated]
  decide

/-- A point stands in front of the NUL. -/
theorem lt_of_point {memory : Nat → UInt8} {nul place : Nat} (terminated : memory nul = 0)
    (inside : place ≤ nul) (point : memory place = 0x2E) : place < nul := by
  refine Nat.lt_of_le_of_ne inside fun same => ?_
  rw [same, terminated] at point
  exact absurd point (by decide)

/-- On a terminated string, the loops stop at the NUL at the latest. -/
theorem latLonAccess_eq {memory : Nat → UInt8} {nul fuel : Nat} (terminated : memory nul = 0)
    (enough : nul < fuel) :
    ∃ reads, latLonAccess memory fuel = some (latLonTerm (cells memory 0 (nul + 1)), reads) ∧
      ∀ cell ∈ reads, cell ≤ nul := by
  have stops := stops_of_nul terminated (Nat.zero_le nul)
  obtain ⟨front, front_eq⟩ :
      ∃ front, (cells memory 0 (nul + 1)).takeWhile gpsIsDigit = front := ⟨_, rfl⟩
  have inside : front.length < nul + 1 := by
    have bound := stops.length_lt
    rw [Nat.sub_zero, front_eq, length_cells] at bound
    exact bound
  have left_scan := scan_eq atolStep stops enough 0 front_eq
  have point_scan := scan_eq (fun _ _ => ()) stops enough () front_eq
  obtain ⟨point_eq, rest_eq⟩ := first_dropWhile memory front_eq inside
  have left_eq : gpsAtol (cells memory 0 (nul + 1)) = (front.foldl atolStep 0).toUInt32 := by
    rw [gpsAtol, isLoop_gpsAtolLoop.eq_foldl, front_eq, id]
  rw [Nat.zero_add] at left_scan point_scan
  rw [latLonTerm, left_eq, point_eq, rest_eq, latLonAccess]
  simp only [left_scan, point_scan, Option.bind_eq_bind, Option.bind_some]
  by_cases point : memory front.length = 0x2E
  · have before := lt_of_point terminated (Nat.le_of_lt_succ inside) point
    have seconds_stops := stops_of_nul terminated before
    have seconds_inside := seconds_stops.length_lt
    rw [length_cells] at seconds_inside
    have seconds_eq := isLoop_secondsLoop.eq_foldl
      ((front.foldl atolStep 0).toUInt32 % 100 * 10000, 1000)
      (cells memory (front.length + 1) (nul + 1 - (front.length + 1)))
    dsimp only at seconds_eq
    rw [if_pos point, if_pos point, seconds_eq,
      scan_eq secondsStep seconds_stops (by omega) _ rfl]
    refine ⟨_, rfl, fun cell read => ?_⟩
    simp only [List.mem_append, List.mem_cons, List.mem_range'_1] at read
    omega
  · rw [if_neg point, if_neg point]
    refine ⟨_, rfl, fun cell read => ?_⟩
    simp only [List.mem_append, List.mem_singleton, List.mem_range'_1] at read
    omega

/-- The comparisons find the type that the first term is recognised as. -/
theorem typeAccess_value {memory : Nat → UInt8} {gps : Globals} (fits : gps.Fits)
    (holds : Holds memory gps.term) (kinds : List SentenceType) :
    (typeAccess memory gps.termOffset kinds).1 =
      kinds.find? fun kind => Agrees gps.view.text kind.name := by
  have inside : gps.termOffset ≤ 15 := Nat.le_succ_of_le fits
  induction kinds with
  | nil => rfl
  | cons kind kinds ih =>
      have compared := strncmpAt_value memory 0 kind.name inside
      rw [show cells memory 0 15 = gps.term.toList from holds] at compared
      rw [typeAccess, List.find?_cons]
      by_cases agrees : Agrees gps.view.text kind.name
      · rw [compared, if_pos ((strncmp_term_iff fits kind.name).mpr agrees)]
        simp [agrees]
      · rw [compared, if_neg fun zero => agrees ((strncmp_term_iff fits kind.name).mp zero)]
        simp [agrees, ih]

theorem mem_typeAccess {memory : Nat → UInt8} {termOffset cell : Nat} {kinds : List SentenceType}
    (read : cell ∈ (typeAccess memory termOffset kinds).2) : cell < termOffset := by
  induction kinds with
  | nil => exact absurd read List.not_mem_nil
  | cons kind kinds ih =>
      have bound {cell : Nat} (compared : cell ∈ (strncmpAt memory 0 kind.name termOffset).2) :
          cell < termOffset := by
        have below := mem_strncmpAt compared
        omega
      rw [typeAccess] at read
      by_cases found : (strncmpAt memory 0 kind.name termOffset).1 = 0
      · rw [if_pos found] at read
        exact bound read
      · rw [if_neg found] at read
        rcases List.mem_append.mp read with compared | later
        · exact bound compared
        · exact ih later

/-! ## Stores -/

theorem mem_storedCells {c : UInt8} {gps : Globals} {cell : Nat}
    (stored : cell ∈ storedCells c gps) : cell = gps.termOffset := by
  unfold storedCells at stored
  split at stored
  · split at stored
    · exact List.mem_singleton.mp stored
    · exact absurd stored List.not_mem_nil
  · split at stored
    · exact absurd stored List.not_mem_nil
    · split at stored
      · exact List.mem_singleton.mp stored
      · exact absurd stored List.not_mem_nil

theorem getElem?_store (term : Vector UInt8 15) {index cell : Nat} (value : UInt8)
    (other : index ≠ cell) :
    (term.setIfInBounds index value).toList[cell]? = term.toList[cell]? := by
  rw [toList_store, List.getElem?_set_ne other]

theorem term_parseTypeTerm (gps : Globals) : (parseTypeTerm gps).term = gps.term := by
  unfold parseTypeTerm
  dsimp only
  repeat' split
  all_goals rfl

/-- A term that is parsed gets its NUL and keeps all else. -/
theorem term_gpsParseTerm {c : UInt8} (closes : EndsField c) {gps : Globals} {cell : Nat}
    (other : cell ∉ storedCells c gps) :
    (gpsParseTerm gps).term.toList[cell]? = gps.term.toList[cell]? := by
  rw [storedCells, if_pos closes] at other
  by_cases first : gps.sentenceOffset = 0
  · rw [gpsParseTerm, if_pos first, term_parseTypeTerm]
  · have same : (gpsParseTerm gps).term = (terminateTerm gps).term := by
      rw [gpsParseTerm_field first]
      rfl
    rw [same, terminateTerm]
    by_cases inside : gps.termOffset < 15
    · rw [if_pos ⟨first, inside⟩] at other
      rw [if_pos inside]
      exact getElem?_store gps.term 0 fun equal => other (equal ▸ List.mem_singleton_self _)
    · rw [if_neg inside]

/-- Only the cell that a call stores into changes. -/
theorem term_unstored {c : UInt8} {gps : Globals} {cell : Nat} (other : cell ∉ storedCells c gps) :
    (gpsParseChar c gps).2.term.toList[cell]? = gps.term.toList[cell]? := by
  rcases char_cases c with rfl | ends | rfl | isText
  · rw [gpsParseChar_comma]
    exact term_gpsParseTerm (Or.inl rfl) other
  · rw [gpsParseChar_ends gps ends]
    exact term_gpsParseTerm (Or.inr ends) other
  · rw [gpsParseChar_dollar]
  · rw [storedCells, if_neg isText.not_endsField, if_neg isText.ne_dollar] at other
    by_cases room : gps.termOffset < 14
    · rw [if_pos room] at other
      rw [gpsParseChar_store isText room]
      exact getElem?_store gps.term c fun equal => other (equal ▸ List.mem_singleton_self _)
    · rw [gpsParseChar_full isText room]

/-! ## All calls -/

/-- A terminated term in memory has its NUL at the offset, and reads as the text in front
of it. -/
theorem terminated_cells {gps : Globals} (fits : gps.Fits) {memory : Nat → UInt8}
    (holds : Holds memory (terminateTerm gps).term) :
    memory gps.termOffset = 0 ∧
      latLonTerm (cells memory 0 (gps.termOffset + 1)) =
        gpsParseLatLonTerm (terminateTerm gps) := by
  obtain ⟨rest, memory_eq⟩ := terminateTerm_toList fits
  have offset_le : gps.termOffset ≤ 14 := fits
  have stretch : cells memory 0 15 = gps.view.text ++ 0 :: rest := holds.trans memory_eq
  constructor
  · have behind := congrArg (fun values => first (values.drop gps.termOffset)) stretch
    rw [drop_cells, first_cells memory _ (by omega), Nat.zero_add] at behind
    rw [behind, ← fits.length_text, List.drop_left, first_cons]
  · have front := congrArg (List.take (gps.termOffset + 1)) stretch
    have enough : min (gps.termOffset + 1) 15 = gps.termOffset + 1 := by omega
    rw [take_cells, enough, ← fits.length_text, List.take_length_add_append, List.take_succ_cons,
      List.take_zero, fits.length_text] at front
    rw [front, gpsParseLatLonTerm, memory_eq, readsText_latLonTerm.append_nul,
      readsText_latLonTerm.append_nul]

/-- In every reachable state, the offset is at most 14, a call stores at most there and
leaves all other cells as they were, the comparisons of a first term read in front of the
offset, and the loops over every other term stop at the offset at the latest, whatever
lies behind the buffer. -/
theorem accesses_inBounds {gps : Globals} (reachable : Reachable gps) :
    gps.termOffset ≤ 14 ∧
      (∀ c, (∀ cell ∈ storedCells c gps, cell ≤ 14) ∧ ∀ cell, cell ∉ storedCells c gps →
        (gpsParseChar c gps).2.term.toList[cell]? = gps.term.toList[cell]?) ∧
      (gps.sentenceOffset = 0 → ∀ memory, Holds memory gps.term →
        let access := typeAccess memory gps.termOffset sentenceTypes
        access.1.getD gps.sentenceType = (gpsParseTerm gps).sentenceType ∧
          ∀ cell ∈ access.2, cell < gps.termOffset) ∧
      (gps.sentenceOffset ≠ 0 → ∀ memory, Holds memory (terminateTerm gps).term →
        ∀ fuel, gps.termOffset < fuel → ∃ reads,
          latLonAccess memory fuel = some (gpsParseLatLonTerm (terminateTerm gps), reads) ∧
            ∀ cell ∈ reads, cell ≤ gps.termOffset) := by
  have fits := fits_of_reachable reachable
  refine ⟨fits, fun c => ⟨fun cell stored => ?_, fun cell => term_unstored⟩,
    fun first memory holds => ?_, fun field memory holds fuel enough => ?_⟩
  · rw [mem_storedCells stored]
    exact fits
  · have type_eq := congrArg (fun gps : Globals => gps.sentenceType) (parseTypeTerm_eq fits)
    refine ⟨?_, fun cell read => mem_typeAccess read⟩
    rw [typeAccess_value fits holds, gpsParseTerm, if_pos first]
    exact type_eq.symm
  · obtain ⟨terminated, value_eq⟩ := terminated_cells fits holds
    rw [← value_eq]
    exact latLonAccess_eq terminated enough

/-- A memory that goes on with digits behind the buffer. -/
def digitsBehind (term : Vector UInt8 15) (cell : Nat) : UInt8 := term.toList.getD cell 0x39

/-- In a field of two digits. -/
def twoDigits : Globals :=
  parser.final (gpsParserInit zeroGlobals) (dollar :: body gpggaTerm [[], ascii ['1', '2']])

theorem accesses_inBounds_twoDigits :
    ∃ reads, latLonAccess (digitsBehind (terminateTerm twoDigits).term) 3 =
        some (gpsParseLatLonTerm (terminateTerm twoDigits), reads) ∧
      ∀ cell ∈ reads, cell ≤ twoDigits.termOffset := by
  have reachable : Reachable twoDigits := (reachable_init zeroGlobals).run _
  exact (accesses_inBounds reachable).2.2.2 (by decide +kernel) _ (by decide +kernel) 3
    (by decide +kernel)

end ChibiCopter.Gps
