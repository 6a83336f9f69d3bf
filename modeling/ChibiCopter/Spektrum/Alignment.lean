import ChibiCopter.Spektrum.RoundTrip

/-!
# Recovery of frame alignment

Bytes lost on the line leave the decoder at an arbitrary place inside a frame.
When no payload byte looks like the first preamble byte, one more frame is enough
to bring it back between frames: it completes at most one wrong frame and ignores
the rest of the frame it was cut into.
-/

namespace ChibiCopter.Spektrum

open Buffer

/-! ## Reachable states -/

/-- The decoder never counts past the frame, and raises its flag only between frames. -/
structure WellFormed (rx : Receiver) : Prop where
  state_le : rx.state ≤ 15
  valid_eq : rx.state ≠ 0 → rx.valid = 0

theorem wellFormed_of_idle {rx : Receiver} (idle : rx.state = 0) : WellFormed rx where
  state_le := by rw [idle]; exact Nat.zero_le 15
  valid_eq busy := absurd idle busy

theorem WellFormed.step {rx : Receiver} (wellFormed : WellFormed rx) (byte : UInt8) :
    WellFormed (spektrumParse byte rx).2 := by
  obtain ⟨state_le, valid_eq⟩ := wellFormed
  rcases Nat.lt_or_ge rx.state 2 with early | payload
  · rcases Nat.lt_or_ge rx.state 1 with idle | busy
    · rw [spektrumParse_idle byte (Nat.lt_one_iff.mp idle)]
      by_cases first : byte = 0x03
      · exact ⟨by simp [first], fun _ => rfl⟩
      · exact wellFormed_of_idle (if_neg first)
    · have preamble : rx.state = 1 := Nat.le_antisymm (Nat.lt_succ_iff.mp early) busy
      rw [spektrumParse_preamble byte preamble]
      by_cases second : byte = 0x01
      · exact ⟨by simp [second], fun _ => valid_eq (by omega)⟩
      · exact wellFormed_of_idle (if_neg second)
  · obtain ⟨count, state_eq⟩ := Nat.exists_eq_add_of_le' payload
    by_cases last : count = 13
    · rw [spektrumParse_complete byte (by rw [state_eq, last])]
      exact wellFormed_of_idle rfl
    · rw [spektrumParse_store byte state_eq (by omega)]
      exact ⟨show count + 3 ≤ 15 by omega, fun _ => valid_eq (by omega)⟩

theorem wellFormed_of_reachable {rx : Receiver} (reachable : Reachable rx) : WellFormed rx := by
  refine reachable.satisfies WellFormed ?_ (fun byte _ before => before.step byte)
  rintro _ ⟨globals, rfl⟩
  exact wellFormed_of_idle rfl

/-! ## One clean frame realigns the decoder -/

/-- No byte of the payload looks like the first preamble byte. -/
def Clean (payload : Payload) : Prop := ∀ byte ∈ payload.toList, byte ≠ 0x03

/-- The bytes of some frames sent back to back. -/
def stream (frames : List Payload) : List UInt8 := frames.flatMap frameBytes

/-- Behind its first byte a clean frame has no first preamble byte left. -/
theorem Clean.noise {payload : Payload} (clean : Clean payload) (count : Nat) :
    ∀ byte ∈ (frameBytes payload).drop (count + 1), byte ≠ 0x03 := by
  intro byte member
  rw [frameBytes, List.drop_succ_cons] at member
  rcases List.mem_cons.mp (List.mem_of_mem_drop member) with rfl | inside
  · decide
  · exact clean byte inside

/-- How often a stretch of reports publishes. -/
def publications (reports : List (Option (Vector Int 7))) : Nat :=
  reports.countP Option.isSome

theorem publications_silent (count : Nat) : publications (List.replicate count none) = 0 := by
  rw [publications, List.countP_replicate]
  rfl

theorem publications_append (first second : List (Option (Vector Int 7))) :
    publications (first ++ second) = publications first + publications second :=
  List.countP_append

/-- Silence up to a publication is one publication. -/
theorem publications_published (count : Nat) (values : Vector Int 7) :
    publications (List.replicate count none ++ [some values]) = 1 := by
  rw [publications_append, publications_silent]
  rfl

/-- One clean frame read in any well-formed state publishes at most once, counts what
it publishes, and leaves the decoder between frames. -/
theorem runs_realigned {rx : Receiver} (wellFormed : WellFormed rx) {payload : Payload}
    (clean : Clean payload) :
    ∃ answers target, reporter.Runs rx (frameBytes payload) answers target ∧
      target.state = 0 ∧ publications answers ≤ 1 ∧
      target.frameNum = rx.frameNum + Int32.ofNat (publications answers) := by
  obtain ⟨state_le, valid_eq⟩ := wellFormed
  rcases Nat.lt_or_ge rx.state 2 with early | inside
  · rcases Nat.lt_or_ge rx.state 1 with idle | busy
    · refine ⟨_, _, runs_frame rx (Nat.lt_one_iff.mp idle) payload, rfl, ?_, ?_⟩
      · rw [frameReports, publications_published]
      · rw [frameReports, publications_published]
        rfl
    · have preamble : rx.state = 1 := Nat.le_antisymm (Nat.lt_succ_iff.mp early) busy
      have step : reporter.step 0x03 rx = (none, { rx with state := 0 }) := by
        apply reporter_step_silent
        rw [spektrumParse_preamble 0x03 preamble, if_neg (by decide), valid_eq (by omega)]
      obtain ⟨target, runs, ends, quiet⟩ :=
        runs_gap { rx with state := 0 } rfl (clean.noise 0)
      refine ⟨_, target, .cons step runs, ends, ?_, ?_⟩
      · rw [← List.replicate_succ, publications_silent]
        exact Nat.zero_le 1
      · rw [← List.replicate_succ, publications_silent, quiet.2]
        exact (Int32.add_zero rx.frameNum).symm
  · obtain ⟨count, state_eq⟩ := Nat.exists_eq_add_of_le' inside
    obtain ⟨missing, missing_eq⟩ : ∃ missing, 14 - count = missing + 1 :=
      ⟨13 - count, by omega⟩
    have taken : ((frameBytes payload).take (missing + 1)).length = missing + 1 := by
      rw [List.length_take, length_frameBytes]
      omega
    obtain ⟨wrong, -, wrongRuns⟩ := runs_payload rx
      ((frameBytes payload).take (missing + 1)) state_eq (valid_eq (by omega))
      (by omega) (by omega)
    obtain ⟨target, restRuns, ends, quiet⟩ :=
      runs_gap (publish wrong rx) rfl (clean.noise missing)
    have runs := wrongRuns.append restRuns
    rw [List.take_append_drop] at runs
    have once := publications_published
      (((frameBytes payload).take (missing + 1)).length - 1) (channels wrong)
    refine ⟨_, target, runs, ends, ?_, ?_⟩
    · rw [publications_append, once, publications_silent]
    · rw [publications_append, once, publications_silent, quiet.2]
      rfl

/-- Frames read between frames are all published, each on its last byte. -/
theorem runs_stream (rx : Receiver) (idle : rx.state = 0) (frames : List Payload) :
    ∃ target, reporter.Runs rx (stream frames) (frames.flatMap frameReports) target ∧
      target.state = 0 ∧ target.frameNum = rx.frameNum + Int32.ofNat frames.length := by
  induction frames generalizing rx with
  | nil => exact ⟨rx, .refl rx, idle, (Int32.add_zero rx.frameNum).symm⟩
  | cons payload rest ih =>
      obtain ⟨target, runs, ends, counted⟩ := ih (publish payload rx) rfl
      refine ⟨target, (runs_frame rx idle payload).append runs, ends, ?_⟩
      rw [counted, List.length_cons, Nat.add_comm, Int32.ofNat_add, ← Int32.add_assoc]
      rfl

/-- From every reachable state, a first clean frame brings the decoder back between
frames with at most one publication, every later frame is published exactly on its
last byte, and of all the frames at most the first goes uncounted. -/
theorem stream_realigned (rx : Receiver) (reachable : Reachable rx)
    (first : Payload) (rest : List Payload)
    (clean : ∀ payload ∈ first :: rest, Clean payload) :
    let aligned := decoder.final rx (frameBytes first)
    aligned.state = 0 ∧
    publications (reporter.outputs rx (frameBytes first)) ≤ 1 ∧
    reporter.outputs aligned (stream rest) = rest.flatMap frameReports ∧
    ((decoder.final rx (stream (first :: rest))).frameNum =
        rx.frameNum + Int32.ofNat rest.length ∨
      (decoder.final rx (stream (first :: rest))).frameNum =
        rx.frameNum + Int32.ofNat (rest.length + 1)) := by
  obtain ⟨answers, target, firstRuns, aligned_eq, once, counted⟩ :=
    runs_realigned (wellFormed_of_reachable reachable) (clean first List.mem_cons_self)
  obtain ⟨last, restRuns, -, restCounted⟩ := runs_stream target aligned_eq rest
  have final_eq : decoder.final rx (frameBytes first) = target :=
    (reporter_final rx _).symm.trans firstRuns.final_eq
  have last_eq : decoder.final rx (stream (first :: rest)) = last :=
    (reporter_final rx _).symm.trans (firstRuns.append restRuns).final_eq
  rw [final_eq, firstRuns.outputs_eq, last_eq, restCounted, counted]
  refine ⟨aligned_eq, once, restRuns.outputs_eq, ?_⟩
  rw [Int32.add_assoc, ← Int32.ofNat_add]
  rcases Nat.le_one_iff_eq_zero_or_eq_one.mp once with none | one
  · exact Or.inl (by rw [none, Nat.zero_add])
  · exact Or.inr (by rw [one, Nat.add_comm])

/-- A receiver left inside a frame after two of its payload bytes. -/
theorem stream_realigned_midFrame :
    let rx := decoder.final (spektrumInit zeroGlobals) [0x03, 0x01, 7, 7]
    (decoder.final rx (frameBytes (Vector.replicate 14 0))).state = 0 ∧
    reporter.outputs (decoder.final rx (frameBytes (Vector.replicate 14 0)))
        (stream [Vector.replicate 14 5]) =
      List.replicate 15 none ++ [some (Vector.replicate 7 261)] := by
  have realigned := stream_realigned (decoder.final (spektrumInit zeroGlobals) [0x03, 0x01, 7, 7])
    ((Transducer.Reachable.start ⟨zeroGlobals, rfl⟩).run [0x03, 0x01, 7, 7])
    (Vector.replicate 14 0) [Vector.replicate 14 5] (by simp [Clean])
  exact ⟨realigned.1, realigned.2.2.1.trans (by decide +kernel)⟩

end ChibiCopter.Spektrum
