import ChibiCopter.Library.TrailingRun
import ChibiCopter.Spektrum.Alignment

/-!
# Finding the preamble

Between frames the decoder looks for `0x03 0x01`.  In state 1 it falls back to
state 0 on every byte but `0x01`, also on a `0x03` that begins the real preamble,
so that a run of `0x03` is paired off two by two: a frame is found behind noise
exactly when the noise ends in an even number of `0x03`.  The same count decides
from which frame on a receiver that is switched on in mid-stream is aligned.
-/

namespace ChibiCopter.Spektrum

open TrailingRun

/-- The two preamble bytes stand side by side somewhere in `bytes`. -/
def HasPreamble (bytes : List UInt8) : Prop := [0x03, 0x01] <:+: bytes

instance (bytes : List UInt8) : Decidable (HasPreamble bytes) :=
  inferInstanceAs (Decidable ([0x03, 0x01] <:+: bytes))

/-! ## Noise in front of a frame -/

/-- Noise without a preamble is silent, and the parity of its trailing run of `0x03`
decides whether the decoder stands in state 0 or in state 1 behind it. -/
theorem runs_noise (rx : Receiver) (idle : rx.state = 0) {noise : List UInt8}
    (free : ¬ HasPreamble noise) :
    ∃ target, reporter.Runs rx noise (List.replicate noise.length none) target ∧
      WellFormed target ∧
      (Even (trailing 0x03 noise) ∧ target.state = 0 ∨
        Odd (trailing 0x03 noise) ∧ target.state = 1) := by
  induction noise using List.reverseRecOn with
  | nil => exact ⟨rx, .refl rx, wellFormed_of_idle idle, Or.inl ⟨Even.zero, idle⟩⟩
  | append_singleton noise byte ih =>
      obtain ⟨middle, runs, wellFormed, place⟩ := ih (pairFree_of_concat free)
      rw [List.length_append, List.length_singleton, List.replicate_succ']
      rcases place with ⟨even, middleIdle⟩ | ⟨odd, middlePreamble⟩
      · have step : reporter.step byte middle = (none,
            { middle with valid := 0, state := if byte = 0x03 then 1 else 0 }) :=
          reporter_step_silent (spektrumParse_idle byte middleIdle)
        refine ⟨_, runs.append (.single step), ?_, ?_⟩
        · have kept := wellFormed.step byte
          rw [spektrumParse_idle byte middleIdle] at kept
          exact kept
        · by_cases first : byte = 0x03
          · subst first
            rw [trailing_concat_self]
            exact Or.inr ⟨even.add_one, rfl⟩
          · rw [trailing_concat_ne first]
            exact Or.inl ⟨Even.zero, if_neg first⟩
      · have second : byte ≠ 0x01 :=
          ne_of_pairFree free (Nat.pos_of_ne_zero fun zero => by simp [zero] at odd)
        have step : reporter.step byte middle = (none, { middle with state := 0 }) := by
          apply reporter_step_silent
          rw [spektrumParse_preamble byte middlePreamble, if_neg second,
            wellFormed.valid_eq (by omega)]
        refine ⟨_, runs.append (.single step), wellFormed_of_idle rfl, Or.inl ⟨?_, rfl⟩⟩
        by_cases first : byte = 0x03
        · subst first
          rw [trailing_concat_self]
          exact odd.add_one
        · rw [trailing_concat_ne first]
          exact Even.zero

/-- Behind an odd run of `0x03` the decoder takes the preamble of a frame for noise. -/
theorem runs_missed_preamble {rx : Receiver} (wellFormed : WellFormed rx)
    (preamble : rx.state = 1) :
    reporter.Runs rx [0x03] [none] { rx with state := 0 } := by
  apply Transducer.Runs.single
  apply reporter_step_silent
  rw [spektrumParse_preamble 0x03 preamble, if_neg (by decide),
    wellFormed.valid_eq (by omega)]

/-- A publication on the last byte, seen in the reports and in the calls. -/
theorem last_report_iff (rx : Receiver) (bytes : List UInt8) (values : Vector Int 7) :
    (reporter.outputs rx bytes).getLast? = some (some values) ↔
      ∃ after, (decoder.trace rx bytes).getLast? = some (1, after) ∧
        after.receiverData = values := by
  rw [reporter, Transducer.watch_outputs, List.getLast?_map, Option.map_eq_some_iff]
  constructor
  · rintro ⟨⟨answer, after⟩, last, reported⟩
    obtain ⟨rfl, data_eq⟩ := (report_eq_some_iff _ _).mp reported
    exact ⟨after, last, data_eq⟩
  · rintro ⟨after, last, data_eq⟩
    exact ⟨(1, after), last, (report_eq_some_iff _ _).mpr ⟨rfl, data_eq⟩⟩

/-- Behind noise without a preamble, the last call of a frame answers 1 and leaves the
frame's channels exactly when the noise ends in an even number of `0x03`. -/
theorem frame_found_iff (rx : Receiver) (idle : rx.state = 0) (noise : List UInt8)
    (free : ¬ HasPreamble noise) (payload : Payload) :
    (∃ after, (decoder.trace rx (noise ++ frameBytes payload)).getLast? = some (1, after) ∧
      after.receiverData = channels payload) ↔ Even (trailing 0x03 noise) := by
  rw [← last_report_iff]
  obtain ⟨middle, noiseRuns, wellFormed, place⟩ := runs_noise rx idle free
  rcases place with ⟨even, middleIdle⟩ | ⟨odd, middlePreamble⟩
  · rw [(noiseRuns.append (runs_frame middle middleIdle payload)).outputs_eq]
    simp [frameReports, even]
  · obtain ⟨target, restRuns, -⟩ := runs_short { middle with state := 0 } rfl
      (show (0x01 :: payload.toList).length ≤ 15 by simp)
    have runs := noiseRuns.append
      ((runs_missed_preamble wellFormed middlePreamble).append restRuns)
    rw [List.singleton_append] at runs
    rw [show frameBytes payload = 0x03 :: 0x01 :: payload.toList from rfl, runs.outputs_eq]
    simp [Nat.not_even_iff_odd.mpr odd]

/-- One stray `0x03` in front of a frame hides it. -/
theorem frame_hidden : ¬ ∀ rx : Receiver, Reachable rx → rx.state = 0 →
    ∀ noise : List UInt8, ¬ HasPreamble noise → ∀ payload : Payload,
      ∃ after, (decoder.trace rx (noise ++ frameBytes payload)).getLast? = some (1, after) ∧
        after.receiverData = channels payload := by
  intro found
  obtain ⟨after, last, -⟩ := found (spektrumInit zeroGlobals) (.start ⟨zeroGlobals, rfl⟩) rfl
    [0x03] (by decide) (Vector.replicate 14 0)
  have answer : ((decoder.trace (spektrumInit zeroGlobals)
      ([0x03] ++ frameBytes (Vector.replicate 14 0))).getLast?).map Prod.fst = some 1 := by
    rw [last]
    rfl
  exact absurd answer (by decide)

theorem frame_found_iff_pair : ∃ after,
    (decoder.trace (spektrumInit zeroGlobals)
        ([0x03, 0x03] ++ frameBytes (Vector.replicate 14 0))).getLast? = some (1, after) ∧
      after.receiverData = channels (Vector.replicate 14 0) :=
  (frame_found_iff (spektrumInit zeroGlobals) rfl [0x03, 0x03] (by decide)
    (Vector.replicate 14 0)).mpr (by decide)

/-! ## Switched on in mid-stream -/

/-- No preamble is heard inside a frame before the decoder is aligned: not in `heard`,
the bytes since the last boundary at which it was not aligned, and, when these end in
an odd run of `0x03` and so hide the preamble of the next frame, not in that frame's
payload either, and so on. -/
def Unmistakable : List UInt8 → List Payload → Prop
  | heard, [] => ¬ HasPreamble heard
  | heard, next :: rest => ¬ HasPreamble heard ∧
      (Odd (trailing 0x03 heard) → Unmistakable next.toList rest)

theorem Unmistakable.free {heard : List UInt8} {rest : List Payload}
    (unmistakable : Unmistakable heard rest) : ¬ HasPreamble heard := by
  cases rest with
  | nil => exact unmistakable
  | cons next rest => exact unmistakable.1

/-- It is enough that no preamble stands inside any payload. -/
theorem unmistakable_of_free {heard : List UInt8} {rest : List Payload}
    (heardFree : ¬ HasPreamble heard)
    (payloadFree : ∀ payload ∈ rest, ¬ HasPreamble payload.toList) :
    Unmistakable heard rest := by
  induction rest generalizing heard with
  | nil => exact heardFree
  | cons next rest ih =>
      exact ⟨heardFree, fun _ => ih (payloadFree next List.mem_cons_self)
        fun payload member => payloadFree payload (List.mem_cons_of_mem next member)⟩

/-- After the cut the decoder is silent for some number of frames and then publishes
every frame on its last byte. -/
theorem runs_unmistakable (rx : Receiver) (idle : rx.state = 0) {heard : List UInt8}
    {rest : List Payload} (unmistakable : Unmistakable heard rest) :
    ∃ missed published target, rest = missed ++ published ∧
      reporter.Runs rx (heard ++ stream rest)
        (List.replicate (heard.length + (stream missed).length) none ++
          published.flatMap frameReports) target := by
  induction rest generalizing rx heard with
  | nil =>
      obtain ⟨target, runs, -, -⟩ := runs_noise rx idle unmistakable.free
      exact ⟨[], [], target, rfl, by simpa [stream] using runs⟩
  | cons next rest ih =>
      obtain ⟨middle, heardRuns, wellFormed, place⟩ := runs_noise rx idle unmistakable.free
      rcases place with ⟨-, middleIdle⟩ | ⟨odd, middlePreamble⟩
      · obtain ⟨target, restRuns, -, -⟩ := runs_stream middle middleIdle (next :: rest)
        exact ⟨[], next :: rest, target, rfl, heardRuns.append restRuns⟩
      · have second : reporter.step 0x01 { middle with state := 0 } =
            (none, { middle with valid := 0, state := 0 }) :=
          reporter_step_noise rfl (by decide)
        obtain ⟨missed, published, target, split, restRuns⟩ := ih
          { middle with valid := 0, state := 0 } rfl (unmistakable.2 odd)
        refine ⟨next :: missed, published, target, by rw [split, List.cons_append], ?_⟩
        have runs := heardRuns.append
          ((runs_missed_preamble wellFormed middlePreamble).append (.cons second restRuns))
        have silence : (stream (next :: missed)).length =
            1 + (1 + (next.toList.length + (stream missed).length)) := by
          simp only [stream, List.flatMap_cons, List.length_append, length_frameBytes,
            Vector.length_toList]
          omega
        rw [silence]
        simpa [stream, frameBytes, List.replicate_add, List.append_assoc] using runs

/-- A publication behind some silence is a publication of what follows it. -/
theorem published_behind {silence : Nat} {reports before after : List (Option (Vector Int 7))}
    {values : Vector Int 7}
    (reports_eq : List.replicate silence none ++ reports = before ++ some values :: after) :
    ∃ gap, reports = gap ++ some values :: after := by
  induction silence generalizing before with
  | zero => exact ⟨before, reports_eq⟩
  | succ silence ih =>
      rw [List.replicate_succ, List.cons_append] at reports_eq
      cases before with
      | nil => cases reports_eq
      | cons entry before => exact ih (List.cons.inj reports_eq).2

/-- A publication in the reports of some frames is one frame's, on its last byte. -/
theorem published_frame {frames : List Payload}
    {before after : List (Option (Vector Int 7))} {values : Vector Int 7}
    (reports_eq : frames.flatMap frameReports = before ++ some values :: after) :
    ∃ earlier payload later, frames = earlier ++ payload :: later ∧
      after.length = (stream later).length ∧ values = channels payload := by
  induction frames generalizing before with
  | nil => simp at reports_eq
  | cons payload rest ih =>
      rw [List.flatMap_cons, frameReports, List.append_assoc] at reports_eq
      obtain ⟨gap, gap_eq⟩ := published_behind reports_eq
      cases gap with
      | nil =>
          obtain ⟨head_eq, tail_eq⟩ := List.cons.inj gap_eq
          refine ⟨[], payload, rest, rfl, ?_, (Option.some.inj head_eq).symm⟩
          rw [← show rest.flatMap frameReports = after from tail_eq]
          simp [stream, frameReports, List.length_flatMap]
      | cons entry gap =>
          obtain ⟨earlier, found, later, split, length_eq, values_eq⟩ :=
            ih (List.cons.inj gap_eq).2
          exact ⟨payload :: earlier, found, later, by rw [split, List.cons_append],
            length_eq, values_eq⟩

/-- A receiver that `SpektrumInit` leaves and that hears `heard`, the rest of the frame
it was switched on in, and then whole frames answers 1 only on the last byte of one of
these frames, with that frame's channels, as long as no preamble is heard inside a
frame before it is aligned. -/
theorem stream_published (globals : Receiver) (heard : List UInt8) (rest : List Payload)
    (unmistakable : Unmistakable heard rest) (earlier : List UInt8) (byte : UInt8)
    (later : List UInt8) (received : heard ++ stream rest = earlier ++ byte :: later) :
    let call := spektrumParse byte (decoder.final (spektrumInit globals) earlier)
    call.1 = 1 →
      ∃ sent payload coming, rest = sent ++ payload :: coming ∧
        later = stream coming ∧ call.2.receiverData = channels payload := by
  intro call answered
  obtain ⟨missed, published, target, split, runs⟩ :=
    runs_unmistakable (spektrumInit globals) rfl unmistakable
  have here : report call = some call.2.receiverData :=
    (report_eq_some_iff call _).mpr ⟨answered, rfl⟩
  have reports_eq := runs.outputs_eq.symm
  rw [received, reporter.outputs_append, reporter.outputs_cons, reporter_final,
    show (reporter.step byte (decoder.final (spektrumInit globals) earlier)).1 =
      some call.2.receiverData from here] at reports_eq
  obtain ⟨gap, gap_eq⟩ := published_behind reports_eq
  obtain ⟨front, payload, coming, published_eq, length_eq, values_eq⟩ :=
    published_frame gap_eq
  rw [reporter.length_outputs] at length_eq
  refine ⟨missed ++ front, payload, coming, ?_, ?_, values_eq⟩
  · rw [split, published_eq, List.append_assoc]
  · have tails : (heard ++ stream missed ++ stream front ++ frameBytes payload) ++
        stream coming = (earlier ++ [byte]) ++ later := by
      rw [List.append_assoc earlier, List.singleton_append, ← received, split, published_eq]
      simp [stream]
    exact (List.append_inj' tails length_eq.symm).2.symm

/-- Switched on in a payload that begins with a preamble, the receiver publishes the
rest of that payload and the next preamble as channels. -/
theorem straddling_published : ¬ ∀ (globals : Receiver) (sent : List Payload)
    (received : List UInt8), received <:+ stream sent →
    ∀ earlier byte later, received = earlier ++ byte :: later →
      let call := spektrumParse byte (decoder.final (spektrumInit globals) earlier)
      call.1 = 1 → ∃ payload ∈ sent, call.2.receiverData = channels payload := by
  intro single
  have wrong := single zeroGlobals
    [#v[0x03, 0x01, 0, 0, 0, 0, 0, 0, 0, 0, 0, 0, 0, 0], Vector.replicate 14 0]
    ([0x03, 0x01] ++ List.replicate 12 0 ++ [0x03, 0x01] ++ List.replicate 14 0)
    ⟨[0x03, 0x01], rfl⟩ ([0x03, 0x01] ++ List.replicate 12 0 ++ [0x03]) 0x01
    (List.replicate 14 0) rfl (by decide +kernel)
  simp only [List.mem_cons, List.not_mem_nil, or_false, exists_eq_or_imp,
    exists_eq_left] at wrong
  exact absurd wrong (by decide +kernel)

theorem zeroPayload_free :
    ∀ payload ∈ [(Vector.replicate 14 0 : Payload)], ¬ HasPreamble payload.toList := by
  intro payload member
  rw [List.mem_singleton.mp member]
  decide

theorem stream_published_zeroFrame :
    let call := spektrumParse 0
      (decoder.final (spektrumInit zeroGlobals) ([0, 0] ++ zeroFrameStart))
    ∃ sent payload coming, [Vector.replicate 14 0] = sent ++ payload :: coming ∧
      [] = stream coming ∧ call.2.receiverData = channels payload :=
  stream_published zeroGlobals [0, 0] [Vector.replicate 14 0]
    (unmistakable_of_free (by decide) zeroPayload_free) ([0, 0] ++ zeroFrameStart) 0 []
    rfl (by decide +kernel)

end ChibiCopter.Spektrum
