import ChibiCopter.Spektrum.Framing

/-!
# Transmissions and what the receiver publishes

A transmission is a run of bytes without a preamble byte followed by one frame of
seven tagged channel words.  Watching the decoder through the channel accessor, a
transmission is reported as silence up to the last byte of its frame and the sent
values there.  The same holds after bytes were lost: one clean frame is enough to
bring a decoder in any reachable state back between frames.
-/

namespace ChibiCopter.Spektrum

open Buffer

/-! ## The watched decoder -/

/-- All channels as `getSpektrumData` returns them. -/
def readout (rx : Receiver) : Vector Int 7 :=
  Vector.ofFn fun ix : Fin 7 => getSpektrumData ix.val rx

theorem readout_eq (rx : Receiver) : readout rx = rx.receiverData := by
  ext index bound
  simp only [readout, Vector.getElem_ofFn]
  exact getSpektrumData_of_lt rx ⟨index, bound⟩

/-- What a caller sees of a call: the channels when it answers 1. -/
def report : UInt8 × Receiver → Option (Vector Int 7)
  | (answer, rx) => if answer = 1 then some (readout rx) else none

def reporter : Transducer Receiver UInt8 (Option (Vector Int 7)) := decoder.watch report

/-- The decoder after it has published `payload`. -/
def publish (payload : Payload) (rx : Receiver) : Receiver :=
  { rx with
    data := payload
    receiverData := channels payload
    valid := 1
    frameNum := rx.frameNum + 1
    state := 0 }

/-- The reports of one frame read between frames. -/
def frameReports (payload : Payload) : List (Option (Vector Int 7)) :=
  List.replicate 15 none ++ [some (channels payload)]

theorem reporter_final (rx : Receiver) (bytes : List UInt8) :
    reporter.final rx bytes = decoder.final rx bytes :=
  decoder.watch_final report rx bytes

theorem report_publish (payload : Payload) (rx : Receiver) :
    report (1, publish payload rx) = some (channels payload) := by
  rw [report, if_pos rfl, readout_eq]
  rfl

theorem report_eq_some_iff (call : UInt8 × Receiver) (values : Vector Int 7) :
    report call = some values ↔ call.1 = 1 ∧ call.2.receiverData = values := by
  obtain ⟨answer, after⟩ := call
  by_cases answered : answer = 1
  · simp [report, answered, readout_eq]
  · simp [report, answered]

theorem reporter_step_silent {byte : UInt8} {rx after : Receiver}
    (step : spektrumParse byte rx = (0, after)) : reporter.step byte rx = (none, after) := by
  rw [reporter, Transducer.watch_step, decoder_step, step]
  rfl

/-! ## Stretches of the stream -/

/-- A byte other than the first preamble byte passes unnoticed between frames. -/
theorem reporter_step_noise {byte : UInt8} {rx : Receiver} (idle : rx.state = 0)
    (noise : byte ≠ 0x03) :
    reporter.step byte rx = (none, { rx with valid := 0, state := 0 }) := by
  apply reporter_step_silent
  rw [spektrumParse_idle byte idle, if_neg noise]

/-- The first preamble byte is noticed between frames. -/
theorem reporter_step_first {rx : Receiver} (idle : rx.state = 0) :
    reporter.step 0x03 rx = (none, { rx with valid := 0, state := 1 }) := by
  apply reporter_step_silent
  rw [spektrumParse_idle 0x03 idle, if_pos rfl]

/-- A gap without preamble bytes leaves the decoder between frames and silent. -/
theorem runs_gap (rx : Receiver) (idle : rx.state = 0) {gap : List UInt8}
    (noise : ∀ byte ∈ gap, byte ≠ 0x03) :
    ∃ target, reporter.Runs rx gap (List.replicate gap.length none) target ∧
      target.state = 0 ∧ Quiet rx target := by
  induction gap generalizing rx with
  | nil => exact ⟨rx, .refl rx, idle, .refl rx⟩
  | cons byte rest ih =>
      have step := reporter_step_noise idle (noise byte List.mem_cons_self)
      obtain ⟨target, runs, ends, quiet⟩ := ih { rx with valid := 0, state := 0 } rfl
        (fun later member => noise later (List.mem_cons_of_mem byte member))
      exact ⟨target, .cons step runs, ends, quiet⟩

/-- Payload bytes short of the last fill the buffer behind what it holds. -/
theorem runs_stored (rx : Receiver) {count : Nat} {more : List UInt8}
    (state_eq : rx.state = count + 2) (valid_eq : rx.valid = 0)
    (short : count + more.length < 14) :
    ∃ data, filled data (count + more.length) = filled rx.data count ++ more ∧
      reporter.Runs rx more (List.replicate more.length none)
        { rx with data := data, state := count + more.length + 2 } := by
  induction more generalizing rx count with
  | nil =>
      refine ⟨rx.data, (List.append_nil _).symm, ?_⟩
      rw [List.length_nil, Nat.add_zero, ← state_eq]
      exact .refl rx
  | cons byte rest ih =>
      rw [List.length_cons] at short ⊢
      have step : reporter.step byte rx = (none,
          { rx with data := rx.data.setIfInBounds count byte, state := count + 1 + 2 }) := by
        apply reporter_step_silent
        rw [spektrumParse_store byte state_eq (by omega), valid_eq]
      obtain ⟨data, filled_eq, runs⟩ := ih
        { rx with data := rx.data.setIfInBounds count byte, state := count + 1 + 2 }
        rfl valid_eq (by omega)
      refine ⟨data, ?_, ?_⟩
      · rw [← Nat.add_assoc, Nat.add_right_comm, filled_eq,
          filled_store rx.data byte (by omega), List.append_assoc]
        rfl
      · rw [← Nat.add_assoc, Nat.add_right_comm count]
        exact .cons step runs

/-- The rest of a payload is silent up to its last byte and published there. -/
theorem runs_payload (rx : Receiver) {count : Nat} (more : List UInt8)
    (state_eq : rx.state = count + 2) (valid_eq : rx.valid = 0)
    (length_eq : count + more.length = 14) (unfinished : count < 14) :
    ∃ payload : Payload, payload.toList = filled rx.data count ++ more ∧
      reporter.Runs rx more
        (List.replicate (more.length - 1) none ++ [some (channels payload)])
        (publish payload rx) := by
  obtain ⟨front, last, rfl⟩ := List.eq_nil_or_concat' more |>.resolve_left (by
    rintro rfl
    rw [List.length_nil] at length_eq
    omega)
  rw [List.length_append, List.length_singleton] at length_eq ⊢
  obtain ⟨data, filled_eq, runs⟩ :=
    runs_stored rx state_eq valid_eq (show count + front.length < 14 by omega)
  have full : count + front.length = 13 := by omega
  rw [full] at filled_eq runs
  have step : reporter.step last { rx with data := data, state := 13 + 2 } =
      (some (channels (data.setIfInBounds 13 last)),
        publish (data.setIfInBounds 13 last) rx) := by
    rw [reporter, Transducer.watch_step, decoder_step, spektrumParse_complete last rfl,
      copyChannels_eq]
    exact congrArg (·, _) (report_publish _ rx)
  refine ⟨data.setIfInBounds 13 last, ?_, ?_⟩
  · rw [← filled_full, filled_store data last (by decide : 13 < 14), filled_eq,
      List.append_assoc]
  · rw [Nat.add_sub_cancel]
    exact runs.append (.single step)

/-- A whole frame read between frames is published on its last byte. -/
theorem runs_frame (rx : Receiver) (idle : rx.state = 0) (payload : Payload) :
    reporter.Runs rx (frameBytes payload) (frameReports payload) (publish payload rx) := by
  have second : reporter.step 0x01 { rx with valid := 0, state := 1 } =
      (none, { rx with valid := 0, state := 2 }) := by
    apply reporter_step_silent
    rw [spektrumParse_preamble 0x01 rfl, if_pos rfl]
  obtain ⟨stored, stored_eq, runs⟩ := runs_payload
    { rx with valid := 0, state := 2 } payload.toList
    (show 2 = 0 + 2 from rfl) rfl (by rw [Vector.length_toList]) (by decide)
  rw [filled_zero, List.nil_append, Vector.toList_inj] at stored_eq
  subst stored_eq
  rw [Vector.length_toList] at runs
  exact .cons (reporter_step_first idle) (.cons second runs)

/-- Fifteen bytes behind a state between frames are silent, whatever they are. -/
theorem runs_short (rx : Receiver) (idle : rx.state = 0) {bytes : List UInt8}
    (short : bytes.length ≤ 15) :
    ∃ target, reporter.Runs rx bytes (List.replicate bytes.length none) target ∧
      Quiet rx target := by
  induction bytes using List.reverseRecOn with
  | nil => exact ⟨rx, .refl rx, .refl rx⟩
  | append_singleton bytes byte ih =>
      rw [List.length_append, List.length_singleton] at short ⊢
      obtain ⟨middle, runs, quiet⟩ := ih (by omega)
      have middle_eq : decoder.final rx bytes = middle :=
        (reporter_final rx bytes).symm.trans runs.final_eq
      have answer := answer_of_short idle byte (show bytes.length < 15 by omega)
      have call := call_final rx idle bytes byte
      rw [middle_eq] at answer call
      rw [List.replicate_succ']
      exact ⟨_, runs.append (.single (reporter_step_silent (Prod.ext answer rfl))),
        quiet.trans (call.quiet_of_zero answer)⟩

/-! ## Round trip -/

/-- A channel word on the air: a value below 1024 under six tag bits. -/
structure ChannelWord where
  tag : Nat
  value : Nat
  tag_lt : tag < 64
  value_lt : value < 1024

def ChannelWord.word (word : ChannelWord) : Nat := word.tag * 1024 + word.value

/-- Seven words as a payload, upper byte first. -/
def encodeWords (words : Vector ChannelWord 7) : Payload :=
  Vector.ofFn fun index : Fin 14 =>
    if index.val % 2 = 0 then (words[index.val / 2].word / 256).toUInt8
    else (words[index.val / 2].word % 256).toUInt8

/-- Decoding takes back every value and drops every tag. -/
theorem channels_encodeWords (words : Vector ChannelWord 7) :
    channels (encodeWords words) = words.map fun word => (word.value : Int) := by
  ext index bound
  have high : (encodeWords words)[2 * index] = (words[index].word / 256).toUInt8 := by
    simp only [encodeWords, Vector.getElem_ofFn, Nat.mul_mod_right, if_true,
      Nat.mul_div_cancel_left index (by decide : 0 < 2)]
  have low : (encodeWords words)[2 * index + 1] = (words[index].word % 256).toUInt8 := by
    have odd : (2 * index + 1) % 2 ≠ 0 := by omega
    have half : (2 * index + 1) / 2 = index := by omega
    simp only [encodeWords, Vector.getElem_ofFn, if_neg odd, half]
  have tag_lt := words[index].tag_lt
  have value_lt := words[index].value_lt
  simp only [channels, Vector.getElem_ofFn, Vector.getElem_map, high, low,
    UInt8.toNat_ofNat', ChannelWord.word]
  omega

/-- A gap without preamble bytes and the frame of seven words behind it. -/
structure Transmission where
  gap : List UInt8
  words : Vector ChannelWord 7
  gap_ne : ∀ byte ∈ gap, byte ≠ 0x03

namespace Transmission

def bytes (sent : Transmission) : List UInt8 :=
  sent.gap ++ frameBytes (encodeWords sent.words)

def values (sent : Transmission) : Vector Int 7 :=
  sent.words.map fun word => (word.value : Int)

/-- Nothing up to the last byte of the frame, and there the sent values. -/
def reports (sent : Transmission) : List (Option (Vector Int 7)) :=
  List.replicate (sent.gap.length + 15) none ++ [some sent.values]

end Transmission

/-- One transmission is reported exactly and ends between frames. -/
theorem runs_transmission (rx : Receiver) (idle : rx.state = 0) (sent : Transmission) :
    ∃ target, reporter.Runs rx sent.bytes sent.reports target ∧ target.state = 0 := by
  obtain ⟨middle, gapRuns, gapIdle, -⟩ := runs_gap rx idle sent.gap_ne
  have runs := gapRuns.append (runs_frame middle gapIdle (encodeWords sent.words))
  refine ⟨publish (encodeWords sent.words) middle, ?_, rfl⟩
  rw [frameReports, ← List.append_assoc, ← List.replicate_add, channels_encodeWords] at runs
  exact runs

theorem runs_transmissions (rx : Receiver) (idle : rx.state = 0) (sent : List Transmission) :
    ∃ target, reporter.Runs rx (sent.flatMap Transmission.bytes)
      (sent.flatMap Transmission.reports) target ∧ target.state = 0 := by
  induction sent generalizing rx with
  | nil => exact ⟨rx, .refl rx, idle⟩
  | cons head rest ih =>
      obtain ⟨middle, headRuns, headIdle⟩ := runs_transmission rx idle head
      obtain ⟨target, restRuns, ends⟩ := ih middle headIdle
      exact ⟨target, headRuns.append restRuns, ends⟩

/-- From any state between frames, a sequence of transmissions and a trailing gap is
reported call by call: silence except on the last byte of each frame, and there all
values that the frame was encoded from. -/
theorem reporter_transmissions (rx : Receiver) (idle : rx.state = 0)
    (sent : List Transmission) (trailing : List UInt8)
    (noise : ∀ byte ∈ trailing, byte ≠ 0x03) :
    reporter.outputs rx (sent.flatMap Transmission.bytes ++ trailing) =
      sent.flatMap Transmission.reports ++ List.replicate trailing.length none := by
  obtain ⟨middle, sentRuns, sentIdle⟩ := runs_transmissions rx idle sent
  obtain ⟨target, trailingRuns, -⟩ := runs_gap middle sentIdle noise
  exact (sentRuns.append trailingRuns).outputs_eq

/-- Seven words of value 769, whose payload repeats the preamble, behind one stray byte. -/
def preambleTransmission : Transmission where
  gap := [0x01]
  words := Vector.replicate 7 ⟨0, 769, by decide, by decide⟩
  gap_ne := by simp

/-- Seven words of value 5 under the largest tag, behind a longer gap. -/
def taggedTransmission : Transmission where
  gap := [0x01, 0xFF, 0x00]
  words := Vector.replicate 7 ⟨63, 5, by decide, by decide⟩
  gap_ne := by simp

theorem reporter_transmissions_preamble :
    reporter.outputs (spektrumInit zeroGlobals)
        ([preambleTransmission, taggedTransmission].flatMap Transmission.bytes ++ [0x00]) =
      List.replicate 16 none ++ some (Vector.replicate 7 769) ::
        (List.replicate 18 none ++ [some (Vector.replicate 7 5), none]) :=
  (reporter_transmissions (spektrumInit zeroGlobals) rfl
    [preambleTransmission, taggedTransmission] [0x00] (by simp)).trans
    (by simp [Transmission.reports, Transmission.values, preambleTransmission,
      taggedTransmission])

end ChibiCopter.Spektrum
