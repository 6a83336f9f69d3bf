import ChibiCopter.Spektrum.Receiver

/-!
# Frames in the byte history

The decoder's state is explained by the bytes it has read: between frames it has
recognised nothing, after one preamble byte the history ends in `0x03`, and inside
a frame it ends in the preamble followed by exactly the bytes that fill the front
of the payload buffer.  `Phase` states this and every byte keeps it, so that a
completed frame is always sixteen consecutive bytes of the stream.
-/

namespace ChibiCopter.Spektrum

open Buffer

/-- A call publishes nothing: channels and frame number stay as they are. -/
def Quiet (before after : Receiver) : Prop :=
  after.receiverData = before.receiverData ∧ after.frameNum = before.frameNum

theorem Quiet.refl (rx : Receiver) : Quiet rx rx := ⟨rfl, rfl⟩

theorem Quiet.trans {first middle last : Receiver}
    (left : Quiet first middle) (right : Quiet middle last) : Quiet first last :=
  ⟨right.1.trans left.1, right.2.trans left.2⟩

/-- What the bytes read since `start` say about the decoder. -/
inductive Phase (start : Receiver) (bytes : List UInt8) (rx : Receiver) : Prop where
  | idle (state_eq : rx.state = 0)
  | preamble (earlier : List UInt8)
      (state_eq : rx.state = 1) (valid_eq : rx.valid = 0)
      (bytes_eq : bytes = earlier ++ [0x03])
      (outputs_eq : decoder.outputs start bytes = decoder.outputs start earlier ++ [0])
  | payload (earlier received : List UInt8)
      (state_eq : rx.state = received.length + 2) (valid_eq : rx.valid = 0)
      (short : received.length < 14)
      (bytes_eq : bytes = earlier ++ 0x03 :: 0x01 :: received)
      (outputs_eq : decoder.outputs start bytes =
        decoder.outputs start earlier ++ List.replicate (received.length + 2) 0)
      (filled_eq : filled rx.data received.length = received)

/-- One call on `byte` after `bytes`: either it answers 0 and publishes nothing, or
it answers 1 and the stream now ends in a frame none of whose other calls answered. -/
inductive Call (start : Receiver) (bytes : List UInt8) (byte : UInt8)
    (before : Receiver) : UInt8 × Receiver → Prop where
  | quiet {after : Receiver} (silent : Quiet before after) :
      Call start bytes byte before (0, after)
  | published {after : Receiver} (earlier : List UInt8) (payload : Payload)
      (bytes_eq : bytes ++ [byte] = earlier ++ frameBytes payload)
      (outputs_eq : decoder.outputs start bytes =
        decoder.outputs start earlier ++ List.replicate 15 0)
      (data_eq : after.receiverData = channels payload)
      (frameNum_eq : after.frameNum = before.frameNum + 1) :
      Call start bytes byte before (1, after)

namespace Call

variable {start before : Receiver} {bytes : List UInt8} {byte : UInt8}
  {result : UInt8 × Receiver}

theorem answer (call : Call start bytes byte before result) :
    result.1 = 0 ∨ result.1 = 1 := by
  cases call with
  | quiet silent => exact Or.inl rfl
  | published earlier payload bytes_eq outputs_eq data_eq frameNum_eq => exact Or.inr rfl

theorem quiet_of_zero (call : Call start bytes byte before result)
    (answered : result.1 = 0) : Quiet before result.2 := by
  cases call with
  | quiet silent => exact silent
  | published earlier payload bytes_eq outputs_eq data_eq frameNum_eq =>
      simp at answered

theorem published_of_one (call : Call start bytes byte before result)
    (answered : result.1 = 1) :
    ∃ earlier payload, bytes ++ [byte] = earlier ++ frameBytes payload ∧
      decoder.outputs start bytes =
        decoder.outputs start earlier ++ List.replicate 15 0 ∧
      result.2.receiverData = channels payload := by
  cases call with
  | quiet silent => simp at answered
  | published earlier payload bytes_eq outputs_eq data_eq frameNum_eq =>
      exact ⟨earlier, payload, bytes_eq, outputs_eq, data_eq⟩

end Call

/-- The payload buffer after the last byte of a frame. -/
theorem toList_store_last {data : Vector UInt8 14} {received : List UInt8} (byte : UInt8)
    (length_eq : received.length = 13) (filled_eq : filled data received.length = received) :
    (data.setIfInBounds 13 byte).toList = received ++ [byte] := by
  rw [← filled_full, filled_store data byte (by decide : 13 < 14), ← length_eq, filled_eq]

/-- Every byte is either quiet or completes a frame. -/
theorem Phase.call {start rx : Receiver} {bytes : List UInt8}
    (phase : Phase start bytes rx) (byte : UInt8) :
    Call start bytes byte rx (spektrumParse byte rx) := by
  cases phase with
  | idle state_eq =>
      rw [spektrumParse_idle byte state_eq]
      exact .quiet ⟨rfl, rfl⟩
  | preamble earlier state_eq valid_eq bytes_eq outputs_eq =>
      rw [spektrumParse_preamble byte state_eq, valid_eq]
      exact .quiet ⟨rfl, rfl⟩
  | payload earlier received state_eq valid_eq short bytes_eq outputs_eq filled_eq =>
      by_cases last : received.length = 13
      · rw [spektrumParse_complete byte (by rw [state_eq, last])]
        have stored := toList_store_last byte last filled_eq
        refine .published earlier (rx.data.setIfInBounds 13 byte) ?_ ?_
          (copyChannels_eq _) rfl
        · rw [bytes_eq, frameBytes, stored]
          simp
        · rw [outputs_eq, last]
      · rw [spektrumParse_store byte state_eq (by omega), valid_eq]
        exact .quiet ⟨rfl, rfl⟩

/-- Every byte keeps the explanation of the state by the history. -/
theorem Phase.step {start : Receiver} {bytes : List UInt8}
    (phase : Phase start bytes (decoder.final start bytes)) (byte : UInt8) :
    Phase start (bytes ++ [byte])
      (spektrumParse byte (decoder.final start bytes)).2 := by
  have outputs_concat := decoder.outputs_concat start bytes byte
  rw [decoder_step] at outputs_concat
  generalize decoder.final start bytes = rx at phase outputs_concat ⊢
  cases phase with
  | idle state_eq =>
      rw [spektrumParse_idle byte state_eq] at outputs_concat ⊢
      by_cases first : byte = 0x03
      · exact .preamble bytes (by simp [first]) rfl (by rw [first]) outputs_concat
      · exact .idle (by simp [first])
  | preamble earlier state_eq valid_eq bytes_eq outputs_eq =>
      rw [spektrumParse_preamble byte state_eq, valid_eq] at outputs_concat
      rw [spektrumParse_preamble byte state_eq]
      by_cases second : byte = 0x01
      · refine .payload earlier [] (by simp [second]) valid_eq (by decide) ?_ ?_
          (filled_zero _)
        · rw [bytes_eq, second]
          simp
        · rw [outputs_concat, outputs_eq]
          simp
      · exact .idle (by simp [second])
  | payload earlier received state_eq valid_eq short bytes_eq outputs_eq filled_eq =>
      by_cases last : received.length = 13
      · rw [spektrumParse_complete byte (by rw [state_eq, last])]
        exact .idle rfl
      · rw [spektrumParse_store byte state_eq (by omega), valid_eq] at outputs_concat
        rw [spektrumParse_store byte state_eq (by omega)]
        refine .payload earlier (received ++ [byte]) (by simp) valid_eq
          (by simp only [List.length_append, List.length_singleton]; omega) ?_ ?_ ?_
        · rw [bytes_eq]
          simp
        · rw [outputs_concat, outputs_eq, List.append_assoc, List.length_append]
          exact congrArg (decoder.outputs start earlier ++ ·) List.replicate_succ'.symm
        · rw [List.length_append, List.length_singleton, filled_store _ _ short, filled_eq]

/-- From a state between frames, every stream explains the state it leaves. -/
theorem phase_final (start : Receiver) (idle : start.state = 0) (bytes : List UInt8) :
    Phase start bytes (decoder.final start bytes) :=
  decoder.final_history (Phase start) (.idle idle) (fun _ byte phase => phase.step byte) bytes

/-- The call on the byte behind a stream. -/
theorem call_final (start : Receiver) (idle : start.state = 0) (bytes : List UInt8)
    (byte : UInt8) :
    Call start bytes byte (decoder.final start bytes)
      (spektrumParse byte (decoder.final start bytes)) :=
  (phase_final start idle bytes).call byte

/-- The frame number counts the calls that answered 1, in 32-bit arithmetic. -/
theorem frameNum_final (start : Receiver) (idle : start.state = 0) (bytes : List UInt8) :
    (decoder.final start bytes).frameNum =
      start.frameNum + Int32.ofNat ((decoder.outputs start bytes).count 1) := by
  induction bytes using List.reverseRecOn with
  | nil => exact (Int32.add_zero start.frameNum).symm
  | append_singleton bytes byte ih =>
      have call := call_final start idle bytes byte
      rw [decoder.final_concat, decoder.outputs_concat, decoder_step, List.count_append]
      generalize spektrumParse byte _ = result at call ⊢
      cases call with
      | quiet silent => simpa using silent.2.trans ih
      | published earlier payload bytes_eq outputs_eq data_eq frameNum_eq =>
          rw [frameNum_eq, ih, List.count_singleton_self, Int32.ofNat_add, ← Int32.add_assoc]
          rfl

/-- The fifteen calls before a completed frame's last byte all answered 0. -/
theorem spacing_of_outputs {start : Receiver} {bytes earlier : List UInt8} {byte : UInt8}
    {payload : Payload}
    (bytes_eq : bytes ++ [byte] = earlier ++ frameBytes payload)
    (outputs_eq : decoder.outputs start bytes =
      decoder.outputs start earlier ++ List.replicate 15 0)
    {position : Nat} (answered : (decoder.outputs start bytes)[position]? = some 1) :
    position + 16 ≤ bytes.length := by
  have lengths := congrArg List.length bytes_eq
  simp only [List.length_append, List.length_singleton, length_frameBytes] at lengths
  by_cases before : position < earlier.length
  · omega
  · rw [outputs_eq, List.getElem?_append_right (by rw [decoder.length_outputs]; omega),
      List.getElem?_replicate] at answered
    split at answered <;> simp at answered

/-- Fewer than sixteen bytes after a state between frames complete no frame. -/
theorem answer_of_short {start : Receiver} (idle : start.state = 0) {bytes : List UInt8}
    (byte : UInt8) (short : bytes.length < 15) :
    (spektrumParse byte (decoder.final start bytes)).1 = 0 := by
  have call := call_final start idle bytes byte
  refine call.answer.resolve_right fun answered => ?_
  obtain ⟨earlier, payload, bytes_eq, -, -⟩ := call.published_of_one answered
  have lengths := congrArg List.length bytes_eq
  simp only [List.length_append, List.length_singleton, length_frameBytes] at lengths
  omega

/-! ## Soundness over whole streams -/

/-- After `SpektrumInit`, a call that answers 1 has just read a whole frame, at least
sixteen bytes after the last such call, and publishes all its channels; a call that
answers 0 publishes nothing; and the frame number counts the answers 1. -/
theorem spektrumParse_sound (globals : Receiver) (bytes : List UInt8) (byte : UInt8)
    (few : (decoder.outputs (spektrumInit globals) (bytes ++ [byte])).count 1 < 2 ^ 31) :
    let before := decoder.final (spektrumInit globals) bytes
    let answer := (spektrumParse byte before).1
    let after := (spektrumParse byte before).2
    (answer = 1 →
      (∃ earlier payload, bytes ++ [byte] = earlier ++ frameBytes payload ∧
        after.receiverData = channels payload) ∧
      ∀ position, (decoder.outputs (spektrumInit globals) bytes)[position]? = some 1 →
        position + 16 ≤ bytes.length) ∧
    (answer = 0 →
      after.receiverData = before.receiverData ∧ after.frameNum = before.frameNum) ∧
    (answer = 0 ∨ answer = 1) ∧
    (spektrumGetFrameNum after).toInt =
      ((decoder.outputs (spektrumInit globals) (bytes ++ [byte])).count 1 : Int) := by
  intro before answer after
  have call := call_final (spektrumInit globals) rfl bytes byte
  have total := frameNum_final (spektrumInit globals) rfl (bytes ++ [byte])
  rw [decoder.final_concat] at total
  have counted : (spektrumGetFrameNum after).toInt =
      ((decoder.outputs (spektrumInit globals) (bytes ++ [byte])).count 1 : Int) := by
    rw [show spektrumGetFrameNum after = _ from total.trans (Int32.zero_add _)]
    exact Int32.toInt_ofNat_of_lt few
  refine ⟨fun answered => ?_, call.quiet_of_zero, call.answer, counted⟩
  obtain ⟨earlier, payload, bytes_eq, outputs_eq, data_eq⟩ := call.published_of_one answered
  exact ⟨⟨earlier, payload, bytes_eq, data_eq⟩,
    fun position => spacing_of_outputs bytes_eq outputs_eq⟩

/-- The globals as the program loads them: all zero. -/
def zeroGlobals : Receiver where
  state := 0
  data := Vector.replicate 14 0
  valid := 0
  frameNum := 0
  receiverData := Vector.replicate 7 0

/-- A frame of zero channels, less its last byte. -/
def zeroFrameStart : List UInt8 := 0x03 :: 0x01 :: List.replicate 13 0

theorem spektrumParse_sound_zeroFrame :
    let before := decoder.final (spektrumInit zeroGlobals) zeroFrameStart
    (∃ earlier payload, zeroFrameStart ++ [0] = earlier ++ frameBytes payload ∧
      (spektrumParse 0 before).2.receiverData = channels payload) ∧
    (spektrumGetFrameNum (spektrumParse 0 before).2).toInt = 1 := by
  have few : (decoder.outputs (spektrumInit zeroGlobals) (zeroFrameStart ++ [0])).count 1 <
      2 ^ 31 := by decide
  have sound := spektrumParse_sound zeroGlobals zeroFrameStart 0 few
  exact ⟨(sound.1 (by decide)).1, sound.2.2.2.trans (by decide)⟩

end ChibiCopter.Spektrum
