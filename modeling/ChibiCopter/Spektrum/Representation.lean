import ChibiCopter.Spektrum.Alignment

/-!
# The decoder's own bounds

The place of the next payload byte is read off the variable that counts the bytes of
the frame, and the frame length comes from the number of channels.  Neither mentions
the size of the buffer.  In every reachable state the two fit together: no store and no
read leaves the buffer, and the flag that a frame is complete is down again after one
more byte.
-/

namespace ChibiCopter.Spektrum

open Buffer

/-! ## The cells that a call touches -/

/-- The cell of `data` that a call stores the byte into. -/
def storedCells (rx : Receiver) : List Nat :=
  match rx.state with
  | 0 | 1 => []
  | state => [state - 2]

/-- The cells of `data` that the copy loop reads. -/
def channelCells : List Nat := (List.range maxRcChannels).flatMap fun ix => [2 * ix, 2 * ix + 1]

/-- The cells of `data` that a call reads. -/
def copiedCells (rx : Receiver) : List Nat :=
  match rx.state with
  | 0 | 1 => []
  | state => if state + 1 = spektrumNumBytesInFrame then channelCells else []

/-- A byte of the payload goes into the cell that the state names. -/
theorem data_payload {rx : Receiver} (c : UInt8) {count : Nat} (payload : rx.state = count + 2) :
    (spektrumParse c rx).2.data = rx.data.setIfInBounds count c := by
  simp only [spektrumParse, payload]
  split <;> rfl

/-- A call leaves the other cells as they were. -/
theorem data_unstored {rx : Receiver} (c : UInt8) {cell : Nat} (other : cell ∉ storedCells rx) :
    (spektrumParse c rx).2.data.toList[cell]? = rx.data.toList[cell]? := by
  match state_eq : rx.state with
  | 0 => rw [spektrumParse_idle c state_eq]
  | 1 => rw [spektrumParse_preamble c state_eq]
  | count + 2 =>
      have apart : count ≠ cell := by
        rintro rfl
        exact other (by simp [storedCells, state_eq])
      rw [data_payload c state_eq, toList_store, List.getElem?_set_ne apart]

/-- The copied channels depend on the copied cells alone. -/
theorem copyChannels_congr {first second : Vector UInt8 14}
    (same : ∀ cell ∈ channelCells, first.toList[cell]? = second.toList[cell]?) :
    copyChannels first = copyChannels second := by
  have cell_eq {cell : Nat} (below : cell < 14) (copied : cell ∈ channelCells) :
      first[cell] = second[cell] := by
    have cells := same cell copied
    rw [List.getElem?_eq_getElem (by simpa using below),
      List.getElem?_eq_getElem (by simpa using below)] at cells
    exact Option.some.inj cells
  have copied : ∀ ix : Fin 7, 2 * ix.val ∈ channelCells ∧ 2 * ix.val + 1 ∈ channelCells := by
    decide
  refine congrArg Vector.ofFn (funext fun ix => ?_)
  rw [cell_eq _ (copied ix).1, cell_eq _ (copied ix).2]

/-! ## The invariant -/

/-- What holds of the decoder between two calls. -/
structure Represented (rx : Receiver) : Prop extends WellFormed rx where
  channels : ∀ ix : Fin 7, 0 ≤ rx.receiverData.get ix ∧ rx.receiverData.get ix ≤ 1023

theorem Represented.step {rx : Receiver} (represented : Represented rx) (byte : UInt8) :
    Represented (spektrumParse byte rx).2 := by
  refine ⟨represented.toWellFormed.step byte, fun ix => ?_⟩
  match state_eq : rx.state with
  | 0 =>
      rw [spektrumParse_idle byte state_eq]
      exact represented.channels ix
  | 1 =>
      rw [spektrumParse_preamble byte state_eq]
      exact represented.channels ix
  | count + 2 =>
      have bound := represented.state_le
      rcases Nat.lt_or_ge count 13 with unfinished | last
      · rw [spektrumParse_store byte state_eq unfinished]
        exact represented.channels ix
      · rw [spektrumParse_complete byte (by omega), copyChannels_eq]
        exact ⟨channels_nonneg _ ix, Int.le_of_lt_add_one (channels_lt _ ix)⟩

theorem represented_of_reachable {rx : Receiver} (reachable : Reachable rx) :
    Represented rx := by
  refine reachable.satisfies Represented ?_ (fun byte _ before => before.step byte)
  rintro _ ⟨globals, rfl⟩
  refine ⟨wellFormed_of_idle rfl, fun ix => ?_⟩
  simp [spektrumInit, Vector.get]

theorem mem_storedCells {rx : Receiver} {cell : Nat} (stored : cell ∈ storedCells rx) :
    2 ≤ rx.state ∧ cell = rx.state - 2 := by
  match state_eq : rx.state with
  | 0 => simp [storedCells, state_eq] at stored
  | 1 => simp [storedCells, state_eq] at stored
  | count + 2 => exact ⟨Nat.le_add_left 2 count, by simpa [storedCells, state_eq] using stored⟩

theorem mem_copiedCells {rx : Receiver} {cell : Nat} (copied : cell ∈ copiedCells rx) :
    cell ∈ channelCells := by
  unfold copiedCells at copied
  split at copied
  · exact absurd copied List.not_mem_nil
  · exact absurd copied List.not_mem_nil
  · split at copied
    · exact copied
    · exact absurd copied List.not_mem_nil

/-- Two decoders that differ in no cell that the call reads. -/
structure SameCopies (byte : UInt8) (rx other : Receiver) : Prop where
  state_eq : other.state = rx.state
  receiverData_eq : other.receiverData = rx.receiverData
  data_eq : ∀ cell ∈ copiedCells rx,
    (spektrumParse byte other).2.data.toList[cell]? = (spektrumParse byte rx).2.data.toList[cell]?

/-- The channels behind a call depend on no cell that the call does not read. -/
theorem receiverData_congr {byte : UInt8} {rx other : Receiver} (wellFormed : WellFormed rx)
    (same : SameCopies byte rx other) :
    (spektrumParse byte other).2.receiverData = (spektrumParse byte rx).2.receiverData := by
  match state_eq : rx.state with
  | 0 =>
      rw [spektrumParse_idle byte state_eq, spektrumParse_idle byte (same.state_eq.trans state_eq)]
      exact same.receiverData_eq
  | 1 =>
      rw [spektrumParse_preamble byte state_eq,
        spektrumParse_preamble byte (same.state_eq.trans state_eq)]
      exact same.receiverData_eq
  | count + 2 =>
      have bound := wellFormed.state_le
      have other_eq := same.state_eq.trans state_eq
      rcases Nat.lt_or_ge count 13 with unfinished | last
      · rw [spektrumParse_store byte state_eq unfinished,
          spektrumParse_store byte other_eq unfinished]
        exact same.receiverData_eq
      · obtain rfl : count = 13 := by omega
        have cells_eq := same.data_eq
        rw [show copiedCells rx = channelCells by rw [copiedCells, state_eq]; rfl,
          spektrumParse_complete byte state_eq, spektrumParse_complete byte other_eq] at cells_eq
        rw [spektrumParse_complete byte state_eq, spektrumParse_complete byte other_eq]
        exact copyChannels_congr cells_eq

/-- A raised flag is down again after one more byte. -/
theorem one_shot {rx : Receiver} (wellFormed : WellFormed rx) {first : UInt8}
    (raised : (spektrumParse first rx).1 = 1) (second : UInt8) :
    (spektrumParse second (spektrumParse first rx).2).1 = 0 := by
  have valid_eq : (spektrumParse first rx).2.valid = 1 := raised
  have idle : (spektrumParse first rx).2.state = 0 := by
    by_contra busy
    rw [(wellFormed.step first).valid_eq busy] at valid_eq
    exact absurd valid_eq (by decide)
  rw [spektrumParse_idle second idle]

/-- In every reachable state the decoder counts at most 15 bytes, the next call stores
and reads inside the buffer, all channels have ten bits, and the flag is up between
frames only and for one call.  The cells that are not stored into keep their bytes, and
those that are not read have no part in the channels. -/
theorem representation {rx : Receiver} (reachable : Reachable rx) :
    (0 ≤ rx.state ∧ rx.state ≤ 15) ∧
      ((∀ cell ∈ storedCells rx, cell < 14) ∧ ∀ byte cell, cell ∉ storedCells rx →
        (spektrumParse byte rx).2.data.toList[cell]? = rx.data.toList[cell]?) ∧
      ((∀ cell ∈ copiedCells rx, cell < 14) ∧ ∀ byte other, SameCopies byte rx other →
        (spektrumParse byte other).2.receiverData = (spektrumParse byte rx).2.receiverData) ∧
      (∀ ix : Fin 7, 0 ≤ rx.receiverData.get ix ∧ rx.receiverData.get ix ≤ 1023) ∧
      (rx.valid = 1 → rx.state = 0) ∧
      ∀ first second, ¬ ((spektrumParse first rx).1 = 1 ∧
        (spektrumParse second (spektrumParse first rx).2).1 = 1) := by
  have represented := represented_of_reachable reachable
  refine ⟨⟨Nat.zero_le _, represented.state_le⟩,
    ⟨fun cell stored => ?_, fun byte cell => data_unstored byte⟩,
    ⟨fun cell copied => ?_, fun byte other => receiverData_congr represented.toWellFormed⟩,
    represented.channels, fun raised => ?_, ?_⟩
  · obtain ⟨payload, rfl⟩ := mem_storedCells stored
    have bound := represented.state_le
    omega
  · have inside : ∀ cell ∈ channelCells, cell < 14 := by decide
    exact inside cell (mem_copiedCells copied)
  · by_contra busy
    rw [represented.valid_eq busy] at raised
    exact absurd raised (by decide)
  · rintro first second ⟨raised, again⟩
    rw [one_shot represented.toWellFormed raised second] at again
    exact absurd again (by decide)

/-- Behind the preamble of a frame, the next byte is the first of the payload. -/
theorem representation_preamble :
    let rx := decoder.final (spektrumInit zeroGlobals) [0x03, 0x01]
    storedCells rx = [0] ∧ ∀ cell ∈ storedCells rx, cell < 14 := by
  have reachable : Reachable (decoder.final (spektrumInit zeroGlobals) [0x03, 0x01]) :=
    (Transducer.Reachable.start ⟨zeroGlobals, rfl⟩).run [0x03, 0x01]
  exact ⟨by decide, (representation reachable).2.1.1⟩

end ChibiCopter.Spektrum
