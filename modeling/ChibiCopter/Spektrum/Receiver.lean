import ChibiCopter.Library.Buffer
import ChibiCopter.Library.Transducer
import Mathlib.Data.Nat.Bitwise
import Mathlib.Data.Vector.Basic

/-!
# The Spektrum satellite receiver

`Spektrum.c` decodes the serial stream of the radio receiver one byte at a time.
The globals `rx_state` and `receiver_data` are one record here, and each function
of the source is a function on it under its own name.  `state` is the number of
bytes of the current frame that have been recognised, so that `state - 2` is the
next free cell of the payload buffer.
-/

namespace ChibiCopter.Spektrum

def maxRcChannels : Nat := 7

def throttleChannel : Nat := 4

def spektrumNumBytesInFrame : Nat := 2 * maxRcChannels + 2

/-- `rx_state`.  `long` has 32 bits on the target. -/
structure SpektrumT where
  state : Nat
  data : Vector UInt8 14
  valid : UInt8
  frameNum : Int32
  deriving DecidableEq, Repr

/-- The globals of `Spektrum.c`. -/
structure Receiver extends SpektrumT where
  receiverData : Vector Int 7
  deriving DecidableEq, Repr

/-- `SpektrumInit` clears the channels and the decoder, and leaves the payload
buffer as it finds it. -/
def spektrumInit (globals : Receiver) : Receiver :=
  { globals with
    receiverData := Vector.replicate 7 0
    state := 0
    valid := 0
    frameNum := 0 }

def getSpektrumData (channel : Int) (rx : Receiver) : Int :=
  if channel < 0 ∨ channel ≥ maxRcChannels then 0
  else rx.receiverData.toList.getD channel.toNat 0

def spektrumInvalidateFrame (rx : Receiver) : Receiver := { rx with valid := 0 }

def spektrumValidateFrame (rx : Receiver) : Receiver := { rx with valid := 1 }

def spektrumFrameIsValid (rx : Receiver) : UInt8 := rx.valid

def spektrumGetFrameNum (rx : Receiver) : Int32 := rx.frameNum

/-- One channel word: the upper byte loses its bits 10..15. -/
def channelWord (high low : UInt8) : Int :=
  ((((high &&& 3).toNat <<< 8) ||| low.toNat : Nat) : Int)

/-- The copy loop at the end of a frame. -/
def copyChannels (data : Vector UInt8 14) : Vector Int 7 :=
  Vector.ofFn fun ix : Fin 7 => channelWord data[2 * ix.val] data[2 * ix.val + 1]

/-- The end of the `default` case, entered when the frame is complete. -/
def completeFrame (rx : Receiver) : Receiver :=
  let rx := { rx with receiverData := copyChannels rx.data }
  let rx := spektrumValidateFrame rx
  { rx with frameNum := rx.frameNum + 1, state := 0 }

def spektrumParse (c : UInt8) (rx : Receiver) : UInt8 × Receiver :=
  let rx :=
    match rx.state with
    | 0 =>
        let rx := spektrumInvalidateFrame rx
        { rx with state := if c = 0x03 then 1 else 0 }
    | 1 => { rx with state := if c = 0x01 then 2 else 0 }
    | state =>
        let rx := { rx with data := rx.data.setIfInBounds (state - 2) c, state := state + 1 }
        if rx.state = spektrumNumBytesInFrame then completeFrame rx else rx
  (spektrumFrameIsValid rx, rx)

/-- The decoder as a machine that answers each byte with the returned flag. -/
def decoder : Transducer Receiver UInt8 UInt8 := ⟨spektrumParse⟩

@[simp] theorem decoder_step (c : UInt8) (rx : Receiver) :
    decoder.step c rx = spektrumParse c rx := rfl

/-- The states that some call of `SpektrumInit` leaves. -/
def Initialised (rx : Receiver) : Prop := ∃ globals, rx = spektrumInit globals

def Reachable : Receiver → Prop := decoder.Reachable Initialised

/-! ## What one call does -/

theorem spektrumParse_idle {rx : Receiver} (c : UInt8) (idle : rx.state = 0) :
    spektrumParse c rx = (0, { rx with valid := 0, state := if c = 0x03 then 1 else 0 }) := by
  simp [spektrumParse, idle, spektrumInvalidateFrame, spektrumFrameIsValid]

theorem spektrumParse_preamble {rx : Receiver} (c : UInt8) (preamble : rx.state = 1) :
    spektrumParse c rx = (rx.valid, { rx with state := if c = 0x01 then 2 else 0 }) := by
  simp [spektrumParse, preamble, spektrumFrameIsValid]

/-- A payload byte other than the last is stored and nothing else happens. -/
theorem spektrumParse_store {rx : Receiver} (c : UInt8) {count : Nat}
    (payload : rx.state = count + 2) (unfinished : count < 13) :
    spektrumParse c rx =
      (rx.valid, { rx with data := rx.data.setIfInBounds count c, state := count + 3 }) := by
  have more : count + 1 + 1 + 1 ≠ spektrumNumBytesInFrame := by
    rw [spektrumNumBytesInFrame, maxRcChannels]
    omega
  simp [spektrumParse, payload, more, spektrumFrameIsValid]

/-- The last payload byte publishes all channels at once and raises the flag. -/
theorem spektrumParse_complete {rx : Receiver} (c : UInt8) (payload : rx.state = 15) :
    spektrumParse c rx =
      (1, { rx with
        data := rx.data.setIfInBounds 13 c
        receiverData := copyChannels (rx.data.setIfInBounds 13 c)
        valid := 1
        frameNum := rx.frameNum + 1
        state := 0 }) := by
  simp [spektrumParse, payload, spektrumNumBytesInFrame, maxRcChannels, completeFrame,
    spektrumValidateFrame, spektrumFrameIsValid]

/-! ## Frames and the channels they carry -/

/-- The fourteen bytes between one preamble and the next frame. -/
abbrev Payload := Vector UInt8 14

/-- A frame as it is sent. -/
def frameBytes (payload : Payload) : List UInt8 := 0x03 :: 0x01 :: payload.toList

@[simp] theorem length_frameBytes (payload : Payload) : (frameBytes payload).length = 16 := by
  simp [frameBytes]

/-- The channels of a payload: big-endian words modulo 1024. -/
def channels (payload : Payload) : Vector Int 7 :=
  Vector.ofFn fun ix : Fin 7 =>
    (((payload[2 * ix.val].toNat % 4) * 256 + payload[2 * ix.val + 1].toNat : Nat) : Int)

theorem channelWord_eq (high low : UInt8) :
    channelWord high low = (((high.toNat % 4) * 256 + low.toNat : Nat) : Int) := by
  have masked : (high &&& 3).toNat = high.toNat % 4 := by
    rw [UInt8.toNat_and]
    exact Nat.and_two_pow_sub_one_eq_mod high.toNat 2
  rw [channelWord, masked, ← Nat.shiftLeft_add_eq_or_of_lt low.toNat_lt, Nat.shiftLeft_eq]

/-- The masks and shifts of the copy loop compute the channels of the payload. -/
theorem copyChannels_eq (data : Payload) : copyChannels data = channels data := by
  simp only [copyChannels, channels, channelWord_eq]

theorem channels_nonneg (payload : Payload) (ix : Fin 7) : 0 ≤ (channels payload)[ix] := by
  simp only [channels, Fin.getElem_fin, Vector.getElem_ofFn]
  exact Int.natCast_nonneg _

theorem channels_lt (payload : Payload) (ix : Fin 7) : (channels payload)[ix] < 1024 := by
  have low := payload[2 * ix.val + 1].toNat_lt
  simp only [channels, Fin.getElem_fin, Vector.getElem_ofFn]
  omega

/-- Reading a channel number in range reads that cell of `receiver_data`. -/
theorem getSpektrumData_of_lt (rx : Receiver) (ix : Fin 7) :
    getSpektrumData (ix.val : Int) rx = rx.receiverData[ix] := by
  have inRange : ¬ ((ix.val : Int) < 0 ∨ (ix.val : Int) ≥ maxRcChannels) := by
    rw [maxRcChannels]
    omega
  rw [getSpektrumData, if_neg inRange, Int.toNat_natCast, List.getD_eq_getElem?_getD]
  simp

end ChibiCopter.Spektrum
