import ChibiCopter.Comms.Triangle
import ChibiCopter.Library.Transducer
import Mathlib.Tactic.IntervalCases

/-!
# What the link counters count

The library reports the number of all messages so far with every byte, and the parse
errors at that byte alone.  The thread adds both when a message is complete.  The
success counter therefore runs through 1, 1 + 2, 1 + 2 + 3 and so on, and errors at
bytes that complete no message are lost.
-/

namespace ChibiCopter.Comms

/-- The number of parse errors that some results report. -/
def parseErrors (results : List ParseResult) : Nat :=
  (results.map fun parsed => parsed.status.packetRxDropCount.toNat).sum

section Library

/-! ## The thread on top of the library -/

variable {L : Type*} (mavlinkParseChar : Transducer L UInt8 ParseResult)

/-- One round of the thread's loop. -/
def threadStep (c : UInt8) (state : L × Link) : ParseResult × (L × Link) :=
  let (parsed, library) := mavlinkParseChar.step c state.1
  (parsed, (library, comms parsed state.2))

def thread : Transducer (L × Link) UInt8 ParseResult := ⟨threadStep mavlinkParseChar⟩

/-- The library reports the number of messages so far with every byte. -/
def CountsMessages (start : L) : Prop :=
  ∀ bytes c,
    (mavlinkParseChar.step c (mavlinkParseChar.final start bytes)).1.status.packetRxSuccessCount =
      UInt16.ofNat (messageCount (mavlinkParseChar.outputs start (bytes ++ [c])))

/-- Behind some bytes, the counters are the numbers of messages and of parse errors. -/
structure CountsOnce (start : L) (bytes : List UInt8) : Prop where
  success : ((thread mavlinkParseChar).final (start, zeroLink) bytes).2.commsPacketSuccess.toInt =
    messageCount (mavlinkParseChar.outputs start bytes)
  drops : ((thread mavlinkParseChar).final (start, zeroLink) bytes).2.commsPacketDrops.toInt =
    parseErrors (mavlinkParseChar.outputs start bytes)

variable {mavlinkParseChar} {start : L}

/-- The thread's counters are those behind the library's answers. -/
theorem thread_final (bytes : List UInt8) :
    (thread mavlinkParseChar).final (start, zeroLink) bytes =
      (mavlinkParseChar.final start bytes, linkAfter (mavlinkParseChar.outputs start bytes)) := by
  refine (thread mavlinkParseChar).final_history (fun earlier state =>
    state = (mavlinkParseChar.final start earlier,
      linkAfter (mavlinkParseChar.outputs start earlier))) rfl ?_ bytes
  intro earlier c state_eq
  rw [state_eq, mavlinkParseChar.final_concat, mavlinkParseChar.outputs_concat, linkAfter_concat]
  rfl

/-! ## The sums -/

theorem parseErrors_concat (results : List ParseResult) (parsed : ParseResult) :
    parseErrors (results ++ [parsed]) =
      parseErrors results + parsed.status.packetRxDropCount.toNat := by
  rw [parseErrors, List.map_append, List.sum_append, List.map_singleton, List.sum_singleton]
  rfl

theorem CountsMessages.countsSoFar (counts : CountsMessages mavlinkParseChar start)
    (bytes : List UInt8) : CountsSoFar (mavlinkParseChar.outputs start bytes) := by
  induction bytes using List.reverseRecOn with
  | nil => exact countsSoFar_nil
  | append_singleton bytes c ih =>
      have count := counts bytes c
      rw [mavlinkParseChar.outputs_concat] at count ⊢
      exact ih.concat fun _ => count

/-- The errors that the thread adds are at most all errors, and fewer if one is reported
with a byte that completes no message. -/
theorem dropTotal_eq_iff (results : List ParseResult) :
    dropTotal results ≤ parseErrors results ∧
      (dropTotal results = parseErrors results ↔
        ∀ parsed ∈ results, parsed.received = 0 → parsed.status.packetRxDropCount = 0) := by
  induction results using List.reverseRecOn with
  | nil => exact ⟨Nat.le_refl 0, ⟨fun _ => List.forall_mem_nil _, fun _ => rfl⟩⟩
  | append_singleton results parsed ih =>
      obtain ⟨below, same_iff⟩ := ih
      rw [dropTotal_concat, parseErrors_concat, List.forall_mem_append, ← same_iff,
        List.forall_mem_singleton]
      by_cases complete : parsed.received = 0
      · have none_iff : parsed.status.packetRxDropCount = 0 ↔
            parsed.status.packetRxDropCount.toNat = 0 := UInt16.toNat_inj.symm
        rw [if_neg (not_not.mpr complete), none_iff]
        refine ⟨by omega, fun same => ⟨by omega, fun _ => by omega⟩, fun ⟨same, silent⟩ => ?_⟩
        have none := silent complete
        omega
      · rw [if_pos complete]
        exact ⟨by omega, fun same => ⟨by omega, fun zero => absurd zero complete⟩, by omega⟩

/-- A message reports less than 2 ^ 16 errors. -/
theorem dropTotal_lt {results : List ParseResult} (few : messageCount results ≤ 1) :
    dropTotal results < 2 ^ 16 := by
  rw [messageCount] at few
  rw [dropTotal]
  cases found : messages results with
  | nil => decide
  | cons parsed rest =>
      rw [found, List.length_cons] at few
      have alone : rest = [] := List.eq_nil_of_length_eq_zero (by omega)
      rw [alone, List.map_singleton, List.sum_singleton]
      exact parsed.status.packetRxDropCount.toNat_lt

/-- Only the first two triangular numbers are their own index. -/
theorem triangle_eq_iff {total count : Nat} (triangle : 2 * total = count * (count + 1)) :
    total = count ↔ count ≤ 1 := by
  constructor
  · intro same
    by_contra more
    have large : count * 3 ≤ count * (count + 1) := Nat.mul_le_mul_left count (by omega)
    omega
  · intro few
    interval_cases count <;> omega

/-- The counters count each event once if and only if at most one message has been
received and no error has been reported with a byte that completes none. -/
theorem countsOnce_iff (counts : CountsMessages mavlinkParseChar start) (bytes : List UInt8)
    (few : messageCount (mavlinkParseChar.outputs start bytes) < 2 ^ 16) :
    CountsOnce mavlinkParseChar start bytes ↔
      messageCount (mavlinkParseChar.outputs start bytes) ≤ 1 ∧
        ∀ parsed ∈ mavlinkParseChar.outputs start bytes,
          parsed.received = 0 → parsed.status.packetRxDropCount = 0 := by
  have triangle := two_mul_successTotal_of_few (counts.countsSoFar bytes) few
  have bound := successTotal_lt (counts.countsSoFar bytes) few
  have success_eq : ((thread mavlinkParseChar).final (start, zeroLink)
      bytes).2.commsPacketSuccess.toInt =
        (successTotal (mavlinkParseChar.outputs start bytes) : Int) := by
    rw [thread_final, linkAfter_eq]
    exact Int32.toInt_ofNat_of_lt bound
  have drops_eq (small : dropTotal (mavlinkParseChar.outputs start bytes) < 2 ^ 16) :
      ((thread mavlinkParseChar).final (start, zeroLink) bytes).2.commsPacketDrops.toInt =
        (dropTotal (mavlinkParseChar.outputs start bytes) : Int) := by
    rw [thread_final, linkAfter_eq]
    exact Int32.toInt_ofNat_of_lt (by omega)
  obtain ⟨-, errors_iff⟩ := dropTotal_eq_iff (mavlinkParseChar.outputs start bytes)
  constructor
  · rintro ⟨success, drops⟩
    rw [success_eq, Int.ofNat_inj, triangle_eq_iff triangle] at success
    rw [drops_eq (dropTotal_lt success), Int.ofNat_inj] at drops
    exact ⟨success, errors_iff.mp drops⟩
  · rintro ⟨single, silent⟩
    constructor
    · rw [success_eq, Int.ofNat_inj]
      exact (triangle_eq_iff triangle).mpr single
    · rw [drops_eq (dropTotal_lt single), Int.ofNat_inj]
      exact errors_iff.mpr silent

end Library

/-! ## Whole packets -/

/-- A library that recognises one packet, as the MAVLink library does on a stream of
whole packets of one kind. -/
def packetLibrary (packet : List UInt8) : Transducer (Nat × UInt16) UInt8 ParseResult where
  step c state :=
    if packet[state.1]? = some c then
      if state.1 + 1 = packet.length then (⟨1, ⟨state.2 + 1, 0⟩⟩, (0, state.2 + 1))
      else (⟨0, ⟨state.2, 0⟩⟩, (state.1 + 1, state.2))
    else (⟨0, ⟨state.2, 0⟩⟩, (0, state.2))

/-- The library keeps the number of messages and reports it. -/
theorem packetLibrary_step (packet : List UInt8) (c : UInt8) (state : Nat × UInt16) :
    ((packetLibrary packet).step c state).1.status.packetRxSuccessCount =
        ((packetLibrary packet).step c state).2.2 ∧
      ((packetLibrary packet).step c state).2.2 =
        state.2 + if ((packetLibrary packet).step c state).1.received ≠ 0 then 1 else 0 := by
  unfold packetLibrary
  dsimp only
  split
  · split
    · exact ⟨rfl, rfl⟩
    · exact ⟨rfl, (UInt16.add_zero state.2).symm⟩
  · exact ⟨rfl, (UInt16.add_zero state.2).symm⟩

theorem countsMessages_packetLibrary (packet : List UInt8) :
    CountsMessages (packetLibrary packet) (0, 0) := by
  have kept : ∀ bytes, ((packetLibrary packet).final (0, 0) bytes).2 =
      UInt16.ofNat (messageCount ((packetLibrary packet).outputs (0, 0) bytes)) := by
    intro bytes
    refine (packetLibrary packet).final_history (fun earlier state => state.2 =
      UInt16.ofNat (messageCount ((packetLibrary packet).outputs (0, 0) earlier))) rfl ?_ bytes
    intro earlier c count_eq
    rw [(packetLibrary_step packet c _).2, count_eq, Transducer.outputs_concat,
      messageCount_concat, UInt16.ofNat_add]
    split <;> rfl
  intro bytes c
  rw [(packetLibrary_step packet c _).1, ← Transducer.final_concat]
  exact kept (bytes ++ [c])

/-- A heartbeat of a ground station. -/
def heartbeat : List UInt8 :=
  [0xFE, 9, 0, 0xFF, 0, 0, 0, 0, 0, 0, 6, 8, 0, 4, 3, 0xC0, 0xBC]

theorem countsOnce_heartbeat : CountsOnce (packetLibrary heartbeat) (0, 0) heartbeat :=
  (countsOnce_iff (countsMessages_packetLibrary heartbeat) heartbeat (by decide +kernel)).mpr
    (by decide +kernel)

/-- Two heartbeats make three. -/
theorem counted_twice : ¬ ∀ (L : Type) (mavlinkParseChar : Transducer L UInt8 ParseResult)
    (start : L), CountsMessages mavlinkParseChar start → ∀ bytes,
      messageCount (mavlinkParseChar.outputs start bytes) < 2 ^ 16 →
        CountsOnce mavlinkParseChar start bytes := by
  intro counts
  have success := (counts (Nat × UInt16) (packetLibrary heartbeat) (0, 0)
    (countsMessages_packetLibrary heartbeat) (heartbeat ++ heartbeat) (by decide +kernel)).success
  exact absurd success (by decide +kernel)

end ChibiCopter.Comms
