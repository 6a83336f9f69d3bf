import Mathlib.Algebra.BigOperators.Group.List.Basic
import Mathlib.Algebra.Ring.Nat
import Mathlib.Data.List.Induction

/-!
# The counters of the ground link

The Comms thread gives every byte to `mavlink_parse_char` and adds to its two counters
when a message is complete.  What the library answers to a byte is a `ParseResult`
here.  The counters are sums over the results that report a message, modulo 2 ^ 32.
-/

namespace ChibiCopter.Comms

/-- The fields of `mavlink_status_t` that the thread reads. -/
structure MavlinkStatus where
  packetRxSuccessCount : UInt16
  packetRxDropCount : UInt16
  deriving DecidableEq, Repr

/-- The result of `mavlink_parse_char` and the status that it leaves. -/
structure ParseResult where
  received : UInt8
  status : MavlinkStatus
  deriving DecidableEq, Repr

/-- The counters of `Comms.c`, which are 0 before the program runs. -/
structure Link where
  commsPacketDrops : Int32
  commsPacketSuccess : Int32
  deriving DecidableEq, Repr

def zeroLink : Link := ⟨0, 0⟩

/-- The conversion of an `uint16_t` summand to `int`. -/
def toInt (count : UInt16) : Int32 := Int32.ofNat count.toNat

/-- The body of the thread's loop behind the call of the library.  No branch of the
switch on the message type has an effect. -/
def comms (parsed : ParseResult) (link : Link) : Link :=
  if parsed.received ≠ 0 then
    { link with
      commsPacketDrops := link.commsPacketDrops + toInt parsed.status.packetRxDropCount
      commsPacketSuccess := link.commsPacketSuccess + toInt parsed.status.packetRxSuccessCount }
  else link

/-- The arguments of `mavlink_msg_sys_status_send` behind the channel. -/
structure SysStatus where
  sensorsPresent : UInt32
  sensorsEnabled : UInt32
  sensorsHealth : UInt32
  load : Int32
  voltageBattery : Int32
  currentBattery : Int32
  batteryRemaining : Int32
  dropRateComm : Int32
  errorsComm : Int32
  errorsCount1 : Int32
  errorsCount2 : Int32
  errorsCount3 : Int32
  errorsCount4 : Int32
  deriving DecidableEq, Repr

/-- `none` stands for the division by zero, which C leaves undefined. -/
def commsSendSysStatus (link : Link) : Option SysStatus :=
  let sensorsPresent := 0xFC23
  let sensorsEnabled := sensorsPresent
  if link.commsPacketSuccess = 0 then none
  else
    some ⟨sensorsPresent, sensorsEnabled, sensorsEnabled, 0, 11100, -1, -1,
      link.commsPacketDrops / link.commsPacketSuccess * 10000, link.commsPacketDrops, 0, 0, 0, 0⟩

theorem commsSendSysStatus_eq_none_iff (link : Link) :
    commsSendSysStatus link = none ↔ link.commsPacketSuccess = 0 := by
  by_cases zero : link.commsPacketSuccess = 0
  · simp [commsSendSysStatus, zero]
  · simp [commsSendSysStatus, zero]

/-! ## The counters as sums -/

/-- The results that report a message. -/
def messages (results : List ParseResult) : List ParseResult :=
  results.filter fun parsed => parsed.received ≠ 0

/-- The number of messages that some results report. -/
def messageCount (results : List ParseResult) : Nat := (messages results).length

/-- The sum of the success counts reported with messages. -/
def successTotal (results : List ParseResult) : Nat :=
  ((messages results).map fun parsed => parsed.status.packetRxSuccessCount.toNat).sum

/-- The sum of the drop counts reported with messages. -/
def dropTotal (results : List ParseResult) : Nat :=
  ((messages results).map fun parsed => parsed.status.packetRxDropCount.toNat).sum

/-- The counters behind some results. -/
def linkAfter (results : List ParseResult) : Link :=
  results.foldl (fun link parsed => comms parsed link) zeroLink

theorem linkAfter_concat (results : List ParseResult) (parsed : ParseResult) :
    linkAfter (results ++ [parsed]) = comms parsed (linkAfter results) := by
  rw [linkAfter, List.foldl_append]
  rfl

theorem messages_concat (results : List ParseResult) (parsed : ParseResult) :
    messages (results ++ [parsed]) =
      messages results ++ if parsed.received ≠ 0 then [parsed] else [] := by
  rw [messages, List.filter_append]
  by_cases complete : parsed.received = 0
  · simp [messages, complete]
  · simp [messages, complete]

theorem messageCount_concat (results : List ParseResult) (parsed : ParseResult) :
    messageCount (results ++ [parsed]) =
      messageCount results + if parsed.received ≠ 0 then 1 else 0 := by
  rw [messageCount, messages_concat, List.length_append, messageCount]
  split <;> rfl

theorem successTotal_concat (results : List ParseResult) (parsed : ParseResult) :
    successTotal (results ++ [parsed]) =
      successTotal results +
        if parsed.received ≠ 0 then parsed.status.packetRxSuccessCount.toNat else 0 := by
  rw [successTotal, messages_concat, List.map_append, List.sum_append, successTotal]
  split
  · rw [List.map_singleton, List.sum_singleton]
  · rfl

theorem dropTotal_concat (results : List ParseResult) (parsed : ParseResult) :
    dropTotal (results ++ [parsed]) =
      dropTotal results +
        if parsed.received ≠ 0 then parsed.status.packetRxDropCount.toNat else 0 := by
  rw [dropTotal, messages_concat, List.map_append, List.sum_append, dropTotal]
  split
  · rw [List.map_singleton, List.sum_singleton]
  · rfl

/-- The counters are the sums over the messages. -/
theorem linkAfter_eq (results : List ParseResult) :
    linkAfter results =
      ⟨Int32.ofNat (dropTotal results), Int32.ofNat (successTotal results)⟩ := by
  induction results using List.reverseRecOn with
  | nil => rfl
  | append_singleton results parsed ih =>
      rw [linkAfter_concat, ih, dropTotal_concat, successTotal_concat, comms]
      by_cases complete : parsed.received ≠ 0
      · rw [if_pos complete, if_pos complete, if_pos complete, Int32.ofNat_add, Int32.ofNat_add]
        rfl
      · rw [if_neg complete, if_neg complete, if_neg complete]
        rfl

theorem ofNat_eq_zero_iff (total : Nat) : Int32.ofNat total = 0 ↔ total % 2 ^ 32 = 0 := by
  rw [← Int32.toBitVec_inj, Int32.toBitVec_ofNat', ← BitVec.toNat_inj, BitVec.toNat_ofNat]
  rfl

end ChibiCopter.Comms
