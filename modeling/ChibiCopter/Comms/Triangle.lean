import ChibiCopter.Comms.Link
import Mathlib.Data.Nat.GCD.Basic
import Mathlib.Data.Nat.Prime.Basic
import Mathlib.Tactic.Ring

/-!
# The counters behind a library that counts

The library reports with each message how many there have been, in 16 bits.  The success
counter adds these numbers up.  Below 2 ^ 16 messages it is a triangular number, which no
drop counter is likely to reach: the drop rate is reported as 0 until the errors outnumber
it.  Beyond, the reported numbers start again, and the counter itself wraps; it is 0 again
behind 2 ^ 33 - 1 messages and not before.
-/

namespace ChibiCopter.Comms

/-- The library reports the number of messages so far with each message. -/
def CountsSoFar (results : List ParseResult) : Prop :=
  ∀ front parsed back, results = front ++ parsed :: back → parsed.received ≠ 0 →
    parsed.status.packetRxSuccessCount = UInt16.ofNat (messageCount (front ++ [parsed]))

theorem CountsSoFar.front {front back : List ParseResult} (counts : CountsSoFar (front ++ back)) :
    CountsSoFar front := by
  rintro earlier parsed later rfl complete
  refine counts earlier parsed (later ++ back) ?_ complete
  rw [List.append_assoc, List.cons_append]

theorem CountsSoFar.concat {results : List ParseResult} (counts : CountsSoFar results)
    {parsed : ParseResult} (counted : parsed.received ≠ 0 → parsed.status.packetRxSuccessCount =
      UInt16.ofNat (messageCount (results ++ [parsed]))) : CountsSoFar (results ++ [parsed]) := by
  intro front other back split complete
  rcases List.eq_nil_or_concat' back with rfl | ⟨back, last, rfl⟩
  · obtain ⟨rfl, same⟩ := List.append_inj' split rfl
    cases same
    exact counted complete
  · rw [← List.cons_append, ← List.append_assoc] at split
    obtain ⟨rfl, -⟩ := List.append_inj' split rfl
    exact counts front other back rfl complete

theorem countsSoFar_nil : CountsSoFar [] := fun front parsed back split => by simp at split

/-! ## The sum of the success counts -/

/-- Twice the sum of the numbers up to some count, each modulo 2 ^ 16: whole rounds of
2 ^ 16 numbers, and the triangle of the rest. -/
def twiceCounted (count : Nat) : Nat :=
  count / 2 ^ 16 * (2 ^ 16 * (2 ^ 16 - 1)) + count % 2 ^ 16 * (count % 2 ^ 16 + 1)

theorem twiceCounted_succ (count : Nat) :
    twiceCounted (count + 1) = twiceCounted count + 2 * ((count + 1) % 2 ^ 16) := by
  by_cases last : count % 2 ^ 16 = 2 ^ 16 - 1
  · have round : (count + 1) / 2 ^ 16 = count / 2 ^ 16 + 1 := by omega
    have first : (count + 1) % 2 ^ 16 = 0 := by omega
    rw [twiceCounted, twiceCounted, round, first, last]
    omega
  · have same : (count + 1) / 2 ^ 16 = count / 2 ^ 16 := by omega
    have next : (count + 1) % 2 ^ 16 = count % 2 ^ 16 + 1 := by omega
    rw [twiceCounted, twiceCounted, same, next]
    ring

theorem twiceCounted_of_lt {count : Nat} (few : count < 2 ^ 16) :
    twiceCounted count = count * (count + 1) := by
  rw [twiceCounted, Nat.div_eq_of_lt few, Nat.mod_eq_of_lt few, Nat.zero_mul, Nat.zero_add]

/-- Whatever the number of messages, their success counts add up so. -/
theorem two_mul_successTotal {results : List ParseResult} (counts : CountsSoFar results) :
    2 * successTotal results = twiceCounted (messageCount results) := by
  induction results using List.reverseRecOn with
  | nil => rfl
  | append_singleton results parsed ih =>
      have before := ih counts.front
      rw [messageCount_concat, successTotal_concat]
      by_cases complete : parsed.received ≠ 0
      · have count := counts results parsed [] rfl complete
        rw [messageCount_concat, if_pos complete] at count
        rw [if_pos complete, if_pos complete, twiceCounted_succ, count, UInt16.toNat_ofNat',
          Nat.mul_add, before]
      · rw [if_neg complete, if_neg complete]
        exact before

theorem two_mul_successTotal_of_few {results : List ParseResult} (counts : CountsSoFar results)
    (few : messageCount results < 2 ^ 16) :
    2 * successTotal results = messageCount results * (messageCount results + 1) := by
  rw [two_mul_successTotal counts, twiceCounted_of_lt few]

/-- The sum stays within the counter. -/
theorem successTotal_lt {results : List ParseResult} (counts : CountsSoFar results)
    (few : messageCount results < 2 ^ 16) : successTotal results < 2 ^ 31 := by
  have triangle := two_mul_successTotal_of_few counts few
  have square : messageCount results * (messageCount results + 1) ≤ 65535 * 65536 :=
    Nat.mul_le_mul (by omega) (by omega)
  omega

theorem commsPacketSuccess_linkAfter {results : List ParseResult} (counts : CountsSoFar results)
    (few : messageCount results < 2 ^ 16) :
    (linkAfter results).commsPacketSuccess.toInt = successTotal results := by
  rw [linkAfter_eq]
  exact Int32.toInt_ofNat_of_lt (successTotal_lt counts few)

/-! ## When the division is defined -/

/-- A product of neighbours below 2 ^ 16 is divisible by 2 ^ 16 at the ends only: one of the
two is odd. -/
theorem eq_of_dvd_neighbours {rest : Nat} (below : rest < 2 ^ 16)
    (divides : 2 ^ 16 ∣ rest * (rest + 1)) : rest = 0 ∨ rest = 2 ^ 16 - 1 := by
  rcases Nat.even_or_odd rest with even | odd
  · have coprime : Nat.Coprime (2 ^ 16) (rest + 1) :=
      Nat.Coprime.pow_left 16 (Nat.coprime_two_left.mpr even.add_one)
    have whole := coprime.dvd_mul_right.mp divides
    omega
  · have coprime : Nat.Coprime (2 ^ 16) rest :=
      Nat.Coprime.pow_left 16 (Nat.coprime_two_left.mpr odd)
    have whole := coprime.dvd_mul_left.mp divides
    omega

/-- The sum is 0 modulo 2 ^ 32 for multiples of 2 ^ 33 and the numbers in front of them. -/
theorem dvd_twiceCounted_iff (count : Nat) :
    2 ^ 33 ∣ twiceCounted count ↔ 2 ^ 33 ∣ count ∨ 2 ^ 33 ∣ count + 1 := by
  have odd : Nat.Coprime (2 ^ 33) (2 ^ 16 - 1) := by decide
  have parts := Nat.div_add_mod count (2 ^ 16)
  have below : count % 2 ^ 16 < 2 ^ 16 := Nat.mod_lt _ (by decide)
  by_cases first : count % 2 ^ 16 = 0
  · have product : twiceCounted count = count * (2 ^ 16 - 1) := by
      rw [twiceCounted, first]
      omega
    rw [product, odd.dvd_mul_right]
    omega
  · by_cases last : count % 2 ^ 16 = 2 ^ 16 - 1
    · have product : twiceCounted count = (count + 1) * (2 ^ 16 - 1) := by
        rw [twiceCounted, last]
        omega
      rw [product, odd.dvd_mul_right]
      omega
    · refine iff_of_false (fun divides => ?_) (by omega)
      have rounds : 2 ^ 16 ∣ count / 2 ^ 16 * (2 ^ 16 * (2 ^ 16 - 1)) :=
        (Nat.dvd_mul_right _ _).mul_left _
      have whole : 2 ^ 16 ∣ count % 2 ^ 16 * (count % 2 ^ 16 + 1) :=
        (Nat.dvd_add_right rounds).mp ((by decide : 2 ^ 16 ∣ 2 ^ 33).trans divides)
      exact (eq_of_dvd_neighbours below whole).elim first last

/-- The division is undefined for these numbers of messages, and only for them. -/
theorem status_none_iff {results : List ParseResult} (counts : CountsSoFar results) :
    commsSendSysStatus (linkAfter results) = none ↔
      2 ^ 33 ∣ messageCount results ∨ 2 ^ 33 ∣ messageCount results + 1 := by
  rw [commsSendSysStatus_eq_none_iff, linkAfter_eq, ofNat_eq_zero_iff, ← dvd_twiceCounted_iff,
    ← two_mul_successTotal counts]
  omega

/-- Below 2 ^ 33 - 1 messages it is undefined before the first of them, and only then. -/
theorem status_none_iff_of_few {results : List ParseResult} (counts : CountsSoFar results)
    (few : messageCount results < 2 ^ 33 - 1) :
    commsSendSysStatus (linkAfter results) = none ↔ messageCount results = 0 := by
  rw [status_none_iff counts]
  omega

/-- Fewer errors than the triangular number are reported as none. -/
theorem dropRateComm_eq_zero {results : List ParseResult} (counts : CountsSoFar results)
    (few : messageCount results < 2 ^ 16)
    (below : 2 * dropTotal results < messageCount results * (messageCount results + 1))
    {status : SysStatus} (sent : commsSendSysStatus (linkAfter results) = some status) :
    status.dropRateComm = 0 := by
  have triangle := two_mul_successTotal_of_few counts few
  have bound := successTotal_lt counts few
  have success_eq := commsPacketSuccess_linkAfter counts few
  have drops_eq : (linkAfter results).commsPacketDrops.toInt = dropTotal results := by
    rw [linkAfter_eq]
    exact Int32.toInt_ofNat_of_lt (by omega)
  have quotient : (linkAfter results).commsPacketDrops / (linkAfter results).commsPacketSuccess =
      0 := by
    have divisor : (linkAfter results).commsPacketSuccess ≠ -1 := by
      intro minus
      rw [minus] at success_eq
      exact absurd success_eq (by rw [show (-1 : Int32).toInt = -1 from rfl]; omega)
    apply Int32.toInt_inj.mp
    rw [Int32.toInt_div_of_ne_right _ _ divisor, drops_eq, success_eq, ← Int.ofNat_tdiv,
      Nat.div_eq_of_lt (by omega)]
    rfl
  unfold commsSendSysStatus at sent
  split at sent
  · cases sent
  · cases sent
    rw [quotient]
    rfl

end ChibiCopter.Comms
