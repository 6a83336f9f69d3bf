import ChibiCopter.Comms.Link
import Mathlib.Tactic.Linarith

/-!
# The drop rate in hundredths of a percent

The system status is to say how many messages out of ten thousand were lost.  The code
divides the counters first and multiplies the quotient, which is 0 for every loss that is
not total.
-/

namespace ChibiCopter.Comms

/-- Counters of a link that has lost no more than it has received, small enough for the
product. -/
structure Counted (link : Link) : Prop where
  drops_nonneg : 0 ≤ link.commsPacketDrops.toInt
  success_pos : 0 < link.commsPacketSuccess.toInt
  drops_le : link.commsPacketDrops.toInt ≤ link.commsPacketSuccess.toInt
  fits : 10000 * link.commsPacketDrops.toInt ≤ 2147483647

/-- The loss in hundredths of a percent, rounded down. -/
def lossRate (link : Link) : Int :=
  10000 * link.commsPacketDrops.toInt / link.commsPacketSuccess.toInt

/-- The status message says what the loss is, from 0 to 10000, and keeps silent about
none of at least one in ten thousand. -/
structure ReportsLoss (link : Link) : Prop where
  value : ∃ status, commsSendSysStatus link = some status ∧
    status.dropRateComm.toInt = lossRate link ∧
    0 ≤ status.dropRateComm.toInt ∧ status.dropRateComm.toInt ≤ 10000
  noticed : ∀ status, commsSendSysStatus link = some status →
    link.commsPacketSuccess.toInt ≤ 10000 * link.commsPacketDrops.toInt →
      status.dropRateComm ≠ 0

namespace Counted

variable {link : Link}

/-- The counters' quotient, which C takes before it multiplies. -/
theorem quotient_eq (counted : Counted link) :
    link.commsPacketDrops / link.commsPacketSuccess =
      if link.commsPacketDrops.toInt = link.commsPacketSuccess.toInt then 1 else 0 := by
  have nonneg := counted.drops_nonneg
  have positive := counted.success_pos
  have divisor : link.commsPacketSuccess ≠ -1 := by
    intro minus
    rw [minus] at positive
    exact absurd positive (by decide)
  apply Int32.toInt_inj.mp
  rw [Int32.toInt_div_of_ne_right _ _ divisor, Int.tdiv_eq_ediv_of_nonneg nonneg]
  by_cases total : link.commsPacketDrops.toInt = link.commsPacketSuccess.toInt
  · rw [if_pos total, total, Int.ediv_self (Int.ne_of_gt positive)]
    rfl
  · rw [if_neg total, Int.ediv_eq_zero_of_lt nonneg (lt_of_le_of_ne counted.drops_le total)]
    rfl

theorem status_eq (counted : Counted link) :
    ∃ status, commsSendSysStatus link = some status ∧
      status.dropRateComm =
        if link.commsPacketDrops.toInt = link.commsPacketSuccess.toInt then 10000 else 0 := by
  have divisor : link.commsPacketSuccess ≠ 0 := by
    intro zero
    have positive := counted.success_pos
    rw [zero] at positive
    exact absurd positive (by decide)
  refine ⟨_, by rw [commsSendSysStatus, if_neg divisor], ?_⟩
  dsimp only
  rw [counted.quotient_eq]
  split <;> rfl

theorem lossRate_total (counted : Counted link)
    (total : link.commsPacketDrops.toInt = link.commsPacketSuccess.toInt) :
    lossRate link = 10000 := by
  rw [lossRate, total]
  exact Int.mul_ediv_cancel 10000 (Int.ne_of_gt counted.success_pos)

theorem lossRate_eq_zero_iff (counted : Counted link) :
    lossRate link = 0 ↔
      10000 * link.commsPacketDrops.toInt < link.commsPacketSuccess.toInt := by
  have nonneg := counted.drops_nonneg
  have positive := counted.success_pos
  constructor
  · intro zero
    by_contra large
    have quotient : 1 ≤ lossRate link :=
      (Int.le_ediv_iff_mul_le positive).mpr (by omega)
    omega
  · exact fun small => Int.ediv_eq_zero_of_lt (by omega) small

end Counted

/-- The status message reports the loss if and only if it is total, or smaller than one
in ten thousand. -/
theorem reportsLoss_iff {link : Link} (counted : Counted link) :
    ReportsLoss link ↔
      link.commsPacketDrops = link.commsPacketSuccess ∨
        10000 * link.commsPacketDrops.toInt < link.commsPacketSuccess.toInt := by
  obtain ⟨status, sent, rate_eq⟩ := counted.status_eq
  rw [← Int32.toInt_inj]
  by_cases total : link.commsPacketDrops.toInt = link.commsPacketSuccess.toInt
  · rw [if_pos total] at rate_eq
    refine iff_of_true ⟨⟨status, sent, ?_⟩, ?_⟩ (Or.inl total)
    · rw [rate_eq, counted.lossRate_total total]
      decide
    · intro other otherSent _
      rw [sent] at otherSent
      cases otherSent
      rw [rate_eq]
      decide
  · rw [if_neg total] at rate_eq
    rw [or_iff_right total, ← counted.lossRate_eq_zero_iff]
    constructor
    · rintro ⟨⟨other, otherSent, value, -⟩, -⟩
      rw [sent] at otherSent
      cases otherSent
      rw [← value, rate_eq]
      rfl
    · intro zero
      have small := counted.lossRate_eq_zero_iff.mp zero
      refine ⟨⟨status, sent, ?_⟩, ?_⟩
      · rw [rate_eq, zero]
        decide
      · intro other _ large
        omega

/-- One message in two is lost. -/
def halfLost : Link := ⟨1, 2⟩

theorem counted_halfLost : Counted halfLost := ⟨by decide, by decide, by decide, by decide⟩

theorem not_reportsLoss_halfLost : ¬ ReportsLoss halfLost := by
  rw [reportsLoss_iff counted_halfLost]
  decide

/-- The loss of every second message is reported as none. -/
theorem loss_unreported : ¬ ∀ link, Counted link → ReportsLoss link := by
  intro reports
  obtain ⟨status, sent, value, -⟩ := (reports halfLost counted_halfLost).value
  have zero : status.dropRateComm = 0 := by
    cases sent
    decide
  rw [zero] at value
  exact absurd value (by decide)

end ChibiCopter.Comms
