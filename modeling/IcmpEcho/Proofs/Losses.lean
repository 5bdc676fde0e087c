/-
# The loss of a summary

The summary of a target names the requests that were not answered, in percent of those that were
sent.  The product on the way there is taken in a word of 32 bits (`lossPercent`), as the counters
are.

**The percentage is right exactly as long as the product fits** (`summary_loss`): up to 42949672
requests without an answer.  From one more on it is too small, however many requests were sent.
It is never too large, so it stays within a hundred, and a hundred still means that nothing was
answered; but nought means nothing any more.
-/
import IcmpEcho.Engine.Serving

namespace IcmpEcho

/-- The part of some requests that were not answered, in percent, rounded down. -/
def percentLost (transmitted received : Nat) : Nat := 100 * (transmitted - received) / transmitted

/-- The most requests without an answer of which the percentage is right. -/
def mostLost : Nat := 42949672

section Percentages

variable {transmitted received : Nat}

theorem percentLost_le (transmitted received : Nat) : percentLost transmitted received ≤ 100 := by
  unfold percentLost
  exact Nat.div_le_of_le_mul (by omega)

theorem received_of_percentLost (hle : received ≤ transmitted)
    (h : percentLost transmitted received = 100) : received = 0 := by
  unfold percentLost at h
  have hmul := Nat.div_mul_le_self (100 * (transmitted - received)) transmitted
  rw [h] at hmul
  omega

theorem few_of_percentLost (hpos : 0 < transmitted) :
    percentLost transmitted received = 0 ↔ 100 * (transmitted - received) < transmitted := by
  unfold percentLost
  rw [Nat.div_eq_zero_iff]
  omega

end Percentages

variable {transmitted received : UInt32}

/-- The counters are subtracted as numbers, but their product with a hundred is cut to 32 bits. -/
theorem lossPercent_eq (hsent : transmitted ≠ 0) (hle : received ≤ transmitted) :
    (lossPercent transmitted received).toNat
      = 100 * (transmitted.toNat - received.toNat) % 4294967296 / transmitted.toNat := by
  have hle' : received.toNat ≤ transmitted.toNat := UInt32.le_iff_toNat_le.mp hle
  rw [lossPercent, if_neg hsent, UInt32.toNat_div, UInt32.toNat_mul, UInt32.toNat_sub_of_le _ _ hle,
    Nat.mul_comm]
  rfl

theorem lossPercent_le (hsent : transmitted ≠ 0) (hle : received ≤ transmitted) :
    (lossPercent transmitted received).toNat ≤ percentLost transmitted.toNat received.toNat := by
  rw [lossPercent_eq hsent hle]
  exact Nat.div_le_div_right (Nat.mod_le _ _)

/-- **The percentage is right exactly as long as the product fits the word.**  A product that does
not fit loses 2³² at least, which is more than was sent. -/
theorem lossPercent_eq_iff (hsent : transmitted ≠ 0) (hle : received ≤ transmitted) :
    (lossPercent transmitted received).toNat = percentLost transmitted.toNat received.toNat ↔
      transmitted.toNat - received.toNat ≤ mostLost := by
  have hpos : 0 < transmitted.toNat := by
    rw [Nat.pos_iff_ne_zero]
    exact fun h => hsent (UInt32.toNat_inj.mp h)
  have hlt := transmitted.toNat_lt
  rw [lossPercent_eq hsent hle, percentLost, mostLost]
  generalize transmitted.toNat = sent at *
  generalize received.toNat = answered at *
  constructor
  · intro h
    refine Nat.le_of_not_lt fun hmany => ?_
    -- what is cut off is at least one more time what was sent
    have hcut : 100 * (sent - answered) % 4294967296 + sent ≤ 100 * (sent - answered) := by omega
    have hstep := Nat.div_le_div_right (c := sent) hcut
    rw [Nat.add_div_right _ hpos, h] at hstep
    exact Nat.not_succ_le_self _ hstep
  · intro hfew
    rw [Nat.mod_eq_of_lt (by omega)]

namespace Target

/-- **The percentage of a summary.**  A target that was sent something, and has no more answers
than that, has a line with these counters and a percentage.  It is never more than the part that
was lost; it is that part exactly if at most `mostLost` requests were lost; and a hundred means
that none was answered. -/
theorem summary_loss (target : Target) (hsent : target.transmitted ≠ 0)
    (hle : target.received ≤ target.transmitted) :
    ∃ loss : Nat,
      target.summary[2]? = some (toString target.transmitted.toNat ++ " packets transmitted, "
        ++ toString target.received.toNat ++ " received, " ++ toString loss ++ "% packet loss") ∧
      loss ≤ percentLost target.transmitted.toNat target.received.toNat ∧
      percentLost target.transmitted.toNat target.received.toNat ≤ 100 ∧
      (loss = 100 → target.received = 0) ∧
      (loss = percentLost target.transmitted.toNat target.received.toNat ↔
        target.transmitted.toNat - target.received.toNat ≤ mostLost) ∧
      (target.transmitted.toNat - target.received.toNat ≤ mostLost → loss = 0 →
        100 * (target.transmitted.toNat - target.received.toNat) < target.transmitted.toNat) := by
  have hpos : 0 < target.transmitted.toNat := by
    rw [Nat.pos_iff_ne_zero]
    exact fun h => hsent (UInt32.toNat_inj.mp h)
  have hsmall := lossPercent_le hsent hle
  have hexact := lossPercent_eq_iff hsent hle
  have hmost := percentLost_le target.transmitted.toNat target.received.toNat
  refine ⟨(lossPercent target.transmitted target.received).toNat, rfl, hsmall, hmost, ?_, hexact, ?_⟩
  · intro hall
    have hlost : percentLost target.transmitted.toNat target.received.toNat = 100 := by omega
    exact UInt32.toNat_inj.mp
      (received_of_percentLost (UInt32.le_iff_toNat_le.mp hle) hlost)
  · intro hfew hnone
    exact (few_of_percentLost hpos).mp ((hexact.mpr hfew).symm.trans hnone)

/-- One answer to four requests. -/
theorem summary_loss_of_one_in_four :
    let target : Target :=
      { name := "a", address := .any, pinger := 0, transmitted := 4, received := 1 }
    target.summary[2]? = some "4 packets transmitted, 1 received, 75% packet loss" ∧
      percentLost 4 1 = 75 := by
  intro target
  obtain ⟨loss, hline, -, -, -, hexact, -⟩ := summary_loss target (by decide) (by decide)
  have hloss : loss = 75 := (hexact.mpr (by decide)).trans (by decide)
  rw [hline, hloss]
  exact ⟨by decide +kernel, by decide⟩

end Target

end IcmpEcho
