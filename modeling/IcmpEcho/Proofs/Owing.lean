/-
# A meter owes at most its burst

A meter is used in any order and at any times, also times that go back: shots are asked for, and
sleeps are over.  A shot takes the allowance of the time that passed off the count, and if it is
refused it does not note the time.  So a shot that is refused and asked for again might pay for the
same time twice.

**It never does** (`Meter.owes_at_most_its_burst`), because the count never passes the burst, the
least count that has to wait.  A shot is refused only if the whole burst is still owed, and then
nothing was paid back: the meter is as it was, and whoever does not sit out the wait has neither
gained nor lost anything.  All waits are the same one, that of the burst.

How the arithmetic rounds matters in one place only.  The allowance is compared with the count as it
is rounded, and taken off the count as it is; that it is not more needs `Number.KeepsCounts`, which
holds of binary floating point.
-/
import Mathlib
import IcmpEcho.Proofs.RoundedCounts
import IcmpEcho.Rate.Limiter

namespace IcmpEcho.Rate

namespace Meter

variable {round : Number.Rounding} {limit burst : Nat} {minWait : Time} {meter : Meter}

/-! ## 1. One shot -/

/-- **What is paid back is no more than what is owed:** all of it, or an allowance that can be taken
off. -/
theorem left_eq (hround : Number.KeepsCounts round) (meter : Meter) (now : Time) :
    let allowed := allowance round meter.limit (elapsed meter.last now)
    round meter.owed ≤ allowed ∧ meter.left round now = 0 ∨
      allowed ≤ meter.owed ∧ (meter.left round now : Int) = meter.owed - allowed := by
  intro allowed
  have hnonneg : 0 ≤ allowed := le_max_left _ _
  have hleft : meter.left round now = payBack round meter.owed allowed := rfl
  by_cases hall : round meter.owed ≤ allowed
  · left
    exact ⟨hall, by rw [hleft, payBack, if_pos hall]⟩
  · right
    have hle : allowed ≤ meter.owed := by
      rcases max_choice 0 (Number.truncate (round (round meter.limit
          * round (round (elapsed meter.last now) / 1000000000)))) with hnone | hsome
      · have hzero : allowed = 0 := hnone
        omega
      · have htruncated : allowed = Number.truncate _ := hsome
        rw [htruncated] at hall hnonneg ⊢
        exact hround _ _ hnonneg (not_le.1 hall)
    refine ⟨hle, ?_⟩
    rw [hleft, payBack, if_neg hall]
    omega

/-- A shot that is refused leaves the count at what was left to pay. -/
theorem owed_of_refused {now : Time} (hstarted : meter.started = true)
    (h : (meter.shot round now).2 ≠ 0) :
    (meter.shot round now).1.owed = meter.left round now := by
  revert h
  simp only [shot, hstarted, Bool.not_true, Bool.false_eq_true, if_false]
  split
  · intro _
    rfl
  · intro h
    exact absurd rfl h

/-! ## 2. Any use -/

/-- What is done with a meter. -/
inductive Use
  /-- A shot is asked for. -/
  | shot (now : Time)
  /-- A sleep is over. -/
  | finishWait (now : Time)

/-- The meter after one use. -/
def use (round : Number.Rounding) (meter : Meter) : Use → Meter
  | .shot now => (meter.shot round now).1
  | .finishWait now => meter.finishWait now

/-- The meter after some uses. -/
def useAll (round : Number.Rounding) (meter : Meter) (uses : List Use) : Meter :=
  uses.foldl (use round) meter

/-- A meter of this limit and shortest wait that owes at most the burst. -/
structure Bounded (limit : Nat) (minWait : Time) (burst : Nat) (meter : Meter) : Prop where
  limit : meter.limit = limit
  minWait : meter.minWait = minWait
  owed : meter.owed ≤ burst

namespace Bounded

theorem fresh (limit : Nat) (minWait : Time) (burst : Nat) :
    Bounded limit minWait burst { limit, minWait } := ⟨rfl, rfl, Nat.zero_le _⟩

/-- **The answers of a bounded meter:** the shot goes, and is counted within the burst; or the whole
burst is left to pay, and the meter stays as it is. -/
theorem shot (hminWait : 0 < minWait) (hburst : Burst round limit minWait burst)
    (h : meter.Bounded limit minWait burst) (now : Time) :
    (meter.shot round now).2 = 0 ∧ (meter.shot round now).1.owed ≤ burst ∧
        (meter.started = true → meter.left round now < burst) ∨
      meter.started = true ∧ meter.left round now = burst ∧
        meter.shot round now = (meter, waitFor round limit burst) ∧
        waitFor round limit burst ≠ 0 := by
  obtain ⟨rfl, rfl, howed⟩ := h
  rcases shot_cases hburst howed now with
    ⟨hfirst, hshot⟩ | ⟨-, hleft, hshot⟩ | ⟨hstarted, hfull, hshot⟩
  · left
    rw [hshot]
    refine ⟨rfl, hburst.1.1, ?_⟩
    intro hstarted
    rw [hfirst] at hstarted
    cases hstarted
  · left
    rw [hshot]
    exact ⟨rfl, hleft, fun _ => hleft⟩
  · right
    have hlong : waitFor round meter.limit burst ≠ 0 := (hminWait.trans_le hburst.1.2).ne'
    have hrefused : (meter.shot round now).2 ≠ 0 := by
      rw [hshot]
      exact hlong
    have hleft := owed_of_refused hstarted hrefused
    rw [hshot, hfull] at hleft
    exact ⟨hstarted, hleft.symm, hshot, hlong⟩

theorem use (hminWait : 0 < minWait) (hburst : Burst round limit minWait burst)
    (h : meter.Bounded limit minWait burst) (use : Use) :
    (meter.use round use).Bounded limit minWait burst := by
  cases use with
  | shot now =>
    obtain ⟨hlimit, hwait⟩ := shot_limit round meter now
    refine ⟨hlimit.trans h.limit, hwait.trans h.minWait, ?_⟩
    rcases h.shot hminWait hburst now with ⟨-, howed, -⟩ | ⟨-, -, hshot, -⟩
    · exact howed
    · rw [Meter.use, hshot]
      exact h.owed
  | finishWait now => exact ⟨h.limit, h.minWait, hburst.1.1⟩

/-- **However a meter is used,** it stays bounded. -/
theorem useAll (hminWait : 0 < minWait) (hburst : Burst round limit minWait burst)
    (h : meter.Bounded limit minWait burst) (uses : List Use) :
    (meter.useAll round uses).Bounded limit minWait burst := by
  induction uses generalizing meter with
  | nil => exact h
  | cons use uses ih => exact ih (h.use hminWait hburst use)

end Bounded

theorem started_use (round : Number.Rounding) (meter : Meter) (use : Use) :
    (meter.use round use).started = true ↔
      meter.started = true ∨ ∃ now, use = .shot now := by
  cases use with
  | shot now =>
    simp only [Meter.use, shot]
    split
    · simp
    · next hstarted =>
      have hstarted : meter.started = true := by simpa using hstarted
      split <;> simp [hstarted]
  | finishWait now => simp [Meter.use, finishWait]

/-- A meter has started once a shot was asked for. -/
theorem started_useAll (round : Number.Rounding) (uses : List Use) :
    ∀ meter : Meter, (meter.useAll round uses).started = true ↔
      meter.started = true ∨ ∃ now, Use.shot now ∈ uses := by
  induction uses with
  | nil => simp [useAll]
  | cons use uses ih =>
    intro meter
    have hcons : meter.useAll round (use :: uses) = (meter.use round use).useAll round uses := rfl
    rw [hcons, ih, started_use, or_assoc]
    refine or_congr_right ?_
    constructor
    · rintro (⟨now, rfl⟩ | ⟨now, hnow⟩)
      · exact ⟨now, List.mem_cons_self⟩
      · exact ⟨now, List.mem_cons_of_mem _ hnow⟩
    · rintro ⟨now, hnow⟩
      rcases List.mem_cons.1 hnow with hfirst | hrest
      · exact .inl ⟨now, hfirst.symm⟩
      · exact .inr ⟨now, hrest⟩

end Meter

/-! ## 3. Senders that give up -/

namespace Limiter

variable {α : Type} {round : Number.Rounding}

/-- A sender is put to sleep by a shot that is refused. -/
theorem shot_of_sleep {limiter : Limiter α} {now : Time} {sender : α} {wait : Time}
    (h : (limiter.acquire round now sender).2 = .sleep wait) :
    (limiter.meter.shot round now).2 = wait ∧ wait ≠ 0 ∧
      (limiter.acquire round now sender).1.meter = (limiter.meter.shot round now).1 := by
  unfold acquire at h ⊢
  split at h
  · cases h
  · next hs =>
    rw [if_neg hs]
    dsimp only at h ⊢
    split at h
    · cases h
    · next hwait =>
      rw [if_neg hwait]
      exact ⟨Admission.sleep.inj h, Admission.sleep.inj h ▸ hwait, rfl⟩

end Limiter

open Meter in
/-- **What holds of a meter, however it is used.**

It never owes more than the burst, and never pays back more than it owes.  The first shot goes, and
any other is refused exactly if the whole burst is left to pay.  A shot that is refused is told the
wait of the burst, and leaves the meter as it was; so does a sender that is put to sleep by it and
given up. -/
theorem Meter.owes_at_most_its_burst {round : Number.Rounding} {limit burst : Nat} {minWait : Time}
    {fresh : Meter} (hround : Number.KeepsCounts round)
    (hfresh : Meter.new limit minWait = .ok fresh) (hminWait : 0 < minWait)
    (hburst : Burst round limit minWait burst) (uses : List Use) :
    let meter := fresh.useAll round uses
    meter.owed ≤ burst ∧
      (∀ now, let allowed := allowance round limit (elapsed meter.last now)
        round meter.owed ≤ allowed ∧ meter.left round now = 0 ∨
          allowed ≤ meter.owed ∧ (meter.left round now : Int) = meter.owed - allowed) ∧
      (meter.started = true ↔ ∃ now, Use.shot now ∈ uses) ∧
      (meter.started = false → ∀ now, (meter.shot round now).2 = 0) ∧
      (meter.started = true → ∀ now,
        (meter.shot round now).2 ≠ 0 ↔ meter.left round now = burst) ∧
      (∀ now, (meter.shot round now).2 ≠ 0 →
        meter.shot round now = (meter, waitFor round limit burst)) ∧
      (∀ {α : Type} (limiter : Limiter α) now sender wait, limiter.meter = meter →
        (limiter.acquire round now sender).2 = .sleep wait →
          wait = waitFor round limit burst ∧
            (limiter.acquire round now sender).1.cancel.1.meter = meter) := by
  obtain rfl : fresh = { limit, minWait } := by
    rw [Meter.new] at hfresh
    split at hfresh
    · cases hfresh
    · exact (Except.ok.inj hfresh).symm
  intro meter
  have hbounded : meter.Bounded limit minWait burst :=
    (Bounded.fresh limit minWait burst).useAll hminWait hburst uses
  have hshot := fun now => hbounded.shot hminWait hburst now
  have hrefused : ∀ now, (meter.shot round now).2 ≠ 0 →
      meter.shot round now = (meter, waitFor round limit burst) := by
    intro now hwait
    rcases hshot now with ⟨hgo, -, -⟩ | ⟨-, -, hanswer, -⟩
    · exact absurd hgo hwait
    · exact hanswer
  refine ⟨hbounded.owed, ?_, ?_, ?_, ?_, hrefused, ?_⟩
  · intro now
    have hleft := left_eq hround meter now
    rwa [hbounded.limit] at hleft
  · exact (started_useAll round uses _).trans (by simp)
  · intro hfirst now
    rcases hshot now with ⟨hgo, -, -⟩ | ⟨hstarted, -, -, -⟩
    · exact hgo
    · rw [hfirst] at hstarted
      cases hstarted
  · intro hstarted now
    rcases hshot now with ⟨hgo, -, hless⟩ | ⟨-, hfull, hanswer, hlong⟩
    · simp only [hgo, ne_eq, not_true_eq_false, false_iff]
      exact (hless hstarted).ne
    · simp only [hanswer, hfull, iff_true]
      exact hlong
  · intro α limiter now sender wait hlimiter hsleep
    obtain ⟨hwait, hlong, hmeter⟩ := Limiter.shot_of_sleep hsleep
    rw [hlimiter] at hwait hmeter
    have hanswer := hrefused now (hwait ▸ hlong)
    rw [hanswer] at hwait hmeter
    exact ⟨hwait.symm, hmeter⟩

/-- With 3000 shots a second the burst is three. -/
theorem Meter.burst_of_3000 : Burst Number.binary64 3000 1000000 3 := by
  refine ⟨by decide +kernel, ?_⟩
  rintro count ⟨hone, hwait⟩
  by_contra hless
  have hsmall : count = 1 ∨ count = 2 := by omega
  rcases hsmall with rfl | rfl
  · exact absurd hwait (by decide +kernel)
  · exact absurd hwait (by decide +kernel)

open Meter in
/-- A sleep that was never begun is over, and four shots are asked for at once, the fourth with the
clock set back: then a shot is refused although time has passed, and one that is put to sleep by it
and gives up leaves the three owed. -/
theorem Meter.owes_at_most_its_burst_of_3000 :
    let uses := [Use.finishWait 5, .shot 0, .shot 0, .shot 0, .shot (-7000000)]
    let fresh : Meter := { limit := 3000 }
    let meter := fresh.useAll Number.binary64 uses
    Number.KeepsCounts Number.binary64 ∧ Meter.new 3000 1000000 = .ok fresh ∧
      Burst Number.binary64 3000 1000000 3 ∧ meter.owed = 3 ∧
      meter.shot Number.binary64 300000 = (meter, 1000000) ∧
      (({ meter } : Limiter Nat).acquire Number.binary64 300000 9).1.cancel.1.meter = meter := by
  intro uses fresh meter
  have hfresh : Meter.new 3000 1000000 = .ok fresh := by decide
  obtain ⟨-, -, -, -, hrefused, hanswer, hgiveUp⟩ :=
    owes_at_most_its_burst Number.binary64_keepsCounts hfresh (by decide) burst_of_3000 uses
  have hwait : (meter.shot Number.binary64 300000).2 ≠ 0 :=
    (hrefused (by decide +kernel) 300000).2 (by decide +kernel)
  refine ⟨Number.binary64_keepsCounts, hfresh, burst_of_3000, by decide +kernel, ?_, ?_⟩
  · rw [hanswer 300000 hwait]
    decide +kernel
  · exact (hgiveUp { meter } 300000 9 1000000 rfl (by decide +kernel)).2

end IcmpEcho.Rate
