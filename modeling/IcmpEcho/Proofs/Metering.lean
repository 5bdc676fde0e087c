/-
# What a meter does with a shot

The *burst* of a meter is the least count whose wait is worth making.  A count never passes it, and
then a shot has one of three answers (`Meter.shot_cases`): the first shot of all goes; a shot goes
while less than the burst is left to pay; and a shot that finds the whole burst still to pay has to
sleep for the burst's wait, **and leaves the meter as it was**.  None of this depends on how the
arithmetic rounds.

With exact arithmetic a wait is a quotient of whole numbers (`Meter.waitFor_exact`), and what time
pays back is bounded by the rate of the burst, in the form in which it is added up
(`Meter.paid_back_le`): the shots paid back, times the burst's wait, are at most the time that
passed times the burst.
-/
import Mathlib.Data.Rat.Floor
import Mathlib.Order.Bounds.Basic
import Mathlib.Tactic.Linarith
import Mathlib.Tactic.Positivity
import Mathlib.Tactic.Ring
import IcmpEcho.Rate.Meter

namespace IcmpEcho

/-- Time that passed is never overstated: modulo the range of the clock it can only get less. -/
theorem elapsed_le {last now : Time} (h : last ≤ now) : elapsed last now ≤ now - last := by
  have hpassed : 0 ≤ now - last := sub_nonneg.2 h
  unfold elapsed
  rw [Int64.toInt_ofInt]
  generalize now - last = passed at hpassed ⊢
  have hmod : passed % (Int64.size : Int) ≤ passed := by
    rw [Int.emod_def]
    have : 0 ≤ (Int64.size : Int) * (passed / Int64.size) := by positivity
    linarith
  rw [Int.bmod_def]
  split
  · exact hmod
  · have : (0 : Int) ≤ Int64.size := by positivity
    linarith

namespace Number

theorem truncate_of_nonneg {x : Rat} (h : 0 ≤ x) : truncate x = ⌊x⌋ := by
  have hnum : 0 ≤ x.num := Rat.num_nonneg.2 h
  rw [truncate, Int.tdiv_eq_ediv_of_nonneg hnum]
  exact (Rat.floor_def x).symm

theorem truncate_of_nonpos {x : Rat} (h : x ≤ 0) : truncate x ≤ 0 := by
  have hneg : 0 ≤ truncate (-x) := by
    rw [truncate_of_nonneg (neg_nonneg.2 h)]
    exact Int.floor_nonneg.2 (neg_nonneg.2 h)
  have hsymm : truncate (-x) = -truncate x := by
    simp only [truncate, Rat.num_neg_eq_neg_num, Rat.den_neg_eq_den, Int.neg_tdiv]
  linarith

end Number

namespace Rate.Meter

variable {round : Number.Rounding}

/-! ## 1. What is left to pay -/

theorem payBack_le (round : Number.Rounding) (owed : Nat) (allowed : Int) :
    payBack round owed allowed ≤ owed := by
  unfold payBack
  split
  · omega
  · omega

/-- What a meter still has to be paid for at `now`. -/
def left (round : Number.Rounding) (meter : Meter) (now : Time) : Nat :=
  payBack round meter.owed (allowance round meter.limit (elapsed meter.last now))

theorem left_le (round : Number.Rounding) (meter : Meter) (now : Time) :
    meter.left round now ≤ meter.owed := payBack_le round _ _

/-! ## 2. The burst -/

/-- The least count of shots whose wait is worth making. -/
def Burst (round : Number.Rounding) (limit : Nat) (minWait : Time) (burst : Nat) : Prop :=
  IsLeast {count | 1 ≤ count ∧ minWait ≤ waitFor round limit count} burst

/-- **The answers to a shot.**  It is the first; or less than the burst is left, and it goes; or
the burst is, and it has to sleep for the burst's wait, with the meter unchanged. -/
theorem shot_cases {meter : Meter} {burst : Nat}
    (hburst : Burst round meter.limit meter.minWait burst) (howed : meter.owed ≤ burst)
    (now : Time) :
    meter.started = false ∧
        meter.shot round now = ({ meter with started := true, last := now, owed := 1 }, 0) ∨
      meter.started = true ∧ meter.left round now < burst ∧
        meter.shot round now = ({ meter with last := now, owed := meter.left round now + 1 }, 0) ∨
      meter.started = true ∧ meter.owed = burst ∧
        meter.shot round now = (meter, waitFor round meter.limit burst) := by
  obtain ⟨⟨hone, hwait⟩, hleast⟩ := hburst
  have hleft : meter.left round now ≤ burst := (left_le round meter now).trans howed
  cases hstarted : meter.started with
  | false =>
    left
    exact ⟨rfl, by simp [shot, hstarted]⟩
  | true =>
    right
    by_cases hfull : meter.left round now = burst
    · -- The burst is still owed, so nothing of it was paid back.
      right
      have hsame : meter.owed = burst :=
        Nat.le_antisymm howed (hfull ▸ left_le round meter now)
      have hpay : payBack round meter.owed
          (allowance round meter.limit (elapsed meter.last now)) = meter.owed :=
        hfull.trans hsame.symm
      have hlong : 0 < meter.owed ∧ meter.minWait ≤ waitFor round meter.limit meter.owed :=
        hsame ▸ ⟨hone, hwait⟩
      refine ⟨rfl, hsame, ?_⟩
      simp only [shot, hstarted, hpay]
      rw [← hsame]
      exact (if_pos hlong).trans (by rw [← hstarted])
    · left
      have hlt : meter.left round now < burst := Nat.lt_of_le_of_ne hleft hfull
      have hshort :
          ¬ (0 < meter.left round now ∧
            meter.minWait ≤ waitFor round meter.limit (meter.left round now)) := by
        rintro ⟨hpos, hlong⟩
        have := hleast ⟨hpos, hlong⟩
        omega
      refine ⟨rfl, hlt, ?_⟩
      simp only [shot, hstarted]
      exact if_neg hshort

/-- No answer changes the limit or the shortest wait. -/
theorem shot_limit (round : Number.Rounding) (meter : Meter) (now : Time) :
    (meter.shot round now).1.limit = meter.limit ∧
      (meter.shot round now).1.minWait = meter.minWait := by
  unfold shot
  split
  · exact ⟨rfl, rfl⟩
  · dsimp only
    split
    · exact ⟨rfl, rfl⟩
    · exact ⟨rfl, rfl⟩

/-- A wait is never shorter than the shortest that is worth making. -/
theorem minWait_le_shot {meter : Meter} {now : Time} (h : (meter.shot round now).2 ≠ 0) :
    meter.minWait ≤ (meter.shot round now).2 := by
  unfold shot at h ⊢
  split at h
  · exact absurd rfl h
  · dsimp only at h ⊢
    split at h
    · next hstarted hlong =>
      rw [if_neg hstarted, if_pos hlong]
      exact hlong.2
    · exact absurd rfl h

/-! ## 3. Exact arithmetic -/

theorem waitFor_exact (limit owed : Nat) :
    waitFor id limit owed = ((10 ^ 9 * owed / limit : Nat) : Int) := by
  have hquotient : (owed : Rat) / limit * 1000000000 = ((10 ^ 9 * owed : Nat) : Rat) / limit := by
    push_cast
    ring
  calc waitFor id limit owed
      = Number.truncate ((owed : Rat) / limit * 1000000000) := rfl
    _ = ⌊(owed : Rat) / limit * 1000000000⌋ := Number.truncate_of_nonneg (by positivity)
    _ = ((10 ^ 9 * owed / limit : Nat) : Int) := by
      rw [hquotient, Rat.floor_natCast_div_natCast, Int.natCast_div]

/-- An allowance is at most what the limit lets through in the time. -/
theorem allowance_exact_le (limit : Nat) {nanoseconds bound : Int} (hle : nanoseconds ≤ bound)
    (hbound : 0 ≤ bound) : allowance id limit nanoseconds * 10 ^ 9 ≤ limit * bound := by
  have hallowance : allowance id limit nanoseconds
      = max 0 (Number.truncate ((limit : Rat) * ((nanoseconds : Rat) / 1000000000))) := rfl
  rw [hallowance]
  rcases le_total 0 nanoseconds with hpos | hneg
  · have hposRat : (0 : Rat) ≤ nanoseconds := by exact_mod_cast hpos
    have hnonneg : (0 : Rat) ≤ (limit : Rat) * ((nanoseconds : Rat) / 1000000000) := by positivity
    have hfloor : ((⌊(limit : Rat) * ((nanoseconds : Rat) / 1000000000)⌋ : Int) : Rat)
        ≤ (limit : Rat) * ((nanoseconds : Rat) / 1000000000) := Int.floor_le _
    have hleRat : (nanoseconds : Rat) ≤ bound := by exact_mod_cast hle
    rw [Number.truncate_of_nonneg hnonneg, max_eq_right (Int.floor_nonneg.2 hnonneg)]
    have hall : ((⌊(limit : Rat) * ((nanoseconds : Rat) / 1000000000)⌋ : Int) : Rat) * 10 ^ 9
        ≤ (limit : Rat) * bound := by
      calc _ ≤ (limit : Rat) * ((nanoseconds : Rat) / 1000000000) * 10 ^ 9 := by gcongr
        _ = (limit : Rat) * nanoseconds := by ring
        _ ≤ (limit : Rat) * bound := by gcongr
    exact_mod_cast hall
  · have hnegRat : (nanoseconds : Rat) ≤ 0 := by exact_mod_cast hneg
    have hprod : (limit : Rat) * ((nanoseconds : Rat) / 1000000000) ≤ 0 :=
      mul_nonpos_of_nonneg_of_nonpos (by positivity) (by linarith)
    rw [max_eq_left (Number.truncate_of_nonpos hprod), zero_mul]
    positivity

theorem payBack_exact_ge (owed : Nat) (allowed : Int) (h : 0 ≤ allowed) :
    (owed : Int) - payBack id owed allowed ≤ allowed := by
  unfold payBack
  split
  · next hle =>
    have hleRat : ((owed : Nat) : Rat) ≤ allowed := hle
    have : (owed : Int) ≤ allowed := by exact_mod_cast hleRat
    omega
  · omega

/-- **What time pays back.**  The shots paid back by `now`, each counted as the wait of `burst`
shots, are at most `burst` for each nanosecond since the last. -/
theorem paid_back_le {meter : Meter} {burst wait : Nat} {now : Time} (hnow : meter.last ≤ now)
    (hwait : meter.limit * wait ≤ 10 ^ 9 * burst) :
    ((meter.owed : Int) - meter.left id now) * wait ≤ (now - meter.last) * burst := by
  have hpassed : 0 ≤ now - meter.last := sub_nonneg.2 hnow
  have hwaitInt : (meter.limit : Int) * wait ≤ 10 ^ 9 * burst := by exact_mod_cast hwait
  set allowed := allowance id meter.limit (elapsed meter.last now) with hallowed
  have hpaid : (meter.owed : Int) - meter.left id now ≤ allowed :=
    payBack_exact_ge _ _ (le_max_left _ _)
  have hbound : allowed * 10 ^ 9 ≤ meter.limit * (now - meter.last) :=
    allowance_exact_le meter.limit (elapsed_le hnow) hpassed
  have hscaled : allowed * wait * 10 ^ 9 ≤ (now - meter.last) * burst * 10 ^ 9 := by
    calc allowed * wait * 10 ^ 9
        = allowed * 10 ^ 9 * wait := by ring
      _ ≤ meter.limit * (now - meter.last) * wait := by gcongr
      _ = (now - meter.last) * (meter.limit * wait) := by ring
      _ ≤ (now - meter.last) * (10 ^ 9 * burst) := by gcongr
      _ = (now - meter.last) * burst * 10 ^ 9 := by ring
  calc ((meter.owed : Int) - meter.left id now) * wait
      ≤ allowed * wait := by gcongr
    _ ≤ (now - meter.last) * burst := le_of_mul_le_mul_right hscaled (by norm_num)

end Rate.Meter

end IcmpEcho
