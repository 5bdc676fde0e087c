/-
# Counts that are rounded

A meter compares a count with an allowance after both were rounded, and then takes the one from the
other as whole numbers.  That is right if rounding does not mix up their order: a whole number that
comes out of the arithmetic, and is less than a count as it is rounded, must not be more than the
count (`KeepsCounts`).

**This is so for 64-bit binary floating point** (`binary64_keepsCounts`).  A count is rounded up by
less than one unit of its last digit (`binary64_natCast`).  A whole number above it that has no more
than 53 digits itself is a multiple of that unit (`two_pow_dvd_of_lt`), so the count is not rounded
past it.
-/
import Mathlib
import IcmpEcho.Proofs.Metering

namespace IcmpEcho.Number

/-- What a count relies on when it is compared as it is rounded. -/
def KeepsCounts (round : Rounding) : Prop :=
  ∀ (value : Rat) (count : Nat), 0 ≤ truncate (round value) →
    (truncate (round value) : Rat) < round count → truncate (round value) ≤ count

/-! ## 1. Powers of two -/

@[simp] theorem cast_twoTo (n : Nat) : ((twoTo n : Nat) : Rat) = 2 ^ n := by
  have h : twoTo n = 2 ^ n := rfl
  rw [h]
  push_cast
  rfl

/-- A power of two is kept as a quotient of two, one of which is one. -/
theorem twoTo_div_twoTo (e : Int) :
    ((twoTo e.toNat : Nat) : Rat) / (twoTo (-e).toNat : Nat) = 2 ^ e := by
  obtain ⟨n, rfl | rfl⟩ := e.eq_nat_or_neg
  · simp
  · simp

theorem lt_two_zpow_floorLog2 {num den : Nat} (hnum : 0 < num) (hden : 0 < den) :
    (num : Rat) / den < 2 ^ (floorLog2 num den + 1) := by
  have hdenRat : (0 : Rat) < den := by exact_mod_cast hden
  unfold floorLog2
  dsimp only
  split
  · next hlt =>
    rw [sub_add_cancel, ← twoTo_div_twoTo, div_lt_div_iff₀ hdenRat (by simp)]
    have hcast : ((num * twoTo (-((num.log2 : Int) - den.log2)).toNat : Nat) : Rat)
        < (den * twoTo ((num.log2 : Int) - den.log2).toNat : Nat) := by exact_mod_cast hlt
    push_cast [cast_twoTo] at hcast ⊢
    linarith
  · have hnumLt : (num : Rat) < 2 ^ (num.log2 + 1) := by exact_mod_cast Nat.lt_log2_self
    have hdenLe : (2 : Rat) ^ den.log2 ≤ den := by exact_mod_cast Nat.log2_self_le hden.ne'
    calc (num : Rat) / den
        ≤ num / 2 ^ den.log2 := by gcongr
      _ < 2 ^ (num.log2 + 1) / 2 ^ den.log2 := by gcongr
      _ = 2 ^ ((num.log2 : Int) - den.log2 + 1) := by
        rw [show (num.log2 : Int) - den.log2 + 1 = ((num.log2 + 1 : Nat) : Int) - den.log2 by
          push_cast; ring, zpow_sub₀ two_ne_zero, zpow_natCast, zpow_natCast]

/-! ## 2. Rounding to a whole number -/

theorem halfEven_le (num den : Nat) : halfEven num den ≤ num / den + 1 := by
  unfold halfEven
  dsimp only
  split
  · omega
  · split
    · omega
    · omega

/-- A quotient is rounded up by less than one. -/
theorem halfEven_mul_lt (num : Nat) {den : Nat} (hden : 0 < den) :
    halfEven num den * den < num + den := by
  have hdivision := Nat.div_add_mod num den
  rcases Nat.eq_zero_or_pos (num % den) with hrest | hrest
  · have hexact : halfEven num den = num / den := by simp [halfEven, hrest, hden]
    rw [hexact, Nat.mul_comm]
    omega
  · calc halfEven num den * den
        ≤ (num / den + 1) * den := Nat.mul_le_mul_right den (halfEven_le num den)
      _ = den * (num / den) + den := by ring
      _ < num + den := by omega

/-! ## 3. Rounding to 53 digits -/

/-- A quotient is scaled so that it has 53 digits in front of the point. -/
theorem scaled_lt {num den : Nat} (hnum : 0 < num) (hden : 0 < den) {unit : Int}
    (hunit : unit = floorLog2 num den - 52) :
    num * twoTo (-unit).toNat < 2 ^ 53 * (den * twoTo unit.toNat) := by
  have hpos : 0 < den * twoTo unit.toNat := Nat.mul_pos hden (Nat.two_pow_pos _)
  have hscale := twoTo_div_twoTo (-unit)
  rw [neg_neg] at hscale
  have hexponent : floorLog2 num den + 1 + -unit = ((53 : Nat) : Int) := by
    rw [hunit]
    push_cast
    ring
  have hquotient : ((num * twoTo (-unit).toNat : Nat) : Rat) / (den * twoTo unit.toNat : Nat)
      < 2 ^ 53 := by
    calc ((num * twoTo (-unit).toNat : Nat) : Rat) / (den * twoTo unit.toNat : Nat)
        = (num : Rat) / den * 2 ^ (-unit) := by
          rw [← hscale, Nat.cast_mul, Nat.cast_mul, mul_div_mul_comm]
      _ < 2 ^ (floorLog2 num den + 1) * 2 ^ (-unit) := by
          gcongr
          exact lt_two_zpow_floorLog2 hnum hden
      _ = 2 ^ 53 := by rw [← zpow_add₀ two_ne_zero, hexponent, zpow_natCast]
  rw [div_lt_iff₀ (by exact_mod_cast hpos)] at hquotient
  exact_mod_cast hquotient

/-- What is rounded has at most 53 digits, and then some zeros. -/
theorem exists_binary64_eq (value : Rat) :
    ∃ (significand : Nat) (unit : Int), significand ≤ 2 ^ 53 ∧
      |binary64 value| = significand * 2 ^ unit := by
  by_cases hzero : value.num.natAbs = 0
  · exact ⟨0, 0, by omega, by simp [binary64, hzero]⟩
  have hpos : 0 < value.num.natAbs := Nat.pos_of_ne_zero hzero
  set unit := floorLog2 value.num.natAbs value.den - 52 with hunit
  set significand := halfEven (value.num.natAbs * twoTo (-unit).toNat)
    (value.den * twoTo unit.toNat) with hsignificand
  refine ⟨significand, unit, ?_, ?_⟩
  · have hden : 0 < value.den * twoTo unit.toNat := Nat.mul_pos value.den_pos (Nat.two_pow_pos _)
    have hdiv := (Nat.div_lt_iff_lt_mul hden).2 (scaled_lt hpos value.den_pos hunit)
    exact (halfEven_le _ _).trans hdiv
  · have hrounded : (mkRat (significand * twoTo unit.toNat : Nat) (twoTo (-unit).toNat) : Rat)
        = significand * 2 ^ unit := by
      rw [Rat.mkRat_eq_div, ← twoTo_div_twoTo]
      push_cast
      ring
    have hnonneg : (0 : Rat) ≤ significand * 2 ^ unit := by positivity
    unfold binary64
    dsimp only
    rw [if_neg hzero, ← hunit, ← hsignificand, hrounded]
    split
    · rw [abs_neg, abs_of_nonneg hnonneg]
    · exact abs_of_nonneg hnonneg

theorem floorLog2_one {count : Nat} (h : 0 < count) : floorLog2 count 1 = count.log2 := by
  have hlog : (count.log2 : Int) - Nat.log2 1 = count.log2 := by
    rw [show Nat.log2 1 = 0 by decide, Nat.cast_zero, sub_zero]
  have hle : ¬ count * twoTo (-(count.log2 : Int)).toNat < 1 * twoTo (count.log2 : Int).toNat := by
    have hself : twoTo count.log2 ≤ count := Nat.log2_self_le h.ne'
    have hone : (-(count.log2 : Int)).toNat = 0 := by omega
    rw [hone, Int.toNat_natCast, Nat.one_mul, show twoTo 0 = 1 from rfl, Nat.mul_one]
    omega
  unfold floorLog2
  rw [hlog]
  exact if_neg hle

/-- **A count is rounded up by less than one unit of its last digit.** -/
theorem binary64_natCast {count : Nat} (h : 0 < count) :
    ∃ digits : Nat, binary64 count = (digits * 2 ^ (count.log2 - 52) : Nat) ∧
      digits * 2 ^ (count.log2 - 52) < count + 2 ^ (count.log2 - 52) := by
  have hunit : binary64 count
      = mkRat (halfEven (count * twoTo (-((count.log2 : Int) - 52)).toNat)
          (1 * twoTo ((count.log2 : Int) - 52).toNat) * twoTo ((count.log2 : Int) - 52).toNat : Nat)
        (twoTo (-((count.log2 : Int) - 52)).toNat) := by
    unfold binary64
    dsimp only
    rw [Rat.num_natCast, Rat.den_natCast, Int.natAbs_natCast, if_neg h.ne', if_neg (by omega),
      floorLog2_one h]
  rcases Nat.lt_or_ge 52 count.log2 with hlong | hshort
  · -- Some digits at the end are rounded away.
    have hpow : ((count.log2 : Int) - 52).toNat = count.log2 - 52 := by omega
    have hzero : (-((count.log2 : Int) - 52)).toNat = 0 := by omega
    refine ⟨halfEven count (2 ^ (count.log2 - 52)), ?_, halfEven_mul_lt _ (Nat.two_pow_pos _)⟩
    rw [hunit, hpow, hzero, show twoTo 0 = 1 from rfl, Nat.mul_one, Nat.one_mul]
    exact (Rat.mkRat_one _).trans (Int.cast_natCast _)
  · -- All digits are kept.
    have hpow : ((count.log2 : Int) - 52).toNat = 0 := by omega
    have hexact : ∀ num, halfEven num (1 * twoTo 0) = num := by
      intro num
      simp [halfEven, twoTo, Nat.mod_one]
    rw [Nat.sub_eq_zero_of_le hshort]
    refine ⟨count, ?_, by omega⟩
    rw [hunit, hpow, hexact, show twoTo 0 = 1 from rfl, Nat.mul_one, Rat.mkRat_eq_div]
    push_cast
    field_simp

/-- A whole number that comes out of rounding has at most 53 digits, and then zeros. -/
theorem two_pow_dvd_of_lt {value : Rat} {whole n : Nat}
    (hwhole : truncate (binary64 value) = whole) (hlong : 2 ^ (n + 52) < whole) :
    2 ^ n ∣ whole := by
  obtain ⟨significand, unit, hdigits, habs⟩ := exists_binary64_eq value
  have hpos : 0 < binary64 value := by
    by_contra hneg
    have hnonpos := truncate_of_nonpos (not_lt.1 hneg)
    have hwholePos : 0 < whole := (Nat.zero_le _).trans_lt hlong
    omega
  rw [abs_of_pos hpos] at habs
  rw [truncate_of_nonneg hpos.le, habs] at hwhole
  have hle : (whole : Rat) ≤ significand * 2 ^ unit := by
    have hfloor := Int.floor_le ((significand : Rat) * 2 ^ unit)
    rw [hwhole] at hfloor
    exact_mod_cast hfloor
  have hunit : (n : Int) ≤ unit := by
    have hpow : (2 : Rat) ^ ((n + 52 : Nat) : Int) < 2 ^ ((53 : Nat) + unit : Int) := by
      calc (2 : Rat) ^ ((n + 52 : Nat) : Int)
          = ((2 ^ (n + 52) : Nat) : Rat) := by rw [zpow_natCast]; push_cast; rfl
        _ < whole := by exact_mod_cast hlong
        _ ≤ significand * 2 ^ unit := hle
        _ ≤ ((2 ^ 53 : Nat) : Rat) * 2 ^ unit := by gcongr
        _ = 2 ^ ((53 : Nat) + unit : Int) := by
          rw [zpow_add₀ two_ne_zero, zpow_natCast]
          push_cast
          rfl
    have hexponent := (zpow_lt_zpow_iff_right₀ one_lt_two).1 hpow
    push_cast at hexponent
    linarith
  obtain ⟨zeros, rfl⟩ := Int.le.dest hunit
  have hproduct : (significand : Rat) * 2 ^ ((n : Int) + zeros)
      = ((2 ^ n * (significand * 2 ^ zeros) : Nat) : Rat) := by
    rw [zpow_add₀ two_ne_zero, zpow_natCast, zpow_natCast]
    push_cast
    ring
  rw [hproduct, Int.floor_natCast] at hwhole
  exact ⟨significand * 2 ^ zeros, (Int.natCast_inj.1 hwhole).symm⟩

/-- **Binary floating point keeps counts.** -/
theorem binary64_keepsCounts : KeepsCounts binary64 := by
  intro value count hnonneg hlt
  by_contra hgreater
  obtain ⟨whole, hwhole⟩ := Int.eq_ofNat_of_zero_le hnonneg
  rw [hwhole] at hlt hgreater
  rcases Nat.eq_zero_or_pos count with rfl | hpos
  · have hzero : binary64 ((0 : Nat) : Rat) = 0 := by simp [binary64]
    rw [hzero] at hlt
    exact absurd hlt (not_lt.2 (by positivity))
  obtain ⟨digits, hrounded, hnear⟩ := binary64_natCast hpos
  -- Both are multiples of the unit of the count's last digit.
  have hmultiple : 2 ^ (count.log2 - 52) ∣ whole := by
    rcases Nat.lt_or_ge 52 count.log2 with hlong | hshort
    · refine two_pow_dvd_of_lt hwhole ?_
      rw [Nat.sub_add_cancel hlong.le]
      have hself := Nat.log2_self_le hpos.ne'
      omega
    · rw [Nat.sub_eq_zero_of_le hshort]
      exact one_dvd whole
  obtain ⟨multiple, rfl⟩ := hmultiple
  have hdigits : digits < multiple + 1 := by
    refine Nat.lt_of_mul_lt_mul_right (a := 2 ^ (count.log2 - 52)) ?_
    calc digits * 2 ^ (count.log2 - 52)
        < count + 2 ^ (count.log2 - 52) := hnear
      _ ≤ 2 ^ (count.log2 - 52) * multiple + 2 ^ (count.log2 - 52) := by omega
      _ = (multiple + 1) * 2 ^ (count.log2 - 52) := by ring
  have hle : digits * 2 ^ (count.log2 - 52) ≤ 2 ^ (count.log2 - 52) * multiple := by
    rw [Nat.mul_comm]
    exact Nat.mul_le_mul_left _ (Nat.lt_succ_iff.1 hdigits)
  rw [hrounded] at hlt
  have hltNat : 2 ^ (count.log2 - 52) * multiple < digits * 2 ^ (count.log2 - 52) := by
    exact_mod_cast hlt
  omega

end IcmpEcho.Number
