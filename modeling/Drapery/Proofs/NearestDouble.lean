import Mathlib
import Drapery.Decimal.Shortest
import Drapery.Proofs.DoubleBits

/-!
# The double nearest to a decimal

The numbers that a double is nearest to lie between the midpoints to its
neighbours.  Reading any of them as a quotient of natural numbers gives the
double back, and so does reading the shortest decimal among them.
-/

namespace Drapery

/-! ## Rounding a quotient -/

theorem roundDiv_toEven_eq {num den n : Nat} (hden : 0 < den)
    (hlow : 2 * n * den ≤ 2 * num + den) (hhigh : 2 * num ≤ (2 * n + 1) * den)
    (hodd : n % 2 = 1 → 2 * n * den < 2 * num + den ∧ 2 * num < (2 * n + 1) * den) :
    roundDiv .toEven num den = n := by
  have hsplit : den * (num / den) + num % den = num := Nat.div_add_mod num den
  have hrest : num % den < den := Nat.mod_lt num hden
  rw [roundDiv]
  generalize num / den = quotient at *
  generalize num % den = rest at *
  subst hsplit
  obtain rfl | rfl : n = quotient ∨ n = quotient + 1 := by
    have hle : quotient ≤ n := by
      by_contra hlt
      have hmul : (n + 1) * den ≤ quotient * den := Nat.mul_le_mul_right den (by omega)
      nlinarith
    have hge : n ≤ quotient + 1 := by
      by_contra hlt
      have hmul : (quotient + 2) * den ≤ n * den := Nat.mul_le_mul_right den (by omega)
      nlinarith
    omega
  · have htwice : 2 * rest ≤ den := by nlinarith
    have heven : n % 2 = 1 → 2 * rest < den := fun h => by nlinarith [hodd h]
    split
    · rfl
    · rw [if_neg (by omega)]
      omega
  · have htwice : den ≤ 2 * rest := by nlinarith
    have heven : (quotient + 1) % 2 = 1 → den < 2 * rest := fun h => by nlinarith [hodd h]
    rw [if_neg (by omega)]
    split
    · rfl
    · omega

theorem roundDiv_le {tie : Tie} {num den bound : Nat} (h : num < bound * den) :
    roundDiv tie num den ≤ bound := by
  have hlt : num / den < bound := Nat.div_lt_of_lt_mul (mul_comm bound den ▸ h)
  unfold roundDiv
  simp only
  split
  · exact hlt.le
  · split
    · exact hlt
    · cases tie
      · simp only
        omega
      · exact hlt

theorem abs_roundDiv_sub_le {tie : Tie} {num den : Nat} (hden : 0 < den) :
    |(roundDiv tie num den : ℚ) - num / den| ≤ 1 / 2 := by
  have hsplit : den * (num / den) + num % den = num := Nat.div_add_mod num den
  have hrest : num % den < den := Nat.mod_lt num hden
  have hnear : 2 * roundDiv tie num den * den ≤ 2 * num + den ∧
      2 * num ≤ 2 * roundDiv tie num den * den + den := by
    unfold roundDiv
    simp only
    generalize num / den = quotient at *
    generalize num % den = rest at *
    subst hsplit
    split
    · constructor <;> nlinarith
    · split
      · constructor <;> nlinarith
      · have hhalf : 2 * rest = den := by omega
        cases tie
        · simp only
          rcases Nat.mod_two_eq_zero_or_one quotient with h | h <;> rw [h] <;>
            constructor <;> nlinarith
        · constructor <;> nlinarith
  obtain ⟨hlow, hhigh⟩ := hnear
  have hdenQ : (0 : ℚ) < den := by exact_mod_cast hden
  have hlowQ : (2 * roundDiv tie num den * den : ℚ) ≤ 2 * num + den := by exact_mod_cast hlow
  have hhighQ : (2 * num : ℚ) ≤ 2 * roundDiv tie num den * den + den := by exact_mod_cast hhigh
  have hquotient : (num : ℚ) / den * den = num := div_mul_cancel₀ _ hdenQ.ne'
  rw [abs_le]
  constructor <;> nlinarith

/-! ## Powers with whole exponents -/

theorem zpow_mul_pow_toNat_neg (base : ℚ) (hbase : base ≠ 0) (exponent : Int) :
    base ^ exponent * base ^ (-exponent).toNat = base ^ exponent.toNat := by
  rw [← zpow_natCast, ← zpow_natCast, ← zpow_add₀ hbase]
  congr 1
  omega

namespace Binary

theorem two_zpow_lt_iff {m n : Int} : (2 : ℚ) ^ m < 2 ^ n ↔ m < n :=
  zpow_lt_zpow_iff_right₀ (by norm_num)

/-! ## The grid around a quotient -/

theorem quotient_bounds {num den : Nat} (hnum : 0 < num) (hden : 0 < den) :
    (2 : ℚ) ^ (num.log2 - den.log2 - 1 : Int) < num / den ∧
      (num / den : ℚ) < 2 ^ (num.log2 - den.log2 + 1 : Int) := by
  have hdenQ : (0 : ℚ) < den := by exact_mod_cast hden
  have hnumLow : (2 : ℚ) ^ num.log2 ≤ num := by exact_mod_cast Nat.log2_self_le hnum.ne'
  have hnumHigh : (num : ℚ) < 2 ^ (num.log2 + 1) := by exact_mod_cast Nat.lt_log2_self
  have hdenLow : (2 : ℚ) ^ den.log2 ≤ den := by exact_mod_cast Nat.log2_self_le hden.ne'
  have hdenHigh : (den : ℚ) < 2 ^ (den.log2 + 1) := by exact_mod_cast Nat.lt_log2_self
  constructor
  · rw [lt_div_iff₀ hdenQ]
    calc (2 : ℚ) ^ (num.log2 - den.log2 - 1 : Int) * den
      _ < 2 ^ (num.log2 - den.log2 - 1 : Int) * 2 ^ (den.log2 + 1) := by gcongr
      _ = 2 ^ num.log2 := by
          rw [← zpow_natCast, ← zpow_natCast, ← zpow_add₀ (by norm_num)]
          congr 1
          omega
      _ ≤ num := hnumLow
  · rw [div_lt_iff₀ hdenQ]
    calc (num : ℚ)
      _ < 2 ^ (num.log2 + 1) := hnumHigh
      _ = 2 ^ (num.log2 - den.log2 + 1 : Int) * 2 ^ den.log2 := by
          rw [← zpow_natCast, ← zpow_natCast, ← zpow_add₀ (by norm_num)]
          congr 1
          omega
      _ ≤ 2 ^ (num.log2 - den.log2 + 1 : Int) * den := by gcongr

/-- The grid is as fine as 53 bits or the least exponent allow. -/
theorem exists_gridExponent {num den : Nat} (hnum : 0 < num) (hden : 0 < den) :
    ∃ raw : Int, gridExponent num den = max leastExponent raw ∧
      (2 : ℚ) ^ (52 + raw) ≤ num / den ∧ (num / den : ℚ) < 2 ^ (53 + raw) := by
  have hdenQ : (0 : ℚ) < den := by exact_mod_cast hden
  have hquotient := quotient_bounds hnum hden
  set size : Int := num.log2 - den.log2 with hsize
  have hfits : den * Nat.pow 2 (52 + (size - 52).toNat) ≤ num * Nat.pow 2 (-(size - 52)).toNat ↔
      (2 : ℚ) ^ size ≤ num / den := by
    have hpower : (2 : ℚ) ^ size * 2 ^ (-(size - 52)).toNat = 2 ^ (52 + (size - 52).toNat) := by
      rw [pow_add, ← zpow_mul_pow_toNat_neg 2 (by norm_num) (size - 52), ← mul_assoc,
        ← zpow_natCast 2 52, ← zpow_add₀ (by norm_num)]
      congr 2
      omega
    rw [le_div_iff₀ hdenQ, ← Nat.cast_le (α := ℚ)]
    simp only [Nat.pow_eq, Nat.cast_mul, Nat.cast_pow, Nat.cast_ofNat]
    rw [← hpower, ← mul_assoc, mul_comm (den : ℚ)]
    exact mul_le_mul_iff_left₀ (by positivity)
  have hcoarse : 52 + (size - 52) = size ∧ 53 + (size - 52) = size + 1 := by omega
  have hfine : 52 + (size - 52 - 1) = size - 1 ∧ 53 + (size - 52 - 1) = size := by omega
  rw [gridExponent]
  simp only [← hsize]
  split
  · rename_i h
    refine ⟨size - 52, rfl, ?_, ?_⟩
    · rw [hcoarse.1]
      exact hfits.1 h
    · rw [hcoarse.2]
      exact hquotient.2
  · rename_i h
    refine ⟨size - 52 - 1, rfl, ?_, ?_⟩
    · rw [hfine.1]
      exact hquotient.1.le
    · rw [hfine.2]
      exact not_le.1 fun hle => h (hfits.2 hle)

theorem gridExponent_eq {num den : Nat} (hnum : 0 < num) (hden : 0 < den) {exponent : Int}
    (hleast : leastExponent ≤ exponent) (hhigh : (num / den : ℚ) < 2 ^ (53 + exponent))
    (hlow : (2 : ℚ) ^ (52 + exponent) ≤ num / den ∨ exponent = leastExponent) :
    gridExponent num den = exponent := by
  obtain ⟨raw, hgrid, hrawLow, hrawHigh⟩ := exists_gridExponent hnum hden
  have hle : raw ≤ exponent := by
    have := two_zpow_lt_iff.1 (hrawLow.trans_lt hhigh)
    omega
  rw [hgrid]
  rcases hlow with hlow | rfl
  · have hge := two_zpow_lt_iff.1 (hlow.trans_lt hrawHigh)
    omega
  · omega

/-! ## Nearest doubles by their steps -/

theorem nearestBits_eq {num den n : Nat} {exponent : Int} (hden : 0 < den)
    (hgrid : gridExponent num den = exponent)
    (hlow : (n - 1 / 2) * 2 ^ exponent ≤ (num / den : ℚ))
    (hhigh : (num / den : ℚ) ≤ (n + 1 / 2) * 2 ^ exponent)
    (hodd : n % 2 = 1 → (n - 1 / 2) * 2 ^ exponent < (num / den : ℚ) ∧
      (num / den : ℚ) < (n + 1 / 2) * 2 ^ exponent) :
    nearestBits num den =
      min infinityBits (n + (exponent - leastExponent).toNat * Nat.pow 2 fractionBits) := by
  have hdenQ : (0 : ℚ) < den := by exact_mod_cast hden
  have hscale : (0 : ℚ) < 2 ^ (-exponent).toNat := by positivity
  have hpower := zpow_mul_pow_toNat_neg 2 (by norm_num) exponent
  have hunits : roundDiv .toEven (num * Nat.pow 2 (-exponent).toNat)
      (den * Nat.pow 2 exponent.toNat) = n := by
    rw [le_div_iff₀ hdenQ] at hlow
    rw [div_le_iff₀ hdenQ] at hhigh
    rw [lt_div_iff₀ hdenQ, div_lt_iff₀ hdenQ] at hodd
    apply roundDiv_toEven_eq
    · exact Nat.mul_pos hden (Nat.two_pow_pos _)
    · rw [← Nat.cast_le (α := ℚ)]
      push_cast [Nat.pow_eq]
      rw [← hpower]
      nlinarith
    · rw [← Nat.cast_le (α := ℚ)]
      push_cast [Nat.pow_eq]
      rw [← hpower]
      nlinarith
    · intro h
      obtain ⟨hlt, hgt⟩ := hodd h
      rw [← Nat.cast_lt (α := ℚ), ← Nat.cast_lt (α := ℚ)]
      push_cast [Nat.pow_eq]
      rw [← hpower]
      constructor <;> nlinarith
  rw [nearestBits]
  simp only [hgrid, hunits]

theorem nearestBits_lt {num den : Nat} (hnum : 0 < num) (hden : 0 < den)
    (h : (num / den : ℚ) < 2 ^ (1023 : Int)) : nearestBits num den < infinityBits := by
  obtain ⟨raw, hgrid, hlow, hhigh⟩ := exists_gridExponent hnum hden
  have hraw := two_zpow_lt_iff.1 (hlow.trans_lt h)
  have hexponent : gridExponent num den ≤ 970 := by
    rw [hgrid, leastExponent]
    omega
  have hbelow : (num / den : ℚ) < 2 ^ (53 + gridExponent num den) := by
    refine hhigh.trans_le (zpow_le_zpow_right₀ (by norm_num) ?_)
    omega
  rw [nearestBits]
  generalize gridExponent num den = exponent at *
  have hunits : roundDiv .toEven (num * Nat.pow 2 (-exponent).toNat)
      (den * Nat.pow 2 exponent.toNat) ≤ 2 ^ 53 := by
    apply roundDiv_le
    rw [div_lt_iff₀ (by exact_mod_cast hden), zpow_add₀ (by norm_num)] at hbelow
    rw [← Nat.cast_lt (α := ℚ)]
    push_cast [Nat.pow_eq]
    rw [← zpow_mul_pow_toNat_neg 2 (by norm_num) exponent]
    calc (num : ℚ) * 2 ^ (-exponent).toNat
      _ < 2 ^ (53 : Int) * 2 ^ exponent * den * 2 ^ (-exponent).toNat := by gcongr
      _ = 2 ^ 53 * (den * (2 ^ exponent * 2 ^ (-exponent).toNat)) := by
          norm_num
          ring
  have hsteps : (exponent - leastExponent).toNat ≤ 2044 := by
    rw [leastExponent]
    omega
  refine (Nat.min_le_right ..).trans_lt ?_
  calc _
    _ ≤ 2 ^ 53 + 2044 * Nat.pow 2 fractionBits := by gcongr
    _ < infinityBits := by decide

/-- The numbers that round to the double: those between the midpoints to its
neighbours, and the midpoints themselves if its significand is even.  The
neighbour below a power of two is half as far. -/
structure Covers (b : Binary) (q : ℚ) : Prop where
  low : (b.significand - b.lowerGap / 4) * 2 ^ b.exponent ≤ q
  high : q ≤ (b.significand + 1 / 2) * 2 ^ b.exponent
  inside : b.significand % 2 = 1 →
    (b.significand - b.lowerGap / 4) * 2 ^ b.exponent < q ∧
      q < (b.significand + 1 / 2) * 2 ^ b.exponent

theorem lowerGap_le (b : Binary) : b.lowerGap ≤ 2 := by
  rw [lowerGap]
  split <;> decide

theorem lowerGap_eq_one {b : Binary} (h : b.lowerGap = 1) :
    b.significand = 2 ^ 52 ∧ leastExponent < b.exponent := by
  rw [lowerGap] at h
  split at h
  · assumption
  · cases h

theorem Covers.half_low {b : Binary} {q : ℚ} (h : b.Covers q) :
    (b.significand - 1 / 2) * 2 ^ b.exponent ≤ q := by
  have hgap : (b.lowerGap : ℚ) ≤ 2 := by exact_mod_cast b.lowerGap_le
  refine le_trans (mul_le_mul_of_nonneg_right ?_ (by positivity)) h.low
  linarith

theorem Covers.lt_two_zpow {b : Binary} {q : ℚ} (h : b.Covers q) (hb : b.Normalized) :
    q < 2 ^ (53 + b.exponent) := by
  have hlt : (b.significand : ℚ) + 1 ≤ 2 ^ 53 := by exact_mod_cast hb.significand_lt
  refine h.high.trans_lt ?_
  rw [zpow_add₀ (by norm_num), show (2 : ℚ) ^ (53 : Int) = 2 ^ 53 from rfl]
  exact mul_lt_mul_of_pos_right (by linarith) (by positivity)

theorem Covers.nearestBits_eq {num den : Nat} {b : Binary} (h : b.Covers (num / den))
    (hb : b.Normalized) (hnum : 0 < num) (hden : 0 < den)
    (hcoarse : b.lowerGap = 1 → (2 : ℚ) ^ (52 + b.exponent) ≤ num / den) :
    nearestBits num den = min infinityBits
      (b.significand + (b.exponent - leastExponent).toNat * Nat.pow 2 fractionBits) := by
  have hunit : (0 : ℚ) < 2 ^ b.exponent := by positivity
  have hgap : (b.lowerGap : ℚ) ≤ 2 := by exact_mod_cast b.lowerGap_le
  have hgrid : gridExponent num den = b.exponent := by
    refine gridExponent_eq hnum hden hb.leastExponent_le (h.lt_two_zpow hb) ?_
    by_contra hnone
    rw [not_or, not_le] at hnone
    obtain ⟨hsmall, hexponent⟩ := hnone
    have hlarge : 2 ^ 52 + 1 ≤ b.significand := by
      have hne : b.significand ≠ 2 ^ 52 := fun hpower => by
        refine absurd (hcoarse ?_) (not_le.2 hsmall)
        exact if_pos ⟨hpower, lt_of_le_of_ne hb.leastExponent_le (Ne.symm hexponent)⟩
      have hle := hb.leading.resolve_right hexponent
      omega
    have hlargeQ : (2 ^ 52 + 1 : ℚ) ≤ b.significand := by exact_mod_cast hlarge
    refine absurd (h.half_low.trans_lt hsmall) (not_lt.2 ?_)
    rw [zpow_add₀ (by norm_num), show (2 : ℚ) ^ (52 : Int) = 2 ^ 52 from rfl]
    exact mul_le_mul_of_nonneg_right (by linarith) hunit.le
  refine Binary.nearestBits_eq hden hgrid h.half_low h.high fun hodd => ?_
  obtain ⟨hlow, hhigh⟩ := h.inside hodd
  refine ⟨lt_of_le_of_lt (mul_le_mul_of_nonneg_right ?_ hunit.le) hlow, hhigh⟩
  linarith

/-- From a power of two down to the midpoint below it, where the grid is twice as fine. -/
theorem Covers.nearestBits_eq_of_below {num den : Nat} {b : Binary} (h : b.Covers (num / den))
    (hnum : 0 < num) (hden : 0 < den) (hgap : b.lowerGap = 1)
    (hbelow : (num / den : ℚ) < 2 ^ (52 + b.exponent)) :
    nearestBits num den = min infinityBits
      (2 ^ 53 + (b.exponent - 1 - leastExponent).toNat * Nat.pow 2 fractionBits) := by
  obtain ⟨hpower, hexponent⟩ := lowerGap_eq_one hgap
  have hunit : (0 : ℚ) < 2 ^ (b.exponent - 1) := by positivity
  have hhalf : (2 : ℚ) ^ b.exponent = 2 * 2 ^ (b.exponent - 1) := by
    rw [← zpow_one_add₀ (by norm_num)]
    congr 1
    omega
  have htop : 52 + b.exponent = 53 + (b.exponent - 1) := by omega
  have hlow : ((2 ^ 53 : Nat) - 1 / 2) * 2 ^ (b.exponent - 1) ≤ (num / den : ℚ) := by
    refine le_of_eq_of_le ?_ h.low
    rw [hpower, hgap, hhalf]
    push_cast
    ring
  have hhigh : (num / den : ℚ) < (2 ^ 53 : Nat) * 2 ^ (b.exponent - 1) := by
    rw [htop, zpow_add₀ (by norm_num)] at hbelow
    exact_mod_cast hbelow
  have hgrid : gridExponent num den = b.exponent - 1 := by
    refine gridExponent_eq hnum hden (by omega) (htop ▸ hbelow) (.inl ?_)
    refine le_trans ?_ hlow
    rw [zpow_add₀ (by norm_num), show (2 : ℚ) ^ (52 : Int) = 2 ^ 52 from rfl]
    exact mul_le_mul_of_nonneg_right (by norm_num) hunit.le
  refine Binary.nearestBits_eq hden hgrid hlow ?_ (by norm_num)
  exact hhigh.le.trans (mul_le_mul_of_nonneg_right (by linarith) hunit.le)

theorem nearestBits_of_covers {bits num den : Nat} {b : Binary} (hbits : ofBits? bits = some b)
    (hnum : 0 < num) (hden : 0 < den) (h : b.Covers (num / den)) : nearestBits num den = bits := by
  obtain ⟨hb, hsteps, hfinite⟩ := ofBits?_eq_some hbits
  by_cases hbelow : b.lowerGap = 1 ∧ (num / den : ℚ) < 2 ^ (52 + b.exponent)
  · obtain ⟨hpower, hexponent⟩ := lowerGap_eq_one hbelow.1
    have hsucc : (b.exponent - leastExponent).toNat =
        (b.exponent - 1 - leastExponent).toNat + 1 := by omega
    have hsame : 2 ^ 53 + (b.exponent - 1 - leastExponent).toNat * Nat.pow 2 fractionBits =
        bits := by
      rw [hsteps, hpower, hsucc, fractionBits, Nat.pow_eq]
      ring
    rw [h.nearestBits_eq_of_below hnum hden hbelow.1 hbelow.2, hsame, min_eq_right hfinite.le]
  · have hcoarse : b.lowerGap = 1 → (2 : ℚ) ^ (52 + b.exponent) ≤ num / den :=
      fun hgap => not_lt.1 fun hlt => hbelow ⟨hgap, hlt⟩
    rw [h.nearestBits_eq hb hnum hden hcoarse, ← hsteps, min_eq_right hfinite.le]

theorem exponent_le_of_ofBits? {bits : Nat} {b : Binary} (h : ofBits? bits = some b) :
    b.exponent ≤ 972 := by
  obtain ⟨-, hsteps, hfinite⟩ := ofBits?_eq_some h
  rw [leastExponent, fractionBits, Nat.pow_eq] at hsteps
  rw [infinityBits] at hfinite
  omega

/-! ## The shortest decimal -/

theorem scaled_eq (b : Binary) (k : Int) (quarters : Nat) :
    (b.scaled k quarters : ℚ) =
      quarters / 4 * 2 ^ b.exponent * (2 ^ (2 - b.exponent).toNat * 10 ^ (-k).toNat) := by
  have hpower := zpow_mul_pow_toNat_neg 2 (by norm_num) (b.exponent - 2)
  rw [neg_sub, zpow_sub₀ (by norm_num)] at hpower
  rw [scaled]
  push_cast [Nat.pow_eq]
  rw [← hpower]
  norm_num
  ring

theorem denominator_eq (b : Binary) (k : Int) :
    (b.denominator k : ℚ) = 10 ^ k * (2 ^ (2 - b.exponent).toNat * 10 ^ (-k).toNat) := by
  have hpower := zpow_mul_pow_toNat_neg 10 (by norm_num) k
  rw [denominator]
  push_cast [Nat.pow_eq]
  rw [← hpower]
  ring

theorem covers_of_roundsFrom {b : Binary} {k : Int} {candidate : Nat}
    (hpos : 0 < b.significand) (h : b.roundsFrom k candidate = true) :
    b.Covers (candidate * 10 ^ k) := by
  set unit : ℚ := 2 ^ (2 - b.exponent).toNat * 10 ^ (-k).toNat with hunit
  have hunitPos : 0 < unit := by positivity
  have hgap : b.lowerGap ≤ 4 * b.significand := b.lowerGap_le.trans (by omega)
  have hlow : (b.scaled k (4 * b.significand - b.lowerGap) : ℚ) =
      (b.significand - b.lowerGap / 4) * 2 ^ b.exponent * unit := by
    rw [scaled_eq, Nat.cast_sub hgap]
    push_cast
    ring
  have hhigh : (b.scaled k (4 * b.significand + 2) : ℚ) =
      (b.significand + 1 / 2) * 2 ^ b.exponent * unit := by
    rw [scaled_eq]
    push_cast
    ring
  have hpoint : ((candidate * b.denominator k : Nat) : ℚ) = candidate * 10 ^ k * unit := by
    rw [Nat.cast_mul, denominator_eq, mul_assoc]
  rw [roundsFrom] at h
  split at h
  · rename_i heven
    simp only [Bool.and_eq_true, decide_eq_true_eq, ← Nat.cast_le (α := ℚ)] at h
    rw [hlow, hhigh, hpoint, mul_le_mul_iff_left₀ hunitPos, mul_le_mul_iff_left₀ hunitPos] at h
    exact ⟨h.1, h.2, fun hodd => by omega⟩
  · simp only [Bool.and_eq_true, decide_eq_true_eq, ← Nat.cast_lt (α := ℚ)] at h
    rw [hlow, hhigh, hpoint, mul_lt_mul_iff_left₀ hunitPos, mul_lt_mul_iff_left₀ hunitPos] at h
    exact ⟨h.1.le, h.2.le, fun _ => h⟩

theorem roundsFrom_of_onGrid? {tie : Tie} {b : Binary} {k : Int} {d : Decimal}
    (h : b.onGrid? tie k = some d) : d.exponent = k ∧ b.roundsFrom k d.digits = true := by
  unfold onGrid? at h
  extract_lets _ _ nearest other at h
  split at h
  · rename_i hnearest
    cases h
    exact ⟨rfl, hnearest⟩
  · split at h
    · rename_i hother
      cases h
      exact ⟨rfl, hother⟩
    · cases h

end Binary

namespace Decimal

def value (d : Decimal) : ℚ := d.digits * 10 ^ d.exponent

end Decimal

namespace Binary

theorem value_inFull (b : Binary) : b.inFull.value = b.significand * 2 ^ b.exponent := by
  have htwo := zpow_mul_pow_toNat_neg 2 (by norm_num) b.exponent
  have hten : (10 : ℚ) ^ min 0 b.exponent * 10 ^ (-b.exponent).toNat = 1 := by
    rw [← zpow_natCast, ← zpow_add₀ (by norm_num), show min 0 b.exponent + _ = 0 by omega,
      zpow_zero]
  have hsplit : (10 : ℚ) ^ (-b.exponent).toNat =
      2 ^ (-b.exponent).toNat * 5 ^ (-b.exponent).toNat := by
    rw [← mul_pow]
    norm_num
  rw [Decimal.value, inFull]
  push_cast [Nat.pow_eq]
  rw [← htwo]
  calc (b.significand * (2 ^ b.exponent * 2 ^ (-b.exponent).toNat) * 5 ^ (-b.exponent).toNat) *
        (10 : ℚ) ^ min 0 b.exponent
    _ = b.significand * 2 ^ b.exponent *
        (10 ^ min 0 b.exponent * (2 ^ (-b.exponent).toNat * 5 ^ (-b.exponent).toNat)) := by ring
    _ = b.significand * 2 ^ b.exponent := by rw [← hsplit, hten, mul_one]

theorem covers_self {b : Binary} : b.Covers (b.significand * 2 ^ b.exponent) := by
  have hunit : (0 : ℚ) < 2 ^ b.exponent := by positivity
  have hgap : (0 : ℚ) < b.lowerGap := by
    rw [lowerGap]
    split <;> norm_num
  have hlow : (b.significand - b.lowerGap / 4) * 2 ^ b.exponent <
      b.significand * (2 : ℚ) ^ b.exponent := mul_lt_mul_of_pos_right (by linarith) hunit
  have hhigh : b.significand * (2 : ℚ) ^ b.exponent <
      (b.significand + 1 / 2) * 2 ^ b.exponent := mul_lt_mul_of_pos_right (by linarith) hunit
  exact ⟨hlow.le, hhigh.le, fun _ => ⟨hlow, hhigh⟩⟩

theorem covers_shortest {b : Binary} (hpos : 0 < b.significand) (tie : Tie) :
    b.Covers (b.shortest tie).value := by
  rw [shortest, if_neg hpos.ne']
  cases hgrid : (List.range 20).findSome? fun n : Nat => b.onGrid? tie (b.topExponent - n) with
  | none =>
      rw [Option.getD_none, value_inFull]
      exact covers_self
  | some d =>
      obtain ⟨n, -, hfound⟩ := List.exists_of_findSome?_eq_some hgrid
      obtain ⟨hexponent, hrounds⟩ := roundsFrom_of_onGrid? hfound
      have hcovers := covers_of_roundsFrom hpos hrounds
      rwa [← hexponent] at hcovers

end Binary

/-! ## Reading decimals -/

namespace Decimal

theorem value_eq_div (d : Decimal) : d.value =
    (d.digits * Nat.pow 10 d.exponent.toNat : Nat) / (Nat.pow 10 (-d.exponent).toNat : Nat) := by
  have hpower := zpow_mul_pow_toNat_neg 10 (by norm_num) d.exponent
  rw [value]
  push_cast [Nat.pow_eq]
  rw [eq_div_iff (by positivity), mul_assoc, hpower]

theorem exponent_le_limit {d : Decimal} (hdigits : d.digits ≠ 0)
    (h : d.value < (2 : ℚ) ^ (1025 : Int)) : d.exponent ≤ exponentLimit := by
  by_contra! hlimit
  refine absurd h (not_lt.2 ?_)
  have hone : (1 : ℚ) ≤ d.digits := by exact_mod_cast Nat.pos_of_ne_zero hdigits
  calc (2 : ℚ) ^ (1025 : Int)
    _ ≤ 1 * 10 ^ (400 : Int) := by
        rw [one_mul]
        exact_mod_cast (by decide +kernel : 2 ^ 1025 ≤ 10 ^ 400)
    _ ≤ d.digits * 10 ^ d.exponent := by
        gcongr
        · norm_num
        · exact hlimit.le

theorem neg_limit_le {d : Decimal} (h : (2 : ℚ) ^ (-1075 : Int) ≤ d.value) :
    -exponentLimit ≤ d.exponent + d.digits.log2 := by
  by_contra! hlimit
  refine absurd h (not_le.2 ?_)
  have hsize : (d.digits : ℚ) < 2 ^ (d.digits.log2 + 1) := by exact_mod_cast Nat.lt_log2_self
  calc d.digits * (10 : ℚ) ^ d.exponent
    _ ≤ 10 ^ (d.digits.log2 + 1) * 10 ^ d.exponent := by
        gcongr
        exact hsize.le.trans (by gcongr; norm_num)
    _ = 10 ^ ((d.digits.log2 + 1 : Nat) + d.exponent) := by
        rw [zpow_add₀ (by norm_num), zpow_natCast]
    _ ≤ 10 ^ (-400 : Int) := by
        refine zpow_le_zpow_right₀ (by norm_num) ?_
        rw [exponentLimit] at hlimit
        push_cast
        omega
    _ < 2 ^ (-1075 : Int) := by
        rw [zpow_neg, zpow_neg]
        refine inv_strictAnti₀ (by positivity) ?_
        exact_mod_cast (by decide +kernel : 2 ^ 1075 < 10 ^ 400)

/-- Whatever decimal the double covers reads as the double.  No such decimal is
far enough out to be answered without computing its powers. -/
theorem nearestBits_of_covers {bits : Nat} {b : Binary} (hbits : Binary.ofBits? bits = some b)
    (hpos : 0 < b.significand) {d : Decimal} (h : b.Covers d.value) : d.nearestBits = bits := by
  obtain ⟨hb, -, -⟩ := Binary.ofBits?_eq_some hbits
  have hleast : (2 : ℚ) ^ (-1075 : Int) ≤ d.value := by
    have hone : (1 : ℚ) ≤ b.significand := by exact_mod_cast hpos
    have hunit : (2 : ℚ) ^ (-1074 : Int) ≤ 2 ^ b.exponent :=
      zpow_le_zpow_right₀ (by norm_num) hb.leastExponent_le
    refine le_trans ?_ h.half_low
    calc (2 : ℚ) ^ (-1 + -1074 : Int)
      _ = 1 / 2 * 2 ^ (-1074 : Int) := by rw [zpow_add₀ (by norm_num), zpow_neg_one, one_div]
      _ ≤ (b.significand - 1 / 2) * 2 ^ b.exponent := by
          gcongr <;> linarith
  have hmost : d.value < (2 : ℚ) ^ (1025 : Int) := by
    refine (h.lt_two_zpow hb).trans_le (zpow_le_zpow_right₀ (by norm_num) ?_)
    have := Binary.exponent_le_of_ofBits? hbits
    omega
  have hdigits : d.digits ≠ 0 := by
    intro hzero
    rw [value, hzero, Nat.cast_zero, zero_mul] at hleast
    exact absurd hleast (not_le.2 (by positivity))
  have hnum : 0 < d.digits * Nat.pow 10 d.exponent.toNat :=
    Nat.mul_pos (Nat.pos_of_ne_zero hdigits) (Nat.pow_pos (by norm_num))
  rw [nearestBits, if_neg hdigits, if_neg (not_lt.2 (exponent_le_limit hdigits hmost)),
    if_neg (not_lt.2 (neg_limit_le hleast))]
  rw [value_eq_div] at h
  exact Binary.nearestBits_of_covers hbits hnum (Nat.pow_pos (by norm_num)) h

end Decimal

/-- A decimal with the value of the shortest one reads as the double it is the
shortest of. -/
theorem Decimal.nearestBits_of_value_shortest {bits : Nat} {b : Binary} {d : Decimal} {tie : Tie}
    (hbits : Binary.ofBits? bits = some b) (h : d.value = (b.shortest tie).value) :
    d.nearestBits = bits := by
  rcases Nat.eq_zero_or_pos b.significand with hzero | hpos
  · have hdigits : d.digits = 0 := by
      have hvalue : d.value = 0 := by
        rw [h, Binary.shortest, if_pos hzero, value]
        simp
      have hten : (10 : ℚ) ^ d.exponent ≠ 0 := by positivity
      exact_mod_cast (mul_eq_zero.1 hvalue).resolve_right hten
    obtain ⟨hb, hsteps, -⟩ := Binary.ofBits?_eq_some hbits
    have hexponent : b.exponent = Binary.leastExponent :=
      hb.leading.resolve_left (by omega)
    rw [nearestBits, if_pos hdigits, hsteps, hzero, hexponent]
    simp
  · refine nearestBits_of_covers hbits hpos ?_
    rw [h]
    exact Binary.covers_shortest hpos tie

end Drapery
