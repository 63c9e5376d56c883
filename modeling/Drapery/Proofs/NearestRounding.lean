import Mathlib
import Drapery.Proofs.NearestDouble

/-!
# Rounding to the nearest double

The bits of a magnitude count the steps from zero up to it.  Continued past the
largest double, the steps reach every power of two, and the bits that a decimal
is read to are those of the nearest step, of two steps at equal distance the
even one.  The step at which infinity begins is an ordinary one in this count,
so that a decimal is read as infinite from half a step below it.
-/

namespace Drapery

/-! ## The nearest whole number -/

theorem le_roundDiv {tie : Tie} {num den bound : Nat} (hden : 0 < den) (h : bound * den ≤ num) :
    bound ≤ roundDiv tie num den := by
  have hle : bound ≤ num / den := (Nat.le_div_iff_mul_le hden).2 h
  unfold roundDiv
  simp only
  split
  · exact hle
  · split
    · exact Nat.le_succ_of_le hle
    · cases tie
      · exact Nat.le_add_right_of_le hle
      · exact Nat.le_succ_of_le hle

section

variable {num den : Nat}

theorem one_le_abs_natCast_sub {m n : Nat} (h : m ≠ n) : (1 : ℚ) ≤ |(m : ℚ) - n| := by
  have hint : (1 : ℤ) ≤ |(m : ℤ) - n| := Int.one_le_abs (sub_ne_zero.2 (by exact_mod_cast h))
  exact_mod_cast hint

theorem roundDiv_toEven_nearest (hden : 0 < den) (other : Nat) :
    |(roundDiv .toEven num den : ℚ) - num / den| ≤ |(other : ℚ) - num / den| := by
  have hhalf : |(roundDiv .toEven num den : ℚ) - num / den| ≤ 1 / 2 := abs_roundDiv_sub_le hden
  by_cases hsame : other = roundDiv .toEven num den
  · rw [hsame]
  · have hapart := one_le_abs_natCast_sub hsame
    have htriangle := abs_sub_le (other : ℚ) (num / den) (roundDiv .toEven num den)
    rw [abs_sub_comm ((num : ℚ) / den)] at htriangle
    linarith

theorem roundDiv_toEven_even (hden : 0 < den) {other : Nat}
    (hother : other ≠ roundDiv .toEven num den)
    (hdist : |(other : ℚ) - num / den| = |(roundDiv .toEven num den : ℚ) - num / den|) :
    roundDiv .toEven num den % 2 = 0 := by
  by_contra hodd
  have hdenQ : (0 : ℚ) < den := by exact_mod_cast hden
  have hsplit : den * (num / den) + num % den = num := Nat.div_add_mod num den
  -- An odd number is nearer than half a unit, so that no other one is as near.
  have hnear : 2 * roundDiv .toEven num den * den < 2 * num + den ∧
      2 * num < 2 * roundDiv .toEven num den * den + den := by
    revert hodd
    unfold roundDiv
    simp only
    have hrest : num % den < den := Nat.mod_lt num hden
    generalize num / den = quotient at *
    generalize num % den = rest at *
    subst hsplit
    split
    · intro
      constructor <;> nlinarith
    · split
      · intro
        constructor <;> nlinarith
      · intro hodd
        exact absurd hodd (by omega)
  have hlow : (2 * roundDiv .toEven num den * den : ℚ) < 2 * num + den := by
    exact_mod_cast hnear.1
  have hhigh : (2 * num : ℚ) < 2 * roundDiv .toEven num den * den + den := by
    exact_mod_cast hnear.2
  have hquotient : (num : ℚ) / den * den = num := div_mul_cancel₀ _ hdenQ.ne'
  have hhalf : |(roundDiv .toEven num den : ℚ) - num / den| < 1 / 2 := by
    rw [abs_lt]
    constructor <;> nlinarith
  have hapart := one_le_abs_natCast_sub hother
  have htriangle := abs_sub_le (other : ℚ) (num / den) (roundDiv .toEven num den)
  rw [abs_sub_comm ((num : ℚ) / den)] at htriangle
  linarith

end

/-! ## Steps -/

namespace Binary

def binades (bits : Nat) : Nat := bits / Nat.pow 2 fractionBits - 1

/-- The magnitude so many steps above zero, as if there were no largest exponent. -/
def stepValue (bits : Nat) : ℚ :=
  (bits - binades bits * Nat.pow 2 fractionBits : Nat) * 2 ^ (leastExponent + binades bits)

/-- Units that make a step in a binade, or that lead to the next one. -/
def InBinade (units binade : Nat) : Prop :=
  units ≤ 2 ^ 53 ∧ (2 ^ 52 ≤ units ∨ binade = 0)

theorem stepValue_eq {units binade : Nat} (h : InBinade units binade) :
    stepValue (units + binade * Nat.pow 2 fractionBits) = units * 2 ^ (leastExponent + binade) := by
  obtain ⟨hhigh, hlow⟩ := h
  rw [stepValue, binades, fractionBits, Nat.pow_eq]
  rcases Nat.lt_or_eq_of_le hhigh with hlt | rfl
  · have hsame : (units + binade * 2 ^ 52) / 2 ^ 52 - 1 = binade := by omega
    rw [hsame, Nat.add_sub_cancel]
  · have hnext : (2 ^ 53 + binade * 2 ^ 52) / 2 ^ 52 - 1 = binade + 1 := by omega
    have hunits : 2 ^ 53 + binade * 2 ^ 52 - (binade + 1) * 2 ^ 52 = 2 ^ 52 := by omega
    have hexponent : leastExponent + (binade + 1 : Nat) = leastExponent + binade + 1 := by omega
    rw [hnext, hunits, hexponent, zpow_add_one₀ (by norm_num)]
    push_cast
    ring

theorem exists_inBinade (bits : Nat) : ∃ units binade, InBinade units binade ∧ units < 2 ^ 53 ∧
    bits = units + binade * Nat.pow 2 fractionBits := by
  refine ⟨bits - binades bits * Nat.pow 2 fractionBits, binades bits, ⟨?_, ?_⟩, ?_, ?_⟩ <;>
    rw [binades, fractionBits, Nat.pow_eq] <;> omega

theorem stepValue_lt_succ (bits : Nat) : stepValue bits < stepValue (bits + 1) := by
  obtain ⟨units, binade, hunits, hlt, rfl⟩ := exists_inBinade bits
  have hnext : InBinade (units + 1) binade := ⟨hlt, hunits.2.imp_left Nat.le_succ_of_le⟩
  have hsucc : units + binade * Nat.pow 2 fractionBits + 1 =
      units + 1 + binade * Nat.pow 2 fractionBits := by omega
  rw [hsucc, stepValue_eq hunits, stepValue_eq hnext]
  gcongr
  omega

theorem strictMono_stepValue : StrictMono stepValue := strictMono_nat_of_lt_succ stepValue_lt_succ

theorem stepValue_zero : stepValue 0 = 0 := by
  have hbinade : InBinade 0 0 := ⟨by norm_num, .inr rfl⟩
  simpa using stepValue_eq hbinade

theorem stepValue_nonneg (bits : Nat) : 0 ≤ stepValue bits :=
  stepValue_zero ▸ strictMono_stepValue.monotone (Nat.zero_le bits)

theorem stepValue_one : stepValue 1 = 2 ^ leastExponent := by
  have hbinade : InBinade 1 0 := ⟨by norm_num, .inr rfl⟩
  simpa using stepValue_eq hbinade

theorem stepValue_infinityBits : stepValue infinityBits = 2 ^ 1024 := by
  have hbinade : InBinade (2 ^ 52) 2046 := ⟨by norm_num, .inl le_rfl⟩
  have hstep := stepValue_eq hbinade
  have hbits : 2 ^ 52 + 2046 * Nat.pow 2 fractionBits = infinityBits := by decide
  have hexponent : leastExponent + (2046 : Nat) = (972 : Nat) := by decide
  rw [hbits, hexponent, zpow_natCast, Nat.cast_pow, Nat.cast_ofNat, ← pow_add] at hstep
  exact hstep

theorem stepValue_infinityBits_pred : stepValue (infinityBits - 1) = 2 ^ 1024 - 2 ^ 971 := by
  have hbinade : InBinade (2 ^ 53 - 1) 2045 := ⟨by norm_num, .inl (by norm_num)⟩
  have hstep := stepValue_eq hbinade
  have hbits : 2 ^ 53 - 1 + 2045 * Nat.pow 2 fractionBits = infinityBits - 1 := by decide
  have hexponent : leastExponent + (2045 : Nat) = (971 : Nat) := by decide
  have hunits : ((2 ^ 53 - 1 : Nat) : ℚ) = 2 ^ 53 - 1 := by norm_num
  rw [hbits, hexponent, zpow_natCast, hunits, sub_mul, ← pow_add, one_mul] at hstep
  exact hstep

theorem stepValue_of_ofBits? {bits : Nat} {b : Binary} (h : ofBits? bits = some b) :
    stepValue bits = b.significand * 2 ^ b.exponent := by
  obtain ⟨hb, hsteps, -⟩ := ofBits?_eq_some h
  have hbinade : InBinade b.significand (b.exponent - leastExponent).toNat := by
    refine ⟨hb.significand_lt.le, hb.leading.imp_right fun hleast => ?_⟩
    rw [hleast, sub_self]
    rfl
  have hexponent : leastExponent + (b.exponent - leastExponent).toNat = b.exponent := by
    have hleast := hb.leastExponent_le
    omega
  rw [hsteps, stepValue_eq hbinade, hexponent]

/-! ## The nearest step -/

/-- No step is nearer, and one that is as near as another has even bits. -/
structure NearestStep (q : ℚ) (bits : Nat) : Prop where
  nearest : ∀ other, |stepValue bits - q| ≤ |stepValue other - q|
  even : ∀ other ≠ bits, |stepValue other - q| = |stepValue bits - q| → bits % 2 = 0

theorem onGrid_or_below (binade bits : Nat) :
    (∃ count : Nat, stepValue bits = count * 2 ^ (leastExponent + binade)) ∨
      binade ≠ 0 ∧ stepValue bits < 2 ^ 52 * 2 ^ (leastExponent + binade) := by
  obtain ⟨count, step, hcount, hlt, rfl⟩ := exists_inBinade bits
  rw [stepValue_eq hcount]
  rcases Nat.lt_or_ge step binade with hbelow | habove
  · refine .inr ⟨by omega, ?_⟩
    have hcountQ : (count : ℚ) < 2 ^ 53 := by exact_mod_cast hlt
    have hexponent : leastExponent + (step : Int) + 1 ≤ leastExponent + binade := by omega
    calc count * (2 : ℚ) ^ (leastExponent + step)
      _ < 2 ^ 53 * 2 ^ (leastExponent + step) := by gcongr
      _ = 2 ^ 52 * 2 ^ (leastExponent + step + 1) := by
          rw [zpow_add_one₀ (by norm_num)]
          ring
      _ ≤ 2 ^ 52 * 2 ^ (leastExponent + binade) := by
          gcongr
          norm_num
  · refine .inl ⟨count * 2 ^ (step - binade), ?_⟩
    have hexponent : leastExponent + (step : Int) =
        (step - binade : Nat) + (leastExponent + binade) := by omega
    rw [hexponent, zpow_add₀ (by norm_num), zpow_natCast]
    push_cast
    ring

/-- The nearest whole number of units, where these are at least as coarse as the
steps around, is the nearest step. -/
theorem nearestStep_of_units {q : ℚ} {units binade : Nat} (hunits : InBinade units binade)
    (hlow : (2 : ℚ) ^ 52 * 2 ^ (leastExponent + binade) ≤ q ∨ binade = 0)
    (hnear : ∀ other : Nat, |units - q / 2 ^ (leastExponent + binade)| ≤
      |other - q / 2 ^ (leastExponent + binade)|)
    (heven : ∀ other : Nat, other ≠ units →
      |(other : ℚ) - q / 2 ^ (leastExponent + binade)| =
        |units - q / 2 ^ (leastExponent + binade)| → units % 2 = 0) :
    NearestStep q (units + binade * Nat.pow 2 fractionBits) := by
  set unit : ℚ := 2 ^ (leastExponent + binade) with hunit
  have hpos : 0 < unit := by positivity
  have hscale : ∀ count : ℚ, |count * unit - q| = |count - q / unit| * unit := by
    intro count
    rw [← abs_of_pos hpos, ← abs_mul, abs_of_pos hpos, sub_mul, div_mul_cancel₀ _ hpos.ne']
  have hvalue := stepValue_eq hunits
  rw [← hunit] at hvalue
  -- The steps below the grid are farther than the first one on it.
  have hother : ∀ other, (∃ count : Nat, stepValue other = count * unit) ∨
      |stepValue (units + binade * Nat.pow 2 fractionBits) - q| < |stepValue other - q| := by
    intro other
    rcases onGrid_or_below binade other with hgrid | ⟨hbinade, hbelow⟩
    · exact .inl hgrid
    · refine .inr ?_
      have hstart := hlow.resolve_right hbinade
      have hpower := hnear (2 ^ 52)
      rw [← hunit] at hbelow
      rw [hvalue, hscale]
      calc |units - q / unit| * unit
        _ ≤ |((2 ^ 52 : Nat) : ℚ) - q / unit| * unit := by gcongr
        _ = q - 2 ^ 52 * unit := by
            rw [← hscale, abs_sub_comm, abs_of_nonneg (by push_cast; linarith)]
            push_cast
            rfl
        _ < |stepValue other - q| := by
            rw [abs_sub_comm, abs_of_pos (by linarith)]
            linarith
  constructor
  · intro other
    rcases hother other with ⟨count, hcount⟩ | hlt
    · rw [hvalue, hcount, hscale, hscale]
      exact mul_le_mul_of_nonneg_right (hnear count) hpos.le
    · exact hlt.le
  · intro other hne hdist
    rcases hother other with ⟨count, hcount⟩ | hlt
    · have hdistinct : count ≠ units := by
        rintro rfl
        exact hne (strictMono_stepValue.injective (hcount.trans hvalue.symm))
      rw [hvalue, hcount, hscale, hscale] at hdist
      have hunitsEven := heven count hdistinct (mul_right_cancel₀ hpos.ne' hdist)
      rw [fractionBits, Nat.pow_eq]
      omega
    · exact absurd hdist hlt.ne'

/-! ## Where infinity begins -/

/-- Half a step below the power of two that follows the largest double. -/
def overflowBound : ℚ := 2 ^ 1024 - 2 ^ 970

namespace NearestStep

variable {q : ℚ} {bits : Nat}

theorem infinityBits_le_iff (h : NearestStep q bits) : infinityBits ≤ bits ↔ overflowBound ≤ q := by
  have hlast := h.nearest (infinityBits - 1)
  have hfirst := h.nearest infinityBits
  have htie := h.even infinityBits
  have hdouble : (2 : ℚ) ^ 971 = 2 * 2 ^ 970 := pow_succ' 2 970
  have hpos : (0 : ℚ) < 2 ^ 970 := by positivity
  rw [stepValue_infinityBits_pred] at hlast
  rw [stepValue_infinityBits] at hfirst htie
  rw [overflowBound]
  have hpred : infinityBits ≤ bits ∨ stepValue bits ≤ 2 ^ 1024 - 2 ^ 971 := by
    rw [← stepValue_infinityBits_pred]
    rcases Nat.lt_or_ge bits infinityBits with hlt | hge
    · exact .inr (strictMono_stepValue.monotone (Nat.le_sub_one_of_lt hlt))
    · exact .inl hge
  have hlargest : stepValue bits = 2 ^ 1024 - 2 ^ 971 → bits = infinityBits - 1 := by
    rw [← stepValue_infinityBits_pred]
    exact fun hsame => strictMono_stepValue.injective hsame
  have hinfinite : infinityBits ≤ bits → 2 ^ 1024 ≤ stepValue bits := by
    rw [← stepValue_infinityBits]
    exact fun hbits => strictMono_stepValue.monotone hbits
  generalize (2 : ℚ) ^ 1024 = top at *
  generalize (2 : ℚ) ^ 971 = step at *
  generalize (2 : ℚ) ^ 970 = half at *
  constructor
  · intro hbits
    have hvalue := hinfinite hbits
    by_contra! hq
    rw [abs_of_pos (by linarith)] at hlast
    rcases abs_cases (top - step - q) with ⟨hdist, -⟩ | ⟨hdist, -⟩ <;> linarith
  · intro hq
    by_contra! hbits
    have hvalue := hpred.resolve_left (Nat.not_le.2 hbits)
    have hdist : |stepValue bits - q| = q - stepValue bits := by
      rw [abs_sub_comm, abs_of_pos (by linarith)]
    rw [hdist] at hfirst htie
    rcases abs_cases (top - q) with ⟨hbound, -⟩ | ⟨hbound, -⟩
    · have hsame := hlargest (by linarith)
      have heven := htie (by omega) (by linarith)
      rw [hsame, infinityBits] at heven
      omega
    · linarith

/-- Two even steps at the same distance leave a nearer one between them. -/
theorem eq_of_dist_eq (h : NearestStep q bits) {other : Nat} (heven : other % 2 = bits % 2)
    (hdist : |stepValue other - q| = |stepValue bits - q|) : other = bits := by
  have hbetween : ∀ low middle high, low < middle → middle < high →
      |stepValue low - q| = |stepValue high - q| →
        |stepValue middle - q| < |stepValue high - q| := by
    intro low middle high hlow hhigh hsame
    have hlowValue := strictMono_stepValue hlow
    have hhighValue := strictMono_stepValue hhigh
    rcases abs_eq_abs.1 hsame with hequal | hopposite
    · linarith
    · have hpos : 0 < stepValue high - q := by linarith
      rw [abs_of_pos hpos, abs_lt]
      constructor <;> linarith
  by_contra hne
  rcases Nat.lt_or_gt_of_ne hne with hlt | hlt
  · have hnearer := hbetween other (other + 1) bits (by omega) (by omega) hdist
    exact absurd (h.nearest (other + 1)) (not_le.2 hnearer)
  · have hnearer := hbetween bits (bits + 1) other (by omega) (by omega) hdist.symm
    rw [hdist] at hnearer
    exact absurd (h.nearest (bits + 1)) (not_le.2 hnearer)

end NearestStep

/-! ## Quotients and decimals -/

theorem quotient_inUnits (num : Nat) {den : Nat} (hden : 0 < den) (exponent : Int) :
    ((num * Nat.pow 2 (-exponent).toNat : Nat) : ℚ) / (den * Nat.pow 2 exponent.toNat : Nat) =
      num / den / 2 ^ exponent := by
  have hdenQ : (0 : ℚ) < den := by exact_mod_cast hden
  have hpower := zpow_mul_pow_toNat_neg 2 (by norm_num) exponent
  push_cast [Nat.pow_eq]
  rw [← hpower]
  field_simp

theorem exists_nearestStep {num den : Nat} (hnum : 0 < num) (hden : 0 < den) :
    ∃ bits, NearestStep (num / den) bits ∧ nearestBits num den = min infinityBits bits := by
  obtain ⟨raw, hgrid, hrawLow, hrawHigh⟩ := exists_gridExponent hnum hden
  have hleast : leastExponent ≤ gridExponent num den := hgrid ▸ le_max_left ..
  have hbelow : (num / den : ℚ) < 2 ^ (53 + gridExponent num den) := by
    refine hrawHigh.trans_le (zpow_le_zpow_right₀ (by norm_num) ?_)
    omega
  have habove : (2 : ℚ) ^ (52 + gridExponent num den) ≤ num / den ∨
      gridExponent num den = leastExponent := by
    rw [hgrid]
    rcases le_total leastExponent raw with hraw | hraw
    · rw [max_eq_right hraw]
      exact .inl hrawLow
    · exact .inr (max_eq_left hraw)
  rw [nearestBits]
  generalize gridExponent num den = exponent at *
  obtain ⟨binade, hexponent⟩ : ∃ binade : Nat, exponent = leastExponent + binade :=
    ⟨(exponent - leastExponent).toNat, by omega⟩
  have hbinade : (exponent - leastExponent).toNat = binade := by omega
  -- The quotient in units of the grid.
  set upper := num * Nat.pow 2 (-exponent).toNat
  set lower := den * Nat.pow 2 exponent.toNat
  have hunit : (0 : ℚ) < 2 ^ exponent := by positivity
  have hlowerPos : 0 < lower := Nat.mul_pos hden (Nat.two_pow_pos _)
  have hlowerQ : (0 : ℚ) < lower := by exact_mod_cast hlowerPos
  have hscaled : (upper : ℚ) / lower = num / den / 2 ^ exponent :=
    quotient_inUnits num hden exponent
  have hmost : roundDiv .toEven upper lower ≤ 2 ^ 53 := by
    apply roundDiv_le
    rw [zpow_add₀ (by norm_num), ← div_lt_iff₀ hunit, ← hscaled, div_lt_iff₀ hlowerQ] at hbelow
    exact_mod_cast hbelow
  have hstart : (2 : ℚ) ^ 52 * 2 ^ exponent ≤ num / den ∨ binade = 0 := by
    rw [zpow_add₀ (by norm_num)] at habove
    exact habove.imp_right fun hsame => by omega
  have hunits : InBinade (roundDiv .toEven upper lower) binade := by
    refine ⟨hmost, hstart.imp_left fun hpower => le_roundDiv hlowerPos ?_⟩
    rw [← le_div_iff₀ hunit, ← hscaled, le_div_iff₀ hlowerQ] at hpower
    exact_mod_cast hpower
  refine ⟨roundDiv .toEven upper lower + binade * Nat.pow 2 fractionBits, ?_, ?_⟩
  · refine nearestStep_of_units hunits (hexponent ▸ hstart) ?_ ?_
    · rw [← hexponent, ← hscaled]
      exact roundDiv_toEven_nearest hlowerPos
    · rw [← hexponent, ← hscaled]
      exact fun other => roundDiv_toEven_even hlowerPos
  · rw [hbinade]

theorem nearestStep_zero {q : ℚ} (hpos : 0 ≤ q) (hsmall : q < 2 ^ (-1075 : Int)) :
    NearestStep q 0 := by
  have hnearer : ∀ other ≠ 0, |stepValue 0 - q| < |stepValue other - q| := by
    intro other hother
    have hone := strictMono_stepValue.monotone (Nat.one_le_iff_ne_zero.2 hother)
    have hhalf : (2 : ℚ) ^ leastExponent = 2 * 2 ^ (-1075 : Int) := by
      rw [← zpow_one_add₀ (by norm_num)]
      rfl
    rw [stepValue_one, hhalf] at hone
    rw [stepValue_zero, zero_sub, abs_neg, abs_of_nonneg hpos, abs_of_pos (by linarith)]
    linarith
  refine ⟨fun other => ?_, fun other hother hdist => absurd hdist (hnearer other hother).ne'⟩
  by_cases hother : other = 0
  · rw [hother]
  · exact (hnearer other hother).le

end Binary

namespace Decimal

open Binary

theorem value_nonneg (d : Decimal) : 0 ≤ d.value := by
  rw [value]
  positivity

theorem one_le_overflowBound : 1 ≤ overflowBound := by
  have hone : (1 : ℚ) ≤ 2 ^ 970 := one_le_pow₀ (by norm_num)
  have hdouble : (2 : ℚ) * 2 ^ 970 ≤ 2 ^ 1024 := by
    rw [← pow_succ']
    exact pow_le_pow_right₀ (by norm_num) (by norm_num)
  rw [overflowBound]
  generalize (2 : ℚ) ^ 1024 = top at *
  generalize (2 : ℚ) ^ 970 = half at *
  linarith

theorem overflowBound_le : overflowBound ≤ (2 : ℚ) ^ (1025 : Int) := by
  have hpow : (2 : ℚ) ^ 1024 ≤ 2 ^ 1025 := pow_le_pow_right₀ (by norm_num) (by norm_num)
  have hhalf : (0 : ℚ) ≤ 2 ^ 970 := by positivity
  exact (sub_le_self _ hhalf).trans (hpow.trans_eq (zpow_natCast 2 1025).symm)

theorem exists_nearestStep {d : Decimal} (hdigits : d.digits ≠ 0)
    (hmost : d.exponent ≤ exponentLimit) (hleast : -exponentLimit ≤ d.exponent + d.digits.log2) :
    ∃ bits, NearestStep d.value bits ∧ d.nearestBits = min infinityBits bits := by
  rw [nearestBits, if_neg hdigits, if_neg (not_lt.2 hmost), if_neg (not_lt.2 hleast), value_eq_div]
  exact Binary.exists_nearestStep
    (Nat.mul_pos (Nat.pos_of_ne_zero hdigits) (Nat.pow_pos (by norm_num)))
    (Nat.pow_pos (by norm_num))

theorem nearestBits_of_overflow {d : Decimal} (h : overflowBound ≤ d.value) :
    d.nearestBits = infinityBits := by
  have hdigits : d.digits ≠ 0 := by
    intro hzero
    rw [value, hzero, Nat.cast_zero, zero_mul] at h
    exact absurd (one_le_overflowBound.trans h) (by norm_num)
  rcases lt_or_ge exponentLimit d.exponent with hlimit | hlimit
  · rw [nearestBits, if_neg hdigits, if_pos hlimit]
  · have hone : (2 : ℚ) ^ (-1075 : Int) ≤ 1 := zpow_le_one_of_nonpos₀ (by norm_num) (by norm_num)
    have hleast := neg_limit_le ((hone.trans one_le_overflowBound).trans h)
    obtain ⟨bits, hstep, hbits⟩ := exists_nearestStep hdigits hlimit hleast
    rw [hbits, min_eq_left (hstep.infinityBits_le_iff.2 h)]

theorem nearestStep_nearestBits {d : Decimal} (h : d.value < overflowBound) :
    d.nearestBits < infinityBits ∧ NearestStep d.value d.nearestBits := by
  have hinfinity : 0 < infinityBits := by decide
  by_cases hdigits : d.digits = 0
  · have hvalue : d.value = 0 := by rw [value, hdigits, Nat.cast_zero, zero_mul]
    rw [nearestBits, if_pos hdigits, hvalue]
    exact ⟨hinfinity, nearestStep_zero le_rfl (by positivity)⟩
  have hlimit := exponent_le_limit hdigits (h.trans_le overflowBound_le)
  rcases lt_or_ge (d.exponent + d.digits.log2) (-exponentLimit) with hsmall | hlarge
  · have hvalue : d.value < 2 ^ (-1075 : Int) := by
      by_contra! hvalue
      exact absurd (neg_limit_le hvalue) (not_le.2 hsmall)
    rw [nearestBits, if_neg hdigits, if_neg (not_lt.2 hlimit), if_pos hsmall]
    exact ⟨hinfinity, nearestStep_zero d.value_nonneg hvalue⟩
  · obtain ⟨bits, hstep, hbits⟩ := exists_nearestStep hdigits hlimit hlarge
    have hfinite : bits < infinityBits := by
      by_contra! hge
      exact absurd (hstep.infinityBits_le_iff.1 hge) (not_le.2 h)
    rw [hbits, min_eq_right hfinite.le]
    exact ⟨hfinite, hstep⟩

end Decimal

/-! ## The nearest double -/

namespace Binary

def signOf (negative : Bool) : ℚ := if negative then -1 else 1

theorem dist_of_sign (negative : Bool) (a b : ℚ) :
    |signOf negative * a - signOf negative * b| = |a - b| := by
  cases negative with
  | false => simp [signOf]
  | true => rw [signOf, if_pos rfl, ← mul_sub, abs_mul, abs_neg, abs_one, one_mul]

theorem dist_of_opposite_sign (negative : Bool) {a b : ℚ} (ha : 0 ≤ a) (hb : 0 ≤ b) :
    |signOf (!negative) * a - signOf negative * b| = a + b := by
  have hsum : 0 ≤ a + b := add_nonneg ha hb
  cases negative with
  | false =>
      rw [← abs_of_nonneg hsum, ← abs_neg (a + b)]
      congr 1
      simp only [signOf, Bool.not_false, if_true, Bool.false_eq_true, if_false]
      ring
  | true =>
      rw [← abs_of_nonneg hsum]
      congr 1
      simp only [signOf, Bool.not_true, if_true, Bool.false_eq_true, if_false]
      ring

def exactly (x : Float) : ℚ :=
  signOf (isNegative x) *
    ((ofFloat? x).map fun b => b.significand * (2 : ℚ) ^ b.exponent).getD 0

/-- No finite double is nearer to the number, and where another one is as near, the
last bit is zero. -/
structure IsNearest (q : ℚ) (x : Float) : Prop where
  finite : x.isFinite = true
  nearest : ∀ y : Float, y.isFinite = true → |exactly x - q| ≤ |exactly y - q|
  even : ∀ y : Float, y.isFinite = true → exactly y ≠ exactly x →
    |exactly y - q| = |exactly x - q| → magnitudeBits x % 2 = 0

theorem exactly_eq {x : Float} (h : x.isFinite = true) :
    exactly x = signOf (isNegative x) * stepValue (magnitudeBits x) := by
  obtain ⟨b, hb⟩ := exists_ofFloat? h
  rw [exactly, hb, Option.map_some, Option.getD_some, stepValue_of_ofBits? hb]

section

variable {negative : Bool} {m : ℚ} {bits : Nat}

theorem exactly_toFloat (negative : Bool) (hbits : bits < infinityBits) :
    exactly (toFloat negative bits) = signOf negative * stepValue bits := by
  rw [exactly_eq (isFinite_toFloat negative hbits), isNegative_toFloat negative hbits,
    magnitudeBits_toFloat negative hbits]

theorem dist_exactly (negative : Bool) (hm : 0 ≤ m) {y : Float} (hy : y.isFinite = true) :
    (isNegative y = negative ∧
      |exactly y - signOf negative * m| = |stepValue (magnitudeBits y) - m|) ∨
    |exactly y - signOf negative * m| = stepValue (magnitudeBits y) + |stepValue 0 - m| := by
  rw [exactly_eq hy]
  by_cases hsign : isNegative y = negative
  · rw [hsign, dist_of_sign]
    exact .inl ⟨rfl, rfl⟩
  · have hopposite : isNegative y = !negative := by
      cases negative <;> simpa using hsign
    rw [hopposite, dist_of_opposite_sign negative (stepValue_nonneg _) hm, stepValue_zero, zero_sub,
      abs_neg, abs_of_nonneg hm]
    exact .inr rfl

theorem isNearest_toFloat (hm : 0 ≤ m) (hbits : bits < infinityBits) (h : NearestStep m bits) :
    IsNearest (signOf negative * m) (toFloat negative bits) := by
  have hdist : |exactly (toFloat negative bits) - signOf negative * m| = |stepValue bits - m| := by
    rw [exactly_toFloat negative hbits, dist_of_sign]
  refine ⟨isFinite_toFloat negative hbits, fun y hy => ?_, fun y hy hne htie => ?_⟩
  · rw [hdist]
    rcases dist_exactly negative hm hy with ⟨-, hother⟩ | hother
    · rw [hother]
      exact h.nearest _
    · rw [hother]
      exact (h.nearest 0).trans (le_add_of_nonneg_left (stepValue_nonneg _))
  · rw [magnitudeBits_toFloat negative hbits]
    rw [hdist] at htie
    rcases dist_exactly negative hm hy with ⟨hsign, hother⟩ | hother
    · refine h.even (magnitudeBits y) (fun hsame => hne ?_) (hother.symm.trans htie)
      rw [exactly_eq hy, hsign, hsame, exactly_toFloat negative hbits]
    · by_cases hzero : bits = 0
      · rw [hzero]
      · have hnearest := h.nearest 0
        have hnonneg := stepValue_nonneg (magnitudeBits y)
        exact h.even 0 (Ne.symm hzero) (by linarith)

theorem IsNearest.eq_toFloat (hbits : bits < infinityBits) (h : NearestStep m bits) {x : Float}
    (hx : IsNearest (signOf negative * m) x) (hsign : isNegative x = negative) :
    x = toFloat negative bits := by
  have hfinite := isFinite_toFloat negative hbits
  have hexact : exactly x = signOf negative * stepValue (magnitudeBits x) := by
    rw [exactly_eq hx.finite, hsign]
  have hnearest := hx.nearest _ hfinite
  have heven := hx.even _ hfinite
  rw [hexact, exactly_toFloat negative hbits, dist_of_sign, dist_of_sign] at hnearest heven
  have hdist : |stepValue (magnitudeBits x) - m| = |stepValue bits - m| :=
    le_antisymm hnearest (h.nearest _)
  have hsame : magnitudeBits x = bits := by
    by_contra hne
    have hvalue : signOf negative * stepValue bits ≠
        signOf negative * stepValue (magnitudeBits x) := by
      intro hvalues
      have hzero := dist_of_sign negative (stepValue bits) (stepValue (magnitudeBits x))
      rw [hvalues, sub_self, abs_zero] at hzero
      have hequal := sub_eq_zero.1 (abs_eq_zero.1 hzero.symm)
      exact hne (strictMono_stepValue.injective hequal).symm
    have hboth : magnitudeBits x % 2 = bits % 2 :=
      (heven hvalue hdist.symm).trans (h.even _ hne hdist).symm
    exact hne (h.eq_of_dist_eq hboth hdist)
  rw [← toFloat_magnitudeBits x, hsign, hsame]

end

end Binary

end Drapery
