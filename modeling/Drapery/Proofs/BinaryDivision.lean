import Mathlib

/-!
# Division of a double by one

A finite double is a mantissa and an exponent, and the exponent is the one that
rounding gives to that mantissa.  Dividing by one gives the same number with at
most one more bit, which rounding drops again.
-/

namespace Drapery

open Float.Model Float.Model.UnpackedFloat

namespace Binary

/-! ## Rounding what is exact -/

theorem shiftRight_mul_two_pow (mantissa count : Nat) :
    (⟨mantissa * 2 ^ count, false, false⟩ : ExtendedMantissa) >>> count =
      ⟨mantissa, false, false⟩ := by
  change count.repeat ExtendedMantissa.shiftRightOne _ = _
  induction count generalizing mantissa with
  | zero => simp [Nat.repeat]
  | succ count ih =>
      rw [Nat.repeat, Nat.pow_succ', ← Nat.mul_assoc, ih (mantissa * 2)]
      simp [ExtendedMantissa.shiftRightOne]

theorem log2_mul_two_pow {mantissa : Nat} (hpos : 0 < mantissa) (count : Nat) :
    (mantissa * 2 ^ count).log2 = mantissa.log2 + count := by
  induction count with
  | zero => simp
  | succ count ih =>
      have hshifted : mantissa * 2 ^ count ≠ 0 := (Nat.mul_pos hpos (Nat.two_pow_pos count)).ne'
      rw [Nat.pow_succ, ← Nat.mul_assoc, Nat.mul_comm, Nat.log2_two_mul hshifted, ih,
        Nat.add_assoc]

theorem totalExponent_mul_two_pow {mantissa : Nat} (hpos : 0 < mantissa) (count : Nat)
    (exponent : Int) :
    totalExponent (mantissa * 2 ^ count) (exponent - count) = totalExponent mantissa exponent := by
  rw [totalExponent, totalExponent, log2_mul_two_pow hpos]
  push_cast
  omega

/-- The exponent is the one that rounding gives to the mantissa. -/
def Canonical (mantissa : Nat) (exponent : Int) : Prop :=
  Format.binary64.targetExponent (totalExponent mantissa exponent) = exponent

theorem shiftToTargetExponent_mul_two_pow {mantissa : Nat} {exponent : Int} (hpos : 0 < mantissa)
    (h : Canonical mantissa exponent) (count : Nat) :
    shiftToTargetExponent Format.binary64 (mantissa * 2 ^ count) (exponent - count) .exact =
      (⟨mantissa, false, false⟩, exponent) := by
  have hshift : (exponent - (exponent - count)).toNat = count := by omega
  rw [shiftToTargetExponent, totalExponent_mul_two_pow hpos, h, shiftToExponent]
  simp only [hshift, ExtendedMantissa.ofMantissaAndAccuracy, shiftRight_mul_two_pow]
  rw [Int.sub_add_cancel]

theorem roundWithAccuracy_mul_two_pow {mantissa : Nat} {exponent : Int} (hpos : 0 < mantissa)
    (h : Canonical mantissa exponent) (count : Nat) (sign : Sign) :
    roundWithAccuracy Format.binary64 sign (mantissa * 2 ^ count) (exponent - count) .exact =
      .finite sign mantissa exponent hpos := by
  have hsettled : shiftToTargetExponent Format.binary64 mantissa exponent .exact =
      (⟨mantissa, false, false⟩, exponent) := by
    simpa using shiftToTargetExponent_mul_two_pow hpos h 0
  rw [roundWithAccuracy, shiftToTargetExponent_mul_two_pow hpos h]
  simp only [ExtendedMantissa.roundedMantissa, ExtendedMantissa.accuracy,
    Accuracy.roundToNearestEven, hsettled, dif_neg hpos.ne']

theorem divCore_one {mantissa : Nat} {exponent : Int} (h : Canonical mantissa exponent) :
    ∃ count : Nat, divCore Format.binary64 mantissa exponent (2 ^ 52) (-52) =
      (mantissa * 2 ^ count, exponent - count, .exact) := by
  have hone : totalExponent (2 ^ 52) (-52) = 1 := by decide
  set quotient : Int := Format.binary64.targetExponent (totalExponent mantissa exponent - 1)
    with hquotient
  obtain ⟨hbelow, habove⟩ : quotient ≤ exponent ∧ exponent ≤ quotient + 1 := by
    rw [Canonical, Format.targetExponent] at h
    rw [hquotient, Format.targetExponent]
    omega
  refine ⟨(exponent - quotient).toNat, ?_⟩
  have htarget : min (exponent - -52) quotient = quotient := by omega
  have hshift : (exponent - -52 - quotient).toNat = (exponent - quotient).toNat + 52 := by omega
  have hexponent : exponent - ((exponent - quotient).toNat : Int) = quotient := by omega
  have hmantissa : mantissa <<< ((exponent - quotient).toNat + 52) =
      mantissa * 2 ^ (exponent - quotient).toNat * 2 ^ 52 := by
    rw [Nat.shiftLeft_eq, Nat.pow_add, Nat.mul_assoc]
  rw [divCore]
  simp only [hone, ← hquotient, htarget, hshift, hmantissa, hexponent]
  rw [Nat.mul_div_cancel _ (Nat.two_pow_pos 52), Nat.mul_mod_left]
  rfl

/-! ## The fields of a double -/

theorem log2_subnormal {mantissa : BitVec 52} (hpos : 0 < mantissa.toNat) :
    mantissa.toNat.log2 < 52 :=
  (Nat.log2_lt hpos.ne').2 mantissa.isLt

theorem log2_normal (mantissa : BitVec 52) : (1#1 ++ mantissa).toNat.log2 = 52 := by
  have hvalue : (1#1 ++ mantissa).toNat = 2 ^ 52 + mantissa.toNat := by
    rw [BitVec.toNat_append, ← Nat.shiftLeft_add_eq_or_of_lt mantissa.isLt]
    simp [Nat.shiftLeft_eq]
  have hlt := mantissa.isLt
  rw [hvalue, Nat.log2_eq_iff (by omega)]
  omega

theorem toNat_exponent {exponent : BitVec 11} (hspecial : exponent ≠ -1#11)
    (hzero : exponent ≠ 0#11) : 0 < exponent.toNat ∧ exponent.toNat < 2047 := by
  have hlt := exponent.isLt
  have hlast : exponent.toNat ≠ (-1#11).toNat := fun h => hspecial (BitVec.eq_of_toNat_eq h)
  have hfirst : exponent.toNat ≠ (0#11).toNat := fun h => hzero (BitVec.eq_of_toNat_eq h)
  simp at hlast hfirst
  omega

theorem canonical_subnormal {mantissa : Nat} (h : mantissa.log2 < 52) :
    Canonical mantissa (-1074) := by
  rw [Canonical, Format.targetExponent, totalExponent]
  simp only [Format.mantissaBits, Format.minExponent]
  omega

theorem canonical_normal {mantissa : Nat} {exponent : Int} (h : mantissa.log2 = 52)
    (hexponent : -1074 ≤ exponent) : Canonical mantissa exponent := by
  rw [Canonical, Format.targetExponent, totalExponent, h]
  simp only [Format.mantissaBits, Format.minExponent]
  omega

theorem pack_subnormal {mantissa : BitVec 52} (sign : Sign) (hpos : 0 < mantissa.toNat) :
    UnpackedFloat.pack Format.binary64 (.finite sign mantissa.toNat (-1074) hpos) =
      packComponents Format.binary64 sign 0#11 mantissa := by
  have hlog := log2_subnormal hpos
  rw [UnpackedFloat.pack]
  simp only
  rw [if_neg (by decide), if_neg]
  · rw [BitVec.ofNat_toNat, BitVec.setWidth_eq]
  · simp only [Format.mantissaBits]
    omega

theorem pack_normal {exponent : BitVec 11} {mantissa : BitVec 52} (sign : Sign)
    (hspecial : exponent ≠ -1#11) (hzero : exponent ≠ 0#11)
    (hpos : 0 < (1#1 ++ mantissa).toNat) :
    UnpackedFloat.pack Format.binary64
        (.finite sign (1#1 ++ mantissa).toNat (exponent.toNat - 1075) hpos) =
      packComponents Format.binary64 sign exponent mantissa := by
  obtain ⟨hfirst, hlast⟩ := toNat_exponent hspecial hzero
  have hbiased : ((exponent.toNat - 1075 : Int) + Format.binary64.exponentBias +
      Format.binary64.mantissaBitsWithoutImplicit).toNat = exponent.toNat := by
    simp only [Format.exponentBias]
    omega
  have hmantissa : BitVec.ofNat 52 (1#1 ++ mantissa).toNat = mantissa := by
    rw [BitVec.ofNat_toNat, BitVec.setWidth_append]
    simp
  rw [UnpackedFloat.pack]
  simp only [hbiased, log2_normal]
  rw [if_neg, if_pos (by decide), hmantissa, BitVec.ofNat_toNat, BitVec.setWidth_eq]
  · change ¬ 2048 ≤ exponent.toNat + 1
    omega

/-! ## Doubles from their bits -/

theorem packComponents_unpack (bits : BitVec Format.binary64.numBits) :
    packComponents Format.binary64 (.ofBitVec (unpackSign bits)) (unpackExponent bits)
      (unpackMantissa bits) = bits := by
  have hsign : (Sign.ofBitVec (unpackSign bits)).toBitVec = unpackSign bits := by
    generalize unpackSign bits = bit
    revert bit
    decide
  rw [packComponents, hsign]
  apply BitVec.eq_of_getLsbD_eq
  intro i hi
  simp only [unpackSign, unpackExponent, unpackMantissa, BitVec.getLsbD_append,
    BitVec.getLsbD_cast, BitVec.getLsbD_extractLsb]
  by_cases hmantissa : i < 52
  · simp [hmantissa]
  have hexponentBit : 52 + (i - 52) = i := by omega
  by_cases hexponent : i - 52 < 11
  · simp [hmantissa, hexponent, hexponentBit]
  · have hlast : i = 63 := by
      change i < 64 at hi
      omega
    subst hlast
    rfl

theorem exponent_of_zero {exponent : BitVec 11} (h : exponent = 0#11) :
    (exponent.toNat : Int) -
      (Format.binary64.exponentBias + Format.binary64.mantissaBitsWithoutImplicit) + 1 =
        -1074 := by
  rw [h]
  decide

theorem canonical_of_unpack {bits : BitVec Format.binary64.numBits} {sign : Sign}
    {mantissa : Nat} {exponent : Int} {hpos : 0 < mantissa}
    (h : UnpackedFloat.unpack Format.binary64 bits = .finite sign mantissa exponent hpos) :
    Canonical mantissa exponent := by
  rw [UnpackedFloat.unpack] at h
  simp only at h
  split at h
  · split at h <;> cases h
  rename_i hspecial
  split at h
  · rename_i hzero
    split at h
    · cases h
    · cases h
      rw [exponent_of_zero hzero]
      exact canonical_subnormal (log2_subnormal hpos)
  · rename_i hzero
    cases h
    obtain ⟨hfirst, -⟩ := toNat_exponent hspecial hzero
    refine canonical_normal (log2_normal _) ?_
    simp only [Format.exponentBias]
    omega

theorem pack_unpack {bits : BitVec Format.binary64.numBits} (h : Format.binary64.Valid bits) :
    UnpackedFloat.pack Format.binary64 (UnpackedFloat.unpack Format.binary64 bits) = bits := by
  have hbits := packComponents_unpack bits
  rw [UnpackedFloat.unpack]
  simp only
  split
  · rename_i hexponent
    split
    · rename_i hmantissa
      rwa [hexponent, hmantissa] at hbits
    · rename_i hmantissa
      exact (h.eq_packedNaN hexponent hmantissa).symm
  rename_i hspecial
  split
  · rename_i hzero
    split
    · rename_i hmantissa
      rwa [hzero, hmantissa] at hbits
    · simp only [exponent_of_zero hzero]
      rw [hzero] at hbits
      exact (pack_subnormal _ _).trans hbits
  · rename_i hzero
    exact (pack_normal _ hspecial hzero _).trans hbits

theorem div_positive (sign : Sign) : sign / .positive = sign := by
  cases sign <;> rfl

theorem div_one_unpacked {bits : BitVec Format.binary64.numBits} :
    UnpackedFloat.div Format.binary64 (UnpackedFloat.unpack Format.binary64 bits)
        (.finite .positive (2 ^ 52) (-52) (Nat.two_pow_pos 52)) =
      UnpackedFloat.unpack Format.binary64 bits := by
  cases hunpack : UnpackedFloat.unpack Format.binary64 bits with
  | infinity sign => rw [UnpackedFloat.div, div_positive]
  | notANumber => rw [UnpackedFloat.div]
  | zero sign => rw [UnpackedFloat.div, div_positive]
  | finite sign mantissa exponent hpos =>
      have hcanonical := canonical_of_unpack hunpack
      obtain ⟨count, hquotient⟩ := divCore_one hcanonical
      rw [UnpackedFloat.div, hquotient]
      simp only
      rw [roundWithAccuracy_mul_two_pow hpos hcanonical, div_positive]

theorem div_one (x : Float) : x / 1 = x := by
  have hone : (1 : Float).toModel.unpack =
      .finite .positive (2 ^ 52) (-52) (Nat.two_pow_pos 52) := rfl
  obtain ⟨⟨bits, hvalid⟩⟩ := x
  have hbits : UnpackedFloat.pack Format.binary64
      (UnpackedFloat.unpack Format.binary64 bits.toBitVec) = bits.toBitVec := pack_unpack hvalid
  change Float.ofModel (Float.Model.pack (UnpackedFloat.div Format.binary64
    (UnpackedFloat.unpack Format.binary64 bits.toBitVec) (1 : Float).toModel.unpack)) = _
  rw [hone, div_one_unpacked]
  simp only [Float.Model.pack, hbits]

end Binary

end Drapery
