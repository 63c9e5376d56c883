import Mathlib
import Drapery.Decimal.Basic
import Drapery.Proofs.BinaryDivision

/-!
# Doubles and their bits

A double is its sign and the bits of its magnitude.  It is finite when these
stay below the bits of infinity, and then they are the significand and the
exponent of its value.
-/

namespace Drapery

open Float.Model Float.Model.UnpackedFloat

namespace Binary

/-! ## From bits to doubles -/

theorem ofBits_toBits (x : Float) : Float.ofBits x.toBits = x := by
  obtain ⟨⟨bits, hvalid⟩⟩ := x
  have hbits : UnpackedFloat.pack Format.binary64
      (UnpackedFloat.unpack Format.binary64 bits.toBitVec) = bits.toBitVec := pack_unpack hvalid
  change Float.ofModel (Float.Model.pack
    (UnpackedFloat.unpack Format.binary64 bits.toBitVec)) = _
  simp only [Float.Model.pack, hbits]

theorem toFloat_magnitudeBits (x : Float) : toFloat (isNegative x) (magnitudeBits x) = x := by
  have hlt := x.toBits.toNat_lt
  have hbits : (if isNegative x then magnitudeBits x + Nat.pow 2 63 else magnitudeBits x) =
      x.toBits.toNat := by
    simp only [isNegative, magnitudeBits, decide_eq_true_eq, Nat.pow_eq]
    split <;> omega
  rw [toFloat, hbits, UInt64.ofNat_toNat, ofBits_toBits]

/-! ## Finite doubles -/

theorem isFinite_unpack (bits : BitVec Format.binary64.numBits) :
    (UnpackedFloat.unpack Format.binary64 bits).isFinite = true ↔
      unpackExponent bits ≠ -1#11 := by
  rw [UnpackedFloat.unpack]
  simp only
  split
  · split <;> simp_all [UnpackedFloat.isFinite]
  · split
    · split <;> simp_all [UnpackedFloat.isFinite]
    · simp_all [UnpackedFloat.isFinite]

theorem toNat_unpackExponent (bits : BitVec 64) :
    (@unpackExponent Format.binary64 bits).toNat = bits.toNat % 2 ^ 63 / 2 ^ 52 := by
  have hexponent : (@unpackExponent Format.binary64 bits).toNat =
      bits.toNat >>> 52 % 2 ^ 11 := by
    rw [unpackExponent, BitVec.toNat_cast, BitVec.extractLsb_toNat]
    rfl
  rw [hexponent, Nat.shiftRight_eq_div_pow]
  omega

/-- All exponent bits are set in infinities and what is not a number. -/
theorem unpackExponent_ne_iff (bits : BitVec 64) :
    @unpackExponent Format.binary64 bits ≠ -1#11 ↔
      bits.toNat % 2 ^ 63 < infinityBits := by
  have hsame : @unpackExponent Format.binary64 bits = -1#11 ↔
      (@unpackExponent Format.binary64 bits).toNat = 2047 :=
    ⟨fun h => by rw [h]; rfl, fun h => BitVec.eq_of_toNat_eq h⟩
  rw [ne_eq, hsame, toNat_unpackExponent, infinityBits]
  omega

theorem isFinite_iff (x : Float) : x.isFinite = true ↔ magnitudeBits x < infinityBits := by
  change (UnpackedFloat.unpack Format.binary64 x.toBits.toBitVec).isFinite = true ↔ _
  rw [isFinite_unpack, unpackExponent_ne_iff]
  rfl

theorem toBits_ofBits {bits : UInt64} (h : bits.toNat % 2 ^ 63 < infinityBits) :
    (Float.ofBits bits).toBits = bits := by
  have hexponent : @unpackExponent Format.binary64 bits.toBitVec ≠ -1#11 :=
    (unpackExponent_ne_iff bits.toBitVec).2 h
  have hvalid : Format.binary64.Valid bits.toBitVec := ⟨fun hspecial => absurd hspecial hexponent⟩
  have hpacked : (Float.ofBits bits).toBits.toBitVec = bits.toBitVec := pack_unpack hvalid
  exact UInt64.toBitVec_inj.1 hpacked

theorem toNat_toBits_toFloat (negative : Bool) {bits : Nat} (h : bits < infinityBits) :
    (toFloat negative bits).toBits.toNat = if negative then bits + Nat.pow 2 63 else bits := by
  have hlt : bits < 2 ^ 63 := h.trans (by decide)
  have hnat : (UInt64.ofNat (if negative then bits + Nat.pow 2 63 else bits)).toNat =
      if negative then bits + Nat.pow 2 63 else bits := by
    rw [UInt64.toNat_ofNat', Nat.mod_eq_of_lt]
    simp only [Nat.pow_eq]
    split <;> omega
  have hmod : (UInt64.ofNat (if negative then bits + Nat.pow 2 63 else bits)).toNat % 2 ^ 63 =
      bits := by
    rw [hnat]
    simp only [Nat.pow_eq]
    split <;> omega
  rw [toFloat, toBits_ofBits (by rwa [hmod]), hnat]

theorem magnitudeBits_toFloat (negative : Bool) {bits : Nat} (h : bits < infinityBits) :
    magnitudeBits (toFloat negative bits) = bits := by
  have hlt : bits < 2 ^ 63 := h.trans (by decide)
  rw [magnitudeBits, toNat_toBits_toFloat negative h]
  simp only [Nat.pow_eq]
  split <;> omega

theorem isNegative_toFloat (negative : Bool) {bits : Nat} (h : bits < infinityBits) :
    isNegative (toFloat negative bits) = negative := by
  have hlt : bits < 2 ^ 63 := h.trans (by decide)
  rw [isNegative, toNat_toBits_toFloat negative h]
  cases negative with
  | false => exact decide_eq_false (Nat.not_le.2 hlt)
  | true => exact decide_eq_true (Nat.le_add_left ..)

theorem isFinite_toFloat (negative : Bool) {bits : Nat} (h : bits < infinityBits) :
    (toFloat negative bits).isFinite = true := by
  rw [isFinite_iff, magnitudeBits_toFloat negative h]
  exact h

/-! ## Significand and exponent -/

/-- What the significand and the exponent of a double can be.  Only the least
exponent goes with a significand that has no leading one at its place. -/
structure Normalized (b : Binary) : Prop where
  significand_lt : b.significand < 2 ^ 53
  leastExponent_le : leastExponent ≤ b.exponent
  leading : 2 ^ 52 ≤ b.significand ∨ b.exponent = leastExponent

theorem ofBits?_eq_some {bits : Nat} {b : Binary} (h : ofBits? bits = some b) :
    b.Normalized ∧
      bits = b.significand + (b.exponent - leastExponent).toNat * Nat.pow 2 fractionBits ∧
      bits < infinityBits := by
  rw [ofBits?] at h
  by_cases hfinite : infinityBits ≤ bits
  · simp [hfinite] at h
  by_cases hfield : bits / Nat.pow 2 fractionBits = 0
  · simp only [if_neg hfinite, if_pos hfield, Option.some.injEq] at h
    subst h
    simp only [fractionBits, infinityBits, Nat.pow_eq] at hfinite hfield ⊢
    have hfraction : bits % 2 ^ 52 < 2 ^ 53 := by omega
    exact ⟨⟨hfraction, le_refl _, .inr rfl⟩, by omega, by omega⟩
  · simp only [if_neg hfinite, if_neg hfield, Option.some.injEq] at h
    subst h
    simp only [fractionBits, infinityBits, leastExponent, Nat.pow_eq] at hfinite hfield ⊢
    have hfraction : bits % 2 ^ 52 + 2 ^ 52 < 2 ^ 53 := by omega
    have hexponent : (-1074 : Int) ≤ -1074 + (bits / 2 ^ 52 - 1 : Nat) := by omega
    exact ⟨⟨hfraction, hexponent, .inl (Nat.le_add_left ..)⟩, by omega, by omega⟩

theorem exists_ofFloat? {x : Float} (h : x.isFinite = true) : ∃ b, ofFloat? x = some b := by
  rw [isFinite_iff] at h
  rw [ofFloat?, ofBits?]
  simp only [if_neg (Nat.not_le.2 h)]
  split <;> exact ⟨_, rfl⟩

theorem ofFloat?_eq_none {x : Float} (h : x.isFinite = false) : ofFloat? x = none := by
  have hbeyond : infinityBits ≤ magnitudeBits x := by
    rw [← Nat.not_lt, ← isFinite_iff, h]
    exact Bool.false_ne_true
  rw [ofFloat?, ofBits?, if_pos hbeyond]

end Binary

end Drapery
