import Mathlib
import Drapery.Proofs.DoubleBits

/-!
# The order of doubles

What is not a number compares with nothing.  All other doubles have a rank in a
linear order, infinities included and zeros of either sign alike, and compare as
their ranks do.  The distance of two doubles, the first one finite, is a number
unless the second is not.
-/

namespace Drapery

open Float.Model Float.Model.UnpackedFloat

namespace Binary

/-! ## The rank of a double -/

/-- Infinities, numbers of either sign and zero, then the exponent, then the mantissa. -/
abbrev Rank := ℤ ×ₗ ℤ ×ₗ ℤ

def rankOf (band exponent mantissa : ℤ) : Rank := toLex (band, toLex (exponent, mantissa))

def unpackedRank : UnpackedFloat → Rank
  | .notANumber => rankOf 0 0 0
  | .infinity .negative => rankOf (-2) 0 0
  | .finite .negative mantissa exponent _ => rankOf (-1) (-exponent) (-mantissa)
  | .zero _ => rankOf 0 0 0
  | .finite .positive mantissa exponent _ => rankOf 1 exponent mantissa
  | .infinity .positive => rankOf 2 0 0

def rank (x : Float) : Rank := unpackedRank x.toModel.unpack

theorem compare_rankOf (a b c d e f : ℤ) :
    compare (rankOf a b c) (rankOf d e f) =
      (compare a d).then ((compare b e).then (compare c f)) := rfl

theorem swap_compare_eq_neg (a b : ℤ) : (compare a b).swap = compare (-a) (-b) := by
  rcases lt_trichotomy a b with h | rfl | h
  · rw [compare_lt_iff_lt.2 h, compare_gt_iff_gt.2 (neg_lt_neg h)]
    rfl
  · rw [compare_eq_iff_eq.2 rfl, compare_eq_iff_eq.2 rfl]
    rfl
  · rw [compare_gt_iff_gt.2 h, compare_lt_iff_lt.2 (neg_lt_neg h)]
    rfl

theorem compare_natCast (a b : ℕ) : compare (a : ℤ) (b : ℤ) = compare a b := by
  rcases lt_trichotomy a b with h | rfl | h
  · rw [compare_lt_iff_lt.2 h, compare_lt_iff_lt.2 (Int.ofNat_lt.2 h)]
  · rw [compare_eq_iff_eq.2 rfl, compare_eq_iff_eq.2 rfl]
  · rw [compare_gt_iff_gt.2 h, compare_gt_iff_gt.2 (Int.ofNat_lt.2 h)]

theorem compare_unpacked {a b : UnpackedFloat} (ha : a.isNaN = false) (hb : b.isNaN = false) :
    a.compare b = some (compare (unpackedRank a) (unpackedRank b)) := by
  cases a with
  | notANumber => cases ha
  | infinity s =>
      cases b with
      | notANumber => cases hb
      | infinity t => cases s <;> cases t <;> rfl
      | zero t => cases s <;> rfl
      | finite t m e h => cases s <;> cases t <;> rfl
  | zero s =>
      cases b with
      | notANumber => cases hb
      | infinity t => cases t <;> rfl
      | zero t => rfl
      | finite t m e h => cases t <;> rfl
  | finite s m e h =>
      cases b with
      | notANumber => cases hb
      | infinity t => cases s <;> cases t <;> rfl
      | zero t => cases s <;> rfl
      | finite t n f h' =>
          cases s with
          | negative =>
              cases t with
              | negative =>
                  have hswap : ((compare e f).then (compare m n)).swap =
                      (compare (-e) (-f)).then (compare (-(m : ℤ)) (-(n : ℤ))) := by
                    rw [Ordering.swap_then, swap_compare_eq_neg, ← compare_natCast,
                      swap_compare_eq_neg]
                  exact congrArg some hswap
              | positive => rfl
          | positive =>
              cases t with
              | negative => rfl
              | positive =>
                  rw [unpackedRank, unpackedRank, compare_rankOf, compare_natCast]
                  rfl

theorem isNaN_eq_false_of_compare {a b : UnpackedFloat} {order : Ordering}
    (h : a.compare b = some order) : a.isNaN = false ∧ b.isNaN = false := by
  cases a with
  | notANumber => cases h
  | infinity s =>
      cases b with
      | notANumber => cases h
      | _ => exact ⟨rfl, rfl⟩
  | zero s =>
      cases b with
      | notANumber => cases h
      | _ => exact ⟨rfl, rfl⟩
  | finite s m e hpos =>
      cases b with
      | notANumber => cases h
      | _ => exact ⟨rfl, rfl⟩

/-! ## Comparisons as comparisons of ranks -/

section

variable {x y z : Float}

theorem lt_iff_compare : x < y ↔ x.toModel.unpack.compare y.toModel.unpack = some .lt :=
  decide_eq_true_iff.trans beq_iff_eq

theorem le_iff_compare :
    x ≤ y ↔ (x.toModel.unpack.compare y.toModel.unpack).any (·.isLE) = true :=
  decide_eq_true_iff

theorem isNaN_eq_false_of_lt (h : x < y) : x.isNaN = false ∧ y.isNaN = false :=
  isNaN_eq_false_of_compare (lt_iff_compare.1 h)

theorem isNaN_eq_false_of_le (h : x ≤ y) : x.isNaN = false ∧ y.isNaN = false := by
  obtain ⟨order, horder, -⟩ := (Option.any_eq_true ..).1 (le_iff_compare.1 h)
  exact isNaN_eq_false_of_compare horder

theorem lt_iff_rank (hx : x.isNaN = false) (hy : y.isNaN = false) : x < y ↔ rank x < rank y := by
  rw [lt_iff_compare, compare_unpacked hx hy, Option.some.injEq, compare_lt_iff_lt]
  rfl

theorem le_iff_rank (hx : x.isNaN = false) (hy : y.isNaN = false) : x ≤ y ↔ rank x ≤ rank y := by
  rw [le_iff_compare, compare_unpacked hx hy, Option.any_some, Ordering.isLE_iff_ne_gt]
  exact compare_le_iff_le

theorem not_lt_iff_le (hx : x.isNaN = false) (hy : y.isNaN = false) : ¬ x < y ↔ y ≤ x := by
  rw [lt_iff_rank hx hy, le_iff_rank hy hx, not_lt]

protected theorem not_le_of_lt (h : x < y) : ¬ y ≤ x := by
  obtain ⟨hx, hy⟩ := isNaN_eq_false_of_lt h
  rwa [← not_lt_iff_le hx hy, not_not]

protected theorem le_of_lt (h : x < y) : x ≤ y := by
  obtain ⟨hx, hy⟩ := isNaN_eq_false_of_lt h
  exact (le_iff_rank hx hy).2 ((lt_iff_rank hx hy).1 h).le

protected theorem le_trans (hxy : x ≤ y) (hyz : y ≤ z) : x ≤ z := by
  obtain ⟨hx, hy⟩ := isNaN_eq_false_of_le hxy
  obtain ⟨-, hz⟩ := isNaN_eq_false_of_le hyz
  exact (le_iff_rank hx hz).2
    (((le_iff_rank hx hy).1 hxy).trans ((le_iff_rank hy hz).1 hyz))

end

theorem unpackedRank_le {value : UnpackedFloat} (h : value.isNaN = false) :
    unpackedRank value ≤ rankOf 2 0 0 := by
  have hband : ∀ band exponent mantissa : ℤ, band < 2 → rankOf band exponent mantissa ≤
      rankOf 2 0 0 := fun _ _ _ hlt => Prod.Lex.toLex_le_toLex.2 (.inl hlt)
  cases value with
  | notANumber => cases h
  | zero sign => exact hband _ _ _ (by decide)
  | infinity sign =>
      cases sign with
      | negative => exact hband _ _ _ (by decide)
      | positive => exact le_rfl
  | finite sign mantissa exponent hpos =>
      cases sign with
      | negative => exact hband _ _ _ (by decide)
      | positive => exact hband _ _ _ (by decide)

theorem le_infinity {x : Float} (hx : x.isNaN = false) : x ≤ infinity :=
  (le_iff_rank hx rfl).2 (unpackedRank_le hx)

/-! ## Distances -/

theorem isNaN_unpack (bits : BitVec Format.binary64.numBits) :
    (UnpackedFloat.unpack Format.binary64 bits).isNaN = true ↔
      unpackExponent bits = -1#11 ∧ unpackMantissa bits ≠ 0#52 := by
  rw [UnpackedFloat.unpack]
  simp only
  split
  · split <;> simp_all [UnpackedFloat.isNaN]
  · split
    · split <;> simp_all [UnpackedFloat.isNaN]
    · simp_all [UnpackedFloat.isNaN]

theorem isNaN_packComponents (sign : Sign) {exponent : BitVec 11} (h : exponent ≠ -1#11)
    (mantissa : BitVec 52) :
    (UnpackedFloat.unpack Format.binary64
      (packComponents Format.binary64 sign exponent mantissa)).isNaN = false := by
  refine Bool.eq_false_iff.2 fun hnan => h ?_
  rw [← ((isNaN_unpack _).1 hnan).1, unpackExponent_packComponents]

theorem isNaN_unpack_pack (value : UnpackedFloat) :
    (UnpackedFloat.unpack Format.binary64 (UnpackedFloat.pack Format.binary64 value)).isNaN =
      value.isNaN := by
  cases value with
  | notANumber => rfl
  | infinity sign => cases sign <;> rfl
  | zero sign => cases sign <;> rfl
  | finite sign mantissa exponent hpos =>
      simp only [UnpackedFloat.pack]
      split
      · cases sign <;> rfl
      · rename_i hbiased
        split
        · refine isNaN_packComponents sign (fun hlast => ?_) _
          have hvalue := congrArg BitVec.toNat hlast
          rw [BitVec.toNat_ofNat] at hvalue
          change _ = 2047 at hvalue
          omega
        · exact isNaN_packComponents sign (by decide) _

theorem isNaN_normalize (mantissa exponent : ℤ) (zeroSign : Sign) :
    (UnpackedFloat.normalize Format.binary64 mantissa exponent zeroSign).isNaN = false := by
  have hround : ∀ sign mantissa exponent,
      (UnpackedFloat.round Format.binary64 sign mantissa exponent).isNaN = false := by
    intro sign mantissa exponent
    simp only [UnpackedFloat.round, roundWithAccuracy]
    split <;> rfl
  rw [UnpackedFloat.normalize]
  split
  · exact hround ..
  · rfl
  · exact hround ..

theorem isNaN_sub_unpacked {a : UnpackedFloat} (ha : a.isFinite = true) (b : UnpackedFloat) :
    (UnpackedFloat.sub Format.binary64 a b).isNaN = b.isNaN := by
  cases a with
  | notANumber => cases ha
  | infinity s => cases ha
  | zero s =>
      cases b with
      | notANumber => rfl
      | infinity t => rfl
      | zero t => cases s <;> cases t <;> rfl
      | finite t n f h => rfl
  | finite s m e h =>
      cases b with
      | notANumber => rfl
      | infinity t => rfl
      | zero t => rfl
      | finite t n f h' => exact isNaN_normalize ..

theorem isNaN_abs (value : UnpackedFloat) : value.abs.isNaN = value.isNaN := by
  cases value <;> rfl

/-- The distance to a finite double is not a number only if the other double is none. -/
theorem isNaN_distance {x : Float} (hx : x.isFinite = true) (y : Float) :
    (x - y).abs.isNaN = y.isNaN :=
  calc (x - y).abs.isNaN
    _ = (UnpackedFloat.unpack Format.binary64 (UnpackedFloat.pack Format.binary64
          (x - y).toModel.unpack.abs)).isNaN := rfl
    _ = (x - y).toModel.unpack.isNaN := by rw [isNaN_unpack_pack, isNaN_abs]
    _ = (UnpackedFloat.sub Format.binary64 x.toModel.unpack y.toModel.unpack).isNaN :=
        isNaN_unpack_pack _
    _ = y.isNaN := isNaN_sub_unpacked hx _

theorem sub_self_unpacked {value : UnpackedFloat} (h : value.isFinite = true) :
    UnpackedFloat.sub Format.binary64 value value = .zero .positive := by
  cases value with
  | notANumber => cases h
  | infinity sign => cases h
  | zero sign => cases sign <;> rfl
  | finite sign mantissa exponent hpos =>
      simp only [UnpackedFloat.sub, Int.sub_self, UnpackedFloat.normalize]
      rfl

theorem distance_self {x : Float} (hx : x.isFinite = true) : (x - x).abs = 0 := by
  have hzero : x - x = Float.ofModel (Float.Model.pack (.zero .positive)) :=
    congrArg (fun value => Float.ofModel (Float.Model.pack value)) (sub_self_unpacked hx)
  rw [hzero]
  rfl

theorem isNaN_eq_false_of_isFinite {x : Float} (hx : x.isFinite = true) : x.isNaN = false := by
  change x.toModel.unpack.isFinite = true at hx
  change x.toModel.unpack.isNaN = false
  cases hunpack : x.toModel.unpack with
  | notANumber =>
      rw [hunpack] at hx
      cases hx
  | _ => rfl

end Binary

end Drapery
