import Drapery.Proofs.DecimalText
import Drapery.Proofs.NearestRounding

/-!
# Numbers with fixed places

A double with a fixed number of places is the nearest number that has so many
digits behind the point.  Its whole digits start with a zero only if there is no
other one, so that the text is determined by the double.
-/

namespace Drapery

/-- No other whole number is nearer, and if another one is as near, then this one
is even. -/
structure NearestWhole (q : ℚ) (n : Nat) : Prop where
  nearest : ∀ other : Nat, |(n : ℚ) - q| ≤ |(other : ℚ) - q|
  even : ∀ other : Nat, other ≠ n → |(other : ℚ) - q| = |(n : ℚ) - q| → n % 2 = 0

theorem nearestWhole_roundDiv {num den : Nat} (hden : 0 < den) :
    NearestWhole (num / den) (roundDiv .toEven num den) :=
  ⟨roundDiv_toEven_nearest hden, fun _ => roundDiv_toEven_even hden⟩

namespace Binary

variable {x : Float} {b : Binary}

theorem abs_exactly (hb : ofFloat? x = some b) :
    |exactly x| = b.significand * 2 ^ b.exponent := by
  have hsign : |signOf (isNegative x)| = 1 := by
    rw [signOf]
    split <;> simp
  have hpos : (0 : ℚ) ≤ b.significand * 2 ^ b.exponent := by positivity
  rw [exactly, hb, abs_mul, hsign, one_mul, Option.map_some, Option.getD_some, abs_of_nonneg hpos]

theorem abs_exactly_mul_pow (hb : ofFloat? x = some b) (places : Nat) :
    |exactly x| * 10 ^ places =
      ((b.significand * Nat.pow 2 b.exponent.toNat * Nat.pow 10 places : Nat) : ℚ) /
        (Nat.pow 2 (-b.exponent).toNat : Nat) := by
  have hpower := zpow_mul_pow_toNat_neg 2 (by norm_num) b.exponent
  rw [abs_exactly hb]
  push_cast [Nat.pow_eq]
  rw [← hpower]
  field_simp

end Binary

/-- What a double is written as when it has this many places. -/
structure HasPlaces (places : Nat) (x : Float) (text : String) : Prop where
  finite : x.isFinite = true → ∃ whole fraction : List Char,
    text.toList = (if Binary.isNegative x then ['-'] else []) ++ whole ++ '.' :: fraction ∧
      whole ≠ [] ∧ (∀ c ∈ whole ++ fraction, c.isDigit) ∧
      (whole.head? = some '0' → whole = ['0']) ∧ fraction.length = places ∧
      NearestWhole (|Binary.exactly x| * 10 ^ places) (Nat.ofDigitChars 10 (whole ++ fraction) 0)
  infinite : x.isFinite = false →
    text = if x.isNaN then "NaN" else if Binary.isNegative x then "-inf" else "inf"

theorem hasPlaces_fixedPlaces {places : Nat} (hplaces : 0 < places) (x : Float) :
    HasPlaces places x (fixedPlaces places x) where
  finite hfinite := by
    obtain ⟨b, hb⟩ := Binary.exists_ofFloat? hfinite
    set num := b.significand * Nat.pow 2 b.exponent.toNat * Nat.pow 10 places with hnum
    set den := Nat.pow 2 (-b.exponent).toNat with hden
    obtain ⟨spelling, hproper, hlength, hdigits, -, htext⟩ :=
      Spelling.exists_pointed hplaces (roundDiv .toEven num den)
    refine ⟨spelling.whole, spelling.fraction, ?_, hproper.whole_ne_nil, ?_, hproper.leading,
      hlength, ?_⟩
    · rw [fixedPlaces, String.toList_ofList, signedText, hb]
      simp only [← hnum, ← hden, htext, List.append_assoc]
    · intro c hc
      exact (List.mem_append.1 hc).elim (hproper.whole c) (hproper.fraction c)
    · rw [← Numeral.natOfDigits_eq, hdigits, Binary.abs_exactly_mul_pow hb]
      exact nearestWhole_roundDiv (Nat.pow_pos (by decide))
  infinite hinfinite := by
    rw [fixedPlaces, signedText, Binary.ofFloat?_eq_none hinfinite]
    cases x.isNaN
    · cases Binary.isNegative x <;> rfl
    · rfl

end Drapery
