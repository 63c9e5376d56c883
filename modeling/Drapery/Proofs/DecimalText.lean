import Drapery.Decimal.Layout
import Drapery.Decimal.Numeral
import Drapery.Proofs.NearestDouble

/-!
# Decimals as they are spelled

A spelling has digits before the point, digits after it and an exponent, and
stands for a decimal.  What a layout writes for a decimal is a spelling of the
same value, with digits on both sides of the point.
-/

namespace Drapery

/-! ## Digits -/

namespace Numeral

theorem natOfDigits_eq (digits : List Char) :
    natOfDigits digits = Nat.ofDigitChars 10 digits 0 := rfl

theorem natOfDigits_append (first rest : List Char) :
    natOfDigits (first ++ rest) = natOfDigits first * 10 ^ rest.length + natOfDigits rest := by
  rw [natOfDigits_eq, Nat.ofDigitChars_append, Nat.ofDigitChars_eq_ofDigitChars_zero,
    ← natOfDigits_eq, ← natOfDigits_eq, mul_comm]

theorem natOfDigits_zeros (count : Nat) : natOfDigits (List.replicate count '0') = 0 := by
  rw [natOfDigits_eq, Nat.ofDigitChars_replicate_zero, mul_zero]

end Numeral

namespace Decimal

open Numeral

theorem natOfDigits_numeral (n : Nat) : natOfDigits (numeral n) = n :=
  Nat.ofDigitChars_ten_toDigits

theorem numeral_ne_nil (n : Nat) : numeral n ≠ [] := Nat.toDigits_ne_nil

theorem isDigit_of_mem_numeral {n : Nat} {c : Char} (h : c ∈ numeral n) : c.isDigit :=
  Nat.isDigit_of_mem_toDigits (by decide) (by decide) h

theorem head?_numeral {n : Nat} (hpos : 0 < n) : (numeral n).head? ≠ some '0' := by
  induction n using Nat.strongRecOn with
  | ind n ih =>
      rw [numeral, Nat.toDigits_eq_if (by decide)]
      split
      · rename_i hlt
        interval_cases n <;> decide
      · rw [List.head?_append_of_ne_nil _ Nat.toDigits_ne_nil]
        exact ih (n / 10) (by omega) (by omega)

/-! ## Zeros at the end -/

theorem exists_numeral_eq_append (n : Nat) : ∃ front, numeral n =
    front ++ List.replicate ((numeral n).reverse.takeWhile (· = '0')).length '0' := by
  refine ⟨((numeral n).reverse.dropWhile (· = '0')).reverse, ?_⟩
  have hzeros : (numeral n).reverse.takeWhile (· = '0') =
      List.replicate ((numeral n).reverse.takeWhile (· = '0')).length '0' := by
    refine List.eq_replicate_of_mem fun c hc => ?_
    simpa using List.mem_takeWhile_imp hc
  have hsplit := congrArg List.reverse
    (List.takeWhile_append_dropWhile (p := (· = '0')) (l := (numeral n).reverse))
  rw [List.reverse_append, List.reverse_reverse, hzeros, List.reverse_replicate] at hsplit
  exact hsplit.symm

theorem value_trimmed (d : Decimal) : d.trimmed.value = d.value := by
  rw [trimmed]
  split
  · rename_i hzero
    simp [value, hzero]
  · obtain ⟨front, hfront⟩ := exists_numeral_eq_append d.digits
    generalize ((numeral d.digits).reverse.takeWhile (· = '0')).length = zeros at *
    have hdigits : d.digits = natOfDigits front * 10 ^ zeros := by
      rw [← natOfDigits_numeral d.digits, hfront, natOfDigits_append, natOfDigits_zeros,
        List.length_replicate, add_zero]
    rw [value, value, hdigits, Nat.pow_eq, Nat.mul_div_cancel _ (Nat.pow_pos (by decide)),
      zpow_add₀ (by norm_num), zpow_natCast]
    push_cast
    ring

theorem exponent_trimmed {d : Decimal} (h : d.trimmed.digits = 0) : d.trimmed.exponent = 0 := by
  have hvalue := value_trimmed d
  rw [value, h, Nat.cast_zero, zero_mul, value] at hvalue
  have hdigits : d.digits = 0 := by
    have hten : (10 : ℚ) ^ d.exponent ≠ 0 := by positivity
    exact_mod_cast (mul_eq_zero.1 hvalue.symm).resolve_right hten
  rw [trimmed, if_pos hdigits]

end Decimal

/-! ## Spellings -/

namespace Spelling

open Numeral Decimal

def fractionText (spelling : Spelling) : List Char :=
  if spelling.fraction = [] then [] else '.' :: spelling.fraction

def exponentText (plusExponent : Bool) (spelling : Spelling) : List Char :=
  match spelling.exponent with
  | none => []
  | some power =>
      'e' :: (if power < 0 then ['-'] else if plusExponent then ['+'] else []) ++
        numeral power.natAbs

def text (plusExponent : Bool) (spelling : Spelling) : List Char :=
  spelling.whole ++ (spelling.fractionText ++ spelling.exponentText plusExponent)

/-- A number starts with zero only if it has no other digit before the point. -/
structure Proper (spelling : Spelling) : Prop where
  whole_ne_nil : spelling.whole ≠ []
  whole : ∀ c ∈ spelling.whole, c.isDigit
  leading : spelling.whole.head? = some '0' → spelling.whole = ['0']
  fraction : ∀ c ∈ spelling.fraction, c.isDigit

def IsMarked (spelling : Spelling) : Prop := spelling.fraction ≠ [] ∨ spelling.exponent ≠ none

instance (spelling : Spelling) : Decidable spelling.IsMarked := inferInstanceAs (Decidable (_ ∨ _))

structure Spells (spelling : Spelling) (d : Decimal) : Prop where
  proper : spelling.Proper
  value : spelling.decimal.value = d.value

variable {d : Decimal}

/-! ## What layouts write -/

theorem proper_numeral (n : Nat) (zeros : List Char) (hzeros : ∀ c ∈ zeros, c.isDigit)
    (hzero : n = 0 → zeros = []) (fraction : List Char) (hfraction : ∀ c ∈ fraction, c.isDigit)
    (exponent : Option Int) : Proper ⟨numeral n ++ zeros, fraction, exponent⟩ where
  whole_ne_nil := by simp [numeral_ne_nil]
  whole c hc := by
    rcases List.mem_append.1 hc with hc | hc
    · exact isDigit_of_mem_numeral hc
    · exact hzeros c hc
  leading h := by
    rw [List.head?_append_of_ne_nil _ (numeral_ne_nil n)] at h
    rcases Nat.eq_zero_or_pos n with hn | hn
    · rw [hzero hn, hn]
      rfl
    · exact absurd h (head?_numeral hn)
  fraction := hfraction

theorem exists_plain_of_nonneg (hexponent : 0 ≤ d.exponent) (hzero : d.digits = 0 → d.exponent = 0)
    (plusExponent : Bool) : ∃ spelling : Spelling, spelling.Spells d ∧ spelling.IsMarked ∧
      d.plain true = spelling.text plusExponent := by
  obtain ⟨count, hcount⟩ := Int.eq_ofNat_of_zero_le hexponent
  refine ⟨⟨numeral d.digits ++ List.replicate count '0', ['0'], none⟩,
    ⟨proper_numeral _ _ ?_ ?_ _ ?_ _, ?_⟩, .inl (by simp), ?_⟩
  · intro c hc
    rw [List.eq_of_mem_replicate hc]
    decide
  · intro hdigits
    obtain rfl : count = 0 := by
      have := hzero hdigits
      omega
    rfl
  · intro c hc
    rw [List.mem_singleton.1 hc]
    decide
  · have hdigits : natOfDigits (numeral d.digits ++ List.replicate count '0' ++ ['0']) =
        d.digits * 10 ^ count * 10 := by
      rw [natOfDigits_append, natOfDigits_append, natOfDigits_zeros, natOfDigits_numeral,
        List.length_replicate]
      rfl
    rw [decimal, Numeral.decimal, value, value, hcount]
    simp only [hdigits, Option.getD_none, List.length_singleton]
    rw [zpow_natCast]
    push_cast
    norm_num
    ring
  · simp [plain, hcount, text, fractionText, exponentText]

def padded (places n : Nat) : List Char :=
  List.replicate (places + 1 - (numeral n).length) '0' ++ numeral n

theorem lt_length_padded (places n : Nat) : places < (padded places n).length := by
  rw [padded, List.length_append, List.length_replicate]
  omega

theorem natOfDigits_padded (places n : Nat) : natOfDigits (padded places n) = n := by
  rw [padded, natOfDigits_append, natOfDigits_zeros, natOfDigits_numeral, zero_mul, zero_add]

theorem isDigit_of_mem_padded {places n : Nat} {c : Char} (h : c ∈ padded places n) : c.isDigit := by
  rcases List.mem_append.1 h with hc | hc
  · rw [List.eq_of_mem_replicate hc]
    decide
  · exact isDigit_of_mem_numeral hc

theorem leading_padded {places n : Nat} (hplaces : 0 < places)
    (hhead : ((padded places n).take ((padded places n).length - places)).head? = some '0') :
    (padded places n).take ((padded places n).length - places) = ['0'] := by
  have hlength := lt_length_padded places n
  by_cases hlong : (numeral n).length ≤ places
  · have hcount : (padded places n).length - places = 1 := by
      rw [padded, List.length_append, List.length_replicate]
      omega
    obtain ⟨count, hsucc⟩ : ∃ count, places + 1 - (numeral n).length = count + 1 :=
      ⟨places - (numeral n).length, by omega⟩
    rw [hcount, padded, hsucc, List.replicate_succ]
    rfl
  · have hsame : padded places n = numeral n := by
      rw [padded, Nat.sub_eq_zero_of_le (by omega)]
      rfl
    have hpos : 0 < n := by
      by_contra hzero
      obtain rfl : n = 0 := by omega
      exact hlong hplaces
    refine absurd ?_ (head?_numeral hpos)
    rw [← hhead, hsame, List.head?_take, if_neg]
    rw [hsame] at hlength
    omega

theorem exists_pointed {places : Nat} (hplaces : 0 < places) (n : Nat) :
    ∃ spelling : Spelling, spelling.Proper ∧ spelling.fraction.length = places ∧
      natOfDigits (spelling.whole ++ spelling.fraction) = n ∧ spelling.exponent = none ∧
      pointed places n = spelling.whole ++ '.' :: spelling.fraction := by
  have hlength := lt_length_padded places n
  refine ⟨⟨(padded places n).take ((padded places n).length - places),
      (padded places n).drop ((padded places n).length - places), none⟩,
    ⟨?_, fun c hc => isDigit_of_mem_padded (List.mem_of_mem_take hc), leading_padded hplaces,
      fun c hc => isDigit_of_mem_padded (List.mem_of_mem_drop hc)⟩, ?_, ?_, rfl, ?_⟩
  · rw [← List.length_pos_iff, List.length_take]
    omega
  · rw [List.length_drop]
    omega
  · simp only [List.take_append_drop, natOfDigits_padded]
  · rw [pointed, if_neg hplaces.ne']
    rfl

theorem exists_plain_of_neg (hexponent : d.exponent < 0) (plusExponent : Bool) :
    ∃ spelling : Spelling, spelling.Spells d ∧ spelling.IsMarked ∧
      d.plain true = spelling.text plusExponent := by
  have hplaces : 0 < (-d.exponent).toNat := by omega
  obtain ⟨spelling, hproper, hlength, hdigits, hnone, htext⟩ := exists_pointed hplaces d.digits
  have hfraction : spelling.fraction ≠ [] := by
    intro hnil
    simp [hnil] at hlength
    omega
  refine ⟨spelling, ⟨hproper, ?_⟩, .inl hfraction, ?_⟩
  · have hpower : (0 : Int) - (-d.exponent).toNat = d.exponent := by omega
    rw [decimal, Numeral.decimal, hdigits, hlength, hnone, Option.getD_none, hpower]
  · rw [plain, if_neg (by omega), htext, text, fractionText, exponentText, hnone, if_neg hfraction]
    simp

theorem exists_scientific (hpos : 0 < d.digits) (plusExponent : Bool) :
    ∃ spelling : Spelling, spelling.Spells d ∧ spelling.IsMarked ∧
      d.scientific plusExponent = spelling.text plusExponent := by
  cases hdigits : numeral d.digits with
  | nil => exact absurd hdigits (numeral_ne_nil _)
  | cons first rest =>
      have hall : ∀ c ∈ first :: rest, c.isDigit := fun c hc =>
        isDigit_of_mem_numeral (hdigits ▸ hc)
      have hfirst : first ≠ '0' := fun hzero => head?_numeral hpos (by simp [hdigits, hzero])
      refine ⟨⟨[first], rest, some d.leading⟩, ⟨⟨by simp, fun c hc => hall c ?_, ?_,
        fun c hc => hall c (List.mem_cons_of_mem _ hc)⟩, ?_⟩, .inr (by simp), ?_⟩
      · simpa using Or.inl (List.mem_singleton.1 hc)
      · intro hhead
        exact absurd (Option.some.inj hhead) hfirst
      · have hleading : d.leading - rest.length = d.exponent := by
          rw [leading, hdigits, List.length_cons]
          push_cast
          omega
        rw [decimal, Numeral.decimal, Option.getD_some, hleading, List.singleton_append, ← hdigits,
          natOfDigits_numeral]
      · simp only [scientific, hdigits, text, fractionText, exponentText]
        cases rest <;> simp

theorem exists_render (layout : Layout) (hpoint : layout.keepsPoint = true)
    (hzero : d.digits = 0 → d.exponent = 0) : ∃ spelling : Spelling, spelling.Spells d ∧
      spelling.IsMarked ∧ d.render layout = spelling.text layout.plusExponent := by
  have hplain : ∃ spelling : Spelling, spelling.Spells d ∧ spelling.IsMarked ∧
      d.plain layout.keepsPoint = spelling.text layout.plusExponent := by
    rw [hpoint]
    rcases Int.lt_or_le d.exponent 0 with hneg | hnonneg
    · exact exists_plain_of_neg hneg _
    · exact exists_plain_of_nonneg hnonneg hzero _
  rw [render]
  split
  · exact hplain
  · split
    · exact hplain
    · rename_i hfar
      exact exists_scientific (Nat.pos_of_ne_zero fun hdigits => hfar (.inl hdigits)) _

end Spelling

end Drapery
