import Drapery.Json.Printer
import Drapery.Json.Token
import Drapery.Proofs.DecimalText
import Drapery.Proofs.Lexicon

/-!
# Tokens of JSON texts

What is written for a whole number is read back as that number, and what is
written for a double as one value, when the text after it does not go on with a
number.  What is written for a string is read back as that string.
-/

namespace Drapery.Json

open Decimal Numeral

/-! ## Numbers -/

def EndsNumber (rest : List Char) : Prop :=
  ∀ c ∈ rest.head?, c.isDigit = false ∧ c ≠ '.' ∧ c ≠ 'e' ∧ c ≠ 'E'

def signText (negative : Bool) : List Char := if negative then ['-'] else []

theorem digits?_append {digits rest : List Char} (hne : digits ≠ [])
    (hdigits : ∀ c ∈ digits, c.isDigit) (hrest : ∀ c ∈ rest.head?, c.isDigit = false) :
    digits? (digits ++ rest) = some (digits, rest) := by
  obtain ⟨htake, hdrop⟩ := Formula.takeWhile_append_of_head hdigits hrest
  simp only [digits?, htake, hdrop, if_neg hne]

section Spelled

variable {spelling : Spelling} {rest : List Char}

theorem wholeDigits?_append (hproper : spelling.Proper)
    (hrest : ∀ c ∈ rest.head?, c.isDigit = false) :
    wholeDigits? (spelling.whole ++ rest) = some (spelling.whole, rest) := by
  have hleading : ¬(spelling.whole.head? = some '0' ∧ spelling.whole ≠ ['0']) := fun h =>
    h.2 (hproper.leading h.1)
  rw [wholeDigits?, digits?_append hproper.whole_ne_nil hproper.whole hrest]
  exact if_neg hleading

theorem fractionDigits?_append (hproper : spelling.Proper)
    (hrest : ∀ c ∈ rest.head?, c.isDigit = false ∧ c ≠ '.') :
    fractionDigits? (spelling.fractionText ++ rest) = some (spelling.fraction, rest) := by
  rw [Spelling.fractionText]
  by_cases hnil : spelling.fraction = []
  · rw [if_pos hnil, hnil, List.nil_append]
    cases rest with
    | nil => rfl
    | cons c tail =>
        have hpoint := (hrest c rfl).2
        simp_all [fractionDigits?]
  · rw [if_neg hnil]
    exact digits?_append hnil hproper.fraction fun c hc => (hrest c hc).1

theorem sign_append {sign digits : List Char} (hsign : sign = ['-'] ∨ sign = ['+'] ∨ sign = [])
    (hne : digits ≠ []) (hdigits : ∀ c ∈ digits, c.isDigit) (rest : List Char) :
    Numeral.sign (sign ++ (digits ++ rest)) = (decide (sign = ['-']), digits ++ rest) := by
  rcases hsign with rfl | rfl | rfl
  · rfl
  · rfl
  · obtain ⟨first, tail, rfl⟩ := List.exists_cons_of_ne_nil hne
    have hfirst := hdigits first (by simp)
    have hplain : first ≠ '-' ∧ first ≠ '+' := by
      constructor <;> rintro rfl <;> exact absurd hfirst (by decide)
    simp [Numeral.sign, hplain.1, hplain.2]

theorem exponentPart?_append (plusExponent : Bool) (hrest : EndsNumber rest) :
    exponentPart? (spelling.exponentText plusExponent ++ rest) =
      some (spelling.exponent, rest) := by
  rw [Spelling.exponentText]
  cases hexponent : spelling.exponent with
  | none =>
      cases rest with
      | nil => rfl
      | cons c tail =>
          obtain ⟨-, -, he, hE⟩ := hrest c rfl
          simp [exponentPart?, he, hE]
  | some power =>
      have hmark : (if power < 0 then ['-'] else if plusExponent then ['+'] else []) = ['-'] ∨
          (if power < 0 then ['-'] else if plusExponent then ['+'] else []) = ['+'] ∨
          (if power < 0 then ['-'] else if plusExponent then ['+'] else []) = [] := by
        split <;> [exact .inl rfl; split <;> simp]
      have hsign := sign_append hmark (numeral_ne_nil power.natAbs)
        (fun c => isDigit_of_mem_numeral) rest
      have hdigits := digits?_append (numeral_ne_nil power.natAbs)
        (fun c => isDigit_of_mem_numeral) fun c hc => (hrest c hc).1
      have hpower : (if decide ((if power < 0 then ['-'] else
          if plusExponent = true then ['+'] else []) = ['-']) = true
          then -(power.natAbs : Int) else power.natAbs) = power := by
        by_cases hneg : power < 0
        · simp only [if_pos hneg, decide_true, if_true]
          omega
        · have hplus : (if plusExponent = true then ['+'] else []) ≠ ['-'] := by split <;> decide
          rw [if_neg hneg, decide_eq_false hplus, if_neg (by decide)]
          omega
      simp only [exponentPart?, List.cons_append, List.append_assoc, true_or, if_true, hsign,
        hdigits, natOfDigits_numeral, Option.bind_eq_bind, Option.bind_some, hpower]

theorem not_isDigit_or_point_of_exponentText (spelling : Spelling) (plusExponent : Bool)
    (hrest : EndsNumber rest) :
    ∀ c ∈ (spelling.exponentText plusExponent ++ rest).head?, c.isDigit = false ∧ c ≠ '.' := by
  rw [Spelling.exponentText]
  cases spelling.exponent with
  | none => exact fun c hc => ⟨(hrest c hc).1, (hrest c hc).2.1⟩
  | some power =>
      intro c hc
      obtain rfl : 'e' = c := by simpa using hc
      decide

theorem not_isDigit_of_fractionText (spelling : Spelling)
    (htail : ∀ c ∈ rest.head?, c.isDigit = false ∧ c ≠ '.') :
    ∀ c ∈ (spelling.fractionText ++ rest).head?, c.isDigit = false := by
  rw [Spelling.fractionText]
  split
  · exact fun c hc => (htail c hc).1
  · intro c hc
    obtain rfl : '.' = c := by simpa using hc
    decide

theorem number?_append (numbers : NumberReader) (negative plusExponent : Bool)
    (hproper : spelling.Proper) (hrest : EndsNumber rest) :
    number? numbers (signText negative ++ (spelling.text plusExponent ++ rest)) =
      some (if spelling.IsMarked then ofSpelling numbers negative spelling
        else ofWhole numbers negative spelling.whole, rest) := by
  have htail := not_isDigit_or_point_of_exponentText spelling plusExponent hrest
  have hwhole := wholeDigits?_append hproper (not_isDigit_of_fractionText spelling htail)
  have hunsigned : ∀ tail, spelling.text plusExponent ++ rest = '-' :: tail → False := by
    intro tail htext
    obtain ⟨first, others, hfirst⟩ := List.exists_cons_of_ne_nil hproper.whole_ne_nil
    obtain ⟨rfl, -⟩ : first = '-' ∧ _ := by simpa [Spelling.text, hfirst] using htext
    exact absurd (hproper.whole '-' (by simp [hfirst])) (by decide)
  have hmarked : (spelling.fraction.isEmpty && spelling.exponent.isNone) = true ↔
      ¬spelling.IsMarked := by
    simp [Spelling.IsMarked]
  cases negative
  case' false => rw [signText, if_neg (by decide), List.nil_append, number?.eq_2 _ _ hunsigned]
  case' true => rw [signText, if_pos rfl, List.singleton_append, number?.eq_1]
  all_goals
    simp only [Spelling.text, List.append_assoc, Option.bind_eq_bind, hwhole, Option.bind_some,
      fractionDigits?_append hproper htail, exponentPart?_append plusExponent hrest, hmarked]
    by_cases h : spelling.IsMarked <;> simp [h]

end Spelled

/-! ## Doubles -/

theorem exists_floatText {x : Float} (hfinite : x.isFinite = true) :
    ∃ spelling : Spelling, spelling.Proper ∧ spelling.IsMarked ∧
      spelling.decimal.nearestBits = Binary.magnitudeBits x ∧
      floatText x = signText (Binary.isNegative x) ++ spelling.text true := by
  obtain ⟨b, hb⟩ := Binary.exists_ofFloat? hfinite
  obtain ⟨spelling, hspells, hmarked, htext⟩ := Spelling.exists_render Layout.json
    (d := (b.shortest .toEven).trimmed) rfl exponent_trimmed
  refine ⟨spelling, hspells.proper, hmarked,
    nearestBits_of_value_shortest hb (hspells.value.trans (value_trimmed _)), ?_⟩
  rw [floatText, if_pos hfinite, Layout.render, String.toList_ofList, signedText, hb]
  exact congrArg (signText (Binary.isNegative x) ++ ·) htext

/-- The text of a double is read as one value, whatever comes after it. -/
theorem exists_number?_floatText (numbers : NumberReader) {x : Float} (hfinite : x.isFinite = true) :
    ∃ value, ∀ rest, EndsNumber rest →
      number? numbers (floatText x ++ rest) = some (value, rest) := by
  obtain ⟨spelling, hproper, hmarked, -, htext⟩ := exists_floatText hfinite
  refine ⟨ofSpelling numbers (Binary.isNegative x) spelling, fun rest hrest => ?_⟩
  rw [htext, List.append_assoc, number?_append _ _ _ hproper hrest, if_pos hmarked]

theorem number?_nearest_floatText {x : Float} {rest : List Char} (hfinite : x.isFinite = true)
    (hrest : EndsNumber rest) : number? .nearest (floatText x ++ rest) = some (float x, rest) := by
  obtain ⟨spelling, hproper, hmarked, hbits, htext⟩ := exists_floatText hfinite
  have hnearest : spelling.decimal.toFloat (Binary.isNegative x) = x := by
    rw [Decimal.toFloat, hbits, Binary.toFloat_magnitudeBits]
  have hread : NumberReader.nearest.double? (Binary.isNegative x) spelling = some x :=
    Option.guard_eq_some_iff.2 ⟨hnearest, by rwa [hnearest]⟩
  rw [htext, List.append_assoc, number?_append _ _ _ hproper hrest, if_pos hmarked, ofSpelling,
    hread, Option.elim_some]

/-! ## Whole numbers -/

def FitsInteger (n : Int) : Prop := -2 ^ 63 ≤ n ∧ n < 2 ^ 64

instance (n : Int) : Decidable (FitsInteger n) := inferInstanceAs (Decidable (_ ∧ _))

theorem toList_toString (n : Int) :
    (toString n).toList = signText (decide (n < 0)) ++ numeral n.natAbs := by
  cases n with
  | ofNat m => exact String.toList_ofList
  | negSucc m =>
      change ("-" ++ Nat.repr m.succ).toList = _
      rw [String.toList_append, decide_eq_true (Int.negSucc_lt_zero m)]
      exact congrArg ('-' :: ·) String.toList_ofList

theorem ofWhole_numeral (numbers : NumberReader) {n : Int} (h : FitsInteger n) :
    ofWhole numbers (decide (n < 0)) (numeral n.natAbs) = int n := by
  obtain ⟨hlow, hhigh⟩ := h
  simp only [ofWhole, natOfDigits_numeral, decide_eq_true_eq, Nat.pow_eq]
  by_cases hneg : n < 0
  · rw [if_pos hneg, if_neg (by omega)]
    congr 1
    omega
  · rw [if_neg hneg, if_pos (by omega)]
    congr 1
    omega

theorem number?_toString (numbers : NumberReader) {n : Int} {rest : List Char}
    (h : FitsInteger n) (hrest : EndsNumber rest) :
    number? numbers ((toString n).toList ++ rest) = some (int n, rest) := by
  have hproper : Spelling.Proper ⟨numeral n.natAbs, [], none⟩ := by
    simpa using Spelling.proper_numeral n.natAbs [] (by simp) (fun _ => rfl) []
      (by simp) none
  have hplain : ¬Spelling.IsMarked ⟨numeral n.natAbs, [], none⟩ := by simp [Spelling.IsMarked]
  have hread := number?_append numbers (decide (n < 0)) false hproper hrest
  rw [if_neg hplain, ofWhole_numeral numbers h] at hread
  rw [toList_toString, List.append_assoc, ← hread]
  simp [Spelling.text, Spelling.fractionText, Spelling.exponentText]

/-! ## Strings -/

/-- The piece that a character is read back as: its code unit where that is what is written. -/
def pieceOf (c : Char) : Piece :=
  if escape c = ['\\', 'u', '0', '0'] ++ hexByte c.toNat then .unit c.toNat else .char c

theorem escape_cases (c : Char) :
    (∃ name, name ≠ 'u' ∧ escaped? name = some c ∧ escape c = ['\\', name]) ∨
    (c.toNat < 32 ∧ escape c = ['\\', 'u', '0', '0'] ++ hexByte c.toNat) ∨
    (¬(c.val < 0x20 ∨ c = '\\') ∧ c ≠ '"' ∧ escape c = [c]) := by
  unfold escape
  split
  case h_8 =>
      split
      · rename_i hlt
        exact .inr (.inl ⟨hlt, rfl⟩)
      · rename_i hle
        exact .inr (.inr ⟨not_or.2 ⟨hle, by assumption⟩, by assumption, rfl⟩)
  all_goals exact .inl ⟨_, by decide, rfl, rfl⟩

theorem codeUnit?_hexByte {n : Nat} (h : n < 32) :
    codeUnit? '0' '0' (Nat.digitChar (n / 16)) (Nat.digitChar (n % 16)) = some n := by
  interval_cases n <;> rfl

theorem pieces?_escape (c : Char) (rest : List Char) :
    pieces? (escape c ++ rest) =
      (pieces? rest).map fun found => (pieceOf c :: found.1, found.2) := by
  rcases escape_cases c with ⟨name, hname, hread, htext⟩ | ⟨hlt, htext⟩ | ⟨hplain, hquote, htext⟩
  · have hpiece : pieceOf c = .char c := by
      rw [pieceOf, if_neg (by simp [htext])]
    rw [hpiece, htext]
    change pieces? ('\\' :: name :: rest) = _
    rw [pieces?, hread]
    · cases pieces? rest <;> rfl
    · exact fun a b c d tail h => absurd h hname
  · rw [pieceOf, if_pos htext, htext]
    simp only [hexByte, List.cons_append, List.nil_append, pieces?, codeUnit?_hexByte hlt]
    cases pieces? rest <;> rfl
  · have hpiece : pieceOf c = .char c := by
      rw [pieceOf, if_neg (by simp [htext])]
    rw [hpiece, htext, List.singleton_append, pieces?, if_neg hplain]
    · cases pieces? rest <;> rfl
    · exact hquote
    · exact fun a b c d tail h => absurd h fun h => hplain (.inr h)
    · exact fun c tail h => absurd h fun h => hplain (.inr h)

theorem pieces?_flatMap_escape (text rest : List Char) :
    pieces? (text.flatMap escape ++ '"' :: rest) = some (text.map pieceOf, rest) := by
  induction text with
  | nil => rfl
  | cons c tail ih =>
      rw [List.flatMap_cons, List.append_assoc, pieces?_escape, ih]
      rfl

theorem join?_unit {code : Nat} (h : code < 32) (pieces : List Piece) :
    join? (.unit code :: pieces) = (join? pieces).map (Char.ofNat code :: ·) := by
  have hhigh : isHighSurrogate code = false := by
    rw [isHighSurrogate, decide_eq_false (by omega), Bool.false_and]
  have hlow : isLowSurrogate code = false := by
    rw [isLowSurrogate, decide_eq_false (by omega), Bool.false_and]
  cases pieces with
  | nil => simp [join?, hhigh, hlow]
  | cons piece rest => cases piece <;> simp [join?, hhigh, hlow]

theorem join?_pieceOf (c : Char) (pieces : List Piece) :
    join? (pieceOf c :: pieces) = (join? pieces).map (c :: ·) := by
  rw [pieceOf]
  split
  · rename_i hunit
    have hlt : c.toNat < 32 := by
      rcases escape_cases c with ⟨name, -, -, htext⟩ | ⟨hlt, -⟩ | ⟨-, -, htext⟩
      · simp [hunit] at htext
      · exact hlt
      · simp [hunit] at htext
    rw [join?_unit hlt, Char.ofNat_toNat]
  · rw [join?]

theorem join?_map_pieceOf (text : List Char) : join? (text.map pieceOf) = some text := by
  induction text with
  | nil => rfl
  | cons c tail ih =>
      rw [List.map_cons, join?_pieceOf, ih]
      rfl

/-! ## Tokens -/

variable {numbers : NumberReader}

theorem head_of_number? {text rest : List Char} {value : Json}
    (h : number? numbers text = some (value, rest)) :
    ∃ c tail, text = c :: tail ∧ (c = '-' ∨ c.isDigit) := by
  cases text with
  | nil => simp [number?, wholeDigits?, digits?] at h
  | cons c tail =>
      refine ⟨c, tail, rfl, ?_⟩
      by_contra hhead
      obtain ⟨hminus, hdigit⟩ := not_or.1 hhead
      rw [number?.eq_2 _ _ fun other hother => hminus (List.cons.inj hother).1] at h
      simp [wholeDigits?, digits?, hdigit] at h

theorem token?_of_number? {text rest : List Char} {value : Json}
    (h : number? numbers text = some (value, rest)) :
    token? numbers text = some (.scalar value, rest) := by
  obtain ⟨c, tail, rfl, hhead⟩ := head_of_number? h
  unfold token?
  split
  case h_11 => rw [h]; rfl
  all_goals
    rename_i heq
    obtain ⟨rfl, -⟩ := List.cons.inj heq
    exact absurd hhead (by decide)

theorem token?_stringText (numbers : NumberReader) (text : String) (rest : List Char) :
    token? numbers (stringText text ++ rest) = some (.scalar (string text), rest) := by
  have hpieces := pieces?_flatMap_escape text.toList rest
  rw [stringText, List.append_assoc, List.cons_append, token?, List.singleton_append, hpieces]
  simp only [Option.bind_eq_bind, Option.bind_some, join?_map_pieceOf, String.ofList_toList]

end Drapery.Json
