import Drapery.Amount
import Drapery.Proofs.DecimalText
import Drapery.Proofs.Lexicon
import Drapery.Proofs.NearestRounding

/-!
# Amounts as they are typed

An amount is read from the digits, points, commas and minus signs of a text.
Its first comma stands for the decimal point, and the longest number at the
front of what there is then is read as the nearest double, unless no finite
double is near enough.  A text without such a number reads as zero.
-/

namespace Drapery.Amount

open Binary

/-! ## Numbers as they are typed -/

/-- An optional minus, digits, and possibly a point and more digits.  There is a
digit on one side of the point at least. -/
structure TypedNumber where
  negative : Bool
  whole : List Char
  places? : Option (List Char)
  isDigit : ∀ c ∈ whole ++ places?.getD [], c.isDigit = true
  ne_nil : whole ++ places?.getD [] ≠ []

def minusText (negative : Bool) : List Char := if negative then ['-'] else []

def pointText : Option (List Char) → List Char
  | none => []
  | some places => '.' :: places

namespace TypedNumber

variable (n : TypedNumber)

def places : List Char := n.places?.getD []

def text : List Char := minusText n.negative ++ (n.whole ++ pointText n.places?)

def bare : List Char := n.text.rdropWhile (· == '.')

def magnitude : ℚ :=
  Nat.ofDigitChars 10 n.whole 0 + Nat.ofDigitChars 10 n.places 0 / 10 ^ n.places.length

def value : ℚ := signOf n.negative * n.magnitude

def decimal : Decimal := Numeral.decimal n.whole n.places 0

theorem value_decimal : n.decimal.value = n.magnitude := by
  have hten : (10 : ℚ) ^ n.places.length ≠ 0 := by positivity
  rw [Decimal.value, decimal, Numeral.decimal, Numeral.natOfDigits_append, magnitude, zero_sub,
    zpow_neg, zpow_natCast, Numeral.natOfDigits_eq, Numeral.natOfDigits_eq]
  push_cast
  field_simp

/-- The number stands at the front of the text, and no longer one does. -/
structure LongestIn (n : TypedNumber) (text : List Char) : Prop where
  starts : n.text <+: text
  longest : ∀ other : TypedNumber, other.text <+: text → other.text.length ≤ n.text.length

end TypedNumber

/-! ## The number at the front of a text -/

def placesAt : List Char → Option (List Char)
  | '.' :: rest => some (rest.takeWhile Char.isDigit)
  | _ => none

theorem fraction_fst (text : List Char) :
    (Numeral.fraction text).1 = (placesAt text).getD [] := by
  rw [Numeral.fraction.eq_def]
  split
  · rfl
  · rename_i hplain
    rw [placesAt.eq_2 _ hplain]
    rfl

theorem exists_minusText (text : List Char) : ∃ negative rest,
    text = minusText negative ++ rest ∧ (negative = false → rest.head? ≠ some '-') := by
  by_cases hminus : text.head? = some '-'
  · obtain ⟨rest, rfl⟩ := List.head?_eq_some_iff.1 hminus
    exact ⟨true, rest, rfl, fun h => absurd h (by decide)⟩
  · exact ⟨false, text, rfl, fun _ => hminus⟩

theorem leading?_minusText {negative : Bool} {rest : List Char}
    (hrest : negative = false → rest.head? ≠ some '-') :
    leading? (minusText negative ++ rest) =
      let whole := rest.takeWhile Char.isDigit
      let places := (placesAt (rest.dropWhile Char.isDigit)).getD []
      if whole ++ places = [] then none
      else some (negative, Numeral.decimal whole places 0) := by
  have hempty : ∀ whole places : List Char,
      (whole.isEmpty && places.isEmpty) = true ↔ whole ++ places = [] := by simp
  cases negative with
  | true => simp only [minusText, if_true, List.cons_append, List.nil_append, leading?,
      fraction_fst, hempty]
  | false =>
      have hplain : ∀ tail, rest = '-' :: tail → False := fun tail htail =>
        hrest rfl (by rw [htail]; rfl)
      simp only [minusText, Bool.false_eq_true, if_false, List.nil_append, leading?.eq_2 _ hplain,
        fraction_fst, hempty]

namespace TypedNumber

variable (n : TypedNumber)

theorem isDigit_of_mem_whole {c : Char} (h : c ∈ n.whole) : c.isDigit = true :=
  n.isDigit c (List.mem_append_left _ h)

theorem isDigit_of_mem_places {c : Char} (h : c ∈ n.places) : c.isDigit = true :=
  n.isDigit c (List.mem_append_right _ h)

theorem head?_text (rest : List Char) :
    (n.whole ++ pointText n.places? ++ rest).head? ≠ some '-' := by
  cases hwhole : n.whole with
  | cons c others =>
      have hdigit := n.isDigit_of_mem_whole (c := c) (by simp [hwhole])
      intro hminus
      obtain rfl : c = '-' := by simpa using hminus
      exact absurd hdigit (by decide)
  | nil =>
      cases hplaces : n.places? with
      | some places => simp [pointText]
      | none => exact absurd (by simp [hwhole, hplaces]) n.ne_nil

theorem of_text_prefix {negative : Bool} {rest : List Char}
    (hrest : negative = false → rest.head? ≠ some '-')
    (h : n.text <+: minusText negative ++ rest) :
    n.negative = negative ∧ n.whole ++ pointText n.places? <+: rest := by
  obtain ⟨tail, htail⟩ := h
  have hhead := n.head?_text tail
  rw [text, List.append_assoc] at htail
  cases hsign : n.negative with
  | true =>
      cases negative with
      | true =>
          rw [hsign] at htail
          exact ⟨rfl, tail, List.append_cancel_left htail⟩
      | false =>
          rw [hsign] at htail
          exact absurd (congrArg List.head? htail).symm (hrest rfl)
  | false =>
      cases negative with
      | true =>
          rw [hsign] at htail
          exact absurd (congrArg List.head? htail) hhead
      | false =>
          rw [hsign] at htail
          exact ⟨rfl, tail, htail⟩

/-- A number at the front of a text takes digits from the run there.  If it has a
point, it takes all of them, and the digits after its point from the next run. -/
theorem scan_of_prefix {rest : List Char} (h : n.whole ++ pointText n.places? <+: rest) :
    n.whole <+: rest.takeWhile Char.isDigit ∧
      ∀ places, n.places? = some places → n.whole = rest.takeWhile Char.isDigit ∧
        ∃ run, placesAt (rest.dropWhile Char.isDigit) = some run ∧ places <+: run := by
  obtain ⟨tail, rfl⟩ := h
  have hwhole : ∀ c ∈ n.whole, c.isDigit = true := fun c => n.isDigit_of_mem_whole
  have hplaces : ∀ c ∈ n.places, c.isDigit = true := fun c => n.isDigit_of_mem_places
  rw [places] at hplaces
  rw [List.append_assoc]
  refine ⟨?_, fun places hpoint => ?_⟩
  · rw [List.takeWhile_append_of_pos hwhole]
    exact List.prefix_append _ _
  · rw [hpoint, Option.getD_some] at hplaces
    rw [hpoint]
    have hpointed : ∀ c ∈ (pointText (some places) ++ tail).head?, c.isDigit = false := by
      simp [pointText]
    obtain ⟨htake, hdrop⟩ := Formula.takeWhile_append_of_head hwhole hpointed
    rw [htake, hdrop]
    refine ⟨rfl, (places ++ tail).takeWhile Char.isDigit, rfl, ?_⟩
    rw [List.takeWhile_append_of_pos hplaces]
    exact List.prefix_append _ _

end TypedNumber

theorem isDigit_of_mem_placesAt {text : List Char} {c : Char}
    (h : c ∈ (placesAt text).getD []) : c.isDigit = true := by
  rw [← fraction_fst, Numeral.fraction.eq_def] at h
  split at h
  · exact List.mem_takeWhile_imp h
  · exact absurd h List.not_mem_nil

theorem pointText_placesAt (text : List Char) : pointText (placesAt text) <+: text := by
  rw [placesAt.eq_def]
  split
  · exact List.cons_prefix_cons.2 ⟨rfl, List.takeWhile_prefix _⟩
  · exact List.nil_prefix

theorem not_prefix_of_leading?_eq_none {text : List Char} (h : leading? text = none)
    (n : TypedNumber) : ¬ n.text <+: text := by
  obtain ⟨negative, rest, rfl, hrest⟩ := exists_minusText text
  intro hprefix
  obtain ⟨hwhole, hpoint⟩ := n.scan_of_prefix (n.of_text_prefix hrest hprefix).2
  rw [leading?_minusText hrest] at h
  simp only [ite_eq_left_iff, reduceCtorEq, imp_false, not_not, List.append_eq_nil_iff] at h
  obtain ⟨hnone, hplaces⟩ := h
  rw [hnone, List.prefix_nil] at hwhole
  cases hn : n.places? with
  | none => exact n.ne_nil (by simp [hwhole, hn])
  | some places =>
      obtain ⟨-, run, hrun, hmore⟩ := hpoint places hn
      rw [hrun, Option.getD_some] at hplaces
      rw [hplaces, List.prefix_nil] at hmore
      exact n.ne_nil (by simp [hwhole, hn, hmore])

theorem exists_longestIn {text : List Char} {figure : Bool × Decimal}
    (h : leading? text = some figure) :
    ∃ n : TypedNumber, n.LongestIn text ∧ figure = (n.negative, n.decimal) := by
  obtain ⟨negative, rest, rfl, hrest⟩ := exists_minusText text
  rw [leading?_minusText hrest] at h
  simp only [Option.ite_none_left_eq_some, Option.some.injEq] at h
  obtain ⟨hne, rfl⟩ := h
  have hdigits : ∀ c ∈ rest.takeWhile Char.isDigit ++
      (placesAt (rest.dropWhile Char.isDigit)).getD [], c.isDigit = true := fun c hc =>
    (List.mem_append.1 hc).elim List.mem_takeWhile_imp isDigit_of_mem_placesAt
  refine ⟨⟨negative, _, placesAt (rest.dropWhile Char.isDigit), hdigits, hne⟩, ⟨?_, ?_⟩, rfl⟩
  · have hscan :
        rest.takeWhile Char.isDigit ++ pointText (placesAt (rest.dropWhile Char.isDigit)) <+:
          rest.takeWhile Char.isDigit ++ rest.dropWhile Char.isDigit :=
      (List.prefix_append_right_inj _).2 (pointText_placesAt _)
    rw [List.takeWhile_append_dropWhile] at hscan
    exact (List.prefix_append_right_inj _).2 hscan
  · intro other hother
    obtain ⟨hsign, hprefix⟩ := other.of_text_prefix hrest hother
    obtain ⟨hwhole, hpoint⟩ := other.scan_of_prefix hprefix
    have hlength := hwhole.length_le
    rw [TypedNumber.text, TypedNumber.text, hsign]
    simp only [List.length_append]
    cases hplaces : other.places? with
    | none =>
        simp only [pointText, List.length_nil]
        omega
    | some places =>
        obtain ⟨-, run, hrun, hmore⟩ := hpoint places hplaces
        have hlonger := hmore.length_le
        simp only [hrun, pointText, List.length_cons]
        omega

namespace TypedNumber

variable (n : TypedNumber)

theorem takeWhile_isDigit : (n.whole ++ pointText n.places?).takeWhile Char.isDigit = n.whole ∧
    (n.whole ++ pointText n.places?).dropWhile Char.isDigit = pointText n.places? := by
  refine Formula.takeWhile_append_of_head (fun c => n.isDigit_of_mem_whole) ?_
  cases n.places? with
  | none => simp [pointText]
  | some places => simp [pointText]

theorem placesAt_pointText : placesAt (pointText n.places?) = n.places? := by
  have hdigits : ∀ c ∈ n.places?.getD [], c.isDigit = true := fun c => n.isDigit_of_mem_places
  cases hplaces : n.places? with
  | none => rfl
  | some places =>
      rw [hplaces, Option.getD_some] at hdigits
      rw [pointText, placesAt, List.takeWhile_eq_self_iff.2 hdigits]

theorem leading?_text : leading? n.text = some (n.negative, n.decimal) := by
  obtain ⟨htake, hdrop⟩ := n.takeWhile_isDigit
  have hhead := n.head?_text []
  rw [List.append_nil] at hhead
  rw [text, leading?_minusText fun _ => hhead]
  simp only [htake, hdrop, n.placesAt_pointText]
  rw [if_neg n.ne_nil]
  rfl

theorem LongestIn.leading? {n : TypedNumber} {text : List Char} (h : n.LongestIn text) :
    Amount.leading? text = some (n.negative, n.decimal) := by
  cases hfront : Amount.leading? text with
  | none => exact absurd h.starts (not_prefix_of_leading?_eq_none hfront n)
  | some figure =>
      obtain ⟨other, hother, rfl⟩ := exists_longestIn hfront
      have hshorter := h.longest other hother.starts
      have hlonger := hother.longest n h.starts
      have hsame : other.text = n.text :=
        (List.prefix_of_prefix_length_le hother.starts h.starts hshorter).eq_of_length
          (le_antisymm hshorter hlonger)
      rw [← other.leading?_text, hsame, n.leading?_text]

/-! ## The number without a point at its end -/

theorem rdropWhile_digits (text : List Char) {digits : List Char} (hne : digits ≠ [])
    (hdigits : ∀ c ∈ digits, c.isDigit = true) :
    (text ++ digits).rdropWhile (· == '.') = text ++ digits := by
  rw [List.rdropWhile_eq_self_iff]
  intro hlast hpoint
  rw [List.getLast_append_of_ne_nil _ hne] at hpoint
  have hdigit := hdigits _ (List.getLast_mem hne)
  rw [beq_iff_eq.1 hpoint] at hdigit
  exact absurd hdigit (by decide)

theorem bare_eq : n.bare = minusText n.negative ++
    (n.whole ++ if n.places = [] then [] else '.' :: n.places) := by
  have hwhole : ∀ c ∈ n.whole, c.isDigit = true := fun c => n.isDigit_of_mem_whole
  have hplaces : ∀ c ∈ n.places, c.isDigit = true := fun c => n.isDigit_of_mem_places
  have hne := n.ne_nil
  rw [bare, text]
  rw [places] at hplaces ⊢
  cases hpoint : n.places? with
  | none =>
      have hwholeNe : n.whole ≠ [] := by simpa [hpoint] using hne
      simpa [pointText] using rdropWhile_digits _ hwholeNe hwhole
  | some places =>
      rw [hpoint, Option.getD_some] at hplaces hne
      rw [Option.getD_some, pointText]
      by_cases hnone : places = []
      · have hwholeNe : n.whole ≠ [] := by simpa [hnone] using hne
        rw [if_pos hnone, hnone, ← List.append_assoc, List.rdropWhile_concat_pos _ _ _ rfl,
          List.append_nil]
        exact rdropWhile_digits _ hwholeNe hwhole
      · rw [if_neg hnone]
        simpa using rdropWhile_digits (minusText n.negative ++ (n.whole ++ ['.'])) hnone hplaces

theorem sign_bare : Numeral.sign n.bare =
    (n.negative, n.whole ++ if n.places = [] then [] else '.' :: n.places) := by
  have hhead : ∀ c ∈ (n.whole ++ if n.places = [] then [] else '.' :: n.places).head?,
      c ≠ '-' ∧ c ≠ '+' := by
    have hdigit : ∀ c : Char, c.isDigit = true → c ≠ '-' ∧ c ≠ '+' := by
      rintro c hc
      constructor <;> rintro rfl <;> exact absurd hc (by decide)
    intro c hc
    cases hwhole : n.whole with
    | cons first rest =>
        obtain rfl : first = c := by simpa [hwhole] using hc
        exact hdigit first (n.isDigit_of_mem_whole (by simp [hwhole]))
    | nil =>
        have hplaces : n.places ≠ [] := fun hnone => n.ne_nil (by
          rw [places] at hnone
          rw [hwhole, hnone, List.append_nil])
        obtain rfl : '.' = c := by simpa [hwhole, hplaces] using hc
        decide
  rw [bare_eq]
  generalize (n.whole ++ if n.places = [] then [] else '.' :: n.places) = rest at *
  cases n.negative with
  | true => rfl
  | false =>
      rw [minusText, if_neg Bool.false_ne_true, List.nil_append, Numeral.sign.eq_def]
      split
      · exact absurd rfl (hhead '-' rfl).1
      · exact absurd rfl (hhead '+' rfl).2
      · rfl

theorem signed?_bare : Numeral.signed? n.bare = some (n.decimal.toFloat n.negative) := by
  have hwhole : ∀ c ∈ n.whole, c.isDigit = true := fun c => n.isDigit_of_mem_whole
  have hplaces : ∀ c ∈ n.places, c.isDigit = true := fun c => n.isDigit_of_mem_places
  have hhead : ∀ c ∈ (if n.places = [] then [] else '.' :: n.places).head?,
      c.isDigit = false := by
    split <;> simp
  obtain ⟨htake, hdrop⟩ := Formula.takeWhile_append_of_head hwhole hhead
  have hfraction : Numeral.fraction (if n.places = [] then [] else '.' :: n.places) =
      (n.places, []) := by
    split
    · rename_i hnone
      rw [hnone]
      rfl
    · rw [Numeral.fraction, List.takeWhile_eq_self_iff.2 hplaces,
        List.dropWhile_eq_nil_iff.2 hplaces]
  have hne : (n.whole.isEmpty && n.places.isEmpty) = false := by
    have hdigits : n.whole ++ n.places ≠ [] := n.ne_nil
    rw [Bool.eq_false_iff]
    simpa using hdigits
  rw [Numeral.signed?, sign_bare]
  simp only [Numeral.unsigned?, htake, hdrop, hfraction, hne, Bool.false_eq_true, if_false,
    Numeral.exponent?, Option.map_some]
  rfl

end TypedNumber

/-! ## The characters of an amount -/

def amountCharacters : List Char :=
  ['0', '1', '2', '3', '4', '5', '6', '7', '8', '9', '.', '-', ',']

def amountText (text : String) : List Char := text.toList.filter (· ∈ amountCharacters)

/-- The first comma, if there is one, becomes a point. -/
inductive Pointed : List Char → List Char → Prop where
  | noComma {text : List Char} (h : ',' ∉ text) : Pointed text text
  | firstComma {before after : List Char} (h : ',' ∉ before) :
      Pointed (before ++ ',' :: after) (before ++ '.' :: after)

theorem Pointed.cons {c : Char} {text pointed : List Char} (hc : c ≠ ',')
    (h : Pointed text pointed) : Pointed (c :: text) (c :: pointed) := by
  have hmem : ∀ {rest : List Char}, ',' ∉ rest → ',' ∉ c :: rest := fun hrest hmem =>
    (List.mem_cons.1 hmem).elim (hc ·.symm) hrest
  cases h with
  | noComma h => exact .noComma (hmem h)
  | @firstComma before after h => exact @Pointed.firstComma (c :: before) after (hmem h)

theorem pointed_pointFirstComma (text : List Char) : Pointed text (pointFirstComma text) := by
  induction text with
  | nil => exact .noComma List.not_mem_nil
  | cons c rest ih =>
      rw [pointFirstComma]
      split
      · rename_i hcomma
        rw [hcomma]
        exact @Pointed.firstComma [] rest List.not_mem_nil
      · rename_i hother
        exact ih.cons hother

theorem pointFirstComma_append {before : List Char} (h : ',' ∉ before) (rest : List Char) :
    pointFirstComma (before ++ rest) = before ++ pointFirstComma rest := by
  induction before with
  | nil => rfl
  | cons c others ih =>
      rw [List.mem_cons, not_or] at h
      rw [List.cons_append, pointFirstComma, if_neg (Ne.symm h.1), ih h.2, List.cons_append]

theorem Pointed.eq_pointFirstComma {text pointed : List Char} (h : Pointed text pointed) :
    pointed = pointFirstComma text := by
  cases h with
  | noComma h => simpa [pointFirstComma] using (pointFirstComma_append h []).symm
  | firstComma h => rw [pointFirstComma_append h, pointFirstComma, if_pos rfl]

theorem isKept_iff {c : Char} : isKept c = true ↔ c ∈ amountCharacters := by
  have hdigits : ∀ digit : Fin 10, Char.ofNat (48 + digit) ∈ amountCharacters := by decide
  have hall : ∀ c ∈ amountCharacters, isKept c = true := by simp [amountCharacters, isKept]
  refine ⟨fun h => ?_, hall c⟩
  simp only [isKept, Bool.or_eq_true, beq_iff_eq] at h
  rcases h with ((hdigit | rfl) | rfl) | rfl
  · have hcode : 48 ≤ c.toNat ∧ c.toNat < 58 := by
      simp only [Char.isDigit, Bool.and_eq_true, decide_eq_true_eq, ge_iff_le,
        UInt32.le_iff_toNat_le] at hdigit
      exact ⟨hdigit.1, Nat.lt_succ_of_le hdigit.2⟩
    have hmem := hdigits ⟨c.toNat - 48, by omega⟩
    rwa [Nat.add_sub_cancel' hcode.1, Char.ofNat_toNat] at hmem
  all_goals decide

theorem cleaned_eq (text : String) :
    cleaned text.toList = pointFirstComma (amountText text) := by
  rw [cleaned, amountText]
  congr 1
  exact List.filter_congr fun c _ => by rw [Bool.eq_iff_iff, decide_eq_true_iff, isKept_iff]

/-! ## Reading -/

/-- What a text that starts with a number reads as.  From `overflowBound` on the nearest double
is infinite. -/
inductive ReadsFrom (text : List Char) : Float → Prop where
  | nearest {n : TypedNumber} {x : Float} (hn : n.LongestIn text)
      (hfinite : n.magnitude < overflowBound) (hx : IsNearest n.value x)
      (hsign : isNegative x = n.negative) : ReadsFrom text x
  | infinite {n : TypedNumber} (hn : n.LongestIn text)
      (hinfinite : overflowBound ≤ n.magnitude) : ReadsFrom text 0
  | nothing (hnone : ∀ n : TypedNumber, ¬ n.text <+: text) : ReadsFrom text 0

def Reads (text : String) (x : Float) : Prop :=
  ∃ pointed, Pointed (amountText text) pointed ∧ ReadsFrom pointed x

/-! ## The doubles of typed numbers -/

namespace TypedNumber

variable (n : TypedNumber)

theorem ofNumber_toFloat_of_infinite (h : overflowBound ≤ n.magnitude) :
    ofNumber (n.decimal.toFloat n.negative) = 0 := by
  rw [← n.value_decimal] at h
  have hinfinite : (toFloat n.negative infinityBits).isFinite = false := by
    cases n.negative <;> decide +kernel
  rw [ofNumber, Decimal.toFloat, Decimal.nearestBits_of_overflow h, hinfinite]
  rfl

section

variable (h : n.magnitude < overflowBound)

include h

theorem ofNumber_toFloat_of_finite :
    ofNumber (n.decimal.toFloat n.negative) = n.decimal.toFloat n.negative := by
  rw [← n.value_decimal] at h
  rw [ofNumber, if_pos]
  exact isFinite_toFloat n.negative (Decimal.nearestStep_nearestBits h).1

theorem isNearest_toFloat : IsNearest n.value (n.decimal.toFloat n.negative) ∧
    isNegative (n.decimal.toFloat n.negative) = n.negative := by
  have hnonneg := n.decimal.value_nonneg
  rw [n.value_decimal] at hnonneg
  rw [← n.value_decimal] at h
  obtain ⟨hbits, hstep⟩ := Decimal.nearestStep_nearestBits h
  rw [n.value_decimal] at hstep
  exact ⟨Binary.isNearest_toFloat hnonneg hbits hstep, isNegative_toFloat n.negative hbits⟩

theorem eq_toFloat_of_isNearest {x : Float} (hx : IsNearest n.value x)
    (hsign : isNegative x = n.negative) : x = n.decimal.toFloat n.negative := by
  rw [← n.value_decimal] at h
  obtain ⟨hbits, hstep⟩ := Decimal.nearestStep_nearestBits h
  rw [n.value_decimal] at hstep
  exact hx.eq_toFloat hbits hstep hsign

end

end TypedNumber

/-! ## What texts read as -/

theorem ofText_eq {text : String} {n : TypedNumber}
    (hn : n.LongestIn (pointFirstComma (amountText text))) :
    ofText text = ofNumber (n.decimal.toFloat n.negative) := by
  rw [ofText, cleaned_eq, hn.leading?]

theorem reads_ofText (text : String) : Reads text (ofText text) := by
  refine ⟨_, pointed_pointFirstComma _, ?_⟩
  cases hleading : leading? (pointFirstComma (amountText text)) with
  | none =>
      rw [ofText, cleaned_eq, hleading]
      exact .nothing (not_prefix_of_leading?_eq_none hleading)
  | some figure =>
      obtain ⟨n, hn, -⟩ := exists_longestIn hleading
      rw [ofText_eq hn]
      rcases lt_or_ge n.magnitude overflowBound with hfinite | hinfinite
      · rw [n.ofNumber_toFloat_of_finite hfinite]
        obtain ⟨hnearest, hsign⟩ := n.isNearest_toFloat hfinite
        exact .nearest hn hfinite hnearest hsign
      · rw [n.ofNumber_toFloat_of_infinite hinfinite]
        exact .infinite hn hinfinite

theorem Reads.eq_ofText {text : String} {x : Float} (h : Reads text x) : x = ofText text := by
  obtain ⟨pointed, hpointed, hreads⟩ := h
  obtain rfl := hpointed.eq_pointFirstComma
  cases hreads with
  | @nearest n x hn hfinite hx hsign =>
      rw [ofText_eq hn, n.ofNumber_toFloat_of_finite hfinite]
      exact n.eq_toFloat_of_isNearest hfinite hx hsign
  | @infinite n hn hinfinite => rw [ofText_eq hn, n.ofNumber_toFloat_of_infinite hinfinite]
  | nothing hnone =>
      rw [ofText, cleaned_eq]
      cases hleading : leading? (pointFirstComma (amountText text)) with
      | none => rfl
      | some figure =>
          obtain ⟨n, hn, -⟩ := exists_longestIn hleading
          exact absurd hn.starts (hnone n)

/-- A text reads as the longest number at the front of its amount characters, as the
reader of numerals reads it too, and other characters do not matter. -/
theorem ofText_reads (text : String) :
    (∀ x, Reads text x ↔ x = ofText text) ∧
      (∀ pointed n, Pointed (amountText text) pointed → TypedNumber.LongestIn n pointed →
        ∃ x, Numeral.signed? n.bare = some x ∧ ofText text = ofNumber x) ∧
      ∀ other, amountText other = amountText text → ofText other = ofText text := by
  refine ⟨fun x => ⟨Reads.eq_ofText, fun h => h ▸ reads_ofText text⟩, ?_, ?_⟩
  · intro pointed n hpointed hn
    obtain rfl := hpointed.eq_pointFirstComma
    exact ⟨_, n.signed?_bare, ofText_eq hn⟩
  · intro other hother
    rw [ofText, ofText, cleaned_eq, cleaned_eq, hother]

theorem ofText_reads_rebate : ∃ n : TypedNumber,
    Pointed (amountText "- 1,234,5 €") ['-', '1', '.', '2', '3', '4', ',', '5'] ∧
      n.LongestIn ['-', '1', '.', '2', '3', '4', ',', '5'] ∧
      (n.negative, n.decimal) = (true, ⟨1234, -3⟩) ∧
      (∃ x, Numeral.signed? n.bare = some x ∧ ofText "- 1,234,5 €" = ofNumber x) ∧
      Reads "- 1,234,5 €" (-1.234) ∧
      amountText "-1,234,5" = amountText "- 1,234,5 €" ∧
      ofText "-1,234,5" = ofText "- 1,234,5 €" := by
  have hpointed : Pointed (amountText "- 1,234,5 €") ['-', '1', '.', '2', '3', '4', ',', '5'] :=
    @Pointed.firstComma ['-', '1'] ['2', '3', '4', ',', '5'] (by decide)
  have hfront : leading? ['-', '1', '.', '2', '3', '4', ',', '5'] = some (true, ⟨1234, -3⟩) := by
    decide +kernel
  obtain ⟨n, hn, hfigure⟩ := exists_longestIn hfront
  have hkept : amountText "-1,234,5" = amountText "- 1,234,5 €" := by decide +kernel
  obtain ⟨hreads, hbare, hother⟩ := ofText_reads "- 1,234,5 €"
  refine ⟨n, hpointed, hn, hfigure.symm, hbare _ n hpointed hn, (hreads _).2 ?_, hkept,
    hother _ hkept⟩
  decide +kernel

end Drapery.Amount
