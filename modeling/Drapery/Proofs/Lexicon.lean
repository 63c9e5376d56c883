import Mathlib.Data.List.Basic
import Mathlib.Data.List.TakeWhile
import Drapery.Formula.Lexer

/-!
# Tokens as they are written

`Lexeme token word rest` says that `word` writes `token` and ends where `rest`
starts, and `Split text tokens` that a text is a row of such words with blanks
between them.  Scanning succeeds exactly on the texts that split, and gives the
tokens they split into: what no token begins with, half an operator, a number
with a second point or without exponent digits and an open quote or brace do not
split.
-/

namespace Drapery.Formula

/-! ## Words -/

def Token.spellings : Token → List (List Char)
  | comma => [[',']]
  | semicolon => [[';']]
  | openParen => [['(']]
  | closeParen => [[')']]
  | plus => [['+']]
  | minus => [['-']]
  | star => [['*']]
  | slash => [['/']]
  | bang => [['!']]
  | equals => [['='], ['=', '=']]
  | notEquals => [['!', '='], ['<', '>']]
  | less => [['<']]
  | lessEquals => [['<', '=']]
  | greater => [['>']]
  | greaterEquals => [['>', '=']]
  | and => [['&', '&']]
  | or => [['|', '|']]
  | name _ | field _ | number _ | text _ => []

open Lexemes

inductive Quoted (quote : Char) : List Char → List Char → Prop
  | nil : Quoted quote [] []
  | plain {c : Char} {written text : List Char} (hquote : c ≠ quote) (hescape : c ≠ '\\')
      (h : Quoted quote written text) : Quoted quote (c :: written) (c :: text)
  | escaped {c : Char} {written text : List Char} (h : Quoted quote written text) :
      Quoted quote ('\\' :: c :: written) (unescape c :: text)

def isExponentMark (c : Char) : Bool := c = 'e' || c = 'E'

def numberGoesOn (word : List Char) (c : Char) : Bool :=
  c.isDigit || !word.any isExponentMark && (c = '.' || isExponentMark c)

inductive Lexeme : Token → List Char → List Char → Prop
  | symbol {token : Token} {word rest : List Char} (hword : word ∈ token.spellings)
      (hend : ∀ c ∈ rest.head?, ∀ other : Token, word ++ [c] ∉ other.spellings) :
      Lexeme token word rest
  | text {quote : Char} {written text rest : List Char} (hquote : quote = '"' ∨ quote = '\'')
      (hwritten : Quoted quote written text) :
      Lexeme (.text (String.ofList text)) (quote :: written ++ [quote]) rest
  | field {written rest : List Char} (hwritten : ∀ c ∈ written, c ≠ '\x7b' ∧ c ≠ '\x7d')
      (hname : Text.trim written ≠ []) :
      Lexeme (.field (String.ofList (Text.trim written))) ('\x7b' :: written ++ ['\x7d']) rest
  | number {word rest : List Char} {d : Decimal} (hword : Numeral.unsigned? word = some d)
      (hend : ∀ c ∈ rest.head?, numberGoesOn word c = false) :
      Lexeme (.number (d.toFloat false)) word rest
  | name {first : Char} {parts rest : List Char} (hfirst : isNameStart first)
      (hparts : ∀ c ∈ parts, isNamePart c) (hend : ∀ c ∈ rest.head?, isNamePart c = false) :
      Lexeme (.name (String.ofList (first :: parts))) (first :: parts) rest

inductive Split : List Char → List Token → Prop
  | nil : Split [] []
  | blank {c : Char} {rest : List Char} {tokens : List Token} (hc : Text.isBlank c)
      (h : Split rest tokens) : Split (c :: rest) tokens
  | lexeme {token : Token} {word rest : List Char} {tokens : List Token}
      (hword : Lexeme token word rest) (h : Split rest tokens) :
      Split (word ++ rest) (token :: tokens)

/-! ## Operators and punctuation -/

theorem pair_of_mem_spellings {a b : Char} {token : Token} (h : [a, b] ∈ token.spellings) :
    b = '=' ∧ (a = '=' ∨ a = '!' ∨ a = '<' ∨ a = '>') ∨
      a = '<' ∧ b = '>' ∨ a = '&' ∧ b = '&' ∨ a = '|' ∧ b = '|' := by
  cases token <;> simp_all only [Token.spellings, List.mem_cons, List.not_mem_nil, or_false,
    List.cons.injEq, and_true, reduceCtorEq, and_false] <;> tauto

theorem length_le_two_of_mem_spellings {word : List Char} {token : Token}
    (h : word ∈ token.spellings) : word.length ≤ 2 := by
  cases token <;> simp only [Token.spellings, List.mem_cons, List.not_mem_nil, or_false] at h <;>
    grind

theorem symbol_of_pair {a b : Char} {token : Token} (rest : List Char)
    (h : [a, b] ∈ token.spellings) : Lexeme token [a, b] rest := by
  refine .symbol h fun c _ other hother => ?_
  have := length_le_two_of_mem_spellings hother
  simp at this

/-- A single character is an operator of its own unless the next one makes it a longer one. -/
theorem symbol_of_single {a : Char} {rest : List Char} {token : Token} (h : [a] ∈ token.spellings)
    (hrest : ∀ c tail, rest = c :: tail →
      (c = '=' → a ≠ '=' ∧ a ≠ '!' ∧ a ≠ '<' ∧ a ≠ '>') ∧ (c = '>' → a ≠ '<') ∧ a ≠ '&' ∧ a ≠ '|') :
    Lexeme token [a] rest := by
  refine .symbol h fun c hc other hother => ?_
  obtain ⟨tail, rfl⟩ := List.head?_eq_some_iff.1 hc
  obtain ⟨hequals, hgreater, hand, hor⟩ := hrest c tail rfl
  rcases pair_of_mem_spellings hother with ⟨rfl, ha⟩ | ⟨rfl, rfl⟩ | ⟨rfl, -⟩ | ⟨rfl, -⟩
  · have := hequals rfl
    tauto
  · exact hgreater rfl rfl
  · exact hand rfl
  · exact hor rfl

theorem lexeme_of_symbol? {text rest : List Char} {token : Token}
    (h : symbol? text = some (token, rest)) :
    ∃ word, text = word ++ rest ∧ Lexeme token word rest := by
  unfold symbol? at h
  split at h <;> cases h
  -- a spelling of one character stands for itself only where no longer one was taken
  all_goals
    first
      | exact ⟨[_, _], rfl, symbol_of_pair _ (by simp [Token.spellings])⟩
      | refine ⟨[_], rfl, symbol_of_single (by simp [Token.spellings]) fun c tail htail => ?_⟩
  all_goals
    subst htail
    simp_all

theorem symbol?_of_mem_spellings {token : Token} {word rest : List Char}
    (hword : word ∈ token.spellings)
    (hend : ∀ c ∈ rest.head?, ∀ other : Token, word ++ [c] ∉ other.spellings) :
    symbol? (word ++ rest) = some (token, rest) := by
  have hequals : ∀ tail, rest = '=' :: tail →
      word ≠ ['='] ∧ word ≠ ['!'] ∧ word ≠ ['<'] ∧ word ≠ ['>'] := by
    rintro tail rfl
    refine ⟨?_, ?_, ?_, ?_⟩ <;> rintro rfl
    · exact hend _ rfl .equals (by simp [Token.spellings])
    · exact hend _ rfl .notEquals (by simp [Token.spellings])
    · exact hend _ rfl .lessEquals (by simp [Token.spellings])
    · exact hend _ rfl .greaterEquals (by simp [Token.spellings])
  have hgreater : ∀ tail, rest = '>' :: tail → word ≠ ['<'] := by
    rintro tail rfl rfl
    exact hend _ rfl .notEquals (by simp [Token.spellings])
  clear hend
  cases token <;>
    simp only [Token.spellings, List.mem_cons, List.not_mem_nil, or_false] at hword
  case equals | notEquals =>
    rcases hword with rfl | rfl <;> simp_all [symbol?]
  all_goals
    subst hword
    simp_all [symbol?]

/-! ## Text and fields -/

theorem quoted_of_textBody? {quote : Char} {text body rest : List Char}
    (h : textBody? quote text = some (body, rest)) :
    ∃ written, text = written ++ quote :: rest ∧ Quoted quote written body := by
  fun_induction textBody? quote text generalizing body with
  | case1 => cases h
  | case2 c tail ih =>
      obtain ⟨⟨inner, after⟩, htail, heq⟩ := Option.map_eq_some_iff.1 h
      cases heq
      obtain ⟨written, rfl, hwritten⟩ := ih htail
      exact ⟨'\\' :: c :: written, rfl, .escaped hwritten⟩
  | case3 =>
      cases h
      exact ⟨[], rfl, .nil⟩
  | case4 => cases h
  | case5 c tail hfirst hquote hescape ih =>
      obtain ⟨⟨inner, after⟩, htail, heq⟩ := Option.map_eq_some_iff.1 h
      cases heq
      obtain ⟨written, rfl, hwritten⟩ := ih htail
      exact ⟨c :: written, rfl, .plain hquote hescape hwritten⟩

theorem textBody?_of_quoted {quote : Char} {written body : List Char} (rest : List Char)
    (hquote : quote ≠ '\\') (h : Quoted quote written body) :
    textBody? quote (written ++ quote :: rest) = some (body, rest) := by
  induction h with
  | nil => simp [textBody?, hquote]
  | plain hc hescape _ ih => simp [textBody?, hc, hescape, ih]
  | escaped _ ih => simp [textBody?, ih]

theorem eq_append_of_fieldBody {text body rest : List Char}
    (h : fieldBody text = .ok (body, rest)) :
    text = body ++ '\x7d' :: rest ∧ ∀ c ∈ body, c ≠ '\x7b' ∧ c ≠ '\x7d' := by
  induction text generalizing body with
  | nil => cases h
  | cons c tail ih =>
      rw [fieldBody] at h
      split at h
      · rename_i hc
        cases h
        simp [hc]
      · split at h
        · cases h
        · rename_i hclose hopen
          cases htail : fieldBody tail with
          | error fault => simp [htail, Except.map] at h
          | ok found =>
              obtain ⟨inner, after⟩ := found
              simp only [htail, Except.map, Except.ok.injEq, Prod.mk.injEq] at h
              obtain ⟨rfl, rfl⟩ := h
              obtain ⟨rfl, hinner⟩ := ih htail
              exact ⟨rfl, List.forall_mem_cons.2 ⟨⟨hopen, hclose⟩, hinner⟩⟩

theorem fieldBody_append {body : List Char} (rest : List Char)
    (h : ∀ c ∈ body, c ≠ '\x7b' ∧ c ≠ '\x7d') :
    fieldBody (body ++ '\x7d' :: rest) = .ok (body, rest) := by
  induction body with
  | nil => simp [fieldBody]
  | cons c tail ih =>
      obtain ⟨⟨hopen, hclose⟩, htail⟩ := List.forall_mem_cons.1 h
      simp [fieldBody, hopen, hclose, ih htail, Except.map]

/-! ## Numbers -/

theorem takeWhile_append_of_head {p : Char → Bool} {word rest : List Char}
    (hword : ∀ c ∈ word, p c) (hrest : ∀ c ∈ rest.head?, p c = false) :
    (word ++ rest).takeWhile p = word ∧ (word ++ rest).dropWhile p = rest := by
  have hstop : rest.takeWhile p = [] ∧ rest.dropWhile p = rest := by
    cases rest with
    | nil => simp
    | cons c tail => simp [hrest c rfl]
  rw [List.takeWhile_append_of_pos hword, List.dropWhile_append_of_pos hword, hstop.1, hstop.2,
    List.append_nil]
  exact ⟨rfl, rfl⟩

theorem isNumberPart_eq_false_of_mark {c : Char} (h : isExponentMark c) :
    isNumberPart c = false := by
  have hc : c = 'e' ∨ c = 'E' := by simpa [isExponentMark] using h
  rcases hc with rfl | rfl <;> decide

theorem exponentSign_append {sign digits : List Char} (rest : List Char)
    (hsign : sign = [] ∨ sign = ['+'] ∨ sign = ['-']) (hdigits : digits ≠ [])
    (hall : ∀ c ∈ digits, c.isDigit) :
    exponentSign (sign ++ digits ++ rest) = (sign, digits ++ rest) := by
  rcases hsign with rfl | rfl | rfl
  · cases digits with
    | nil => cases hdigits rfl
    | cons c tail =>
        have hc : c.isDigit := hall c List.mem_cons_self
        unfold exponentSign
        split
        · rename_i heq
          cases heq
          cases hc
        · rename_i heq
          cases heq
          cases hc
        · rfl
  · rfl
  · rfl

theorem fraction_append (text : List Char) : ∃ point, text = point ++ (Numeral.fraction text).2 ∧
    (∀ c ∈ point, isNumberPart c) ∧ ((Numeral.fraction text).1 ≠ [] → point ≠ []) := by
  unfold Numeral.fraction
  split
  · rename_i rest
    refine ⟨'.' :: rest.takeWhile Char.isDigit, by simp, fun c hc => ?_, by simp⟩
    rcases List.mem_cons.1 hc with rfl | hc
    · decide
    · simp [isNumberPart, List.mem_takeWhile_imp hc]
  · exact ⟨[], rfl, by simp, by simp⟩

structure IsExponent (mark : Char) (sign digits : List Char) : Prop where
  mark : isExponentMark mark
  sign : sign = [] ∨ sign = ['+'] ∨ sign = ['-']
  nonempty : digits ≠ []
  digits : ∀ c ∈ digits, c.isDigit

theorem eq_append_of_sign (text : List Char) : ∃ sign, text = sign ++ (Numeral.sign text).2 ∧
    (sign = [] ∨ sign = ['+'] ∨ sign = ['-']) := by
  unfold Numeral.sign
  split
  · exact ⟨['-'], rfl, by simp⟩
  · exact ⟨['+'], rfl, by simp⟩
  · exact ⟨[], rfl, by simp⟩

theorem isExponent_of_exponent? {text : List Char} {exponent : Int}
    (h : Numeral.exponent? text = some exponent) :
    text = [] ∨
      ∃ mark sign digits, text = mark :: sign ++ digits ∧ IsExponent mark sign digits := by
  cases text with
  | nil => exact .inl rfl
  | cons mark rest =>
      obtain ⟨sign, hrest, hsign⟩ := eq_append_of_sign rest
      simp only [Numeral.exponent?, Option.ite_none_right_eq_some, Bool.and_eq_true] at h
      obtain ⟨⟨⟨hmark, hnonempty⟩, hdigits⟩, -⟩ := h
      refine .inr ⟨mark, sign, (Numeral.sign rest).2, by rw [List.cons_append, ← hrest], ?_⟩
      exact ⟨hmark, hsign, by simpa using hnonempty, List.all_eq_true.1 hdigits⟩

theorem mantissa_of_unsigned? {word : List Char} {d : Decimal}
    (h : Numeral.unsigned? word = some d) :
    ∃ mantissa, (∀ c ∈ mantissa, isNumberPart c) ∧ mantissa ≠ [] ∧ (word = mantissa ∨
      ∃ mark sign digits, word = mantissa ++ mark :: sign ++ digits ∧
        IsExponent mark sign digits) := by
  obtain ⟨point, hpoint, hpointParts, hpointNil⟩ := fraction_append (word.dropWhile Char.isDigit)
  simp only [Numeral.unsigned?, Option.ite_none_left_eq_some, Option.map_eq_some_iff] at h
  obtain ⟨hdigits, exponent, hexponent, -⟩ := h
  have hword : word = word.takeWhile Char.isDigit ++ point ++
      (Numeral.fraction (word.dropWhile Char.isDigit)).2 := by
    rw [List.append_assoc, ← hpoint, List.takeWhile_append_dropWhile]
  refine ⟨word.takeWhile Char.isDigit ++ point, fun c hc => ?_, fun hnil => ?_, ?_⟩
  · rcases List.mem_append.1 hc with hc | hc
    · simp [isNumberPart, List.mem_takeWhile_imp hc]
    · exact hpointParts c hc
  · obtain ⟨hwhole, hpoint⟩ := List.append_eq_nil_iff.1 hnil
    have hfraction := not_imp_not.1 hpointNil hpoint
    rw [hwhole, hfraction] at hdigits
    exact hdigits rfl
  · rcases isExponent_of_exponent? hexponent with hnil | ⟨mark, sign, digits, heq, hexp⟩
    · left
      rwa [hnil, List.append_nil] at hword
    · right
      rw [heq] at hword
      exact ⟨mark, sign, digits, by simpa using hword, hexp⟩

theorem numberText_append {word rest : List Char} {d : Decimal}
    (hword : Numeral.unsigned? word = some d)
    (hend : ∀ c ∈ rest.head?, numberGoesOn word c = false) :
    numberText (word ++ rest) = .ok (word, rest) := by
  obtain ⟨mantissa, hmantissa, -, hcases⟩ := mantissa_of_unsigned? hword
  rcases hcases with rfl | ⟨mark, sign, digits, rfl, hexp⟩
  · have hany : word.any isExponentMark = false := by
      rw [List.any_eq_false]
      intro c hc hmark
      simpa [isNumberPart_eq_false_of_mark hmark] using hmantissa c hc
    have hstop : ∀ c ∈ rest.head?, isNumberPart c = false ∧ isExponentMark c = false := by
      intro c hc
      have hgoes := hend c hc
      rw [numberGoesOn, hany] at hgoes
      simpa [isNumberPart, and_assoc] using hgoes
    obtain ⟨htake, hdrop⟩ := takeWhile_append_of_head hmantissa fun c hc => (hstop c hc).1
    rw [numberText, htake, hdrop]
    cases rest with
    | nil => rfl
    | cons c tail =>
        have hmark := (hstop c rfl).2
        simp_all [isExponentMark]
  · have hany : (mantissa ++ mark :: sign ++ digits).any isExponentMark = true := by
      simp [hexp.mark]
    have hstop : ∀ c ∈ rest.head?, c.isDigit = false := by
      intro c hc
      have hgoes := hend c hc
      rw [numberGoesOn, hany] at hgoes
      simpa using hgoes
    have hmark : mark = 'e' ∨ mark = 'E' := by simpa [isExponentMark] using hexp.mark
    have heq : mantissa ++ mark :: sign ++ digits ++ rest =
        mantissa ++ (mark :: (sign ++ digits ++ rest)) := by simp
    have hmarkStops : ∀ c ∈ (mark :: (sign ++ digits ++ rest)).head?, isNumberPart c = false := by
      intro c hc
      cases hc
      exact isNumberPart_eq_false_of_mark hexp.mark
    obtain ⟨htake, hdrop⟩ := takeWhile_append_of_head hmantissa hmarkStops
    obtain ⟨htakeDigits, hdropDigits⟩ := takeWhile_append_of_head hexp.digits hstop
    simp only [numberText, heq, htake, hdrop, hmark, if_true, htakeDigits, hdropDigits,
      exponentSign_append rest hexp.sign hexp.nonempty hexp.digits, hexp.nonempty, if_false]

theorem eq_append_of_exponentSign (text : List Char) :
    text = (exponentSign text).1 ++ (exponentSign text).2 := by
  unfold exponentSign
  split <;> rfl

theorem head?_dropWhile_eq_false (p : Char → Bool) (text : List Char) :
    ∀ c ∈ (text.dropWhile p).head?, p c = false := by
  intro c hc
  have h := List.head?_dropWhile_not p text
  rw [hc] at h
  exact h

theorem eq_append_of_numberText {text word rest : List Char}
    (h : numberText text = .ok (word, rest)) :
    text = word ++ rest ∧ ∀ c ∈ rest.head?, numberGoesOn word c = false := by
  have happend := List.takeWhile_append_dropWhile (p := isNumberPart) (l := text)
  have hhead := head?_dropWhile_eq_false isNumberPart text
  simp only [numberText] at h
  split at h
  · rename_i hnil
    cases h
    rw [hnil] at happend
    exact ⟨happend.symm, by simp⟩
  · rename_i mark tail hmark
    rw [hmark] at happend hhead
    split at h
    · rename_i hexponent
      split at h
      · cases h
      · cases h
        have hsign := eq_append_of_exponentSign tail
        have hpower := List.takeWhile_append_dropWhile (p := Char.isDigit)
          (l := (exponentSign tail).2)
        refine ⟨?_, fun c hc => ?_⟩
        · calc text = text.takeWhile isNumberPart ++ mark :: tail := happend.symm
            _ = text.takeWhile isNumberPart ++ mark :: ((exponentSign tail).1 ++
                ((exponentSign tail).2.takeWhile Char.isDigit ++
                  (exponentSign tail).2.dropWhile Char.isDigit)) := by rw [hpower, ← hsign]
            _ = _ := by simp
        · have hdigit := head?_dropWhile_eq_false _ _ c hc
          rcases hexponent with rfl | rfl <;> simp [numberGoesOn, isExponentMark, hdigit]
    · rename_i hexponent
      cases h
      refine ⟨happend.symm, fun c hc => ?_⟩
      cases hc
      have hpart := hhead mark rfl
      simp_all [numberGoesOn, isExponentMark, isNumberPart]

/-! ## Tokens -/

def symbolStarts : List Char :=
  ['(', ')', ',', ';', '+', '-', '*', '/', '=', '!', '<', '>', '&', '|']

theorem symbol?_eq_none {c : Char} (rest : List Char) (hc : c ∉ symbolStarts) :
    symbol? (c :: rest) = none := by
  unfold symbol?
  split <;> simp_all [symbolStarts]

theorem exists_cons_of_mem_spellings {token : Token} {word : List Char}
    (h : word ∈ token.spellings) : ∃ c tail, word = c :: tail ∧ c ∈ symbolStarts := by
  cases token <;> simp only [Token.spellings, List.mem_cons, List.not_mem_nil, or_false] at h
  case equals | notEquals =>
    rcases h with rfl | rfl <;> simp [symbolStarts]
  all_goals
    subst h
    simp [symbolStarts]

theorem not_mem_of_all_not {p : Char → Bool} {chars : List Char} (hall : chars.all fun c => !p c)
    {c : Char} (h : p c) : c ∉ chars := by
  intro hc
  simpa [h] using List.all_eq_true.1 hall c hc

theorem not_mem_symbolStarts_of_isNumberPart {c : Char} (h : isNumberPart c) :
    c ∉ '"' :: '\'' :: '\x7b' :: symbolStarts :=
  not_mem_of_all_not (by decide) h

theorem not_mem_symbolStarts_of_isNameStart {c : Char} (h : isNameStart c) :
    c ∉ '"' :: '\'' :: '\x7b' :: symbolStarts :=
  not_mem_of_all_not (by decide) h

theorem isBlank_eq_false_of_mem_symbolStarts {c : Char} (h : c ∈ symbolStarts) :
    Text.isBlank c = false := by
  have hall : symbolStarts.all fun c => !Text.isBlank c := by decide
  simpa using List.all_eq_true.1 hall c h

theorem digit_or_point_of_isNumberPart {c : Char} (h : isNumberPart c) :
    48 ≤ c.toNat ∧ c.toNat ≤ 57 ∨ c = '.' := by
  simpa [isNumberPart, Char.isDigit, UInt32.le_iff_toNat_le] using h

theorem toNat_of_isAlpha {c : Char} (h : c.isAlpha) : 65 ≤ c.toNat := by
  have hletter : (decide (c.val ≥ 'A'.val ∧ c.val ≤ 'Z'.val) ||
      (decide (c.val ≥ 'a'.val) && decide (c.val ≤ 'z'.val))) = true := h
  simp [UInt32.le_iff_toNat_le] at hletter
  omega

theorem isNumberPart_eq_false_of_isNameStart {c : Char} (h : isNameStart c) :
    isNumberPart c = false := by
  by_contra hpart
  rcases digit_or_point_of_isNumberPart (by simpa using hpart) with hdigit | rfl
  · have hne : c ≠ '_' := by
      rintro rfl
      simp at hdigit
    have hascii : c.val < 0x80 := UInt32.lt_iff_toNat_lt.2 (by simp; omega)
    have halpha : c.isAlpha := by simpa [isNameStart, Text.isLetter, hascii, hne] using h
    have hletter := toNat_of_isAlpha halpha
    omega
  · revert h
    decide

theorem isBlank_eq_false_of_isNumberPart {c : Char} (h : isNumberPart c) :
    Text.isBlank c = false := by
  rcases digit_or_point_of_isNumberPart h with hdigit | rfl
  · simp [Text.isBlank]
    omega
  · decide

def blankCodes : List Nat :=
  List.range' 0x9 5 ++ [0x20, 0x85, 0xa0, 0x1680] ++ List.range' 0x2000 11 ++
    [0x2028, 0x2029, 0x202f, 0x205f, 0x3000]

theorem toNat_mem_blankCodes {c : Char} (h : Text.isBlank c) : c.toNat ∈ blankCodes := by
  simp only [Text.isBlank, Bool.or_eq_true, Bool.and_eq_true, decide_eq_true_eq, beq_iff_eq] at h
  simp only [blankCodes, List.mem_append, List.mem_range'_1, List.mem_cons, List.not_mem_nil,
    or_false]
  omega

theorem isBlank_eq_false_of_isNameStart {c : Char} (h : isNameStart c) :
    Text.isBlank c = false := by
  by_contra hblank
  -- the blanks are few, the letters a table: each blank is looked up
  have hcodes : ∀ code ∈ blankCodes, isNameStart (Char.ofNat code) = false := by
    decide +kernel
  have hc := hcodes c.toNat (toNat_mem_blankCodes (by simpa using hblank))
  rw [Char.ofNat_toNat, h] at hc
  cases hc

theorem lexeme_of_next {c : Char} {rest after : List Char} {token : Token}
    (h : next c rest = .ok (token, after)) :
    ∃ word, c :: rest = word ++ after ∧ Lexeme token word after := by
  unfold next at h
  split at h
  · rename_i found hfound
    cases h
    exact lexeme_of_symbol? hfound
  · split at h
    · rename_i hquote
      split at h
      · rename_i body tail hbody
        cases h
        obtain ⟨written, rfl, hwritten⟩ := quoted_of_textBody? hbody
        exact ⟨c :: written ++ [c], by simp, .text hquote hwritten⟩
      · cases h
    · split at h
      · rename_i hc
        cases hbody : fieldBody rest with
        | error fault => simp [hbody, bind, Except.bind] at h
        | ok found =>
            obtain ⟨body, tail⟩ := found
            obtain ⟨rfl, hbraces⟩ := eq_append_of_fieldBody hbody
            by_cases hname : Text.trim body = []
            · simp [hbody, fieldToken, hname, bind, Except.bind] at h
            · simp only [hbody, fieldToken, hname, bind, Except.bind, if_false, Except.ok.injEq,
                Prod.mk.injEq] at h
              obtain ⟨rfl, rfl⟩ := h
              exact ⟨'\x7b' :: body ++ ['\x7d'], by simp [hc], .field hbraces hname⟩
      · split at h
        · cases hbody : numberText (c :: rest) with
          | error fault => simp [hbody, bind, Except.bind] at h
          | ok found =>
              obtain ⟨body, tail⟩ := found
              obtain ⟨heq, hend⟩ := eq_append_of_numberText hbody
              cases hvalue : Numeral.unsigned? body with
              | none => simp [hbody, numberToken, hvalue, bind, Except.bind] at h
              | some d =>
                  simp only [hbody, numberToken, hvalue, bind, Except.bind, Except.ok.injEq,
                    Prod.mk.injEq] at h
                  obtain ⟨rfl, rfl⟩ := h
                  exact ⟨body, heq, .number hvalue hend⟩
        · split at h
          · rename_i hfirst
            cases h
            refine ⟨c :: rest.takeWhile isNamePart, by simp, .name hfirst ?_ ?_⟩
            · exact fun d hd => List.mem_takeWhile_imp hd
            · exact head?_dropWhile_eq_false isNamePart rest
          · cases h

theorem next_of_lexeme {token : Token} {word rest : List Char} (h : Lexeme token word rest) :
    ∃ c tail, word = c :: tail ∧ Text.isBlank c = false ∧
      next c (tail ++ rest) = .ok (token, rest) := by
  cases h with
  | symbol hword hend =>
      obtain ⟨c, tail, rfl, hc⟩ := exists_cons_of_mem_spellings hword
      refine ⟨c, tail, rfl, isBlank_eq_false_of_mem_symbolStarts hc, ?_⟩
      rw [next, ← List.cons_append, symbol?_of_mem_spellings hword hend]
  | @text quote written text _ hquote hwritten =>
      refine ⟨quote, written ++ [quote], rfl, ?_, ?_⟩
      · rcases hquote with rfl | rfl <;> decide
      · have hnot : quote ∉ symbolStarts ∧ quote ≠ '\\' := by
          rcases hquote with rfl | rfl <;> decide
        rw [next, symbol?_eq_none _ hnot.1]
        simp [hquote, textBody?_of_quoted rest hnot.2 hwritten]
  | @field written _ hwritten hname =>
      refine ⟨'\x7b', written ++ ['\x7d'], rfl, by decide, ?_⟩
      rw [next, symbol?_eq_none _ (by decide)]
      simp [fieldBody_append rest hwritten, fieldToken, hname, bind, Except.bind]
  | @number word _ d hword hend =>
      obtain ⟨mantissa, hmantissa, hnonempty, hcases⟩ := mantissa_of_unsigned? hword
      obtain ⟨c, front, rfl⟩ := List.exists_cons_of_ne_nil hnonempty
      have hc : isNumberPart c := hmantissa c List.mem_cons_self
      obtain ⟨tail, rfl⟩ : ∃ tail, word = c :: tail := by
        rcases hcases with rfl | ⟨mark, sign, digits, rfl, -⟩
        · exact ⟨front, rfl⟩
        · exact ⟨front ++ mark :: sign ++ digits, by simp⟩
      have hstarts := not_mem_symbolStarts_of_isNumberPart hc
      simp only [List.mem_cons, not_or] at hstarts
      obtain ⟨hdouble, hsingle, hbrace, hsymbol⟩ := hstarts
      have hnumber := numberText_append hword hend
      rw [List.cons_append] at hnumber
      refine ⟨c, tail, rfl, isBlank_eq_false_of_isNumberPart hc, ?_⟩
      rw [next, symbol?_eq_none _ hsymbol]
      simp [hdouble, hsingle, hbrace, hc, hnumber, numberToken, hword, bind, Except.bind]
  | @name first parts _ hfirst hparts hend =>
      have hstarts := not_mem_symbolStarts_of_isNameStart hfirst
      simp only [List.mem_cons, not_or] at hstarts
      obtain ⟨hdouble, hsingle, hbrace, hsymbol⟩ := hstarts
      obtain ⟨htake, hdrop⟩ := takeWhile_append_of_head hparts hend
      refine ⟨first, parts, rfl, isBlank_eq_false_of_isNameStart hfirst, ?_⟩
      rw [next, symbol?_eq_none _ hsymbol]
      simp [hdouble, hsingle, hbrace, hfirst, isNumberPart_eq_false_of_isNameStart hfirst, htake,
        hdrop]

/-! ## Texts -/

theorem scan_blank {c : Char} (rest : List Char) (hc : Text.isBlank c) :
    scan (c :: rest) = scan rest := by
  rw [scan, if_pos hc]

theorem scan_of_blanks {text : List Char} (h : ∀ c ∈ text, Text.isBlank c) :
    scan text = ⟨[], none⟩ := by
  induction text with
  | nil => rw [scan]
  | cons c rest ih =>
      obtain ⟨hc, hrest⟩ := List.forall_mem_cons.1 h
      rw [scan_blank rest hc, ih hrest]

theorem scan_cons {c : Char} {rest after : List Char} {token : Token}
    (hc : Text.isBlank c = false) (h : next c rest = .ok (token, after)) :
    scan (c :: rest) = (scan after).cons token := by
  rw [scan, if_neg (by simp [hc])]
  split <;> simp_all

theorem scan_of_split {text : List Char} {tokens : List Token} (h : Split text tokens) :
    scan text = ⟨tokens, none⟩ := by
  induction h with
  | nil => rw [scan]
  | blank hc _ ih => rw [scan_blank _ hc, ih]
  | @lexeme token word rest tokens hword _ ih =>
      obtain ⟨c, tail, rfl, hc, hnext⟩ := next_of_lexeme hword
      rw [List.cons_append, scan_cons hc hnext, ih]
      rfl

theorem split_of_scan {text : List Char} {tokens : List Token}
    (h : scan text = ⟨tokens, none⟩) : Split text tokens := by
  fun_induction scan text generalizing tokens with
  | case1 =>
      cases h
      exact .nil
  | case2 c rest hc ih => exact .blank hc (ih h)
  | case3 c rest hc fault hnext => cases h
  | case4 c rest hc token after hnext hlength ih =>
      cases hscan : scan after with
      | mk found fault =>
          rw [hscan] at h
          cases h
          obtain ⟨word, heq, hword⟩ := lexeme_of_next hnext
          rw [heq]
          exact .lexeme hword (ih hscan)

theorem scan_eq_iff_split {text : List Char} {tokens : List Token} :
    scan text = ⟨tokens, none⟩ ↔ Split text tokens :=
  ⟨split_of_scan, scan_of_split⟩

end Drapery.Formula
