import Drapery.Json.Basic
import Drapery.Decimal.Numeral

/-!
JSON tokens.

`Json.scan` splits a text into brackets, separators and scalars.  A scalar token carries its value,
which is `broken` when the spelling denotes nothing.  Which double a number is read as is up to a
`NumberReader`.
-/

namespace Drapery.Json

inductive Token where
  | openArray
  | closeArray
  | openObject
  | closeObject
  | comma
  | colon
  | scalar (value : Json)
  /-- A string that no text is written by. -/
  | brokenText
  deriving Inhabited

/-! ## Strings -/

inductive Piece where
  | char (c : Char)
  | unit (code : Nat)
  deriving DecidableEq, Repr

def hexDigit? (c : Char) : Option Nat :=
  if c.isDigit then some (c.toNat - '0'.toNat)
  else if 'a' ≤ c ∧ c ≤ 'f' then some (c.toNat - 'a'.toNat + 10)
  else if 'A' ≤ c ∧ c ≤ 'F' then some (c.toNat - 'A'.toNat + 10)
  else none

def codeUnit? (a b c d : Char) : Option Nat := do
  let a ← hexDigit? a
  let b ← hexDigit? b
  let c ← hexDigit? c
  let d ← hexDigit? d
  some (4096 * a + 256 * b + 16 * c + d)

def escaped? (c : Char) : Option Char :=
  match c with
  | '"' => some '"'
  | '\\' => some '\\'
  | '/' => some '/'
  | 'b' => some '\x08'
  | 'f' => some '\x0c'
  | 'n' => some '\n'
  | 'r' => some '\r'
  | 't' => some '\t'
  | _ => none

def pieces? : List Char → Option (List Piece × List Char)
  | [] => none
  | '"' :: rest => some ([], rest)
  | '\\' :: 'u' :: a :: b :: c :: d :: rest => do
    let code ← codeUnit? a b c d
    let (pieces, rest) ← pieces? rest
    some (.unit code :: pieces, rest)
  | '\\' :: c :: rest => do
    let c ← escaped? c
    let (pieces, rest) ← pieces? rest
    some (.char c :: pieces, rest)
  | c :: rest =>
    if c.val < 0x20 ∨ c = '\\' then none
    else do
      let (pieces, rest) ← pieces? rest
      some (.char c :: pieces, rest)

def isHighSurrogate (code : Nat) : Bool := 0xd800 ≤ code && code < 0xdc00

def isLowSurrogate (code : Nat) : Bool := 0xdc00 ≤ code && code < 0xe000

/-- The text that the pieces write.  Two surrogates make one character; alone one makes none. -/
def join? : List Piece → Option (List Char)
  | [] => some []
  | .char c :: rest => (join? rest).map (c :: ·)
  | .unit high :: .unit low :: rest =>
    if isHighSurrogate high then
      if isLowSurrogate low then
        (join? rest).map (Char.ofNat (0x10000 + (high - 0xd800) * 0x400 + (low - 0xdc00)) :: ·)
      else none
    else if isLowSurrogate high then none
    else (join? (.unit low :: rest)).map (Char.ofNat high :: ·)
  | .unit code :: rest =>
    if isHighSurrogate code || isLowSurrogate code then none
    else (join? rest).map (Char.ofNat code :: ·)

/-! ## Numbers -/

/-- Which double a number with a sign is read as.  A number that none stands for is refused. -/
structure NumberReader where
  double? : Bool → Spelling → Option Float
  isFinite_of_double? : ∀ {negative spelling x},
    double? negative spelling = some x → x.isFinite = true

def NumberReader.nearest : NumberReader where
  double? negative spelling := Option.guard Float.isFinite (spelling.decimal.toFloat negative)
  isFinite_of_double? h := by
    obtain ⟨rfl, hfinite⟩ := Option.guard_eq_some_iff.1 h
    exact hfinite

def ofSpelling (numbers : NumberReader) (negative : Bool) (spelling : Spelling) : Json :=
  (numbers.double? negative spelling).elim broken float

/-- Whole numbers keep their exact value within the range of 64-bit integers, signed or not. -/
def ofWhole (numbers : NumberReader) (negative : Bool) (digits : List Char) : Json :=
  let n := Numeral.natOfDigits digits
  if negative then
    if n = 0 ∨ Nat.pow 2 63 < n then ofSpelling numbers true ⟨digits, [], none⟩ else int (-n)
  else if n < Nat.pow 2 64 then int n
  else ofSpelling numbers false ⟨digits, [], none⟩

def digits? (text : List Char) : Option (List Char × List Char) :=
  let digits := text.takeWhile Char.isDigit
  if digits = [] then none else some (digits, text.dropWhile Char.isDigit)

def wholeDigits? (text : List Char) : Option (List Char × List Char) := do
  let (digits, rest) ← digits? text
  if digits.head? = some '0' ∧ digits ≠ ['0'] then none else some (digits, rest)

def fractionDigits? : List Char → Option (List Char × List Char)
  | '.' :: rest => digits? rest
  | text => some ([], text)

def exponentPart? : List Char → Option (Option Int × List Char)
  | [] => some (none, [])
  | c :: rest =>
    if c = 'e' ∨ c = 'E' then do
      let (negative, rest) := Numeral.sign rest
      let (digits, rest) ← digits? rest
      let power : Int := Numeral.natOfDigits digits
      some (some (if negative then -power else power), rest)
    else some (none, c :: rest)

def number? (numbers : NumberReader) (text : List Char) : Option (Json × List Char) := do
  let (negative, text) := match text with
    | '-' :: rest => (true, rest)
    | text => (false, text)
  let (whole, text) ← wholeDigits? text
  let (fraction, text) ← fractionDigits? text
  let (exponent, text) ← exponentPart? text
  if fraction.isEmpty && exponent.isNone then some (ofWhole numbers negative whole, text)
  else some (ofSpelling numbers negative ⟨whole, fraction, exponent⟩, text)

/-! ## Tokens -/

def isSpace (c : Char) : Bool := c = ' ' || c = '\t' || c = '\n' || c = '\r'

def token? (numbers : NumberReader) : List Char → Option (Token × List Char)
  | '[' :: rest => some (.openArray, rest)
  | ']' :: rest => some (.closeArray, rest)
  | '\x7b' :: rest => some (.openObject, rest)
  | '\x7d' :: rest => some (.closeObject, rest)
  | ',' :: rest => some (.comma, rest)
  | ':' :: rest => some (.colon, rest)
  | 't' :: 'r' :: 'u' :: 'e' :: rest => some (.scalar (bool true), rest)
  | 'f' :: 'a' :: 'l' :: 's' :: 'e' :: rest => some (.scalar (bool false), rest)
  | 'n' :: 'u' :: 'l' :: 'l' :: rest => some (.scalar null, rest)
  | '"' :: rest => do
    let (pieces, rest) ← pieces? rest
    match join? pieces with
    | some text => some (.scalar (string (String.ofList text)), rest)
    | none => some (.brokenText, rest)
  | text => do
    let (value, rest) ← number? numbers text
    some (.scalar value, rest)

/-! ## Every token takes a character -/

theorem length_lt_of_pieces? {text rest : List Char} {pieces : List Piece}
    (h : pieces? text = some (pieces, rest)) : rest.length < text.length := by
  fun_induction pieces? text generalizing pieces rest with
  | case1 => simp at h
  | case2 => simp_all
  | case3 a b c d tail ih =>
    simp only [Option.bind_eq_bind, Option.bind_eq_some_iff, Prod.exists] at h
    obtain ⟨code, -, inner, after, htail, h⟩ := h
    have := ih htail
    simp only [Option.some.injEq, Prod.mk.injEq] at h
    obtain ⟨-, rfl⟩ := h
    simp only [List.length_cons]
    omega
  | case4 c tail _ ih =>
    simp only [Option.bind_eq_bind, Option.bind_eq_some_iff, Prod.exists] at h
    obtain ⟨code, -, inner, after, htail, h⟩ := h
    have := ih htail
    simp only [Option.some.injEq, Prod.mk.injEq] at h
    obtain ⟨-, rfl⟩ := h
    simp only [List.length_cons]
    omega
  | case5 => simp at h
  | case6 c tail _ _ _ _ ih =>
    simp only [Option.bind_eq_bind, Option.bind_eq_some_iff, Prod.exists] at h
    obtain ⟨inner, after, htail, h⟩ := h
    have := ih htail
    simp only [Option.some.injEq, Prod.mk.injEq] at h
    obtain ⟨-, rfl⟩ := h
    simp only [List.length_cons]
    omega

theorem length_lt_of_digits? {text digits rest : List Char}
    (h : digits? text = some (digits, rest)) : rest.length < text.length := by
  have hlength := Numeral.length_takeWhile_add_dropWhile Char.isDigit text
  simp only [digits?] at h
  split at h
  · simp at h
  · rename_i hne
    have hpos := List.length_pos_iff.2 hne
    simp only [Option.some.injEq, Prod.mk.injEq] at h
    obtain ⟨-, rfl⟩ := h
    omega

theorem length_lt_of_wholeDigits? {text digits rest : List Char}
    (h : wholeDigits? text = some (digits, rest)) : rest.length < text.length := by
  simp only [wholeDigits?, Option.bind_eq_bind, Option.bind_eq_some_iff, Prod.exists] at h
  obtain ⟨digits, after, hdigits, h⟩ := h
  have := length_lt_of_digits? hdigits
  split at h
  · simp at h
  · simp_all

theorem length_le_of_fractionDigits? {text digits rest : List Char}
    (h : fractionDigits? text = some (digits, rest)) : rest.length ≤ text.length := by
  unfold fractionDigits? at h
  split at h
  · have := length_lt_of_digits? h
    simp only [List.length_cons]
    omega
  · simp_all

theorem length_sign_le (text : List Char) : (Numeral.sign text).2.length ≤ text.length := by
  unfold Numeral.sign
  split <;> simp

theorem length_le_of_exponentPart? {text rest : List Char} {exponent : Option Int}
    (h : exponentPart? text = some (exponent, rest)) : rest.length ≤ text.length := by
  unfold exponentPart? at h
  split at h
  · simp_all
  · rename_i c tail
    split at h
    · simp only [Option.bind_eq_bind, Option.bind_eq_some_iff, Prod.exists] at h
      obtain ⟨digits, after, hdigits, h⟩ := h
      have := length_lt_of_digits? hdigits
      have := length_sign_le tail
      simp only [Option.some.injEq, Prod.mk.injEq] at h
      obtain ⟨-, rfl⟩ := h
      simp only [List.length_cons]
      omega
    · simp_all

theorem length_lt_of_number? {numbers : NumberReader} {text rest : List Char} {value : Json}
    (h : number? numbers text = some (value, rest)) : rest.length < text.length := by
  unfold number? at h
  simp only [Option.bind_eq_bind, Option.bind_eq_some_iff, Prod.exists] at h
  obtain ⟨whole, afterWhole, hwhole, fraction, afterFraction, hfraction, exponent, afterExponent,
    hexponent, h⟩ := h
  have h₁ := length_lt_of_wholeDigits? hwhole
  have h₂ := length_le_of_fractionDigits? hfraction
  have h₃ := length_le_of_exponentPart? hexponent
  have h₄ : afterExponent = rest := by split at h <;> simp_all
  subst h₄
  split at h₁ <;> simp_all <;> omega

theorem length_lt_of_token? {numbers : NumberReader} {text rest : List Char} {token : Token}
    (h : token? numbers text = some (token, rest)) : rest.length < text.length := by
  unfold token? at h
  split at h
  case h_10 tail =>
    simp only [Option.bind_eq_bind, Option.bind_eq_some_iff, Prod.exists] at h
    obtain ⟨pieces, after, hpieces, h⟩ := h
    have := length_lt_of_pieces? hpieces
    simp only [List.length_cons]
    split at h <;> simp only [Option.some.injEq, Prod.mk.injEq] at h <;> obtain ⟨-, rfl⟩ := h <;>
      omega
  case h_11 =>
    simp only [Option.bind_eq_bind, Option.bind_eq_some_iff, Prod.exists] at h
    obtain ⟨value, after, hvalue, h⟩ := h
    have := length_lt_of_number? hvalue
    simp only [Option.some.injEq, Prod.mk.injEq] at h
    obtain ⟨-, rfl⟩ := h
    omega
  all_goals
    simp only [Option.some.injEq, Prod.mk.injEq] at h
    obtain ⟨-, rfl⟩ := h
    simp only [List.length_cons]
    omega

def scan (numbers : NumberReader) (text : List Char) : Option (List Token) :=
  match text with
  | [] => some []
  | c :: rest =>
    if isSpace c then scan numbers rest
    else
      match h : token? numbers (c :: rest) with
      | none => none
      | some (token, after) =>
        have : after.length < rest.length + 1 := length_lt_of_token? h
        (scan numbers after).map (token :: ·)
termination_by text.length

end Drapery.Json
