import Drapery.Decimal.Numeral
import Drapery.Formula.Error
import Drapery.Text.Blank

/-!
Splitting formulas into tokens.

`Lexemes.scan` reads tokens until the text ends or has a fault; the tokens before a fault are kept,
because what is wrong with them is reported first.
-/

namespace Drapery.Formula

structure Lexemes where
  tokens : List Token
  fault : Option Fault
  deriving DecidableEq

namespace Lexemes

def symbol? : List Char → Option (Token × List Char)
  | '(' :: rest => some (.openParen, rest)
  | ')' :: rest => some (.closeParen, rest)
  | ',' :: rest => some (.comma, rest)
  | ';' :: rest => some (.semicolon, rest)
  | '+' :: rest => some (.plus, rest)
  | '-' :: rest => some (.minus, rest)
  | '*' :: rest => some (.star, rest)
  | '/' :: rest => some (.slash, rest)
  | '=' :: '=' :: rest => some (.equals, rest)
  | '=' :: rest => some (.equals, rest)
  | '!' :: '=' :: rest => some (.notEquals, rest)
  | '!' :: rest => some (.bang, rest)
  | '<' :: '=' :: rest => some (.lessEquals, rest)
  | '<' :: '>' :: rest => some (.notEquals, rest)
  | '<' :: rest => some (.less, rest)
  | '>' :: '=' :: rest => some (.greaterEquals, rest)
  | '>' :: rest => some (.greater, rest)
  | '&' :: '&' :: rest => some (.and, rest)
  | '|' :: '|' :: rest => some (.or, rest)
  | _ => none

def unescape (c : Char) : Char :=
  match c with
  | 'n' => '\n'
  | 't' => '\t'
  | c => c

def textBody? (quote : Char) : List Char → Option (List Char × List Char)
  | [] => none
  | '\\' :: c :: rest => (textBody? quote rest).map fun (text, rest) => (unescape c :: text, rest)
  | c :: rest =>
    if c = quote then some ([], rest)
    else if c = '\\' then none
    else (textBody? quote rest).map fun (text, rest) => (c :: text, rest)

def fieldBody : List Char → Except Fault (List Char × List Char)
  | [] => .error .unclosedField
  | c :: rest =>
    if c = '\x7d' then .ok ([], rest)
    else if c = '\x7b' then .error .nestedBrace
    else (fieldBody rest).map fun (name, rest) => (c :: name, rest)

def isNameStart (c : Char) : Bool := Text.isLetter c || c = '_'

def isNamePart (c : Char) : Bool := Text.isLetter c || Text.isNumeral c || c = '_' || c = '.'

def isNumberPart (c : Char) : Bool := c.isDigit || c = '.'

def exponentSign : List Char → List Char × List Char
  | '+' :: rest => (['+'], rest)
  | '-' :: rest => (['-'], rest)
  | text => ([], text)

def numberText (text : List Char) : Except Fault (List Char × List Char) :=
  let digits := text.takeWhile isNumberPart
  match text.dropWhile isNumberPart with
  | [] => .ok (digits, [])
  | mark :: rest =>
    if mark = 'e' ∨ mark = 'E' then
      let (sign, rest) := exponentSign rest
      let power := rest.takeWhile Char.isDigit
      if power = [] then .error (.noExponentDigits (String.ofList (digits ++ mark :: sign)))
      else .ok (digits ++ mark :: sign ++ power, rest.dropWhile Char.isDigit)
    else .ok (digits, mark :: rest)

def numberToken (text : List Char) : Except Fault Token :=
  match Numeral.unsigned? text with
  | some d => .ok (.number (d.toFloat false))
  | none => .error (.badNumber (String.ofList text))

def fieldToken (name : List Char) : Except Fault Token :=
  let name := Text.trim name
  if name = [] then .error .emptyField else .ok (.field (String.ofList name))

def next (c : Char) (rest : List Char) : Except Fault (Token × List Char) :=
  match symbol? (c :: rest) with
  | some found => .ok found
  | none =>
    if c = '"' ∨ c = '\'' then
      match textBody? c rest with
      | some (body, rest) => .ok (.text (String.ofList body), rest)
      | none => .error .unclosedText
    else if c = '\x7b' then do
      let (body, rest) ← fieldBody rest
      let token ← fieldToken body
      .ok (token, rest)
    else if isNumberPart c then do
      let (body, rest) ← numberText (c :: rest)
      let token ← numberToken body
      .ok (token, rest)
    else if isNameStart c then
      .ok (.name (String.ofList (c :: rest.takeWhile isNamePart)), rest.dropWhile isNamePart)
    else .error (.strayCharacter c)

/-! ## Every token takes a character -/

theorem length_lt_of_symbol? {text rest : List Char} {token : Token}
    (h : symbol? text = some (token, rest)) : rest.length < text.length := by
  unfold symbol? at h
  split at h <;> simp only [Option.some.injEq, Prod.mk.injEq, reduceCtorEq] at h <;>
    obtain ⟨-, rfl⟩ := h <;> simp only [List.length_cons] <;> omega

theorem length_lt_of_textBody? {quote : Char} {text body rest : List Char}
    (h : textBody? quote text = some (body, rest)) : rest.length < text.length := by
  fun_induction textBody? quote text generalizing body rest with
  | case1 => simp at h
  | case2 c tail ih =>
    simp only [Option.map_eq_some_iff, Prod.mk.injEq, Prod.exists] at h
    obtain ⟨inner, after, htail, -, rfl⟩ := h
    have := ih htail
    simp only [List.length_cons]
    omega
  | case3 => simp_all
  | case4 => simp at h
  | case5 c tail _ _ _ ih =>
    simp only [Option.map_eq_some_iff, Prod.mk.injEq, Prod.exists] at h
    obtain ⟨inner, after, htail, -, rfl⟩ := h
    have := ih htail
    simp only [List.length_cons]
    omega

theorem length_lt_of_fieldBody {text body rest : List Char}
    (h : fieldBody text = .ok (body, rest)) : rest.length < text.length := by
  induction text generalizing body rest with
  | nil => simp [fieldBody] at h
  | cons c tail ih =>
    rw [fieldBody] at h
    split at h
    · simp_all
    · split at h
      · simp at h
      · match htail : fieldBody tail with
        | .error fault => simp [htail, Except.map] at h
        | .ok (inner, after) =>
          simp only [htail, Except.map, Except.ok.injEq, Prod.mk.injEq] at h
          obtain ⟨-, rfl⟩ := h
          have := ih htail
          simp only [List.length_cons]
          omega

theorem length_exponentSign_le (text : List Char) :
    (exponentSign text).2.length ≤ text.length := by
  unfold exponentSign
  split <;> simp

theorem length_lt_of_numberText {c : Char} {text body rest : List Char} (hc : isNumberPart c)
    (h : numberText (c :: text) = .ok (body, rest)) : rest.length < (c :: text).length := by
  have hlength := Numeral.length_takeWhile_add_dropWhile isNumberPart text
  simp only [numberText, List.dropWhile_cons_of_pos hc] at h
  split at h
  · simp only [Except.ok.injEq, Prod.mk.injEq] at h
    obtain ⟨-, rfl⟩ := h
    simp
  · rename_i mark tail htail
    rw [htail, List.length_cons] at hlength
    split at h
    · have hsign := length_exponentSign_le tail
      have := Numeral.length_takeWhile_add_dropWhile Char.isDigit (exponentSign tail).2
      split at h
      · simp at h
      · simp only [Except.ok.injEq, Prod.mk.injEq] at h
        obtain ⟨-, rfl⟩ := h
        simp only [List.length_cons]
        omega
    · simp only [Except.ok.injEq, Prod.mk.injEq] at h
      obtain ⟨-, rfl⟩ := h
      simp only [List.length_cons]
      omega

theorem length_le_of_next {c : Char} {text rest : List Char} {token : Token}
    (h : next c text = .ok (token, rest)) : rest.length ≤ text.length := by
  unfold next at h
  split at h
  · rename_i found hfound
    simp only [Except.ok.injEq] at h
    subst h
    have := length_lt_of_symbol? hfound
    simp only [List.length_cons] at this
    omega
  · split at h
    · split at h
      · rename_i body after hbody
        simp only [Except.ok.injEq, Prod.mk.injEq] at h
        obtain ⟨-, rfl⟩ := h
        exact Nat.le_of_lt (length_lt_of_textBody? hbody)
      · simp at h
    · split at h
      · match hbody : fieldBody text with
        | .error fault => simp [hbody, bind, Except.bind] at h
        | .ok (body, after) =>
          have hlt := length_lt_of_fieldBody hbody
          match htoken : fieldToken body with
          | .error fault => simp [hbody, htoken, bind, Except.bind] at h
          | .ok found =>
            simp only [hbody, htoken, bind, Except.bind, Except.ok.injEq, Prod.mk.injEq] at h
            obtain ⟨-, rfl⟩ := h
            omega
      · split at h
        · rename_i hc
          match hbody : numberText (c :: text) with
          | .error fault => simp [hbody, bind, Except.bind] at h
          | .ok (body, after) =>
            have hlt := length_lt_of_numberText hc hbody
            match htoken : numberToken body with
            | .error fault => simp [hbody, htoken, bind, Except.bind] at h
            | .ok found =>
              simp only [hbody, htoken, bind, Except.bind, Except.ok.injEq, Prod.mk.injEq] at h
              obtain ⟨-, rfl⟩ := h
              simp only [List.length_cons] at hlt
              omega
        · split at h
          · have := Numeral.length_takeWhile_add_dropWhile isNamePart text
            simp only [Except.ok.injEq, Prod.mk.injEq] at h
            obtain ⟨-, rfl⟩ := h
            omega
          · simp at h

def cons (token : Token) (lexemes : Lexemes) : Lexemes :=
  { lexemes with tokens := token :: lexemes.tokens }

def scan (text : List Char) : Lexemes :=
  match text with
  | [] => ⟨[], none⟩
  | c :: rest =>
    if Text.isBlank c then scan rest
    else
      match h : next c rest with
      | .error fault => ⟨[], some fault⟩
      | .ok (token, after) =>
        have : after.length ≤ rest.length := length_le_of_next h
        (scan after).cons token
termination_by text.length

end Lexemes

end Drapery.Formula
