import Mathlib.Data.List.Forall2
import Drapery.Proofs.Recognition

/-!
# Printing an expression and parsing it

`Expr.printed` is the row of tokens that writes an expression with as few
parentheses as precedence and grouping to the left allow, and `Token.Printed`
says which words a token may be printed as.  The words with a space between two
parse to the expression that was printed.
-/

namespace Drapery.Formula

/-! ## Tokens of an expression -/

namespace Expr

mutual

/-- The tokens of an expression where a phrase of the stratum is asked for. -/
def printed : Expr → (stratum : Nat) → List Token
  | number value, _ => [.number value]
  | text value, _ => [.text value]
  | boolean value, _ => [.name (if value then "true" else "false")]
  | field key, _ => [.field key]
  | name key, _ => [.name key]
  | param key, _ => [.name ("PARAM." ++ key)]
  | call function args, _ => .name function :: .openParen :: printedAll args ++ [.closeParen]
  | unary op operand, _ => op.token :: operand.printed operandStratum
  | binary op left right, stratum =>
    let tokens := left.printed op.stratum ++ op.token :: right.printed (op.stratum + 1)
    if op.stratum < stratum then .openParen :: tokens ++ [.closeParen] else tokens

def printedAll : List Expr → List Token
  | [] => []
  | [arg] => arg.printed 0
  | arg :: rest => arg.printed 0 ++ .comma :: printedAll rest

end

structure IsPlainName (word : String) : Prop where
  true : Text.sameIgnoringAsciiCase word "true" = false
  false : Text.sameIgnoringAsciiCase word "false" = false
  param : ¬ "param.".toList <+: word.toList.map Char.toLower

inductive Printable : Expr → Prop
  | number (value : Float) : Printable (.number value)
  | text (value : String) : Printable (.text value)
  | boolean (value : Bool) : Printable (.boolean value)
  | field (key : String) : Printable (.field key)
  | name {key : String} (h : IsPlainName key) : Printable (.name key)
  | param {key : String} (h : key ≠ "") : Printable (.param key)
  | call {function : String} {args : List Expr} (hargs : ∀ arg ∈ args, Printable arg) :
      Printable (.call function args)
  | unary {op : UnaryOp} {operand : Expr} (h : Printable operand) : Printable (.unary op operand)
  | binary {op : BinaryOp} {left right : Expr} (hleft : Printable left) (hright : Printable right) :
      Printable (.binary op left right)

theorem named_of_isPlainName {word : String} (h : IsPlainName word) : Named word (.name word) := by
  refine .cell h.true h.false fun marker param hword hmarker => h.param ?_
  rw [hword, List.map_append, hmarker]
  exact List.prefix_append _ _

theorem named_param {key : String} (h : key ≠ "") : Named ("PARAM." ++ key) (.param key) := by
  have hword : ("PARAM." ++ key).toList = "PARAM.".toList ++ key.toList := String.toList_append
  have hparam : Named ("PARAM." ++ key) (.param (String.ofList key.toList)) :=
    .param hword (by decide) (by simpa using h)
  simpa using hparam

theorem separated_printedAll (args : List Expr) :
    Separated (args.map (·.printed 0)) (printedAll args) := by
  induction args with
  | nil => exact .nil
  | cons arg rest ih =>
      cases rest with
      | nil => exact .single _
      | cons next others => exact .cons (.inl rfl) (by simp) ih

theorem Printable.phrase {expr : Expr} (h : expr.Printable) {stratum : Nat}
    (hle : stratum ≤ operandStratum) : Phrase stratum (expr.printed stratum) expr := by
  induction h generalizing stratum with
  | number value => exact .mono hle (.single (.number value))
  | text value => exact .mono hle (.single (.text value))
  | boolean value => exact .mono hle (.single (.name (.truth value (by cases value <;> decide))))
  | field key => exact .mono hle (.single (.field key))
  | name h => exact .mono hle (.single (.name (named_of_isPlainName h)))
  | param h => exact .mono hle (.single (.name (named_param h)))
  | @call function args hargs ih =>
      have hphrases : ∀ arg ∈ args.map fun arg => (arg.printed 0, arg), Phrase 0 arg.1 arg.2 := by
        rw [List.forall_mem_map]
        exact fun arg hmem => ih arg hmem (Nat.zero_le _)
      have hcall : Phrase operandStratum _ (.call function _) :=
        .call hphrases (by simpa [Function.comp_def] using separated_printedAll args)
      exact .mono hle (by simpa [printed, Function.comp_def] using hcall)
  | unary _ ih => exact .mono hle (.unary (ih le_rfl))
  | @binary op left right _ _ ihLeft ihRight =>
      have hlt := op.stratum_lt_operandStratum
      have hbinary : Phrase op.stratum _ (.binary op left right) :=
        .binary (ihLeft (Nat.le_of_lt hlt)) (ihRight hlt)
      rw [printed]
      split
      · exact .mono hle (.parens (hbinary.mono (Nat.zero_le _)))
      · exact hbinary.mono (by omega)

end Expr

/-! ## Words of a token -/

def escaped (text : List Char) : List Char :=
  text.flatMap fun c => if c = '"' ∨ c = '\\' then ['\\', c] else [c]

inductive Token.Printed : Token → List Char → Prop
  | symbol {token : Token} {word : List Char} (hword : word ∈ token.spellings) : Printed token word
  | number {word : List Char} {d : Decimal} (hword : Numeral.unsigned? word = some d) :
      Printed (.number (d.toFloat false)) word
  | text (value : String) : Printed (.text value) ('"' :: escaped value.toList ++ ['"'])
  | field {key : String} (hbraces : ∀ c ∈ key.toList, c ≠ '\x7b' ∧ c ≠ '\x7d')
      (htrim : Text.trimmed key = key) (hkey : key ≠ "") :
      Printed (.field key) ('\x7b' :: key.toList ++ ['\x7d'])
  | name {key : String} {first : Char} {parts : List Char} (hkey : key.toList = first :: parts)
      (hfirst : Lexemes.isNameStart first) (hparts : ∀ c ∈ parts, Lexemes.isNamePart c) :
      Printed (.name key) key.toList

theorem quoted_escaped (text : List Char) : Quoted '"' (escaped text) text := by
  induction text with
  | nil => exact .nil
  | cons c rest ih =>
      rw [escaped, List.flatMap_cons]
      split
      · rename_i hc
        have hunescape : Lexemes.unescape c = c := by
          rcases hc with rfl | rfl <;> rfl
        have hescaped := Quoted.escaped (c := c) ih
        rwa [hunescape] at hescaped
      · rename_i hc
        obtain ⟨hquote, hescape⟩ := not_or.1 hc
        exact .plain hquote hescape ih

theorem not_mem_of_mem_spellings {word : List Char} {token : Token}
    (h : word ∈ token.spellings) : ' ' ∉ word := by
  revert word
  cases token <;> simp [Token.spellings]

theorem lexeme_of_printed {token : Token} {word rest : List Char} (h : token.Printed word)
    (hrest : ∀ c ∈ rest.head?, c = ' ') : Lexeme token word rest := by
  cases h with
  | symbol hword =>
      refine .symbol hword fun c hc other hother => not_mem_of_mem_spellings hother ?_
      simp [hrest c hc]
  | number hword =>
      refine .number hword fun c hc => ?_
      rw [hrest c hc]
      simp [numberGoesOn, isExponentMark]
  | text value =>
      have htext : Lexeme (.text (String.ofList value.toList)) _ rest :=
        .text (.inl rfl) (quoted_escaped value.toList)
      rwa [String.ofList_toList] at htext
  | @field key hbraces htrim hkey =>
      have hlist : Text.trim key.toList = key.toList := by
        rw [← String.toList_ofList (l := Text.trim key.toList)]
        exact congrArg String.toList htrim
      have hfield : Lexeme (.field (String.ofList (Text.trim key.toList))) _ rest :=
        .field hbraces (by simpa [hlist] using hkey)
      rwa [hlist, String.ofList_toList] at hfield
  | @name key first parts hkey hfirst hparts =>
      have hname : Lexeme (.name (String.ofList (first :: parts))) (first :: parts) rest := by
        refine .name hfirst hparts fun c hc => ?_
        rw [hrest c hc]
        decide
      rwa [← hkey, String.ofList_toList] at hname

theorem split_intercalate {tokens : List Token} {words : List (List Char)}
    (h : List.Forall₂ Token.Printed tokens words) : Split ([' '].intercalate words) tokens := by
  induction h with
  | nil => exact .nil
  | @cons token word tokens words hword htail ih =>
      cases htail with
      | nil =>
          have hlexeme : Lexeme token word [] := lexeme_of_printed hword (by simp)
          simpa using Split.lexeme hlexeme .nil
      | @cons _ next _ others _ _ =>
          have hlexeme : Lexeme token word (' ' :: [' '].intercalate (next :: others)) :=
            lexeme_of_printed hword (by simp)
          simpa using Split.lexeme hlexeme (.blank (by decide) ih)

/-! ## The round trip -/

namespace Parser

theorem parse_printed {expr : Expr} {words : List (List Char)} {mark : List Char}
    (hexpr : expr.Printable) (hwords : List.Forall₂ Token.Printed (expr.printed 0) words)
    (hmark : mark = [] ∨ mark = ['=']) {source : String}
    (hsource : source = String.ofList (mark ++ [' '].intercalate words)) :
    (parse source = .ok expr ∨
      parse source = .error (.malformed (String.ofList (body source.toList)) .tooDeep)) ∧
    (words.length ≤ nestingLimit → parse source = .ok expr) := by
  have hphrase := hexpr.phrase (Nat.zero_le _)
  have hlist : source.toList = [] ++ mark ++ [' '].intercalate words := by simp [hsource]
  have hsplit := split_body hlist (by simp) hmark (split_intercalate hwords) hphrase
  rcases parse_of_split hsplit hphrase with hok | ⟨hlong, herror⟩
  · exact ⟨.inl hok, fun _ => hok⟩
  · refine ⟨.inr herror, fun hshort => ?_⟩
    rw [hwords.length_eq] at hlong
    omega

def tariffCheck : Expr :=
  .binary .notEquals
    (.binary .multiply
      (.unary .negate (.binary .add (.name "a") (.number (Decimal.toFloat false ⟨15, -1⟩))))
      (.field "Prix B"))
    (.call "MAX" [.text "say \"x\"", .param "tva", .unary .not (.boolean true)])

theorem parse_printed_tariffCheck :
    parse "=- ( a + 1.5 ) * \x7bPrix B\x7d <> MAX ( \"say \\\"x\\\"\" , PARAM.tva , ! true )" =
      .ok tariffCheck := by
  have hprintable : tariffCheck.Printable := by
    refine .binary (.binary (.unary (.binary (.name ?_) (.number _))) (.field _)) (.call ?_)
    · exact ⟨by decide, by decide, by decide⟩
    · simp only [List.forall_mem_cons]
      exact ⟨.text _, .param (by decide), .unary (.boolean _), by simp⟩
  have hwords : List.Forall₂ Token.Printed (tariffCheck.printed 0) (["-", "(", "a", "+", "1.5",
      ")", "*", "\x7bPrix B\x7d", "<>", "MAX", "(", "\"say \\\"x\\\"\"", ",", "PARAM.tva", ",", "!",
      "true", ")"].map String.toList) := by
    have hname : ∀ {key : String} {first : Char} {parts : List Char},
        key.toList = first :: parts → Lexemes.isNameStart first →
          parts.all Lexemes.isNamePart → Token.Printed (.name key) key.toList :=
      fun hkey hfirst hparts => .name hkey hfirst (List.all_eq_true.1 hparts)
    have hfield : Token.Printed (.field "Prix B") "\x7bPrix B\x7d".toList :=
      .field (by simp) (by decide) (by decide)
    have htext : Token.Printed (.text "say \"x\"") "\"say \\\"x\\\"\"".toList := .text _
    have hnumber : Token.Printed (.number (Decimal.toFloat false ⟨15, -1⟩)) "1.5".toList :=
      .number (by decide)
    have hsymbol : ∀ {token : Token} {word : String}, word.toList ∈ token.spellings →
        Token.Printed token word.toList := .symbol
    exact .cons (hsymbol (by decide)) <| .cons (hsymbol (by decide)) <| .cons (hname rfl rfl rfl) <|
      .cons (hsymbol (by decide)) <| .cons hnumber <| .cons (hsymbol (by decide)) <|
      .cons (hsymbol (by decide)) <| .cons hfield <| .cons (hsymbol (by decide)) <|
      .cons (hname rfl rfl rfl) <| .cons (hsymbol (by decide)) <| .cons htext <|
      .cons (hsymbol (by decide)) <| .cons (hname rfl rfl rfl) <| .cons (hsymbol (by decide)) <|
      .cons (hsymbol (by decide)) <| .cons (hname rfl rfl rfl) <| .cons (hsymbol (by decide)) .nil
  have hmark : ['='] = [] ∨ ['='] = ['='] := .inr rfl
  exact (parse_printed hprintable hwords hmark (by decide)).2 (by decide)

end Parser

end Drapery.Formula
