import Drapery.Formula.Token

/-!
Why a formula has no value.
-/

namespace Drapery.Formula

inductive Fault where
  | empty
  | trailing (found : Token)
  | unclosed (found : Option Token)
  | noOperand (found : Option Token)
  | tooDeep
  | emptyParam
  | strayCharacter (c : Char)
  | unclosedText
  | unclosedField
  | nestedBrace
  | emptyField
  | noExponentDigits (text : String)
  | badNumber (text : String)
  deriving DecidableEq

/-- Operators nest this deep: each parenthesis, operator in front of an operand, argument list and
further operator of a chain takes one level. -/
def nestingLimit : Nat := 256

namespace Fault

def message (source : String) : Fault → String
  | empty => "empty formula"
  | trailing found => s!"unexpected token {found.describe}"
  | unclosed found => s!"expected RParen, found {Token.describeFound found}"
  | noOperand found => s!"unexpected token in expression: {Token.describeFound found}"
  | tooDeep => s!"expression nesting exceeds {nestingLimit} levels"
  | emptyParam => "empty PARAM name"
  | strayCharacter c => s!"unexpected character {Text.quotedChar c} in {Text.quoted source}"
  | unclosedText => "unterminated string"
  | unclosedField => "unterminated field reference"
  | nestedBrace => "nested '\x7b' in field reference"
  | emptyField => "empty field reference \x7b\x7d"
  | noExponentDigits text => s!"invalid number {Text.quoted text} (expected exponent digits)"
  | badNumber text => s!"invalid number {Text.quoted text}"

end Fault

structure Arity where
  least : Nat
  most : Option Nat
  deriving DecidableEq, Repr

namespace Arity

def admits (arity : Arity) (count : Nat) : Bool :=
  arity.least ≤ count && arity.most.all (count ≤ ·)

def describe (arity : Arity) : String :=
  match arity.most with
  | none => s!"at least {arity.least}"
  | some most => if arity.least = most then s!"{most}" else s!"{arity.least} or {most}"

end Arity

end Drapery.Formula

namespace Drapery

open Formula

inductive FormulaError where
  | malformed (source : String) (fault : Fault)
  | unknownName (name : String)
  | unknownFunction (name : String)
  | arity (function : String) (expected : Arity) (actual : Nat)
  deriving DecidableEq

namespace FormulaError

def message : FormulaError → String
  | malformed source fault => s!"parse error: {fault.message source}"
  | unknownName name => s!"unknown identifier: {name}"
  | unknownFunction name => s!"unknown function: {name}"
  | arity function expected actual =>
    s!"{function} expects {expected.describe} arguments, got {actual}"

end FormulaError

theorem Except.exists_of_bind_eq_ok {ε α β : Type} {result : Except ε α} {next : α → Except ε β}
    {value : β} (h : (result >>= next) = .ok value) :
    ∃ found, result = .ok found ∧ next found = .ok value := by
  cases result with
  | error error => cases h
  | ok found => exact ⟨found, rfl, h⟩

end Drapery
