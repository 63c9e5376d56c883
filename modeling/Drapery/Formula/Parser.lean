import Drapery.Formula.Lexer
import Drapery.Text.Case

/-!
Parsing formulas by precedence.

`expression room least` reads an expression whose operators bind at least as tightly as `least`,
with `room` levels of nesting left.  It takes one level itself and one more for each operator of a
chain, so that `room` carries the recursion.  The levels are given back with the expression: what
they bound is how deep operands lie in one another, with a left operand as deep as its operator.
-/

namespace Drapery.Formula

structure Rejection where
  fault : Fault
  rest : List Token
  deriving DecidableEq

namespace Parser

abbrev Taken (α : Type) := α × List Token

def close : List Token → Except Rejection (List Token)
  | .closeParen :: rest => .ok rest
  | tokens => .error ⟨.unclosed tokens.head?, tokens⟩

/-- One argument or more, with a separator between two.  Every argument takes a token, so that
`count` may start as the number of tokens. -/
def arguments (operand : List Token → Except Rejection (Taken Expr)) :
    (count : Nat) → List Token → Except Rejection (Taken (List Expr))
  | 0, tokens => .error ⟨.tooDeep, tokens⟩
  | count + 1, tokens => do
    let (first, tokens) ← operand tokens
    match tokens with
    | [] => .ok ([first], [])
    | token :: rest =>
      if token.isSeparator then do
        let (others, tokens) ← arguments operand count rest
        .ok (first :: others, tokens)
      else .ok ([first], token :: rest)

def argumentList (operand : List Token → Except Rejection (Taken Expr)) :
    List Token → Except Rejection (Taken (List Expr))
  | .closeParen :: rest => .ok ([], rest)
  | tokens => do
    let (args, tokens) ← arguments operand (tokens.length + 1) tokens
    let tokens ← close tokens
    .ok (args, tokens)

def paramMarker : List Char := "param.".toList

def nameExpr (name : String) (rest : List Token) : Except Rejection Expr :=
  if Text.sameIgnoringAsciiCase name "true" then .ok (.boolean true)
  else if Text.sameIgnoringAsciiCase name "false" then .ok (.boolean false)
  else if (name.toList.take paramMarker.length).map Char.toLower = paramMarker then
    let param := name.toList.drop paramMarker.length
    if param = [] then .error ⟨.emptyParam, rest⟩ else .ok (.param (String.ofList param))
  else .ok (.name name)

/-- An expression without operators between operands; `inner least` reads one nested in it. -/
def primary (inner : Nat → List Token → Except Rejection (Taken Expr)) :
    List Token → Except Rejection (Taken Expr)
  | [] => .error ⟨.noOperand none, []⟩
  | .number value :: rest => .ok (.number value, rest)
  | .text value :: rest => .ok (.text value, rest)
  | .field key :: rest => .ok (.field key, rest)
  | .name function :: .openParen :: rest => do
    let (args, rest) ← argumentList (inner 0) rest
    .ok (.call function args, rest)
  | .name name :: rest => do
    let expr ← nameExpr name rest
    .ok (expr, rest)
  | .openParen :: rest => do
    let (expr, rest) ← inner 0 rest
    let rest ← close rest
    .ok (expr, rest)
  | token :: rest =>
    match token.unaryOp? with
    | some op => do
      let (operand, rest) ← inner unaryPrecedence rest
      .ok (.unary op operand, rest)
    | none => .error ⟨.noOperand (some token), token :: rest⟩

mutual

def expression : (room least : Nat) → List Token → Except Rejection (Taken Expr)
  | 0, _, tokens => .error ⟨.tooDeep, tokens⟩
  | room + 1, least, tokens => do
    let (left, tokens) ← primary (expression room) tokens
    chain room least left tokens

def chain : (room least : Nat) → Expr → List Token → Except Rejection (Taken Expr)
  | _, _, left, [] => .ok (left, [])
  | room, least, left, token :: rest =>
    match token.binaryOp? with
    | none => .ok (left, token :: rest)
    | some op =>
      if op.precedence < least then .ok (left, token :: rest)
      else
        match room with
        | 0 => .error ⟨.tooDeep, rest⟩
        | room + 1 => do
          let (right, tokens) ← expression room (op.precedence + 1) rest
          chain room least (.binary op left right) tokens

end

def whole (tokens : List Token) : Except Rejection Expr := do
  let (expr, rest) ← expression nestingLimit 0 tokens
  match rest with
  | [] => .ok expr
  | token :: _ => .error ⟨.trailing token, rest⟩

def body (source : List Char) : List Char :=
  match Text.trimLeft source with
  | '=' :: rest => rest
  | text => text

/-- The expression that the lexemes write.  The first fault in reading order counts: a rejection of
tokens that were not all taken comes before a fault of the text after them. -/
def ofLexemes (lexemes : Lexemes) : Except Fault Expr :=
  match lexemes.fault, whole lexemes.tokens with
  | none, .ok expr => .ok expr
  | none, .error rejection => .error rejection.fault
  | some fault, .ok _ => .error fault
  | some fault, .error rejection =>
    .error (if rejection.rest = [] then fault else rejection.fault)

def parse (source : String) : Except FormulaError Expr :=
  let text := body source.toList
  if text.all Text.isBlank then .error (.malformed (String.ofList text) .empty)
  else (ofLexemes (Lexemes.scan text)).mapError (.malformed (String.ofList text))

end Parser

end Drapery.Formula
