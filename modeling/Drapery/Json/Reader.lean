import Drapery.Json.Token

/-!
Reading JSON texts.

`Json.read?` runs over the tokens with a stack of the containers that are still open, so that a
value may be nested arbitrarily deep.  A container opened inside `nestingLimit` others is read to
its end and is then broken.
-/

namespace Drapery.Json

/-- An open container and what it holds before the value that is being read, the last first. -/
inductive Frame where
  | array (items : List Json)
  | object (members : List (Option String × Json)) (name : Option String)

inductive Reading where
  | value (outer : List Frame)
  | opened (outer : List Frame)
  | openedObject (outer : List Frame)
  | name (members : List (Option String × Json)) (outer : List Frame)
  | colon (members : List (Option String × Json)) (name : Option String) (outer : List Frame)
  | complete (value : Json) (outer : List Frame)

namespace Reading

def closeArray (items : List Json) (outer : List Frame) : Reading :=
  complete (if outer.length < nestingLimit then array items.reverse else broken) outer

def closeObject (members : List (Option String × Json)) (outer : List Frame) : Reading :=
  let named? := members.reverse.mapM fun member => member.1.map (·, member.2)
  complete (if outer.length < nestingLimit then named?.elim broken object else broken) outer

def beginValue (outer : List Frame) : Token → Option Reading
  | .openArray => some (opened outer)
  | .openObject => some (openedObject outer)
  | .scalar item => some (complete item outer)
  | .brokenText => some (complete broken outer)
  | _ => none

/-- A broken string may stand where a name stands, and names nothing. -/
def beginMember (members : List (Option String × Json)) (outer : List Frame) :
    Token → Option Reading
  | .scalar (string text) => some (colon members (some text) outer)
  | .brokenText => some (colon members none outer)
  | _ => none

def step : Reading → Token → Option Reading
  | value outer, token => beginValue outer token
  | opened outer, .closeArray => some (closeArray [] outer)
  | opened outer, token => beginValue (.array [] :: outer) token
  | openedObject outer, .closeObject => some (closeObject [] outer)
  | openedObject outer, token => beginMember [] outer token
  | name members outer, token => beginMember members outer token
  | colon members key outer, .colon => some (value (.object members key :: outer))
  | colon .., _ => none
  | complete item (.array items :: outer), .comma => some (value (.array (item :: items) :: outer))
  | complete item (.array items :: outer), .closeArray => some (closeArray (item :: items) outer)
  | complete item (.object members key :: outer), .comma =>
    some (name ((key, item) :: members) outer)
  | complete item (.object members key :: outer), .closeObject =>
    some (closeObject ((key, item) :: members) outer)
  | complete .., _ => none

def result? : Reading → Option Json
  | complete item [] => some item
  | _ => none

end Reading

def read? (text : String) (numbers : NumberReader := .nearest) : Option Json := do
  let tokens ← scan numbers text.toList
  let reading ← tokens.foldlM Reading.step (.value [])
  reading.result?

end Drapery.Json
