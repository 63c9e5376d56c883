import Drapery.Keyed

/-!
JSON values.

A value that is spelled correctly can still denote nothing: a number beyond every double, an
unpaired surrogate escape, or a container nested past the limit.  Such a value is `broken`.  It is
harmless where a reader skips it and refused where one looks at it.
-/

namespace Drapery

inductive Json where
  | null
  | bool (value : Bool)
  | int (value : Int)
  | float (value : Float)
  | string (value : String)
  | array (items : List Json)
  | object (members : List (String × Json))
  | broken
  deriving Inhabited

namespace Json

def nestingLimit : Nat := 127

def member? (name : String) : Json → Option Json
  | object members => members.reverse.lookup name
  | _ => none

mutual

/-- The same value with the members of every object in ascending order, the last of each name. -/
def canonical : Json → Json
  | array items => array (canonicalItems items)
  | object members => object (canonicalMembers members [])
  | value => value

def canonicalItems : List Json → List Json
  | [] => []
  | item :: rest => canonical item :: canonicalItems rest

def canonicalMembers : List (String × Json) → List (String × Json) → List (String × Json)
  | [], sorted => sorted
  | (name, value) :: rest, sorted =>
    canonicalMembers rest (Keyed.insertEntry name (canonical value) sorted)

end

mutual

def isSound : Json → Bool
  | array items => areSound items
  | object members => membersSound members
  | broken => false
  | _ => true

def areSound : List Json → Bool
  | [] => true
  | item :: rest => isSound item && areSound rest

def membersSound : List (String × Json) → Bool
  | [] => true
  | (_, value) :: rest => isSound value && membersSound rest

end

end Json

end Drapery
