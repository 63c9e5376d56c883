import Drapery.Json.Reader
import Drapery.Json.Record

/-!
The catalog of materials and components, and how a row's reference to one of them is resolved.
-/

namespace Drapery

structure CatalogItem where
  id : String := ""
  name : String := ""
  category : String := ""
  buyPrice : Float := 0
  sellPrice : Float := 0
  width : Float := 0
  patternRepeatV : Float := 0
  patternRepeatH : Float := 0
  hasPattern : Bool := false
  dimension : Option String := none
  deriving Inhabited

structure Catalog where
  items : List CatalogItem := []
  deriving Inhabited

namespace CatalogItem

def ofJson? (value : Json) : Option CatalogItem := do
  match ← value.record? [["id"], ["name"], ["category"], ["buyPrice"], ["sellPrice"], ["width"],
    ["patternRepeatV"], ["patternRepeatH"], ["hasPattern"], ["dimension"]] with
  | [id, name, category, buy, sell, width, repeatV, repeatH, hasPattern, dimension] =>
    some {
      id := ← Json.orDefault "" Json.string? id
      name := ← Json.orDefault "" Json.string? name
      category := ← Json.orDefault "" Json.string? category
      buyPrice := ← Json.orDefault 0 Json.float? buy
      sellPrice := ← Json.orDefault 0 Json.float? sell
      width := ← Json.orDefault 0 Json.float? width
      patternRepeatV := ← Json.orDefault 0 Json.float? repeatV
      patternRepeatH := ← Json.orDefault 0 Json.float? repeatH
      hasPattern := ← Json.orDefault false Json.bool? hasPattern
      dimension := ← Json.orDefault none Json.optionalString? dimension }
  | _ => none

end CatalogItem

namespace Catalog

def ofJson? (value : Json) : Option Catalog := do
  some ⟨← (← value.array?).mapM CatalogItem.ofJson?⟩

def read? (text : String) (numbers : Json.NumberReader := .nearest) : Option Catalog :=
  (Json.read? text numbers).bind ofJson?

def findByName? (catalog : Catalog) (name : String) : Option CatalogItem :=
  if name.isEmpty then none else catalog.items.find? (·.name == name)

def findById? (catalog : Catalog) (id : String) : Option CatalogItem :=
  if id.isEmpty then none else catalog.items.find? (·.id == id)

/-- The item that a row's name and recorded identifier point at.

No name, no item.  The identifier decides while its item has that name, and also when no item has
it, as after the item was renamed.  A name that another item has means that it was picked instead. -/
def resolve? (catalog : Catalog) (id : Option String) (name : String) : Option CatalogItem :=
  if name.isEmpty then none
  else
    let recorded := id.bind catalog.findById?
    match recorded.filter (·.name == name) with
    | some item => some item
    | none => (catalog.findByName? name).or recorded

end Catalog

end Drapery
