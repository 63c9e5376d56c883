import Drapery.Json.Reader
import Drapery.Json.Record

/-!
Settings of the workshop and of the iteration over formulas in a cycle.
-/

namespace Drapery

structure Settings where
  hourlyRate : Float := 0
  nightCost : Float := 0
  mealCost : Float := 0
  subcontractingCoefficient : Float := 1
  deriving Inhabited

namespace Settings

def names : List (List String) :=
  [["hourly_rate", "taux_horaire", "hourlyRate"],
    ["night_cost", "cout_nuit", "nightCost"],
    ["meal_cost", "cout_repas", "mealCost"],
    ["subcontracting_coefficient", "coef_sous_traitance", "subcontractingCoefficient"]]

def setAt (settings : Settings) (value : Float) : Nat → Settings
  | 0 => { settings with hourlyRate := value }
  | 1 => { settings with nightCost := value }
  | 2 => { settings with mealCost := value }
  | 3 => { settings with subcontractingCoefficient := value }
  | _ => settings

/-- Settings from named numbers.  Names that are not known and numbers that are not finite are
ignored. -/
def ofEntries (entries : List (String × Float)) : Settings :=
  entries.foldl (fun settings (name, value) =>
    if value.isFinite then settings.setAt value (names.findIdx (name ∈ ·)) else settings) {}

def ofJson? (value : Json) : Option Settings := do
  match ← value.record? names with
  | [rate, night, meal, coefficient] =>
    some {
      hourlyRate := ← Json.orDefault 0 Json.float? rate
      nightCost := ← Json.orDefault 0 Json.float? night
      mealCost := ← Json.orDefault 0 Json.float? meal
      subcontractingCoefficient := ← Json.orDefault 1 Json.float? coefficient }
  | _ => none

def read? (text : String) (numbers : Json.NumberReader := .nearest) : Option Settings :=
  (Json.read? text numbers).bind ofJson?

end Settings

structure Iteration where
  enabled : Bool := true
  maxIterations : Nat := 100
  maxChange : Float := 0.001
  deriving Inhabited

namespace Iteration

def ofJson? (value : Json) : Option Iteration := do
  match ← value.record? [["enabled"], ["max_iterations"], ["max_change"]] with
  | [enabled, maxIterations, maxChange] =>
    some {
      enabled := ← Json.orDefault true Json.bool? enabled
      maxIterations := ← Json.orDefault 100 (Json.nat? (Nat.pow 2 32)) maxIterations
      maxChange := ← Json.orDefault 0.001 Json.float? maxChange }
  | _ => none

end Iteration

end Drapery
