import Drapery.Proofs.RowFrame
import Drapery.Recompute.Rules

/-!
# The price of a trip

Hours, nights and meals come from the cells of the trip.  None of these cells is
written once the hours on site are settled, so the price agrees with the row
that it is written into.
-/

namespace Drapery

namespace Row

/-! ## What a trip takes -/

def tripHours (row : Row) : Float :=
  row.amount Field.tripTime * row.amount Field.tripCount + row.amount Field.onSiteHours

def crew (row : Row) : Float := max 1 (row.amount Field.technicians)

def tripNights (row : Row) : Float := if row.isTicked Field.overnight then row.crew else 0

def tripMeals (row : Row) : Float := row.crew * if row.isTicked Field.overnight then 2 else 1

/-- Half a day is billed for up to four hours, a full day beyond. -/
def tripPrice (row : Row) (settings : Settings) : Float :=
  (if row.tripHours ≤ 4 then 4 else 8) * row.crew * settings.hourlyRate +
    row.tripNights * settings.nightCost + row.tripMeals * settings.mealCost

theorem tripPrice_congr {a b : Row}
    (h : ∀ key ∈ [Field.tripTime, Field.tripCount, Field.onSiteHours, Field.technicians,
      Field.overnight], a.get? key = b.get? key) (settings : Settings) :
    a.tripPrice settings = b.tripPrice settings := by
  have htime : a.amount Field.tripTime = b.amount Field.tripTime := amount_congr (h _ (by simp))
  have hcount : a.amount Field.tripCount = b.amount Field.tripCount :=
    amount_congr (h _ (by simp))
  have honSite : a.amount Field.onSiteHours = b.amount Field.onSiteHours :=
    amount_congr (h _ (by simp))
  have hcrew : a.crew = b.crew := by
    rw [crew, crew, amount_congr (h Field.technicians (by simp))]
  have hovernight : a.isTicked Field.overnight = b.isTicked Field.overnight :=
    isTicked_congr (h _ (by simp))
  rw [tripPrice, tripPrice, tripHours, tripHours, tripNights, tripNights, tripMeals, tripMeals,
    htime, hcount, honSite, hcrew, hovernight]

end Row

/-! ## The rule for trips -/

namespace Rules

def surveyed (row : Row) : Row :=
  if Product.isSiteSurvey (row.text Field.travelKind) then row
  else row.setNumber Field.onSiteHours 0

theorem travel_eq (settings : Settings) (row : Row) :
    travel settings row =
      ((((surveyed row).setNumber Field.billedHours
        (billedHours (surveyed row).tripHours)).setNumber Field.nights
          (surveyed row).tripNights).setNumber Field.meals
            (surveyed row).tripMeals).setNumber Field.totalPrice
              ((surveyed row).tripPrice settings) := rfl

theorem agreeOff_surveyed (row : Row) : Row.AgreeOff [Field.onSiteHours] (surveyed row) row := by
  rw [surveyed]
  split
  · exact .refl _ row
  · exact .set_left List.mem_cons_self row _

theorem agreeOff_travel_surveyed (settings : Settings) (row : Row) :
    Row.AgreeOff [Field.billedHours, Field.nights, Field.meals, Field.totalPrice]
      (travel settings row) (surveyed row) := by
  have hbilled : Row.AgreeOff [Field.billedHours, Field.nights, Field.meals, Field.totalPrice]
      ((surveyed row).setNumber Field.billedHours (billedHours (surveyed row).tripHours))
      (surveyed row) := .set_left (by simp) _ _
  rw [travel_eq]
  refine .trans (.set_left (by simp) _ _) (.trans (.set_left (by simp) _ _) ?_)
  exact .trans (.set_left (by simp) _ _) hbilled

theorem agreeOff_travel (settings : Settings) (row : Row) :
    Row.AgreeOff [Field.onSiteHours, Field.billedHours, Field.nights, Field.meals,
      Field.totalPrice] (travel settings row) row :=
  ((agreeOff_travel_surveyed settings row).mono (List.subset_cons_self ..)).trans
    ((agreeOff_surveyed row).mono (by simp))

theorem totalPrice_travel (settings : Settings) (row : Row) :
    (travel settings row).get? Field.totalPrice =
      some (.number ((travel settings row).tripPrice settings)) := by
  have hprice : (travel settings row).tripPrice settings = (surveyed row).tripPrice settings := by
    refine Row.tripPrice_congr (fun key hkey => ?_) settings
    -- what the price reads is settled with the hours on site
    refine (agreeOff_travel_surveyed settings row).cells key ?_
    revert key
    decide
  rw [hprice, travel_eq]
  exact Row.get?_set_self ..

end Rules

end Drapery
