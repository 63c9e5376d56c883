import Mathlib
import Drapery.Profitability

/-!
# The revenue that a target needs

Over exact figures the solver inverts the roll-up.  Where commissions leave more
than a hundredth of further revenue, one revenue gives the wanted contribution by
the hour, and the solver finds it; where they do not, it finds none.
-/

namespace Drapery

instance : Figure ℚ where
  zero := 0
  one := 1
  leastMarginShare := 1 / 100
  isZero x := x = 0
  isPositive x := 0 < x
  isAtMost x y := x ≤ y
  isFinite _ := true

namespace ProjectTotals

variable {totals : ProjectTotals ℚ} {target : ℚ}

def fixedCost (totals : ProjectTotals ℚ) : ℚ :=
  totals.materials + (totals.variableCharges - totals.commissions)

/-- The project at another revenue.  Commissions are the same share of it, and the
hours and all other costs stay. -/
def atRevenue (totals : ProjectTotals ℚ) (revenue : ℚ) : ProjectTotals ℚ :=
  { totals with revenue, commissions := totals.kpis.commissionRate * revenue }

/-! ## The roll-up with the operators of the rationals -/

theorem variableCharges_eq (totals : ProjectTotals ℚ) :
    totals.variableCharges =
      totals.subcontractedInstallation + totals.subcontractedAssembly + totals.travel +
        totals.commissions + totals.otherExpenses := rfl

theorem commissionRate_kpis (h : totals.revenue ≠ 0) :
    totals.kpis.commissionRate = totals.commissions / totals.revenue := by
  have hzero : Figure.isZero totals.kpis.revenue = false := decide_eq_false h
  rw [Kpis.commissionRate, hzero]
  rfl

theorem hourlyContribution_kpis (h : 0 < totals.hours) :
    totals.kpis.hourlyContribution =
      (totals.revenue - totals.materials - totals.variableCharges) / totals.hours := by
  have hpositive : Figure.isPositive totals.hours = true := decide_eq_true h
  rw [kpis, if_pos hpositive]

theorem revenueFor_kpis (totals : ProjectTotals ℚ) (target : ℚ) :
    totals.kpis.revenueFor target =
      if 1 - totals.kpis.commissionRate ≤ 1 / 100 then
        .error (.infeasible totals.kpis.commissionRate)
      else .ok ((target * totals.hours + totals.fixedCost) / (1 - totals.kpis.commissionRate)) := by
  by_cases hshare : 1 - totals.kpis.commissionRate ≤ 1 / 100
  · have hmost : Figure.isAtMost (Figure.one - totals.kpis.commissionRate)
        (Figure.leastMarginShare : ℚ) = true := decide_eq_true hshare
    rw [if_pos hshare, Kpis.revenueFor]
    simp only [hmost]
    rfl
  · have hmost : Figure.isAtMost (Figure.one - totals.kpis.commissionRate)
        (Figure.leastMarginShare : ℚ) = false := decide_eq_false hshare
    rw [if_neg hshare, Kpis.revenueFor]
    simp only [hmost]
    rfl

/-! ## The project at another revenue -/

theorem atRevenue_revenue (h : totals.revenue ≠ 0) : totals.atRevenue totals.revenue = totals := by
  rw [atRevenue, commissionRate_kpis h, div_mul_cancel₀ _ h]

theorem hourlyContribution_atRevenue (h : 0 < totals.hours) (revenue : ℚ) :
    (totals.atRevenue revenue).kpis.hourlyContribution =
      (revenue - totals.kpis.commissionRate * revenue - totals.fixedCost) / totals.hours := by
  have hours : 0 < (totals.atRevenue revenue).hours := h
  rw [hourlyContribution_kpis hours, variableCharges_eq, fixedCost, variableCharges_eq]
  simp only [atRevenue]
  ring

theorem contribution_eq_iff (hhours : 0 < totals.hours)
    (hshare : 1 / 100 < 1 - totals.kpis.commissionRate) (revenue : ℚ) :
    (revenue - totals.kpis.commissionRate * revenue - totals.fixedCost) / totals.hours = target ↔
      revenue =
        (target * totals.hours + totals.fixedCost) / (1 - totals.kpis.commissionRate) := by
  have hleft : 1 - totals.kpis.commissionRate ≠ 0 := by linarith
  rw [div_eq_iff hhours.ne', eq_div_iff hleft]
  constructor <;> intro h <;> linarith

/-- Where commissions leave a share of the revenue, one revenue meets the target, and
the solver finds it; elsewhere the solver refuses.  The revenue meets the target as
the roll-up at this revenue tells, and the project's own contribution is met by its
own revenue. -/
theorem revenueFor_inverts (totals : ProjectTotals ℚ) (hrevenue : totals.revenue ≠ 0)
    (hhours : 0 < totals.hours) :
    let kpis := totals.kpis
    let rate := kpis.commissionTotal / kpis.revenue
    (∀ target, kpis.revenueFor target = .error (.infeasible rate) ↔ 1 - rate ≤ 1 / 100) ∧
    (1 / 100 < 1 - rate → ∀ target, ∃ needed, kpis.revenueFor target = .ok needed ∧
      ∀ revenue,
        ((revenue - rate * revenue - kpis.fixedMaterialCost -
            (kpis.variableCharges - kpis.commissionTotal)) / kpis.totalHours = target ↔
          revenue = needed) ∧
        ((totals.atRevenue revenue).kpis.hourlyContribution = target ↔ revenue = needed)) ∧
    (1 / 100 < 1 - rate → kpis.revenueFor kpis.hourlyContribution = .ok kpis.revenue) := by
  intro kpis rate
  have hrate : totals.kpis.commissionRate = rate := commissionRate_kpis hrevenue
  have hrefused : 1 - rate ≤ 1 / 100 → ∀ target,
      kpis.revenueFor target = .error (.infeasible rate) := fun hshare target => by
    rw [revenueFor_kpis, hrate, if_pos hshare]
  have hfound : 1 / 100 < 1 - rate → ∀ target, kpis.revenueFor target =
      .ok ((target * totals.hours + totals.fixedCost) / (1 - rate)) := fun hshare target => by
    rw [revenueFor_kpis, hrate, if_neg (not_le.2 hshare)]
  have honly : 1 / 100 < 1 - rate → ∀ target revenue,
      (totals.atRevenue revenue).kpis.hourlyContribution = target ↔
        revenue = (target * totals.hours + totals.fixedCost) / (1 - rate) :=
    fun hshare target revenue => by
      rw [hourlyContribution_atRevenue hhours, ← hrate]
      exact contribution_eq_iff hhours (hrate ▸ hshare) revenue
  refine ⟨fun target => ⟨fun h => ?_, fun hshare => hrefused hshare target⟩,
    fun hshare target => ⟨_, hfound hshare target, fun revenue => ⟨?_, honly hshare target revenue⟩⟩,
    fun hshare => ?_⟩
  · by_contra hshare
    rw [hfound (not_le.1 hshare)] at h
    cases h
  · have hcost : (revenue - rate * revenue - kpis.fixedMaterialCost -
        (kpis.variableCharges - kpis.commissionTotal)) / kpis.totalHours =
        (totals.atRevenue revenue).kpis.hourlyContribution := by
      rw [hourlyContribution_atRevenue hhours, hrate, fixedCost, ← sub_sub]
      rfl
    rw [hcost, honly hshare]
  · have hown := honly hshare totals.kpis.hourlyContribution totals.revenue
    rw [atRevenue_revenue hrevenue] at hown
    rw [hfound hshare, ← hown.1 rfl]
    rfl

def rebatedTotals : ProjectTotals ℚ where
  revenue := 2000
  hours := 5 / 2
  materials := 400
  subcontractedInstallation := 50
  subcontractedAssembly := -20
  travel := 150
  commissions := 600
  otherExpenses := 1 / 3

def overcommittedTotals : ProjectTotals ℚ := { rebatedTotals with commissions := 2500 }

theorem revenueFor_inverts_rebatedTotals :
    rebatedTotals.kpis.revenueFor rebatedTotals.kpis.hourlyContribution = .ok 2000 ∧
      ∀ target, overcommittedTotals.kpis.revenueFor target = .error (.infeasible (5 / 4)) := by
  have hshare : (1 : ℚ) / 100 < 1 - 600 / 2000 := by norm_num
  have hspent : (1 : ℚ) - 2500 / 2000 ≤ 1 / 100 := by norm_num
  have hrate : (2500 : ℚ) / 2000 = 5 / 4 := by norm_num
  obtain ⟨-, -, hown⟩ := revenueFor_inverts rebatedTotals (by norm_num [rebatedTotals])
    (by norm_num [rebatedTotals])
  obtain ⟨hrefused, -, -⟩ := revenueFor_inverts overcommittedTotals
    (by norm_num [overcommittedTotals, rebatedTotals])
    (by norm_num [overcommittedTotals, rebatedTotals])
  exact ⟨hown hshare, fun target => hrate ▸ (hrefused target).2 hspent⟩

end ProjectTotals

end Drapery
