import Drapery.Project
import Drapery.Proofs.Prices

/-!
# The revenue of a project and its commissions

Products and trips are recomputed first, so that the revenue which the
expenses are recomputed against is the one that the project has in the end.
Each row comes out as if it had been recomputed alone.
-/

namespace Drapery

/-! ## A row that ends up as a commission -/

theorem totalPrice_recompute_of_isCommission {schema : Schema} {context : Context} {row : Row}
    (h : Product.isCommission (recompute schema context row).1 = true) :
    (recompute schema context row).1.get? Field.totalPrice =
      some (.number ((recompute schema context row).1.amount Field.percentage *
        context.totalRevenue.getD 0 / 100)) := by
  have hkind := sameKind_recompute_formulaPass schema context row
  have htravel : Product.isTravel (formulaPass schema context row).1.row = false := by
    rw [← hkind.travel]
    cases htravel : Product.isTravel (recompute schema context row).1 with
    | false => rfl
    | true => simp [Product.isCommission_of_isTravel htravel] at h
  refine totalPrice_of_isCommission htravel ?_
  rw [isCommission_ruledRow, ← hkind.commission, h]

theorem id_recompute (schema : Schema) (context : Context) (row : Row) :
    (recompute schema context row).1.id = row.id := by
  have hrules := (agreeOff_recompute_rules schema context row).id
  rw [hrules, (agreeOff_ruledRow schema context row).id,
    (agreeOff_formulaPass schema context row).id]

theorem rowId_recompute (schema : Schema) (context : Context) (row : Row) :
    (recompute schema context row).2.rowId = row.id := by
  rw [recompute_eq]

/-! ## Grids -/

namespace Grid

def updated (context : Context) (grid : Grid) : Grid :=
  { grid with rows := grid.rows.map fun row => (Drapery.recompute grid.schema context row).1 }

def reports (context : Context) (grid : Grid) : List Report :=
  grid.rows.map fun row => (Drapery.recompute grid.schema context row).2

theorem recompute_eq_updated (context : Context) (grid : Grid) :
    grid.recompute context = (grid.updated context, grid.reports context) := by
  simp [recompute, recomputeAll, updated, reports, Function.comp_def]

theorem ids_updated (context : Context) (grid : Grid) :
    (grid.updated context).rows.map (·.id) = grid.rows.map (·.id) := by
  simp [updated, Function.comp_def, id_recompute]

theorem rowIds_reports (context : Context) (grid : Grid) :
    (grid.reports context).map (·.rowId) = grid.rows.map (·.id) := by
  simp [reports, Function.comp_def, rowId_recompute]

theorem totalPrice_updated {context : Context} {grid : Grid} {row : Row}
    (hrow : row ∈ (grid.updated context).rows) (hcommission : Product.isCommission row = true) :
    row.get? Field.totalPrice =
      some (.number (row.amount Field.percentage * context.totalRevenue.getD 0 / 100)) := by
  obtain ⟨before, -, rfl⟩ := List.mem_map.1 hrow
  exact totalPrice_recompute_of_isCommission hcommission

end Grid

/-! ## Projects -/

namespace Project

variable (context : Context) (project : Project)

theorem revenue_congr {a b : Project} (h : a.products = b.products) : a.revenue = b.revenue := by
  rw [revenue, revenue, productRows, productRows, h]

def rows (project : Project) : List Row :=
  project.productRows ++ project.travel.rows ++ project.expenses.rows

/-- What the expenses are recomputed with: the revenue of the project in the end. -/
def settledContext (context : Context) (project : Project) : Context :=
  { context with totalRevenue := some (project.recompute context).1.revenue }

theorem recompute_eq_updated : project.recompute context =
    ({ products := project.products.map (Grid.updated context)
       travel := project.travel.updated context
       expenses := project.expenses.updated (project.settledContext context) },
     project.products.flatMap (Grid.reports context) ++ project.travel.reports context ++
       project.expenses.reports (project.settledContext context)) := by
  have hproducts : (project.products.map (Grid.recompute context)).unzip =
      (project.products.map (Grid.updated context),
        project.products.map (Grid.reports context)) := by
    simp [List.unzip_eq_map, Grid.recompute_eq_updated, Function.comp_def]
  -- the expenses do not count towards the revenue
  have hrevenue : (project.recompute context).1.revenue =
      ({ project with products := project.products.map (Grid.updated context)
                      travel := project.travel.updated context } : Project).revenue := by
    refine revenue_congr ?_
    simp [recompute, hproducts]
  simp only [settledContext, hrevenue]
  simp [recompute, hproducts, Grid.recompute_eq_updated, List.flatMap]

theorem productRows_updated (grids : List Grid) :
    ((grids.map (Grid.updated context)).flatMap (·.rows)).map (·.id) =
      (grids.flatMap (·.rows)).map (·.id) := by
  simp [List.map_flatMap, List.flatMap_map, Grid.ids_updated]

theorem ids_recompute :
    (project.recompute context).1.rows.map (·.id) = project.rows.map (·.id) := by
  rw [recompute_eq_updated]
  simp only [rows, productRows, List.map_append, productRows_updated, Grid.ids_updated]

theorem rowIds_recompute :
    (project.recompute context).2.map (·.rowId) = project.rows.map (·.id) := by
  rw [recompute_eq_updated]
  simp only [rows, productRows, List.map_append, List.map_flatMap, Grid.rowIds_reports]

theorem expenses_recompute : (project.recompute context).1.expenses =
    project.expenses.updated (project.settledContext context) := by
  rw [recompute_eq_updated]

/-- Commissions are a share of the revenue that the project has in the end,
whatever revenue the caller had in mind.  Rows are recomputed by themselves,
expenses with that revenue, and there is one report for each row, in order. -/
theorem recompute_commissions :
    (∀ row ∈ (project.recompute context).1.expenses.rows, Product.isCommission row = true →
      row.get? Field.totalPrice = some (.number
        (row.amount Field.percentage * (project.recompute context).1.revenue / 100))) ∧
    ((project.recompute context).1.products = project.products.map (Grid.updated context) ∧
      (project.recompute context).1.travel = project.travel.updated context ∧
      (project.recompute context).1.expenses =
        project.expenses.updated (project.settledContext context)) ∧
    ((project.recompute context).2 =
        project.products.flatMap (Grid.reports context) ++ project.travel.reports context ++
          project.expenses.reports (project.settledContext context) ∧
      (project.recompute context).2.map (·.rowId) = project.rows.map (·.id) ∧
      (project.recompute context).1.rows.map (·.id) = project.rows.map (·.id)) := by
  refine ⟨fun row hrow hcommission => ?_, ⟨?_, ?_, expenses_recompute context project⟩, ?_,
    rowIds_recompute context project, ids_recompute context project⟩
  · rw [expenses_recompute] at hrow
    have htotal := Grid.totalPrice_updated hrow hcommission
    rwa [settledContext, Option.getD_some] at htotal
  all_goals rw [recompute_eq_updated]

end Project

/-! ## A project with a commission -/

def blindsGrid : Grid where
  schema := ⟨"blinds", [{ key := Field.totalPrice, formula := some "\x7bmontant\x7d * 2" }]⟩
  rows := [(⟨"b1", ∅, ∅⟩ : Row).setNumber Field.expenseAmount 300,
    (⟨"b2", ∅, ∅⟩ : Row).setNumber Field.expenseAmount 200]

def blindsProject : Project where
  products := [blindsGrid]
  expenses := ⟨.other, [shareRow]⟩

theorem recompute_commissions_blindsProject :
    ∃ row ∈ (blindsProject.recompute pricedContext).1.expenses.rows,
      Product.isCommission row = true ∧ pricedContext.totalRevenue = some 8500 ∧
      (blindsProject.recompute pricedContext).1.revenue = 1000 ∧
      row.get? Field.totalPrice = some (.number (row.amount Field.percentage * 1000 / 100)) ∧
      (blindsProject.recompute pricedContext).2.map (·.rowId) = ["b1", "b2", "c"] := by
  obtain ⟨hshares, ⟨-, -, hexpenses⟩, -, hreports, -⟩ :=
    Project.recompute_commissions pricedContext blindsProject
  have hrevenue : (blindsProject.recompute pricedContext).1.revenue = 1000 := by decide +kernel
  set row := (recompute .other (blindsProject.settledContext pricedContext) shareRow).1 with hrow
  have hmem : row ∈ (blindsProject.recompute pricedContext).1.expenses.rows := by
    rw [hexpenses]
    exact List.mem_singleton_self _
  have hcommission : Product.isCommission row = true := by decide +kernel
  have htotal := hshares row hmem hcommission
  rw [hrevenue] at htotal
  exact ⟨row, hmem, hcommission, rfl, hrevenue, htotal, hreports⟩

end Drapery
