import Drapery.Proofs.Refresh
import Drapery.Proofs.RowStep
import Drapery.Proofs.Trip

/-!
# Refreshes in another order

Two refreshes commute when neither formula reads the other's cell.  A list of
formulas in which none reads a later cell can be reordered into any other such
list: the first formula of one moves to the front of the other, because what it
passes does not read its cell and is not read by it.

Refreshes and rules look at cells only, so that they leave a row with other
overrides the same cells.
-/

namespace Drapery

namespace Row

variable {params : Formula.Params}

/-! ## Independent formulas -/

theorem set_comm (row : Row) {first second : String} (h : first ≠ second) (a b : Cell) :
    (row.set first a).set second b = (row.set second b).set first a := by
  refine AgreeOff.eq ⟨rfl, rfl, fun key _ => ?_⟩
  simp only [get?_set]
  by_cases hfirst : key = first
  · simp [hfirst, h]
  · simp [hfirst]

/-- The two write different cells, and neither reads the cell of the other. -/
structure Independent (a b : String × String) : Prop where
  keys : a.1 ≠ b.1
  reads : ¬ Formula.TextReads a.2 b.1
  isRead : ¬ Formula.TextReads b.2 a.1

theorem cellOf_refresh_of_not_reads {source : String} {field : String × String}
    (h : ¬ Formula.TextReads source field.1) (row : Row) :
    Formula.cellOf params source (row.refresh params field) =
      Formula.cellOf params source row := by
  refine Formula.cellOf_congr fun key hkey => get?_set_of_ne row _ ?_
  rintro rfl
  exact h hkey

theorem refresh_comm {a b : String × String} (h : Independent a b) (row : Row) :
    (row.refresh params a).refresh params b = (row.refresh params b).refresh params a := by
  rw [refresh, cellOf_refresh_of_not_reads h.isRead, refresh.eq_def params (row.refresh params b),
    cellOf_refresh_of_not_reads h.reads, refresh, refresh]
  exact row.set_comm h.keys _ _

theorem refreshAll_refresh_comm {field : String × String} {fields : List (String × String)}
    (h : ∀ other ∈ fields, Independent field other) (row : Row) :
    (row.refresh params field).refreshAll params fields =
      (row.refreshAll params fields).refresh params field := by
  induction fields generalizing row with
  | nil => rfl
  | cons other rest ih =>
      have hother : (row.refresh params field).refresh params other =
          (row.refresh params other).refresh params field :=
        refresh_comm (h other List.mem_cons_self) row
      rw [refreshAll, List.foldl_cons, hother]
      exact ih (fun next hnext => h next (List.mem_cons_of_mem _ hnext)) _

def InOrder (fields : List (String × String)) : Prop :=
  fields.Pairwise fun first later => ¬ Formula.TextReads first.2 later.1

/-- The order does not matter as long as no formula reads a cell that comes later. -/
theorem refreshAll_perm {first second : List (String × String)} (hperm : first.Perm second)
    (hkeys : (first.map (·.1)).Nodup) (hfirst : InOrder first) (hsecond : InOrder second)
    (row : Row) : row.refreshAll params first = row.refreshAll params second := by
  induction first generalizing second row with
  | nil => rw [List.nil_perm.1 hperm]
  | cons field rest ih =>
      obtain ⟨hfield, hrest⟩ := List.pairwise_cons.1 hfirst
      obtain ⟨hkey, hnodup⟩ := List.nodup_cons.1 hkeys
      obtain ⟨before, after, rfl⟩ := List.append_of_mem (hperm.subset List.mem_cons_self)
      have hsame : rest.Perm (before ++ after) := (hperm.trans List.perm_middle).cons_inv
      -- the field moves to the front of the second list
      have hbefore : ∀ other ∈ before, Independent field other := by
        intro other hother
        have hmem : other ∈ rest := hsame.symm.subset (List.mem_append_left _ hother)
        refine ⟨fun heq => hkey (List.mem_map.2 ⟨other, hmem, heq.symm⟩), hfield other hmem, ?_⟩
        exact (List.pairwise_append.1 hsecond).2.2 other hother field List.mem_cons_self
      have hafter : InOrder (before ++ after) :=
        hsecond.sublist ((List.sublist_cons_self field after).append_left before)
      calc row.refreshAll params (field :: rest)
        _ = (row.refresh params field).refreshAll params (before ++ after) :=
            ih hsame hnodup hrest hafter _
        _ = ((row.refreshAll params before).refresh params field).refreshAll params after := by
            rw [refreshAll_append, refreshAll_refresh_comm hbefore]
        _ = row.refreshAll params (before ++ field :: after) := by
            rw [refreshAll_append]
            rfl

/-! ## Rows with other overrides -/

def withOverrides (row : Row) (overrides : Keyed String) : Row := { row with overrides }

theorem withOverrides_self (row : Row) : row.withOverrides row.overrides = row := rfl

variable (overrides : Keyed String)

theorem cellOf_withOverrides (source : String) (row : Row) :
    Formula.cellOf params source (row.withOverrides overrides) =
      Formula.cellOf params source row :=
  Formula.cellOf_congr fun _ _ => rfl

theorem refresh_withOverrides (field : String × String) (row : Row) :
    (row.withOverrides overrides).refresh params field =
      (row.refresh params field).withOverrides overrides := by
  rw [refresh, cellOf_withOverrides]
  rfl

theorem refreshAll_withOverrides (fields : List (String × String)) (row : Row) :
    (row.withOverrides overrides).refreshAll params fields =
      (row.refreshAll params fields).withOverrides overrides := by
  induction fields generalizing row with
  | nil => rfl
  | cons field rest ih =>
      rw [refreshAll, List.foldl_cons, refresh_withOverrides]
      exact ih _

theorem Local.withOverrides {inputs outputs : List String} {f : Row → Row}
    (hf : Local inputs outputs f) (row : Row) :
    f (row.withOverrides overrides) = (f row).withOverrides overrides := by
  have hcells := hf.frame row
  have hcells' := hf.frame (row.withOverrides overrides)
  refine AgreeOff.eq ⟨hcells'.id.trans hcells.id.symm, hcells'.overrides, fun key _ => ?_⟩
  by_cases hkey : key ∈ outputs
  · exact hf.dependsOn key hkey _ _ fun _ _ => rfl
  · exact (hcells'.cells key hkey).trans (hcells.cells key hkey).symm

end Row

theorem Rules.travel_withOverrides (settings : Settings) (overrides : Keyed String) (row : Row) :
    travel settings (row.withOverrides overrides) =
      (travel settings row).withOverrides overrides := by
  have hsurveyed : surveyed (row.withOverrides overrides) =
      (surveyed row).withOverrides overrides := by
    rw [surveyed, surveyed, apply_ite (Row.withOverrides · overrides)]
    rfl
  rw [travel_eq, travel_eq, hsurveyed]
  rfl

end Drapery
