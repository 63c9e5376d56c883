import Drapery.Proofs.References
import Drapery.Proofs.RowFrame

/-!
# Refreshing cells

Formulas are evaluated one after the other, each into its own cell.  A cell
holds its formula when evaluating it once more would give what is already there.
A refresh makes its cell hold, and it holds until a cell that the formula reads
is written.
-/

namespace Drapery

namespace Formula

/-- What a formula puts into its field; zero when it fails. -/
def cellOf (params : Params) (source : String) (row : Row) : Cell :=
  (shown (evaluateText source row params)).toCell

variable {params : Params} {source : String}

theorem cellOf_of_parse {formula : Formula} (hparse : parse source = .ok formula) (row : Row) :
    cellOf params source row = (shown (formula.evaluate row params)).toCell := by
  rw [cellOf, evaluateText_of_parse hparse]

theorem cellOf_of_parse_error {error : FormulaError} (hparse : parse source = .error error)
    (row : Row) : cellOf params source row = .number 0 := by
  rw [cellOf, evaluateText_of_parse_error hparse]
  rfl

theorem cellOf_congr {a b : Row} (h : ∀ key, TextReads source key → a.get? key = b.get? key) :
    cellOf params source a = cellOf params source b := by
  rw [cellOf, cellOf, evaluateText_congr params h]

end Formula

namespace Row

variable {params : Formula.Params} {key source : String}

def Holds (params : Formula.Params) (row : Row) (key source : String) : Prop :=
  row.get? key = some (Formula.cellOf params source row)

theorem Holds.congr {a b : Row} (h : a.Holds params key source)
    (hkey : b.get? key = a.get? key)
    (hreads : ∀ read, Formula.TextReads source read → b.get? read = a.get? read) :
    b.Holds params key source := by
  rw [Holds, hkey, h, Formula.cellOf_congr hreads]

def refresh (params : Formula.Params) (row : Row) (field : String × String) : Row :=
  row.set field.1 (Formula.cellOf params field.2 row)

def refreshAll (params : Formula.Params) (fields : List (String × String)) (row : Row) : Row :=
  fields.foldl (refresh params) row

theorem refreshAll_append (first rest : List (String × String)) (row : Row) :
    row.refreshAll params (first ++ rest) = (row.refreshAll params first).refreshAll params rest :=
  List.foldl_append

/-! ## What a refresh changes -/

theorem holds_refresh (hself : ¬ Formula.TextReads source key) (row : Row) :
    (row.refresh params (key, source)).Holds params key source := by
  have hsame : Formula.cellOf params source (row.refresh params (key, source)) =
      Formula.cellOf params source row := by
    refine Formula.cellOf_congr fun read hread => row.get?_set_of_ne _ ?_
    rintro rfl
    exact hself hread
  rw [Holds, hsame, refresh, get?_set_self]

theorem agreeOff_refreshAll (fields : List (String × String)) (row : Row) :
    AgreeOff (fields.map (·.1)) (row.refreshAll params fields) row := by
  induction fields generalizing row with
  | nil => exact .refl _ row
  | cons field rest ih =>
      have hrest := ih (row.refresh params field)
      have hfirst : AgreeOff (field.1 :: rest.map (·.1)) (row.refresh params field) row :=
        .set_left List.mem_cons_self row _
      exact (hrest.mono (List.subset_cons_self ..)).trans hfirst

/-- Cells hold at the end when nothing written after them is theirs or read by them. -/
theorem holds_refreshAll {before after : List (String × String)}
    (hself : ¬ Formula.TextReads source key)
    (hafter : ∀ field ∈ after, field.1 ≠ key ∧ ¬ Formula.TextReads source field.1) (row : Row) :
    (row.refreshAll params (before ++ (key, source) :: after)).Holds params key source := by
  rw [refreshAll, List.foldl_append, List.foldl_cons]
  set refreshed := (before.foldl (refresh params) row).refresh params (key, source)
  have hframe : AgreeOff (after.map (·.1)) (refreshed.refreshAll params after) refreshed :=
    agreeOff_refreshAll after refreshed
  refine (holds_refresh hself _).congr (hframe.cells key ?_) fun read hread => hframe.cells read ?_
  · intro hmem
    obtain ⟨field, hfield, rfl⟩ := List.mem_map.1 hmem
    exact (hafter field hfield).1 rfl
  · intro hmem
    obtain ⟨field, hfield, rfl⟩ := List.mem_map.1 hmem
    exact (hafter field hfield).2 hread

theorem refreshAll_agreeOff {loose : List String} {row start : Row}
    {fields : List (String × String)} (hstart : AgreeOff loose start row)
    (hfields : ∀ field ∈ fields, field.1 ∉ loose → row.Holds params field.1 field.2 ∧
      ∀ read ∈ loose, ¬ Formula.TextReads field.2 read) :
    AgreeOff loose (start.refreshAll params fields) row := by
  induction fields generalizing start with
  | nil => exact hstart
  | cons field rest ih =>
      refine ih ?_ fun other hother => hfields other (List.mem_cons_of_mem _ hother)
      by_cases hloose : field.1 ∈ loose
      · exact (AgreeOff.set_left hloose start _).trans hstart
      obtain ⟨hholds, hreads⟩ := hfields field List.mem_cons_self hloose
      have hcell : Formula.cellOf params field.2 start = Formula.cellOf params field.2 row :=
        Formula.cellOf_congr fun read hread =>
          hstart.cells read fun hmem => hreads read hmem hread
      have hmore : AgreeOff (field.1 :: loose) start row :=
        hstart.mono (List.subset_cons_self ..)
      have hboth := hmore.set_both (Formula.cellOf params field.2 row)
      rw [set_of_get? hholds] at hboth
      rwa [refresh, hcell]

end Row

end Drapery
