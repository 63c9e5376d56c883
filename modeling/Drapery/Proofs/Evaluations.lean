import Drapery.Proofs.Refresh
import Drapery.Recompute.FormulaPass

/-!
# Evaluations one after the other

The log of a list of fields keeps the row that each formula was evaluated on.
Evaluating the fields on a row under recomputation refreshes their cells and
adds the failures of the log, whether the formulas can be read or not.
-/

namespace Drapery

structure Evaluation where
  field : String
  source : String
  row : Row

namespace Evaluation

def result (params : Formula.Params) (evaluation : Evaluation) :
    Except FormulaError Formula.Value :=
  Formula.evaluateText evaluation.source evaluation.row params

def failure? (params : Formula.Params) (evaluation : Evaluation) : Option Failure :=
  match evaluation.result params with
  | .ok _ => none
  | .error error => some ⟨evaluation.field, evaluation.source, error⟩

variable {params : Formula.Params} {evaluation : Evaluation}

theorem failure?_eq_some_iff {failure : Failure} :
    evaluation.failure? params = some failure ↔
      (evaluation.field = failure.field ∧ evaluation.source = failure.formula) ∧
        evaluation.result params = .error failure.error := by
  obtain ⟨field, formula, error⟩ := failure
  cases hresult : evaluation.result params with
  | ok value => simp [failure?, hresult]
  | error actual => simp [failure?, hresult, and_assoc]

end Evaluation

/-! ## The log of a list of fields -/

namespace Row

variable {params : Formula.Params}

def evaluations (params : Formula.Params) : List (String × String) → Row → List Evaluation
  | [], _ => []
  | field :: rest, row => ⟨field.1, field.2, row⟩ :: evaluations params rest (row.refresh params field)

theorem evaluations_append (first rest : List (String × String)) (row : Row) :
    row.evaluations params (first ++ rest) =
      row.evaluations params first ++ (row.refreshAll params first).evaluations params rest := by
  induction first generalizing row with
  | nil => rfl
  | cons field first ih =>
      rw [List.cons_append, evaluations, ih, evaluations, List.cons_append]
      rfl

theorem map_evaluations (params : Formula.Params) (fields : List (String × String)) (row : Row) :
    (row.evaluations params fields).map (fun evaluation => (evaluation.field, evaluation.source)) =
      fields := by
  induction fields generalizing row with
  | nil => rfl
  | cons field rest ih => rw [evaluations, List.map_cons, ih]

theorem mem_of_mem_evaluations {fields : List (String × String)} {row : Row}
    {evaluation : Evaluation} (h : evaluation ∈ row.evaluations params fields) :
    (evaluation.field, evaluation.source) ∈ fields := by
  have hmem := List.mem_map_of_mem (f := fun evaluation : Evaluation =>
    (evaluation.field, evaluation.source)) h
  rwa [map_evaluations] at hmem

theorem exists_mem_evaluations (params : Formula.Params) {fields : List (String × String)}
    {field : String × String} (h : field ∈ fields) (row : Row) :
    ∃ evaluation ∈ row.evaluations params fields,
      evaluation.field = field.1 ∧ evaluation.source = field.2 := by
  rw [← row.map_evaluations params fields] at h
  obtain ⟨evaluation, hmem, rfl⟩ := List.mem_map.1 h
  exact ⟨evaluation, hmem, rfl, rfl⟩

theorem fields_evaluations (fields : List (String × String)) (row : Row) :
    (row.evaluations params fields).map (·.field) = fields.map (·.1) :=
  calc (row.evaluations params fields).map (·.field)
    _ = ((row.evaluations params fields).map
          fun evaluation => (evaluation.field, evaluation.source)).map (·.1) := by
        rw [List.map_map]
        rfl
    _ = fields.map (·.1) := by rw [map_evaluations]

end Row

/-! ## What evaluations do to a row under recomputation -/

namespace Progress

variable {params : Formula.Params} {key source : String} {formula : Formula}

def advance (params : Formula.Params) (fields : List (String × String)) (progress : Progress) :
    Progress where
  row := progress.row.refreshAll params fields
  failures := progress.failures ++
    (progress.row.evaluations params fields).filterMap (Evaluation.failure? params)

@[simp] theorem advance_nil (progress : Progress) : progress.advance params [] = progress := by
  simp [advance, Row.refreshAll, Row.evaluations]

theorem advance_append (first rest : List (String × String)) (progress : Progress) :
    progress.advance params (first ++ rest) =
      (progress.advance params first).advance params rest := by
  simp only [advance, Row.refreshAll_append, Row.evaluations_append, List.filterMap_append,
    List.append_assoc]

theorem advance_cons (field : String × String) (rest : List (String × String))
    (progress : Progress) :
    progress.advance params (field :: rest) =
      (progress.advance params [field]).advance params rest :=
  advance_append [field] rest progress

theorem fail_eq_advance {error : FormulaError} (hparse : Formula.parse source = .error error)
    (params : Formula.Params) (progress : Progress) :
    progress.fail ⟨key, source, error⟩ = progress.advance params [(key, source)] := by
  have hcell : Formula.cellOf params source progress.row = .number 0 :=
    Formula.cellOf_of_parse_error hparse progress.row
  have hresult := Formula.evaluateText_of_parse_error hparse progress.row params
  simp [advance, fail, Row.refreshAll, Row.refresh, Row.evaluations, Evaluation.failure?,
    Evaluation.result, hcell, hresult, Row.setNumber]

theorem assign_eq_advance (hparse : Formula.parse formula.source = .ok formula)
    (progress : Progress) :
    progress.assign params key formula = progress.advance params [(key, formula.source)] := by
  have hcell : Formula.cellOf params formula.source progress.row =
      (Formula.shown (formula.evaluate progress.row params)).toCell :=
    Formula.cellOf_of_parse hparse progress.row
  have hresult := Formula.evaluateText_of_parse hparse progress.row params
  cases hvalue : formula.evaluate progress.row params with
  | ok value =>
      simp [advance, assign, Row.refreshAll, Row.refresh, Row.evaluations, Evaluation.failure?,
        Evaluation.result, hcell, hresult, hvalue, Formula.shown]
  | error error =>
      simp [advance, assign, fail, Row.refreshAll, Row.refresh, Row.evaluations,
        Evaluation.failure?, Evaluation.result, hcell, hresult, hvalue, Formula.shown,
        Formula.Value.toCell, Row.setNumber]

end Progress

end Drapery
