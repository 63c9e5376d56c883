import Drapery.Proofs.Sweeps

/-!
# What convergence says

A report of convergence says of each evaluation of the last sweep that its field
settled, with one exception: a field that held what is not a number and got a
number is passed over.  No formula leaves such a cell, so that this happens in a
first sweep only.
-/

namespace Drapery

namespace Evaluation

variable {params : Formula.Params} {tolerance : Float} {evaluation : Evaluation}

/-- The field keeps its cell, or its number moves within the tolerance. -/
def Settles (params : Formula.Params) (tolerance : Float) (evaluation : Evaluation) : Prop :=
  evaluation.before = some (evaluation.after params) ∨
    ∃ old new, evaluation.before = some (.number old) ∧ evaluation.after params = .number new ∧
      (new - old).abs ≤ tolerance

/-- The field held what is not a number, and gets a number. -/
def IsPassedOver (params : Formula.Params) (evaluation : Evaluation) : Prop :=
  ∃ old new, evaluation.before = some (.number old) ∧ old.isNaN = true ∧
    evaluation.after params = .number new

theorem isFinite_after {new : Float} (h : evaluation.after params = .number new) :
    new.isFinite = true := by
  rcases Formula.cellOf_cases params evaluation.source evaluation.row with
    ⟨x, hfinite, hcell⟩ | ⟨text, hcell⟩
  · rw [after, hcell] at h
    exact Cell.number.inj h ▸ hfinite
  · rw [after, hcell] at h
    cases h

theorem movement_of_numbers {old new : Float} (hbefore : evaluation.before = some (.number old))
    (hafter : evaluation.after params = .number new) :
    evaluation.movement params = (new - old).abs := by
  rw [movement, hbefore, hafter]
  rfl

theorem movement_of_same (h : evaluation.before = some (evaluation.after params)) :
    evaluation.movement params = 0 := by
  rw [movement, h]
  rcases Formula.cellOf_cases params evaluation.source evaluation.row with
    ⟨x, hfinite, hcell⟩ | ⟨text, hcell⟩
  · rw [after, hcell]
    exact Binary.distance_self hfinite
  · rw [after, hcell]
    exact if_pos rfl

theorem movement_cases (params : Formula.Params) (evaluation : Evaluation) :
    (∃ old new, evaluation.before = some (.number old) ∧ evaluation.after params = .number new) ∨
      evaluation.before = some (evaluation.after params) ∨
      evaluation.movement params = Binary.infinity := by
  rw [movement]
  unfold Progress.movement
  split
  · rename_i old new hbefore hafter
    exact .inl ⟨old, new, hbefore, hafter⟩
  · rename_i old new hbefore hafter
    split
    · rename_i hsame
      rw [hbefore, hafter, hsame]
      exact .inr (.inl rfl)
    · exact .inr (.inr rfl)
  · exact .inr (.inr rfl)

theorem IsPassedOver.not_settles (h : evaluation.IsPassedOver params) :
    ¬ evaluation.Settles params tolerance := by
  obtain ⟨old, new, hbefore, hnan, hafter⟩ := h
  have hfinite : new.isFinite = true := isFinite_after hafter
  rintro (hsame | ⟨_, _, hbefore', hafter', hwithin⟩)
  · rw [hbefore, hafter, Option.some.injEq, Cell.number.injEq] at hsame
    rw [hsame, Binary.isNaN_eq_false_of_isFinite hfinite] at hnan
    cases hnan
  · rw [hbefore, Option.some.injEq, Cell.number.injEq] at hbefore'
    rw [hafter, Cell.number.injEq] at hafter'
    rw [← hbefore', ← hafter'] at hwithin
    have hnumber := (Binary.isNaN_eq_false_of_le hwithin).1
    rw [Binary.isNaN_distance hfinite, hnan] at hnumber
    cases hnumber

theorem movement_le_or_isNaN_iff (htolerance : 0 ≤ tolerance) :
    evaluation.movement params ≤ tolerance ∨ (evaluation.movement params).isNaN = true ↔
      evaluation.Settles params tolerance ∨ evaluation.IsPassedOver params ∨
        Binary.infinity ≤ tolerance := by
  constructor
  · rcases evaluation.movement_cases params with
      ⟨old, new, hbefore, hafter⟩ | hsame | hinfinite
    · rw [movement_of_numbers hbefore hafter, Binary.isNaN_distance (isFinite_after hafter)]
      rintro (hwithin | hnan)
      · exact .inl (.inr ⟨old, new, hbefore, hafter, hwithin⟩)
      · exact .inr (.inl ⟨old, new, hbefore, hnan, hafter⟩)
    · exact fun _ => .inl (.inl hsame)
    · rw [hinfinite]
      rintro (hwithin | hnan)
      · exact .inr (.inr hwithin)
      · cases hnan
  · rintro ((hsame | ⟨old, new, hbefore, hafter, hwithin⟩) | ⟨old, new, hbefore, hnan, hafter⟩ |
      hinfinite)
    · rw [movement_of_same hsame]
      exact .inl htolerance
    · rw [movement_of_numbers hbefore hafter]
      exact .inl hwithin
    · rw [movement_of_numbers hbefore hafter, Binary.isNaN_distance (isFinite_after hafter)]
      exact .inr hnan
    · cases hmovement : (evaluation.movement params).isNaN with
      | true => exact .inr rfl
      | false => exact .inl (Binary.le_trans (Binary.le_infinity hmovement) hinfinite)

end Evaluation

/-! ## Fields that were evaluated before -/

namespace Row

variable {params : Formula.Params}

theorem savable_get?_refreshAll {fields : List (String × String)} {row : Row} {key : String}
    (h : key ∈ fields.map (·.1) ∨ ∀ cell, row.get? key = some cell → cell.Savable) :
    ∀ cell, (row.refreshAll params fields).get? key = some cell → cell.Savable := by
  induction fields generalizing row with
  | nil => exact h.resolve_left List.not_mem_nil
  | cons field rest ih =>
      refine ih ?_
      by_cases hkey : key = field.1
      · refine .inr fun cell hcell => ?_
        rw [refresh, hkey, get?_set_self] at hcell
        exact Option.some.inj hcell ▸ Formula.savable_cellOf params field.2 row
      · rw [refresh, get?_set_of_ne row _ hkey]
        simpa [hkey] using h

theorem exists_before_of_mem_evaluations {fields : List (String × String)} {row : Row}
    {evaluation : Evaluation} (h : evaluation ∈ row.evaluations params fields) :
    ∃ before after, fields = before ++ (evaluation.field, evaluation.source) :: after ∧
      evaluation.row = row.refreshAll params before := by
  induction fields generalizing row with
  | nil => cases h
  | cons field rest ih =>
      rcases List.mem_cons.1 h with rfl | h
      · exact ⟨[], rest, rfl, rfl⟩
      · obtain ⟨before, after, rfl, hrow⟩ := ih h
        exact ⟨field :: before, after, rfl, hrow⟩

end Row

section

variable {schema : Schema} {context : Context} {row : Row}

/-- After the first sweep the blocked fields hold what their formulas left. -/
theorem not_isPassedOver_of_two_le {params : Formula.Params} {sweep : Nat} (hsweep : 2 ≤ sweep)
    {evaluation : Evaluation} (h : evaluation ∈ schema.sweepLog params row sweep) :
    ¬ evaluation.IsPassedOver params := by
  rintro ⟨old, new, hbefore, hnan, -⟩
  obtain ⟨before, -, -, hrow⟩ := Row.exists_before_of_mem_evaluations h
  have hswept : evaluation.field ∈ (schema.passFields row (sweep - 1)).map (·.1) := by
    rw [schema.passFields_eq_append, List.map_append]
    refine List.mem_append_right _ (List.mem_map.2 ⟨(evaluation.field, evaluation.source), ?_, rfl⟩)
    exact List.mem_flatten.2
      ⟨_, List.mem_replicate.2 ⟨by omega, rfl⟩, Row.mem_of_mem_evaluations h⟩
  have hsavable : (Cell.number old).Savable := by
    rw [Evaluation.before, hrow] at hbefore
    exact Row.savable_get?_refreshAll (.inr (Row.savable_get?_refreshAll (.inl hswept))) _ hbefore
  rw [Binary.isNaN_eq_false_of_isFinite (Cell.savable_number_iff.1 hsavable)] at hnan
  cases hnan

/-- Convergence is reported exactly if every field of the last sweep settled or
was passed over, unless every distance is tolerated.  From the second sweep on
no field is passed over. -/
theorem converged_iff {report : CycleReport}
    (h : (recompute schema context row).2.cycle = some report) :
    (report.converged = true ↔ 0 ≤ context.iteration.maxChange ∧
      ∀ evaluation ∈ schema.sweepLog context.params row report.iterations,
        evaluation.Settles context.params context.iteration.maxChange ∨
          evaluation.IsPassedOver context.params ∨
          Binary.infinity ≤ context.iteration.maxChange) ∧
      (2 ≤ report.iterations →
        ∀ evaluation ∈ schema.sweepLog context.params row report.iterations,
          ¬ evaluation.IsPassedOver context.params) := by
  rw [recompute_cycle] at h
  obtain ⟨-, -, hconverged⟩ := formulaPass_snd h
  refine ⟨?_, fun hsweep _ => not_isPassedOver_of_two_le hsweep⟩
  rw [hconverged, Schema.sweepMovement, largestMovement_le_iff, List.forall_mem_map]
  refine and_congr_right fun htolerance => forall₂_congr fun evaluation _ => ?_
  exact Evaluation.movement_le_or_isNaN_iff htolerance

def nanRow : Row :=
  (({ id := "r" } : Row).setNumber "a" Binary.notANumber).setNumber "b" 0

def onceOnly : Context where
  iteration := { enabled := false }

theorem converged_iff_nanRow :
    (recompute facingPair onceOnly nanRow).2.cycle = some ⟨["a", "b"], 1, true⟩ ∧
      0 ≤ onceOnly.iteration.maxChange ∧
      ∀ evaluation ∈ facingPair.sweepLog ∅ nanRow 1,
        evaluation.Settles ∅ onceOnly.iteration.maxChange ∨ evaluation.IsPassedOver ∅ ∨
          Binary.infinity ≤ onceOnly.iteration.maxChange := by
  have hcycle : (recompute facingPair onceOnly nanRow).2.cycle = some ⟨["a", "b"], 1, true⟩ := by
    decide +kernel
  exact ⟨hcycle, (converged_iff hcycle).1.1 rfl⟩

/-- One field gets a number in place of what is none, and the sweep has converged. -/
theorem converged_past_nan :
    (recompute facingPair onceOnly nanRow).2.cycle = some ⟨["a", "b"], 1, true⟩ ∧
      ∃ evaluation ∈ facingPair.sweepLog ∅ nanRow 1,
        evaluation.IsPassedOver ∅ ∧
          ¬ evaluation.Settles ∅ onceOnly.iteration.maxChange := by
  have hblocked : facingPair.blockedFormulas nanRow = [("a", "{b}"), ("b", "{a}")] := by
    decide +kernel
  have hfirst : (⟨"a", "{b}", nanRow⟩ : Evaluation) ∈ facingPair.sweepLog ∅ nanRow 1 := by
    have hpass : facingPair.passFields nanRow 0 = [] := by decide +kernel
    rw [Schema.sweepLog, hblocked, Nat.sub_self, hpass]
    exact List.mem_cons_self
  have hpassed : (⟨"a", "{b}", nanRow⟩ : Evaluation).IsPassedOver ∅ := by
    have hbefore : nanRow.get? "a" = some (.number Binary.notANumber) := by
      rw [nanRow, Row.setNumber, Row.get?_set_of_ne _ _ (by decide), Row.setNumber,
        Row.get?_set_self]
    have hnumber : (Formula.cellOf ∅ "{b}" nanRow).text? = none := by decide +kernel
    rcases Formula.cellOf_cases ∅ "{b}" nanRow with ⟨new, -, hafter⟩ | ⟨text, hafter⟩
    · exact ⟨_, new, hbefore, rfl, hafter⟩
    · rw [hafter] at hnumber
      cases hnumber
  exact ⟨by decide +kernel, _, hfirst, hpassed, hpassed.not_settles⟩

end

end Drapery
