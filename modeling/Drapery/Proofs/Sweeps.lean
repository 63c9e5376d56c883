import Drapery.Proofs.BlockedFormulas
import Drapery.Proofs.DoubleOrder
import Drapery.Proofs.SavedRow

/-!
# Sweeps over the blocked fields

Each sweep evaluates the blocked formulas once more and has a movement, the
largest of those of its evaluations.  Sweeping stops after the first sweep whose
movement is within the tolerance, or when there were as many as allowed.  A
movement that is not a number does not count, and comes only from a field that
held what is not a number; a formula never leaves such a cell.
-/

namespace Drapery

/-! ## The largest movement -/

def largestMovement (movements : List Float) : Float := movements.foldl largerMovement 0

section

variable {largest movement tolerance : Float}

theorem isNaN_largerMovement (hlargest : largest.isNaN = false) (movement : Float) :
    (largerMovement largest movement).isNaN = false := by
  rw [largerMovement]
  split
  · rename_i hlt
    exact (Binary.isNaN_eq_false_of_lt hlt).2
  · exact hlargest

theorem largerMovement_le_iff (hlargest : largest.isNaN = false) :
    largerMovement largest movement ≤ tolerance ↔
      largest ≤ tolerance ∧ (movement ≤ tolerance ∨ movement.isNaN = true) := by
  rw [largerMovement]
  split
  · rename_i hlt
    have hnumber := (Binary.isNaN_eq_false_of_lt hlt).2
    constructor
    · exact fun hmovement => ⟨Binary.le_trans (Binary.le_of_lt hlt) hmovement, .inl hmovement⟩
    · rintro ⟨-, hmovement | hnan⟩
      · exact hmovement
      · rw [hnumber] at hnan
        cases hnan
  · rename_i hle
    cases hnan : movement.isNaN with
    | true => simp
    | false =>
        rw [Binary.not_lt_iff_le hlargest hnan] at hle
        exact ⟨fun hlargest => ⟨hlargest, .inl (Binary.le_trans hle hlargest)⟩, And.left⟩

theorem foldl_largerMovement_le_iff (hlargest : largest.isNaN = false) (movements : List Float) :
    movements.foldl largerMovement largest ≤ tolerance ↔
      largest ≤ tolerance ∧
        ∀ movement ∈ movements, movement ≤ tolerance ∨ movement.isNaN = true := by
  induction movements generalizing largest with
  | nil => simp
  | cons movement rest ih =>
      rw [List.foldl_cons, ih (isNaN_largerMovement hlargest _), largerMovement_le_iff hlargest,
        List.forall_mem_cons, and_assoc]

theorem isNaN_foldl_largerMovement (hlargest : largest.isNaN = false) (movements : List Float) :
    (movements.foldl largerMovement largest).isNaN = false := by
  induction movements generalizing largest with
  | nil => exact hlargest
  | cons movement rest ih => exact ih (isNaN_largerMovement hlargest _)

end

theorem isNaN_largestMovement (movements : List Float) :
    (largestMovement movements).isNaN = false := isNaN_foldl_largerMovement rfl movements

theorem largestMovement_le_iff {movements : List Float} {tolerance : Float} :
    largestMovement movements ≤ tolerance ↔
      0 ≤ tolerance ∧
        ∀ movement ∈ movements, movement ≤ tolerance ∨ movement.isNaN = true :=
  foldl_largerMovement_le_iff rfl movements

/-! ## How far an evaluation moves its field -/

namespace Evaluation

def before (evaluation : Evaluation) : Option Cell := evaluation.row.get? evaluation.field

def after (params : Formula.Params) (evaluation : Evaluation) : Cell :=
  Formula.cellOf params evaluation.source evaluation.row

def movement (params : Formula.Params) (evaluation : Evaluation) : Float :=
  Progress.movement evaluation.before (evaluation.after params)

end Evaluation

namespace Progress

variable {params : Formula.Params} {fields : List (String × Formula)}

theorem foldl_sweep_snd (hparse : ∀ field ∈ fields, Formula.parse field.2.source = .ok field.2)
    (progress : Progress) (largest : Float) :
    (fields.foldl (fun (progress, largest) (key, formula) =>
      ((progress.assign params key formula,
        largerMovement largest (progress.assignMovement params key formula)) : Progress × Float))
          (progress, largest)).2 =
      ((progress.row.evaluations params (sources fields)).map
        (Evaluation.movement params)).foldl largerMovement largest := by
  induction fields generalizing progress largest with
  | nil => rfl
  | cons field rest ih =>
      obtain ⟨key, formula⟩ := field
      have hfirst : Formula.parse formula.source = .ok formula := hparse _ List.mem_cons_self
      have hmovement : progress.assignMovement params key formula =
          Evaluation.movement params ⟨key, formula.source, progress.row⟩ := by
        rw [assignMovement, Evaluation.movement, Evaluation.after, Formula.cellOf_of_parse hfirst]
        rfl
      rw [List.foldl_cons, ih fun other hother => hparse other (List.mem_cons_of_mem _ hother),
        assign_eq_advance hfirst, hmovement]
      rfl

theorem sweep_snd (hparse : ∀ field ∈ fields, Formula.parse field.2.source = .ok field.2)
    (progress : Progress) :
    (progress.sweep params fields).2 =
      largestMovement ((progress.row.evaluations params (sources fields)).map
        (Evaluation.movement params)) :=
  foldl_sweep_snd hparse progress 0

end Progress

theorem Row.refreshAll_flatten_replicate {params : Formula.Params}
    (fields : List (String × String)) (sweeps : Nat) (row : Row) :
    row.refreshAll params (List.replicate sweeps fields).flatten =
      (refreshAll params fields)^[sweeps] row := by
  induction sweeps generalizing row with
  | zero => rfl
  | succ sweeps ih =>
      rw [List.replicate_succ, List.flatten_cons, refreshAll_append, ih,
        Function.iterate_succ_apply]

/-! ## The last sweep -/

/-- Sweeping goes on while the sweeps move by more than the tolerance, at most up to the bound.
Sweeps are counted from one. -/
structure IsLastSweep (tolerance : Float) (movement : Nat → Float) (bound last : Nat) : Prop where
  one_le : 1 ≤ last
  le_bound : last ≤ bound
  earlier : ∀ sweep, 1 ≤ sweep → sweep < last → tolerance < movement sweep
  stops : last = bound ∨ ¬ tolerance < movement last

namespace IsLastSweep

variable {tolerance : Float} {movement : Nat → Float} {bound last other : Nat}

theorem not_lt (h : IsLastSweep tolerance movement bound last)
    (hother : IsLastSweep tolerance movement bound other) : ¬ last < other := by
  intro hlt
  have hmoves := hother.earlier last h.one_le hlt
  have hbound := hother.le_bound
  rcases h.stops with rfl | hstops
  · omega
  · exact hstops hmoves

theorem unique (h : IsLastSweep tolerance movement bound last)
    (hother : IsLastSweep tolerance movement bound other) : last = other :=
  Nat.le_antisymm (Nat.le_of_not_lt (hother.not_lt h)) (Nat.le_of_not_lt (h.not_lt hother))

/-- Where movements compare with the tolerance, the last sweep is the first within it. -/
theorem isLeast_or_eq_bound (h : IsLastSweep tolerance movement bound last)
    (htolerance : tolerance.isNaN = false) (hmovement : ∀ sweep, (movement sweep).isNaN = false) :
    IsLeast {sweep | (1 ≤ sweep ∧ sweep ≤ bound) ∧ movement sweep ≤ tolerance} last ∨
      last = bound ∧ ∀ sweep, 1 ≤ sweep → sweep ≤ bound → ¬ movement sweep ≤ tolerance := by
  have hearlier : ∀ sweep, 1 ≤ sweep → sweep < last → ¬ movement sweep ≤ tolerance :=
    fun sweep hone hlt => Binary.not_le_of_lt (h.earlier sweep hone hlt)
  by_cases hlast : movement last ≤ tolerance
  · refine .inl ⟨⟨⟨h.one_le, h.le_bound⟩, hlast⟩, ?_⟩
    rintro sweep ⟨⟨hone, -⟩, hwithin⟩
    exact Nat.le_of_not_lt fun hlt => hearlier sweep hone hlt hwithin
  · have hbound : last = bound := by
      refine h.stops.resolve_right fun hstops => hlast ?_
      rwa [Binary.not_lt_iff_le htolerance (hmovement last)] at hstops
    refine .inr ⟨hbound, fun sweep hone hle => ?_⟩
    rcases Nat.lt_or_eq_of_le (hbound ▸ hle) with hlt | rfl
    · exact hearlier sweep hone hlt
    · exact hlast

end IsLastSweep

def Iteration.bound (iteration : Iteration) : Nat :=
  if iteration.enabled then max 1 iteration.maxIterations else 1

namespace Progress

variable {params : Formula.Params} {fields : List (String × Formula)} {start : Progress}

def movementOf (params : Formula.Params) (fields : List (String × Formula)) (start : Progress)
    (sweep : Nat) : Float :=
  (((run params fields)^[sweep - 1] start).sweep params fields).2

theorem sweep_iterate (sweeps : Nat) :
    ((run params fields)^[sweeps] start).sweep params fields =
      ((run params fields)^[sweeps + 1] start, movementOf params fields start (sweeps + 1)) := by
  refine Prod.ext ?_ rfl
  rw [sweep_fst, Function.iterate_succ_apply']

theorem settle_snd (params : Formula.Params) (fields : List (String × Formula))
    (start : Progress) (maxChange : Float) (more sweeps : Nat) :
    ∃ last, (settle params fields maxChange more ((run params fields)^[sweeps] start)
        (movementOf params fields start sweeps)).2 =
          (last - sweeps, movementOf params fields start last) ∧
      sweeps ≤ last ∧ last ≤ sweeps + more ∧
      (∀ sweep, sweeps ≤ sweep → sweep < last →
        maxChange < movementOf params fields start sweep) ∧
      (last = sweeps + more ∨ ¬ maxChange < movementOf params fields start last) := by
  induction more generalizing sweeps with
  | zero =>
      refine ⟨sweeps, ?_, Nat.le_refl _, Nat.le_refl _, fun sweep hle hlt => ?_, .inl rfl⟩
      · rw [settle, Nat.sub_self]
      · omega
  | succ more ih =>
      rw [settle]
      split
      · rename_i hmoves
        obtain ⟨last, hresult, hle, hbound, hearlier, hstops⟩ := ih (sweeps + 1)
        refine ⟨last, ?_, by omega, by omega, fun sweep hsweep hlt => ?_, ?_⟩
        · simp only [sweep_iterate, hresult, Prod.mk.injEq, and_true]
          omega
        · rcases Nat.lt_or_eq_of_le hsweep with hsweep | rfl
          · exact hearlier sweep hsweep hlt
          · exact hmoves
        · exact hstops.imp_left fun hlast => by omega
      · rename_i hstops
        refine ⟨sweeps, ?_, Nat.le_refl _, by omega, fun sweep hle hlt => ?_, .inr hstops⟩
        · rw [Nat.sub_self]
        · omega

theorem iterate_snd (context : Context) (cycle : List String)
    (fields : List (String × Formula)) (start : Progress) :
    let report := (start.iterate context cycle fields).2
    let movement := movementOf context.params fields start
    report.fields = cycle ∧
      IsLastSweep context.iteration.maxChange movement context.iteration.bound
        report.iterations ∧
      (report.converged = true ↔ movement report.iterations ≤ context.iteration.maxChange) := by
  obtain ⟨last, hresult, hone, hbound, hearlier, hstops⟩ :=
    settle_snd context.params fields start context.iteration.maxChange
      (if context.iteration.enabled then context.iteration.maxIterations - 1 else 0) 1
  have hlast : last - 1 + 1 = last := Nat.sub_add_cancel hone
  have hfirst : start.sweep context.params fields =
      ((run context.params fields)^[1] start, movementOf context.params fields start 1) :=
    sweep_iterate 0
  have hmore : 1 + (if context.iteration.enabled then context.iteration.maxIterations - 1 else 0) =
      context.iteration.bound := by
    rw [Iteration.bound]
    split <;> omega
  rw [hmore] at hbound hstops
  simp only [iterate, hfirst, hresult, hlast, decide_eq_true_eq]
  exact ⟨trivial, ⟨hone, hbound, hearlier, hstops⟩, trivial⟩

end Progress

namespace Schema

def sweepLog (schema : Schema) (params : Formula.Params) (row : Row) (sweep : Nat) :
    List Evaluation :=
  (row.refreshAll params (schema.passFields row (sweep - 1))).evaluations params
    (schema.blockedFormulas row)

def sweepMovement (schema : Schema) (params : Formula.Params) (row : Row) (sweep : Nat) : Float :=
  largestMovement ((schema.sweepLog params row sweep).map (Evaluation.movement params))

theorem movementOf_eq (schema : Schema) (params : Formula.Params) (row : Row) (sweep : Nat) :
    Progress.movementOf params (fieldsAt (readable (schema.formulasInForce row))
        (Plan.build (readable (schema.formulasInForce row))).blocked)
      ((⟨row, []⟩ : Progress).advance params (schema.passFields row 0)) sweep =
        schema.sweepMovement params row sweep := by
  rw [Progress.movementOf, Progress.iterate_run_eq_advance fun _ => parse_of_mem_fieldsAt,
    ← Progress.advance_append, Progress.sweep_snd fun _ => parse_of_mem_fieldsAt, sweepMovement,
    sweepLog, schema.passFields_eq_append row (sweep - 1)]
  rfl

end Schema

section

variable {schema : Schema} {context : Context} {row : Row}

theorem recompute_cycle (schema : Schema) (context : Context) (row : Row) :
    (recompute schema context row).2.cycle = (formulaPass schema context row).2 := by
  rw [recompute_eq]

theorem formulaPass_snd_isSome_iff :
    (formulaPass schema context row).2.isSome ↔
      (Plan.build (readable (schema.formulasInForce row))).blocked ≠ [] := by
  rw [formulaPass_eq, ne_eq, ← List.isEmpty_iff, ← Plan.isAcyclic]
  simp only
  split <;> simp_all

theorem formulaPass_snd {report : CycleReport}
    (h : (formulaPass schema context row).2 = some report) :
    report.fields = (Plan.build (readable (schema.formulasInForce row))).cycle ∧
      IsLastSweep context.iteration.maxChange (schema.sweepMovement context.params row)
        context.iteration.bound report.iterations ∧
      (report.converged = true ↔
        schema.sweepMovement context.params row report.iterations ≤
          context.iteration.maxChange) := by
  rw [formulaPass_eq] at h
  simp only at h
  split at h
  · cases h
  · have hiterate := Progress.iterate_snd context
      (Plan.build (readable (schema.formulasInForce row))).cycle
      (fieldsAt (readable (schema.formulasInForce row))
        (Plan.build (readable (schema.formulasInForce row))).blocked)
      ((⟨row, []⟩ : Progress).advance context.params (schema.passFields row 0))
    rw [Option.some.inj h] at hiterate
    have hmovement := funext (schema.movementOf_eq context.params row)
    simpa only [hmovement] using hiterate

theorem formulaPass_snd_isSome_iff_blockedFormulas :
    (formulaPass schema context row).2.isSome ↔ schema.blockedFormulas row ≠ [] := by
  rw [formulaPass_snd_isSome_iff, ne_eq, ne_eq, Schema.blockedFormulas_eq_nil_iff]

theorem formulaPass_row_of_cycle {report : CycleReport}
    (h : (formulaPass schema context row).2 = some report) :
    (formulaPass schema context row).1.row =
      (Row.refreshAll context.params (schema.blockedFormulas row))^[report.iterations]
        (row.refreshAll context.params (schema.passFields row 0)) := by
  rw [formulaPass_eq_advance, h, schema.passFields_eq_append row, Progress.advance_append]
  exact Row.refreshAll_flatten_replicate _ _ _

/-- Blocked fields are swept once, or as long as they move by more than the
tolerance and sweeps are left; the report counts the sweeps. -/
theorem recompute_sweeps (schema : Schema) (context : Context) (row : Row)
    (htolerance : context.iteration.maxChange.isNaN = false) :
    ((recompute schema context row).2.cycle.isSome ↔
        (Plan.build (readable (schema.formulasInForce row))).blocked ≠ []) ∧
      ∀ report, (recompute schema context row).2.cycle = some report →
        (context.iteration.enabled = false → report.iterations = 1) ∧
          (context.iteration.enabled = true →
            IsLeast {sweep | (1 ≤ sweep ∧ sweep ≤ max 1 context.iteration.maxIterations) ∧
                schema.sweepMovement context.params row sweep ≤ context.iteration.maxChange}
              report.iterations ∨
            report.iterations = max 1 context.iteration.maxIterations ∧
              ∀ sweep, 1 ≤ sweep → sweep ≤ max 1 context.iteration.maxIterations →
                ¬ schema.sweepMovement context.params row sweep ≤ context.iteration.maxChange) ∧
          (report.converged = true ↔
            schema.sweepMovement context.params row report.iterations ≤
              context.iteration.maxChange) ∧
          (formulaPass schema context row).1.row =
            (Row.refreshAll context.params (schema.blockedFormulas row))^[report.iterations]
              (row.refreshAll context.params (schema.passFields row 0)) ∧
          ((schema.blockedFormulas row).map (·.1)).Sublist schema.keys := by
  rw [recompute_cycle]
  refine ⟨formulaPass_snd_isSome_iff, fun report hreport => ?_⟩
  obtain ⟨-, hlast, hconverged⟩ := formulaPass_snd hreport
  refine ⟨fun hdisabled => ?_, fun henabled => ?_, hconverged, formulaPass_row_of_cycle hreport,
    schema.keys_blockedFormulas_sublist row⟩
  · have hbound : context.iteration.bound = 1 := by simp [Iteration.bound, hdisabled]
    have hle := hlast.le_bound
    rw [hbound] at hle
    exact Nat.le_antisymm hle hlast.one_le
  · have hbound : context.iteration.bound = max 1 context.iteration.maxIterations := by
      simp [Iteration.bound, henabled]
    rw [← hbound]
    exact hlast.isLeast_or_eq_bound htolerance fun _ => isNaN_largestMovement _

def facingPair : Schema where
  name := "grid"
  columns := [{ key := "a", formula := some "{b}" }, { key := "b", formula := some "{a}" }]

def unequalRow : Row := ((({ id := "r" } : Row).setNumber "a" 1).setNumber "b" 2)

theorem recompute_sweeps_facingPair :
    ({} : Context).iteration.maxChange.isNaN = false ∧
      (recompute facingPair {} unequalRow).2.cycle = some ⟨["a", "b"], 2, true⟩ ∧
      IsLeast {sweep | (1 ≤ sweep ∧ sweep ≤ 100) ∧
        facingPair.sweepMovement ∅ unequalRow sweep ≤ 0.001} 2 := by
  have htolerance : ({} : Context).iteration.maxChange.isNaN = false := by decide +kernel
  have hcycle : (recompute facingPair {} unequalRow).2.cycle = some ⟨["a", "b"], 2, true⟩ := by
    decide +kernel
  refine ⟨htolerance, hcycle, ?_⟩
  obtain ⟨-, hreport⟩ := recompute_sweeps facingPair {} unequalRow htolerance
  obtain ⟨-, henabled, -⟩ := hreport _ hcycle
  rcases henabled rfl with hleast | ⟨hbound, -⟩
  · exact hleast
  · cases hbound

end

end Drapery
