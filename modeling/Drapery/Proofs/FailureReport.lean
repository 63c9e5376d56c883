import Drapery.Proofs.BlockedFormulas
import Drapery.Proofs.RecomputedRow

/-!
# The failures that a recomputation reports

A field may be evaluated many times: in the order of the plan, in every sweep of
the blocked fields, and once more if it is a price.  The report has one entry
for each field that failed at any of these times, with its first failure.  An
entry is not withdrawn, so a field that is evaluated again may have succeeded
since.
-/

namespace Drapery

/-! ## The first failure of each field -/

namespace Failure

theorem find?_firsts (failures : List Failure) (field : String) :
    (firsts failures).find? (·.field == field) = failures.find? (·.field == field) := by
  induction failures with
  | nil => rfl
  | cons failure rest ih =>
      rw [firsts, List.find?_cons, List.find?_cons]
      cases hfield : failure.field == field with
      | true => rfl
      | false =>
          have hother : ∀ other : Failure,
              decide ((other.field != failure.field) = true ∧ (other.field == field) = true) =
                (other.field == field) := by
            intro other
            by_cases hsame : other.field = field
            · simp [hsame, Ne.symm (beq_eq_false_iff_ne.1 hfield)]
            · simp [hsame]
          rw [List.find?_filter, ← ih]
          exact congrArg (List.find? · (firsts rest)) (funext hother)

theorem nodup_fields_firsts (failures : List Failure) :
    ((firsts failures).map (·.field)).Nodup := by
  induction failures with
  | nil => exact List.nodup_nil
  | cons failure rest ih =>
      rw [firsts, List.map_cons, List.nodup_cons]
      constructor
      · simp
      · exact (List.filter_sublist.map _).nodup ih

theorem mem_firsts {failures : List Failure} {failure : Failure} :
    failure ∈ firsts failures ↔ failures.find? (·.field == failure.field) = some failure := by
  rw [← find?_firsts]
  exact ⟨find?_key_of_mem (nodup_fields_firsts failures), List.mem_of_find?_eq_some⟩

end Failure

/-! ## First and last evaluations of a field -/

namespace Evaluation

variable {params : Formula.Params} {field : String} {log : List Evaluation}

def firstFailure? (params : Formula.Params) (log : List Evaluation) (field : String) :
    Option Failure :=
  (log.filterMap (failure? params)).find? (·.field == field)

def lastOf? (log : List Evaluation) (field : String) : Option Evaluation :=
  log.reverse.find? (·.field == field)

theorem lastOf?_append (first rest : List Evaluation) (field : String) :
    lastOf? (first ++ rest) field = (lastOf? rest field).or (lastOf? first field) := by
  rw [lastOf?, List.reverse_append, List.find?_append, lastOf?, lastOf?]

theorem lastOf?_eq_none : lastOf? log field = none ↔ field ∉ log.map (·.field) := by
  simp [lastOf?]

theorem mem_of_lastOf? {evaluation : Evaluation} (h : lastOf? log field = some evaluation) :
    evaluation ∈ log ∧ evaluation.field = field :=
  ⟨List.mem_reverse.1 (List.mem_of_find?_eq_some h), by simpa using List.find?_some h⟩

theorem exists_of_firstFailure? {failure : Failure}
    (h : firstFailure? params log field = some failure) :
    ∃ evaluation ∈ log, evaluation.failure? params = some failure ∧ evaluation.field = field := by
  obtain ⟨evaluation, hmem, hfailure⟩ := List.mem_filterMap.1 (List.mem_of_find?_eq_some h)
  have hfield : failure.field = field := by simpa using List.find?_some h
  exact ⟨evaluation, hmem, hfailure, by rw [← hfield, (failure?_eq_some_iff.1 hfailure).1.1]⟩

theorem exists_firstFailure? {evaluation : Evaluation} {error : FormulaError}
    (hmem : evaluation ∈ log) (herror : evaluation.result params = .error error) :
    ∃ failure, firstFailure? params log evaluation.field = some failure := by
  have hfailure : evaluation.failure? params =
      some ⟨evaluation.field, evaluation.source, error⟩ :=
    failure?_eq_some_iff.2 ⟨⟨rfl, rfl⟩, herror⟩
  have hfailed := List.mem_filterMap.2 ⟨evaluation, hmem, hfailure⟩
  exact Option.isSome_iff_exists.1 (List.find?_isSome.2 ⟨_, hfailed, beq_self_eq_true _⟩)

theorem eq_of_field_eq {log : List Evaluation} {field : String}
    (hcount : (log.map (·.field)).count field ≤ 1) {a b : Evaluation} (ha : a ∈ log)
    (hb : b ∈ log) (hafield : a.field = field) (hbfield : b.field = field) : a = b := by
  have hlength : (log.filter (·.field == field)).length ≤ 1 := by
    rw [List.count, List.countP_map] at hcount
    rwa [← List.countP_eq_length_filter]
  have hmem : ∀ evaluation ∈ log, evaluation.field = field →
      evaluation ∈ log.filter (·.field == field) := fun evaluation hmem hfield =>
    List.mem_filter.2 ⟨hmem, by simp [hfield]⟩
  have hma := hmem a ha hafield
  have hmb := hmem b hb hbfield
  cases hfilter : log.filter (·.field == field) with
  | nil =>
      rw [hfilter] at hma
      cases hma
  | cons first rest =>
      rw [hfilter] at hlength hma hmb
      have hrest : rest = [] := by simpa using hlength
      rw [hrest, List.mem_singleton] at hma hmb
      rw [hma, hmb]

theorem get?_refreshAll_of_lastOf? {fields : List (String × String)} {row : Row}
    {last : Evaluation} {error : FormulaError}
    (hlast : lastOf? (row.evaluations params fields) field = some last)
    (herror : last.result params = .error error) :
    (row.refreshAll params fields).get? field = some (.number 0) := by
  induction fields generalizing row with
  | nil => cases hlast
  | cons first rest ih =>
      set refreshed := row.refresh params first with hrefreshed
      have hlog : row.evaluations params (first :: rest) =
          [⟨first.1, first.2, row⟩] ++ refreshed.evaluations params rest := rfl
      rw [hlog, lastOf?_append] at hlast
      change (refreshed.refreshAll params rest).get? field = some (.number 0)
      cases hrest : lastOf? (refreshed.evaluations params rest) field with
      | some later =>
          rw [hrest, Option.some_or] at hlast
          exact ih (hrest.trans hlast)
      | none =>
          rw [hrest, Option.none_or] at hlast
          obtain ⟨hmem, rfl⟩ := mem_of_lastOf? hlast
          obtain rfl := List.mem_singleton.1 hmem
          have hkept : first.1 ∉ rest.map (·.1) := by
            rwa [lastOf?_eq_none, Row.fields_evaluations] at hrest
          -- no later field writes the cell
          rw [(Row.agreeOff_refreshAll rest refreshed).cells _ hkept, hrefreshed, Row.refresh,
            Row.get?_set_self, Formula.cellOf]
          rw [result] at herror
          simp only at herror
          rw [herror]
          rfl

end Evaluation

/-! ## The evaluations of a recomputation -/

namespace Schema

def repriced (schema : Schema) (context : Context) (row : Row) : List (String × String) :=
  if Product.isTravel (ruledRow schema context row) then []
  else schema.formulasOf row (repricedKeys (ruledRow schema context row))

/-- Every evaluation of a recomputation with the row that it saw: those of the
formula pass, and those of the prices once the rules are applied. -/
def evaluations (schema : Schema) (context : Context) (row : Row) : List Evaluation :=
  row.evaluations context.params
      (schema.passFields row (sweepCount (formulaPass schema context row).2)) ++
    (sharedRow context (ruledRow schema context row)).evaluations context.params
      (schema.repriced context row)

def blockedKeys (schema : Schema) (row : Row) : List String :=
  let fields := readable (schema.formulasInForce row)
  (fieldsAt fields (Plan.build fields).blocked).map (·.1)

end Schema

section

variable {schema : Schema} {context : Context} {row : Row} {field : String}

theorem failures_recompute (schema : Schema) (context : Context) (row : Row) :
    (recompute schema context row).2.failures =
      Failure.firsts ((schema.evaluations context row).filterMap
        (Evaluation.failure? context.params)) := by
  have hpass : (formulaPass schema context row).1.failures =
      (row.evaluations context.params (schema.passFields row
        (sweepCount (formulaPass schema context row).2))).filterMap
          (Evaluation.failure? context.params) := by
    rw [formulaPass_eq_advance, Progress.advance, List.nil_append]
  rw [recompute_eq, Schema.evaluations, List.filterMap_append, ← hpass, Schema.repriced]
  cases htravel : Product.isTravel (ruledRow schema context row) with
  | true =>
      rw [finishRow, if_pos htravel, if_pos rfl, Row.evaluations, List.filterMap_nil,
        List.append_nil]
  | false =>
      rw [finishRow_eq_advance _ htravel, if_neg Bool.false_ne_true, Progress.advance,
        schema.formulasOf_congr (overrides_ruledRow schema context row)]

theorem formula?_of_mem_evaluations {evaluation : Evaluation}
    (h : evaluation ∈ schema.evaluations context row) :
    schema.formula? row evaluation.field = some evaluation.source := by
  rcases List.mem_append.1 h with h | h
  · have hfield := Schema.mem_formulasInForce_of_mem_passFields (Row.mem_of_mem_evaluations h)
    exact (Schema.mem_formulasInForce.1 hfield).2
  · have hfield := Row.mem_of_mem_evaluations h
    rw [Schema.repriced] at hfield
    split at hfield
    · cases hfield
    · exact (Schema.mem_formulasOf.1 hfield).2

theorem sweepCount_pos (context : Context)
    (hcyclic : ¬ (Plan.build (readable (schema.formulasInForce row))).isAcyclic) :
    0 < sweepCount (formulaPass schema context row).2 := by
  rw [formulaPass]
  simp only [if_neg hcyclic, sweepCount, Option.elim_some, Progress.iterate]
  exact Nat.succ_pos _

theorem mem_passFields (context : Context) {field : String × String}
    (h : field ∈ schema.formulasInForce row) :
    field ∈ schema.passFields row (sweepCount (formulaPass schema context row).2) := by
  rw [← (schema.passFields_zero_append_blocked_perm row).mem_iff, List.mem_append] at h
  rw [schema.passFields_eq_append, List.mem_append]
  refine h.imp_right fun hblocked => ?_
  -- a blocked formula needs a sweep, and there is one at least
  have hcyclic : ¬ (Plan.build (readable (schema.formulasInForce row))).isAcyclic := by
    rw [Plan.isAcyclic, List.isEmpty_iff, ← Schema.blockedFormulas_eq_nil_iff]
    exact List.ne_nil_of_mem hblocked
  exact List.mem_flatten.2
    ⟨_, List.mem_replicate.2 ⟨(sweepCount_pos context hcyclic).ne', rfl⟩, hblocked⟩

theorem mem_failures_recompute {failure : Failure} :
    failure ∈ (recompute schema context row).2.failures ↔
      Evaluation.firstFailure? context.params (schema.evaluations context row) failure.field =
        some failure := by
  rw [failures_recompute, Failure.mem_firsts, Evaluation.firstFailure?]

theorem existsUnique_failure {evaluation : Evaluation} {error : FormulaError}
    (hmem : evaluation ∈ schema.evaluations context row)
    (herror : evaluation.result context.params = .error error) :
    ∃! failure, failure ∈ (recompute schema context row).2.failures ∧
      failure.field = evaluation.field := by
  obtain ⟨failure, hfirst⟩ := Evaluation.exists_firstFailure? hmem herror
  have hfield : failure.field = evaluation.field := by simpa using List.find?_some hfirst
  refine ⟨failure, ⟨mem_failures_recompute.2 (by rw [hfield, hfirst]), hfield⟩, ?_⟩
  rintro other ⟨hother, hsame⟩
  rw [mem_failures_recompute, hsame, hfirst] at hother
  exact (Option.some.inj hother).symm

theorem formula?_of_mem_failures {failure : Failure}
    (h : failure ∈ (recompute schema context row).2.failures) :
    schema.formula? row failure.field = some failure.formula := by
  obtain ⟨evaluation, hmem, hfailure, -⟩ :=
    Evaluation.exists_of_firstFailure? (mem_failures_recompute.1 h)
  obtain ⟨⟨hfield, hsource⟩, -⟩ := Evaluation.failure?_eq_some_iff.1 hfailure
  rw [← hfield, ← hsource]
  exact formula?_of_mem_evaluations hmem

theorem exists_mem_evaluations_of_formula {field : String × String}
    (h : field ∈ schema.formulasInForce row ++ schema.repriced context row) :
    ∃ evaluation ∈ schema.evaluations context row,
      evaluation.field = field.1 ∧ evaluation.source = field.2 := by
  rcases List.mem_append.1 h with h | h
  · obtain ⟨evaluation, hmem, hfield⟩ := Row.exists_mem_evaluations context.params
      (mem_passFields context h) row
    exact ⟨evaluation, List.mem_append_left _ hmem, hfield⟩
  · obtain ⟨evaluation, hmem, hfield⟩ := Row.exists_mem_evaluations context.params h
      (sharedRow context (ruledRow schema context row))
    exact ⟨evaluation, List.mem_append_right _ hmem, hfield⟩

/-! ## Fields that are evaluated again -/

theorem count_passFields_le_one (hcolumn : schema.keys.count field ≤ 1)
    (hblocked : field ∉ schema.blockedKeys row) (sweeps : Nat) :
    ((schema.passFields row sweeps).map (·.1)).count field ≤ 1 := by
  have hswept : field ∉
      ((List.replicate sweeps (schema.blockedFormulas row)).flatten).map (·.1) := by
    intro hmem
    obtain ⟨entry, hentry, rfl⟩ := List.mem_map.1 hmem
    obtain ⟨_, hsweep, hentry⟩ := List.mem_flatten.1 hentry
    rw [List.eq_of_mem_replicate hsweep] at hentry
    rw [Schema.blockedKeys, ← keys_sources] at hblocked
    exact hblocked (List.mem_map_of_mem hentry)
  rw [schema.passFields_eq_append, List.map_append, List.count_append,
    List.count_eq_zero_of_not_mem hswept]
  exact (Schema.count_keys_passFields_zero_le schema row field).trans hcolumn

/-- Only a field that is swept, a price, and a key that several columns have are
evaluated again. -/
theorem count_evaluations_le_one (hcolumn : schema.keys.count field ≤ 1)
    (hblocked : field ∉ schema.blockedKeys row)
    (hprice : field ∉ (schema.repriced context row).map (·.1)) :
    ((schema.evaluations context row).map (·.field)).count field ≤ 1 := by
  rw [Schema.evaluations, List.map_append, List.count_append, Row.fields_evaluations,
    Row.fields_evaluations, List.count_eq_zero_of_not_mem hprice]
  exact count_passFields_le_one hcolumn hblocked _

/-- The row once the field is not evaluated any more. -/
def rowOnceEvaluated (schema : Schema) (context : Context) (row : Row) (field : String) : Row :=
  if field ∈ (schema.repriced context row).map (·.1) then (recompute schema context row).1
  else (formulaPass schema context row).1.row

theorem zero_of_lastOf? {last : Evaluation} {error : FormulaError}
    (hlast : Evaluation.lastOf? (schema.evaluations context row) field = some last)
    (herror : last.result context.params = .error error) :
    (rowOnceEvaluated schema context row field).get? field = some (.number 0) := by
  rw [Schema.evaluations, Evaluation.lastOf?_append] at hlast
  rw [rowOnceEvaluated]
  cases hprice : Evaluation.lastOf? ((sharedRow context (ruledRow schema context row)).evaluations
      context.params (schema.repriced context row)) field with
  | none =>
      rw [hprice, Option.none_or] at hlast
      rw [Evaluation.lastOf?_eq_none, Row.fields_evaluations] at hprice
      rw [if_neg hprice, formulaPass_eq_advance]
      exact Evaluation.get?_refreshAll_of_lastOf? hlast herror
  | some price =>
      rw [hprice, Option.some_or] at hlast
      have hrepriced : field ∈ (schema.repriced context row).map (·.1) := by
        by_contra hnone
        rw [← Row.fields_evaluations, ← Evaluation.lastOf?_eq_none, hprice] at hnone
        cases hnone
      have hzero := Evaluation.get?_refreshAll_of_lastOf? (hprice.trans hlast) herror
      rw [if_pos hrepriced]
      cases htravel : Product.isTravel (ruledRow schema context row) with
      | true =>
          rw [Schema.repriced, if_pos htravel] at hrepriced
          cases hrepriced
      | false =>
          rw [Schema.repriced, if_neg (by simp [htravel])] at hzero
          rw [isTravel_ruledRow] at htravel
          rw [recompute_row htravel]
          exact hzero

end

/-- A recomputation evaluates every formula in force, and a field has an entry in
the report exactly if one of its evaluations failed: a single entry, with the
formula in force and the error of the first failure.  If the report is clean,
every evaluation succeeded. -/
theorem recompute_reports_failures (schema : Schema) (context : Context) (row : Row) :
    (∀ evaluation ∈ schema.evaluations context row, ∀ error,
      evaluation.result context.params = .error error →
        ∃! failure, failure ∈ (recompute schema context row).2.failures ∧
          failure.field = evaluation.field) ∧
    (∀ failure ∈ (recompute schema context row).2.failures,
      schema.formula? row failure.field = some failure.formula ∧
        Evaluation.firstFailure? context.params (schema.evaluations context row) failure.field =
          some failure) ∧
    ((recompute schema context row).2.failures.map (·.field)).Nodup ∧
    ((recompute schema context row).2.isClean = true →
      ∀ evaluation ∈ schema.evaluations context row, ∃ value,
        evaluation.result context.params = .ok value) ∧
    ∀ field ∈ schema.formulasInForce row ++ schema.repriced context row,
      ∃ evaluation ∈ schema.evaluations context row,
        evaluation.field = field.1 ∧ evaluation.source = field.2 := by
  refine ⟨fun evaluation hmem error herror => existsUnique_failure hmem herror,
    fun failure hmem => ⟨formula?_of_mem_failures hmem, mem_failures_recompute.1 hmem⟩, ?_, ?_,
    fun field hfield => exists_mem_evaluations_of_formula hfield⟩
  · rw [failures_recompute]
    exact Failure.nodup_fields_firsts _
  · intro hclean evaluation hmem
    have hempty : (recompute schema context row).2.failures = [] := by
      simp only [Report.isClean, Bool.and_eq_true, List.isEmpty_iff] at hclean
      exact hclean.1.1
    cases hresult : evaluation.result context.params with
    | ok value => exact ⟨value, rfl⟩
    | error error =>
        obtain ⟨failure, ⟨hreported, -⟩, -⟩ := existsUnique_failure hmem hresult
        rw [hempty] at hreported
        cases hreported

/-! ## A price by a bare name -/

def bareSchema : Schema where
  name := "grid"
  columns := [
    { key := "broken", formula := some "(" },
    { key := "lost", formula := some "inconnu * 2" },
    { key := Field.unitPrice, formula := some "pv_prepa" }]

def bareContext : Context := { settings := { hourlyRate := 40 } }

def bareRow : Row :=
  ((⟨"r", ∅, ∅⟩ : Row).setText Field.product "Rideau").setNumber Field.preparationHours 1

theorem evaluations_bareRow :
    (bareSchema.evaluations bareContext bareRow).map (fun evaluation =>
        (evaluation.field, (evaluation.result bareContext.params).toOption.isSome)) =
      [("broken", false), ("lost", false), (Field.unitPrice, false), (Field.unitPrice, true)] := by
  decide +kernel

theorem fields_failures_bareRow :
    (recompute bareSchema bareContext bareRow).2.failures.map (·.field) =
      ["broken", "lost", Field.unitPrice] := by
  decide +kernel

theorem recompute_reports_failures_bareRow :
    (∃ evaluation ∈ bareSchema.evaluations bareContext bareRow, evaluation.field = "lost" ∧
      (∃ error, evaluation.result bareContext.params = .error error) ∧
      ∃! failure, failure ∈ (recompute bareSchema bareContext bareRow).2.failures ∧
        failure.field = evaluation.field) ∧
    (recompute ⟨"grid", []⟩ bareContext bareRow).2.isClean = true ∧
      ∀ evaluation ∈ Schema.evaluations ⟨"grid", []⟩ bareContext bareRow, ∃ value,
        evaluation.result bareContext.params = .ok value := by
  have hclean : (recompute ⟨"grid", []⟩ bareContext bareRow).2.isClean = true := by
    decide +kernel
  obtain ⟨hreported, -⟩ := recompute_reports_failures bareSchema bareContext bareRow
  obtain ⟨-, -, -, hsucceeded, -⟩ := recompute_reports_failures ⟨"grid", []⟩ bareContext bareRow
  refine ⟨?_, hclean, hsucceeded hclean⟩
  have hlost : ("lost", false) ∈ (bareSchema.evaluations bareContext bareRow).map
      (fun evaluation =>
        (evaluation.field, (evaluation.result bareContext.params).toOption.isSome)) := by
    rw [evaluations_bareRow]
    simp
  obtain ⟨evaluation, hmem, heq⟩ := List.mem_map.1 hlost
  obtain ⟨hfield, hfailed⟩ := Prod.mk.inj heq
  cases hresult : evaluation.result bareContext.params with
  | ok value => simp [hresult, Except.toOption] at hfailed
  | error error =>
      exact ⟨evaluation, hmem, hfield, ⟨error, hresult⟩, hreported evaluation hmem error hresult⟩

/-- Every entry of the report is the first failure of its field.  The last
evaluation of the field failed too, and left zero in it, unless the field was
evaluated again and succeeded: no other fields are than those that are swept,
prices, and keys that several columns have. -/
theorem reported_failure_stands (schema : Schema) (context : Context) (row : Row) :
    ∀ failure ∈ (recompute schema context row).2.failures,
      (schema.formula? row failure.field = some failure.formula ∧
        Evaluation.firstFailure? context.params (schema.evaluations context row) failure.field =
          some failure) ∧
      ∃ last, Evaluation.lastOf? (schema.evaluations context row) failure.field = some last ∧
        ((∃ error, last.result context.params = .error error) ∧
            (rowOnceEvaluated schema context row failure.field).get? failure.field =
              some (.number 0) ∨
          (∃ value, last.result context.params = .ok value) ∧
            (failure.field ∈ schema.blockedKeys row ∨
              failure.field ∈ (schema.repriced context row).map (·.1) ∨
              1 < schema.keys.count failure.field)) := by
  intro failure hmem
  refine ⟨⟨formula?_of_mem_failures hmem, mem_failures_recompute.1 hmem⟩, ?_⟩
  obtain ⟨evaluation, hevaluation, hfailure, hfield⟩ :=
    Evaluation.exists_of_firstFailure? (mem_failures_recompute.1 hmem)
  obtain ⟨last, hlast⟩ : ∃ last,
      Evaluation.lastOf? (schema.evaluations context row) failure.field = some last := by
    rw [← Option.ne_none_iff_exists', Ne, Evaluation.lastOf?_eq_none, not_not, ← hfield]
    exact List.mem_map_of_mem hevaluation
  refine ⟨last, hlast, ?_⟩
  cases hresult : last.result context.params with
  | error error => exact .inl ⟨⟨error, rfl⟩, zero_of_lastOf? hlast hresult⟩
  | ok value =>
      refine .inr ⟨⟨value, rfl⟩, ?_⟩
      by_contra honce
      simp only [not_or, Nat.not_lt] at honce
      obtain ⟨hblocked, hprice, hcolumn⟩ := honce
      obtain ⟨hlastMem, hlastField⟩ := Evaluation.mem_of_lastOf? hlast
      -- a single evaluation cannot both fail and succeed
      have hsame : evaluation = last := Evaluation.eq_of_field_eq
        (count_evaluations_le_one hcolumn hblocked hprice) hevaluation hlastMem hfield hlastField
      rw [← hsame, (Evaluation.failure?_eq_some_iff.1 hfailure).2] at hresult
      cases hresult

theorem reported_failure_stands_bareRow :
    ∃ failure ∈ (recompute bareSchema bareContext bareRow).2.failures, failure.field = "lost" ∧
      (rowOnceEvaluated bareSchema bareContext bareRow "lost").get? "lost" =
        some (.number 0) := by
  have hlost : "lost" ∈ (recompute bareSchema bareContext bareRow).2.failures.map (·.field) := by
    rw [fields_failures_bareRow]
    simp
  obtain ⟨failure, hmem, hfield⟩ := List.mem_map.1 hlost
  have hstands := reported_failure_stands bareSchema bareContext bareRow failure hmem
  rw [hfield] at hstands
  obtain ⟨-, last, -, ⟨-, hzero⟩ | ⟨-, hagain⟩⟩ := hstands
  · exact ⟨failure, hmem, hfield, hzero⟩
  · exact absurd hagain (by decide +kernel)

/-- The price is recomputed with success once the labor is priced, and it is
still reported. -/
theorem recomputed_price_stays_reported :
    ¬ (∀ failure ∈ (recompute bareSchema bareContext bareRow).2.failures, ∀ last,
        Evaluation.lastOf? (bareSchema.evaluations bareContext bareRow) failure.field =
          some last → ∃ error, last.result bareContext.params = .error error) ∧
      ((recompute bareSchema bareContext bareRow).1.get? Field.unitPrice).map Amount.ofCell =
        some 40 := by
  refine ⟨fun hall => ?_, by decide +kernel⟩
  have hprice : Field.unitPrice ∈
      (recompute bareSchema bareContext bareRow).2.failures.map (·.field) := by
    rw [fields_failures_bareRow]
    simp
  obtain ⟨failure, hmem, hfield⟩ := List.mem_map.1 hprice
  have hsucceeded : ((Evaluation.lastOf? (bareSchema.evaluations bareContext bareRow)
      Field.unitPrice).map fun last => (last.result bareContext.params).toOption.isSome) =
        some true := by decide +kernel
  obtain ⟨last, hlast, hresult⟩ := Option.map_eq_some_iff.1 hsucceeded
  obtain ⟨error, herror⟩ := hall failure hmem last (by rw [hfield, hlast])
  simp [herror, Except.toOption] at hresult

end Drapery
