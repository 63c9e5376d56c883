import Mathlib.Logic.Function.Iterate
import Drapery.Proofs.Evaluations
import Drapery.Proofs.Resolution

/-!
# What the formula pass leaves in a row

The pass refreshes the fields that cannot be read, then the ordered fields, then
the blocked ones some number of times.  What is written after an ordered field
is neither its own cell nor one that it reads, so that it holds its formula on
the row in the end, whatever the blocked fields do.
-/

namespace Drapery

/-! ## Lists of formulas -/

theorem keys_filterMap_sublist {α β γ : Type} {f : α → Option β} {key : α → γ} {keyOf : β → γ}
    (h : ∀ a b, f a = some b → keyOf b = key a) (entries : List α) :
    ((entries.filterMap f).map keyOf).Sublist (entries.map key) := by
  induction entries with
  | nil => exact .slnil
  | cons first rest ih =>
      cases hfirst : f first with
      | none =>
          rw [List.filterMap_cons_none hfirst]
          exact ih.cons _
      | some entry =>
          rw [List.filterMap_cons_some hfirst, List.map_cons, List.map_cons, h first entry hfirst]
          exact ih.cons_cons _

namespace Schema

variable {schema : Schema} {row : Row} {key source : String}

def IsByHand (row : Row) (key : String) : Prop :=
  Product.hasManualYardage (row.text Field.product) ∧ key ∈ Field.manualYardage

instance (row : Row) (key : String) : Decidable (IsByHand row key) :=
  inferInstanceAs (Decidable (_ ∧ _))

theorem mem_formulasInForce :
    (key, source) ∈ schema.formulasInForce row ↔
      (key ∈ schema.keys ∧ ¬ IsByHand row key) ∧ schema.formula? row key = some source := by
  have hexempt : ∀ key, ((if Product.hasManualYardage (row.text Field.product)
      then Field.manualYardage else []).contains key) = true ↔ IsByHand row key := by
    intro key
    rw [IsByHand]
    split
    · rename_i hproduct
      simp [hproduct]
    · rename_i hproduct
      simp [hproduct]
  simp only [formulasInForce, List.mem_filterMap, List.mem_filter, Option.map_eq_some_iff,
    Prod.mk.injEq, Bool.not_eq_true', ← Bool.not_eq_true, hexempt]
  constructor
  · rintro ⟨_, hkey, _, hsource, rfl, rfl⟩
    exact ⟨hkey, hsource⟩
  · rintro ⟨hkey, hsource⟩
    exact ⟨key, hkey, source, hsource, rfl, rfl⟩

theorem mem_keys_formulasInForce :
    key ∈ (schema.formulasInForce row).map (·.1) ↔
      (key ∈ schema.keys ∧ ¬ IsByHand row key) ∧ (schema.formula? row key).isSome := by
  simp only [List.mem_map, Prod.exists, exists_and_right, exists_eq_right, mem_formulasInForce,
    exists_and_left, Option.isSome_iff_exists]

theorem keys_formulasInForce_sublist (schema : Schema) (row : Row) :
    ((schema.formulasInForce row).map (·.1)).Sublist schema.keys := by
  have hkey : ∀ key field, (schema.formula? row key).map (key, ·) = some field →
      field.1 = id key := by
    rintro key field hfield
    obtain ⟨source, -, rfl⟩ := Option.map_eq_some_iff.1 hfield
    rfl
  have hkept := keys_filterMap_sublist hkey
    (schema.keys.filter (!(if Product.hasManualYardage (row.text Field.product)
      then Field.manualYardage else []).contains ·))
  rw [List.map_id] at hkept
  exact hkept.trans List.filter_sublist

end Schema

theorem mem_readable {formulas : List (String × String)} {field : String × Formula}
    (h : field ∈ readable formulas) :
    (field.1, field.2.source) ∈ formulas ∧ Formula.parse field.2.source = .ok field.2 := by
  obtain ⟨⟨key, source⟩, hmem, hfield⟩ := List.mem_filterMap.1 h
  cases hparse : Formula.parse source with
  | error error => simp [hparse, Except.toOption] at hfield
  | ok formula =>
      simp only [hparse, Except.toOption, Option.map_some, Option.some.injEq] at hfield
      subst hfield
      rw [Formula.source_of_parse hparse]
      exact ⟨hmem, hparse⟩

theorem mem_readable_of_parse {formulas : List (String × String)} {key : String}
    {formula : Formula} (hmem : (key, formula.source) ∈ formulas)
    (hparse : Formula.parse formula.source = .ok formula) : (key, formula) ∈ readable formulas :=
  List.mem_filterMap.2 ⟨_, hmem, by simp [hparse, Except.toOption]⟩

theorem mem_unreadable {formulas : List (String × String)} {failure : Failure} :
    failure ∈ unreadable formulas ↔
      (failure.field, failure.formula) ∈ formulas ∧
        Formula.parse failure.formula = .error failure.error := by
  rw [unreadable, List.mem_filterMap]
  constructor
  · rintro ⟨⟨key, source⟩, hmem, hfailure⟩
    cases hparse : Formula.parse source with
    | ok formula => simp [hparse] at hfailure
    | error error =>
        simp only [hparse, Option.some.injEq] at hfailure
        subst hfailure
        exact ⟨hmem, hparse⟩
  · rintro ⟨hmem, hparse⟩
    exact ⟨_, hmem, by simp [hparse]⟩

/-! ## The pass as refreshes -/

def sources (fields : List (String × Formula)) : List (String × String) :=
  fields.map fun field => (field.1, field.2.source)

theorem keys_sources (fields : List (String × Formula)) :
    (sources fields).map (·.1) = fields.map (·.1) := by
  rw [sources, List.map_map]
  rfl

theorem mem_fieldsAt {fields : List (String × Formula)} {positions : List Nat}
    {field : String × Formula} :
    field ∈ fieldsAt fields positions ↔ ∃ position ∈ positions, fields[position]? = some field := by
  simp [fieldsAt]

theorem exists_position {fields : List (String × Formula)} {once repeatedly : List Nat}
    {sweeps : Nat} {field : String × String}
    (h : field ∈ sources (fieldsAt fields once) ++
      (List.replicate sweeps (sources (fieldsAt fields repeatedly))).flatten) :
    ∃ position ∈ once ++ repeatedly, ∃ formula,
      fields[position]? = some (field.1, formula) ∧ formula.source = field.2 := by
  have hsources : ∀ positions, field ∈ sources (fieldsAt fields positions) →
      ∃ position ∈ positions, ∃ formula,
        fields[position]? = some (field.1, formula) ∧ formula.source = field.2 := by
    intro positions hfield
    obtain ⟨⟨key, formula⟩, hmem, rfl⟩ := List.mem_map.1 hfield
    obtain ⟨position, hposition, hget⟩ := mem_fieldsAt.1 hmem
    exact ⟨position, hposition, formula, hget, rfl⟩
  rcases List.mem_append.1 h with h | h
  · obtain ⟨position, hposition, hfield⟩ := hsources once h
    exact ⟨position, List.mem_append_left _ hposition, hfield⟩
  · obtain ⟨_, hsweep, h⟩ := List.mem_flatten.1 h
    rw [List.eq_of_mem_replicate hsweep] at h
    obtain ⟨position, hposition, hfield⟩ := hsources repeatedly h
    exact ⟨position, List.mem_append_right _ hposition, hfield⟩

namespace Progress

variable {params : Formula.Params}

theorem foldl_fail_eq_advance {failures : List Failure}
    (hparse : ∀ failure ∈ failures, Formula.parse failure.formula = .error failure.error)
    (params : Formula.Params) (progress : Progress) :
    failures.foldl fail progress =
      progress.advance params (failures.map fun failure => (failure.field, failure.formula)) := by
  induction failures generalizing progress with
  | nil => rw [List.foldl_nil, List.map_nil, advance_nil]
  | cons failure rest ih =>
      rw [List.foldl_cons, ih fun other hother => hparse other (List.mem_cons_of_mem _ hother),
        fail_eq_advance (hparse failure List.mem_cons_self) params, List.map_cons,
        ← advance_cons]

theorem run_eq_advance {fields : List (String × Formula)}
    (hparse : ∀ field ∈ fields, Formula.parse field.2.source = .ok field.2)
    (progress : Progress) :
    progress.run params fields = progress.advance params (sources fields) := by
  induction fields generalizing progress with
  | nil => rw [sources, List.map_nil, advance_nil, run, List.foldl_nil]
  | cons field rest ih =>
      have hrest : (progress.run params (field :: rest)) =
          (progress.assign params field.1 field.2).run params rest := rfl
      rw [hrest, ih fun other hother => hparse other (List.mem_cons_of_mem _ hother),
        assign_eq_advance (hparse field List.mem_cons_self), ← advance_cons]
      rfl

theorem sweep_fst (fields : List (String × Formula)) (progress : Progress) :
    (progress.sweep params fields).1 = progress.run params fields :=
  (List.foldl_hom Prod.fst fun _ _ => rfl).symm

theorem settle_fst (fields : List (String × Formula)) (maxChange : Float) (more : Nat)
    (progress : Progress) (change : Float) :
    (settle params fields maxChange more progress change).1 =
      (run params fields)^[(settle params fields maxChange more progress change).2.1] progress := by
  induction more generalizing progress change with
  | zero => rfl
  | succ more ih =>
      rw [settle]
      split
      · change (settle params fields maxChange more (progress.sweep params fields).1
          (progress.sweep params fields).2).1 = _
        rw [ih, Function.iterate_succ_apply, ← sweep_fst]
      · rfl

theorem iterate_fst (context : Context) (cycle : List String) (blocked : List (String × Formula))
    (progress : Progress) :
    (progress.iterate context cycle blocked).1 =
      (run context.params blocked)^[(progress.iterate context cycle blocked).2.iterations]
        progress := by
  change (settle context.params blocked context.iteration.maxChange _
    (progress.sweep context.params blocked).1 (progress.sweep context.params blocked).2).1 = _
  rw [settle_fst, sweep_fst, iterate, Function.iterate_succ_apply, ← sweep_fst]

theorem iterate_run_eq_advance {fields : List (String × Formula)}
    (hparse : ∀ field ∈ fields, Formula.parse field.2.source = .ok field.2) (sweeps : Nat)
    (progress : Progress) :
    (run params fields)^[sweeps] progress =
      progress.advance params (List.replicate sweeps (sources fields)).flatten := by
  induction sweeps generalizing progress with
  | zero => rw [List.replicate_zero, List.flatten_nil, advance_nil, Function.iterate_zero_apply]
  | succ sweeps ih =>
      rw [Function.iterate_succ_apply, ih, run_eq_advance hparse, List.replicate_succ,
        List.flatten_cons, advance_append]

end Progress

namespace Schema

variable {schema : Schema} {row : Row}

/-- What the pass refreshes if it sweeps the blocked fields that often. -/
def passFields (schema : Schema) (row : Row) (sweeps : Nat) : List (String × String) :=
  let formulas := schema.formulasInForce row
  let fields := readable formulas
  let plan := Plan.build fields
  (unreadable formulas).map (fun failure => (failure.field, failure.formula)) ++
    (sources (fieldsAt fields plan.order) ++
      (List.replicate sweeps (sources (fieldsAt fields plan.blocked))).flatten)

def blockedFormulas (schema : Schema) (row : Row) : List (String × String) :=
  let fields := readable (schema.formulasInForce row)
  sources (fieldsAt fields (Plan.build fields).blocked)

theorem passFields_eq_append (schema : Schema) (row : Row) (sweeps : Nat) :
    schema.passFields row sweeps =
      schema.passFields row 0 ++ (List.replicate sweeps (schema.blockedFormulas row)).flatten := by
  simp [passFields, blockedFormulas]

theorem mem_formulasInForce_of_mem_passFields {sweeps : Nat} {field : String × String}
    (h : field ∈ schema.passFields row sweeps) : field ∈ schema.formulasInForce row := by
  rcases List.mem_append.1 h with h | h
  · obtain ⟨failure, hfailure, rfl⟩ := List.mem_map.1 h
    exact (mem_unreadable.1 hfailure).1
  · obtain ⟨position, -, formula, hget, hsource⟩ := exists_position h
    have hmem := (mem_readable (List.mem_of_getElem? hget)).1
    rwa [hsource] at hmem

end Schema

def sweepCount (cycle : Option CycleReport) : Nat := cycle.elim 0 (·.iterations)

theorem parse_of_mem_fieldsAt {formulas : List (String × String)} {positions : List Nat}
    {field : String × Formula} (h : field ∈ fieldsAt (readable formulas) positions) :
    Formula.parse field.2.source = .ok field.2 := by
  obtain ⟨position, -, hget⟩ := mem_fieldsAt.1 h
  exact (mem_readable (List.mem_of_getElem? hget)).2

/-- The pass refreshes everything that is not blocked, and then sweeps what is. -/
theorem formulaPass_eq (schema : Schema) (context : Context) (row : Row) :
    formulaPass schema context row =
      let fields := readable (schema.formulasInForce row)
      let plan := Plan.build fields
      let progress := (⟨row, []⟩ : Progress).advance context.params (schema.passFields row 0)
      let swept := progress.iterate context plan.cycle (fieldsAt fields plan.blocked)
      if plan.isAcyclic then (progress, none) else (swept.1, some swept.2) := by
  have hprogress :
      ((unreadable (schema.formulasInForce row)).foldl Progress.fail ⟨row, []⟩).run context.params
          (fieldsAt (readable (schema.formulasInForce row))
            (Plan.build (readable (schema.formulasInForce row))).order) =
        (⟨row, []⟩ : Progress).advance context.params (schema.passFields row 0) := by
    rw [Progress.run_eq_advance fun _ => parse_of_mem_fieldsAt,
      Progress.foldl_fail_eq_advance (fun _ hfailure => (mem_unreadable.1 hfailure).2)
        context.params, ← Progress.advance_append, Schema.passFields, List.replicate_zero,
      List.flatten_nil, List.append_nil]
  rw [formulaPass]
  simp only [hprogress]

theorem formulaPass_eq_advance (schema : Schema) (context : Context) (row : Row) :
    (formulaPass schema context row).1 =
      (⟨row, []⟩ : Progress).advance context.params
        (schema.passFields row (sweepCount (formulaPass schema context row).2)) := by
  rw [formulaPass_eq]
  simp only
  split
  · rfl
  · rw [Progress.iterate_fst, sweepCount, Option.elim_some,
      Progress.iterate_run_eq_advance fun _ => parse_of_mem_fieldsAt, ← Progress.advance_append,
      schema.passFields_eq_append row (CycleReport.iterations _)]
    rfl

theorem formulaPass_row (schema : Schema) (context : Context) (row : Row) :
    ∃ sweeps, (formulaPass schema context row).1.row =
      row.refreshAll context.params (schema.passFields row sweeps) :=
  ⟨_, congrArg Progress.row (formulaPass_eq_advance schema context row)⟩

theorem agreeOff_formulaPass (schema : Schema) (context : Context) (row : Row) :
    Row.AgreeOff ((schema.formulasInForce row).map (·.1)) (formulaPass schema context row).1.row
      row := by
  obtain ⟨sweeps, hrow⟩ := formulaPass_row schema context row
  rw [hrow]
  refine (Row.agreeOff_refreshAll _ row).mono fun key hkey => ?_
  obtain ⟨field, hfield, rfl⟩ := List.mem_map.1 hkey
  exact List.mem_map_of_mem (Schema.mem_formulasInForce_of_mem_passFields hfield)

/-! ## What ordered and unreadable fields hold -/

section

variable {schema : Schema} {row : Row} {params : Formula.Params} {key source : String}

theorem Schema.keys_readable_sublist (schema : Schema) (row : Row) :
    ((readable (schema.formulasInForce row)).map (·.1)).Sublist schema.keys := by
  have hkey : ∀ (entry : String × String) (field : String × Formula),
      (Formula.parse entry.2).toOption.map (entry.1, ·) = some field → field.1 = entry.1 := by
    intro entry field hfield
    obtain ⟨formula, -, rfl⟩ := Option.map_eq_some_iff.1 hfield
    rfl
  have hreadable := keys_filterMap_sublist hkey (schema.formulasInForce row)
  exact hreadable.trans (keys_formulasInForce_sublist schema row)

theorem Schema.nodup_keys_readable (hkeys : (schema.keys.map Text.normalizeKey).Nodup) :
    (((readable (schema.formulasInForce row)).map (·.1)).map Text.normalizeKey).Nodup :=
  ((keys_readable_sublist schema row).map _).nodup hkeys

theorem Schema.nodup_fields_unreadable (hkeys : schema.keys.Nodup) :
    ((unreadable (schema.formulasInForce row)).map (·.field)).Nodup := by
  have hunreadable : ((unreadable (schema.formulasInForce row)).map (·.field)).Sublist
      ((schema.formulasInForce row).map (·.1)) := by
    refine keys_filterMap_sublist (fun entry failure hfailure => ?_) _
    cases hparse : Formula.parse entry.2 with
    | ok formula => simp [hparse] at hfailure
    | error error =>
        simp only [hparse, Option.some.injEq] at hfailure
        rw [← hfailure]
  exact (hunreadable.trans (keys_formulasInForce_sublist schema row)).nodup hkeys

theorem field_ne_of_unreadable {failure : Failure} {field : String × Formula}
    (hfailure : failure ∈ unreadable (schema.formulasInForce row))
    (hfield : field ∈ readable (schema.formulasInForce row)) : failure.field ≠ field.1 := by
  intro hsame
  obtain ⟨hunread, herror⟩ := mem_unreadable.1 hfailure
  obtain ⟨hread, hparse⟩ := mem_readable hfield
  have hsource := (Schema.mem_formulasInForce.1 hunread).2
  rw [hsame, (Schema.mem_formulasInForce.1 hread).2, Option.some.injEq] at hsource
  rw [← hsource, hparse] at herror
  cases herror

theorem holds_passFields_of_ordered {formula : Formula} {position : Nat}
    (hkeys : (schema.keys.map Text.normalizeKey).Nodup)
    (hposition : position ∈ (Plan.build (readable (schema.formulasInForce row))).order)
    (hfield : (readable (schema.formulasInForce row))[position]? = some (key, formula))
    (hself : ¬ formula.Reads key) (sweeps : Nat) :
    (row.refreshAll params (schema.passFields row sweeps)).Holds params key formula.source := by
  have hparse := (mem_readable (List.mem_of_getElem? hfield)).2
  have hdistinct : (((readable (schema.formulasInForce row)).map (·.1)).map
      Text.normalizeKey).Nodup := Schema.nodup_keys_readable hkeys
  set fields := readable (schema.formulasInForce row) with hfields
  obtain ⟨before, after, horder⟩ := List.append_of_mem hposition
  -- the blocked fields are swept last, but no ordered field reads one
  have hlater : ∀ later ∈ sources (fieldsAt fields after) ++
      (List.replicate sweeps (sources (fieldsAt fields (Plan.build fields).blocked))).flatten,
      later.1 ≠ key ∧ ¬ Formula.TextReads formula.source later.1 := by
    intro later hmem
    obtain ⟨position, hposition, laterFormula, hget, -⟩ := exists_position hmem
    rw [Formula.textReads_of_parse hparse]
    exact Plan.apart_of_later hdistinct horder hposition hfield hget
  have hsplit : schema.passFields row sweeps =
      ((unreadable (schema.formulasInForce row)).map
          (fun failure => (failure.field, failure.formula)) ++
        sources (fieldsAt fields before)) ++ (key, formula.source) ::
          (sources (fieldsAt fields after) ++
            (List.replicate sweeps
              (sources (fieldsAt fields (Plan.build fields).blocked))).flatten) := by
    simp [Schema.passFields, ← hfields, horder, fieldsAt, sources, hfield]
  rw [hsplit]
  refine Row.holds_refreshAll ?_ hlater row
  rwa [Formula.textReads_of_parse hparse]

theorem holds_passFields_of_unreadable {error : FormulaError} (hkeys : schema.keys.Nodup)
    (hfield : (key, source) ∈ schema.formulasInForce row)
    (hparse : Formula.parse source = .error error) (sweeps : Nat) :
    (row.refreshAll params (schema.passFields row sweeps)).Holds params key source := by
  have hunread : ∀ read, ¬ Formula.TextReads source read :=
    Formula.not_textReads_of_parse_error hparse
  have hmem : (⟨key, source, error⟩ : Failure) ∈ unreadable (schema.formulasInForce row) :=
    mem_unreadable.2 ⟨hfield, hparse⟩
  have hdistinct : ((unreadable (schema.formulasInForce row)).map (·.field)).Nodup :=
    Schema.nodup_fields_unreadable hkeys
  obtain ⟨before, after, hsplit⟩ := List.append_of_mem hmem
  rw [Schema.passFields, hsplit, List.map_append, List.map_cons, List.append_assoc,
    List.cons_append]
  refine Row.holds_refreshAll (hunread key) (fun later hlater => ⟨?_, hunread _⟩) row
  rintro rfl
  rcases List.mem_append.1 hlater with hlater | hlater
  · obtain ⟨failure, hfailure, rfl⟩ := List.mem_map.1 hlater
    rw [hsplit, List.map_append, List.map_cons] at hdistinct
    have hfirst := (List.nodup_cons.1 (List.nodup_append.1 hdistinct).2.1).1
    exact hfirst (List.mem_map.2 ⟨failure, hfailure, rfl⟩)
  · obtain ⟨position, -, formula, hget, -⟩ := exists_position hlater
    exact field_ne_of_unreadable hmem (List.mem_of_getElem? hget) rfl

end

end Drapery
