import Drapery.Proofs.Sweeps

/-!
# A formula that cannot be read is zero

A formula that cannot be read is left out of the plan and its field set to zero
first, while a zero that is written out is placed like any other formula.  Both
read nothing and leave the same cell, so the same formulas are blocked, the
others are the same ones in another order, and the two rows agree from there on.
-/

namespace Drapery

/-! ## Zero as a formula -/

namespace Formula

theorem parse_zero : parse "0" = .ok ⟨"0", .number 0⟩ := by cbv

theorem cellOf_zero (params : Params) (row : Row) : cellOf params "0" row = .number 0 := by
  rw [cellOf_of_parse parse_zero]
  rfl

theorem not_textReads_zero (key : String) : ¬ TextReads "0" key := by
  rw [textReads_of_parse parse_zero]
  simp [Reads, mem_references, Expr.references]

end Formula

def zeroed (key : String) (field : String × String) : String × String :=
  if field.1 = key then (key, "0") else field

section

variable {key : String} {field : String × String}

@[simp] theorem zeroed_fst : (zeroed key field).1 = field.1 := by
  rw [zeroed]
  split
  · rename_i hkey
    exact hkey.symm
  · rfl

theorem zeroed_of_ne (h : field.1 ≠ key) : zeroed key field = field := if_neg h

theorem zeroed_of_eq (h : field.1 = key) : zeroed key field = (key, "0") := if_pos h

end

/-- Another schema, or other overrides, by which one formula that cannot be read is zero and the
others are the same. -/
structure ZeroesBroken (schema : Schema) (row : Row) (key : String) (other : Schema)
    (overrides : Keyed String) : Prop where
  keys : other.keys = schema.keys
  broken : ∀ source, schema.formula? row key = some source →
    ∃ error, Formula.parse source = .error error
  formulas : ∀ keys, other.formulasOf (row.withOverrides overrides) keys =
    (schema.formulasOf row keys).map (zeroed key)

/-! ## Rows with other overrides -/

section

variable (overrides : Keyed String)

theorem Row.map_movement_withOverrides (params : Formula.Params) (fields : List (String × String))
    (row : Row) :
    ((row.withOverrides overrides).evaluations params fields).map (Evaluation.movement params) =
      (row.evaluations params fields).map (Evaluation.movement params) := by
  induction fields generalizing row with
  | nil => rfl
  | cons field rest ih =>
      have hfirst : Evaluation.movement params ⟨field.1, field.2, row.withOverrides overrides⟩ =
          Evaluation.movement params ⟨field.1, field.2, row⟩ := by
        rw [Evaluation.movement, Evaluation.after, Row.cellOf_withOverrides]
        rfl
      rw [evaluations, List.map_cons, hfirst, refresh_withOverrides, ih, evaluations, List.map_cons]

theorem sharedRow_withOverrides (context : Context) (row : Row) :
    sharedRow context (row.withOverrides overrides) =
      (sharedRow context row).withOverrides overrides := by
  rw [sharedRow, sharedRow, apply_ite (Row.withOverrides · overrides)]
  rfl

theorem repricedKeys_withOverrides (row : Row) :
    repricedKeys (row.withOverrides overrides) = repricedKeys row := rfl

end

namespace ZeroesBroken

variable {schema other : Schema} {row : Row} {key : String} {overrides : Keyed String}
  {context : Context} {params : Formula.Params}

variable (h : ZeroesBroken schema row key other overrides)

include h

/-! ## The formulas of the two runs -/

theorem formulasInForce : other.formulasInForce (row.withOverrides overrides) =
    (schema.formulasInForce row).map (zeroed key) := by
  rw [Schema.formulasInForce, h.keys]
  exact h.formulas _

theorem not_textReads {field : String × String} (hfield : field ∈ schema.formulasInForce row)
    (hkey : field.1 = key) (read : String) : ¬ Formula.TextReads field.2 read := by
  have hsource := (Schema.mem_formulasInForce.1 hfield).2
  obtain ⟨error, hparse⟩ := h.broken _ (hkey ▸ hsource)
  exact Formula.not_textReads_of_parse_error hparse read

theorem deadlock_iff {among : Set (String × String)} :
    Schema.Deadlock (other.formulasInForce (row.withOverrides overrides)) among ↔
      Schema.Deadlock (schema.formulasInForce row) among := by
  rw [h.formulasInForce]
  constructor
  · intro hamong field hfield
    obtain ⟨hmem, hwaits⟩ := hamong field hfield
    refine ⟨?_, hwaits⟩
    obtain ⟨original, horiginal, rfl⟩ := List.mem_map.1 hmem
    obtain ⟨_, -, -, hreads⟩ := hwaits
    by_cases hkey : original.1 = key
    · rw [zeroed_of_eq hkey] at hreads
      exact absurd hreads (Formula.not_textReads_zero _)
    · rwa [zeroed_of_ne hkey]
  · intro hamong field hfield
    obtain ⟨hmem, hwaits⟩ := hamong field hfield
    refine ⟨?_, hwaits⟩
    obtain ⟨_, -, -, hreads⟩ := hwaits
    have hkey : field.1 ≠ key := fun hkey => h.not_textReads hmem hkey _ hreads
    rw [← zeroed_of_ne hkey]
    exact List.mem_map_of_mem hmem

variable (hkeys : (schema.keys.map Text.normalizeKey).Nodup)

include hkeys

theorem map_zeroed_blockedFormulas :
    (schema.blockedFormulas row).map (zeroed key) = schema.blockedFormulas row := by
  have hsame : ∀ field ∈ schema.blockedFormulas row, zeroed key field = id field := by
    intro field hfield
    obtain ⟨hmem, _, -, -, hreads⟩ := Schema.deadlock_blockedFormulas hkeys field hfield
    exact zeroed_of_ne fun hkey => h.not_textReads hmem hkey _ hreads
  rw [List.map_congr_left hsame, List.map_id]

/-- The blocked formulas wait for others, so that none of them is replaced. -/
theorem blockedFormulas : other.blockedFormulas (row.withOverrides overrides) =
    schema.blockedFormulas row := by
  have hother : (other.keys.map Text.normalizeKey).Nodup := by rwa [h.keys]
  have hsublist : (schema.blockedFormulas row).Sublist
      (other.formulasInForce (row.withOverrides overrides)) := by
    rw [← h.map_zeroed_blockedFormulas hkeys, h.formulasInForce]
    exact (schema.blockedFormulas_sublist row).map _
  refine eq_of_sublist_of_mem_iff ?_ (other.blockedFormulas_sublist _) hsublist fun field => ?_
  · exact .of_map _ ((Schema.keys_formulasInForce_sublist other _).nodup (.of_map _ hother))
  · simp only [Schema.mem_blockedFormulas_iff hother, Schema.mem_blockedFormulas_iff hkeys,
      h.deadlock_iff]

theorem passFields_zero_perm : ((schema.passFields row 0).map (zeroed key)).Perm
    (other.passFields (row.withOverrides overrides) 0) := by
  have hall := (schema.passFields_zero_append_blocked_perm row).map (zeroed key)
  rw [List.map_append, h.map_zeroed_blockedFormulas hkeys, ← h.formulasInForce] at hall
  have hother := other.passFields_zero_append_blocked_perm (row.withOverrides overrides)
  rw [h.blockedFormulas hkeys] at hother
  exact (List.perm_append_right_iff _).1 (hall.trans hother.symm)

omit h in
theorem inOrder_map_zeroed : Row.InOrder ((schema.passFields row 0).map (zeroed key)) := by
  refine List.pairwise_map.2 ((Schema.inOrder_passFields_zero hkeys).imp ?_)
  intro first later hreads
  rw [zeroed_fst]
  by_cases hkey : first.1 = key
  · rw [zeroed_of_eq hkey]
    exact Formula.not_textReads_zero _
  · rwa [zeroed_of_ne hkey]

/-! ## The rows of the two runs -/

omit hkeys in
theorem refreshAll_zeroed {fields : List (String × String)}
    (hfields : ∀ field ∈ fields, schema.formula? row field.1 = some field.2) (start : Row) :
    start.refreshAll params (fields.map (zeroed key)) = start.refreshAll params fields := by
  induction fields generalizing start with
  | nil => rfl
  | cons field rest ih =>
      obtain ⟨hfield, hrest⟩ := List.forall_mem_cons.1 hfields
      have hfirst : start.refresh params (zeroed key field) = start.refresh params field := by
        by_cases hkey : field.1 = key
        · obtain ⟨error, hparse⟩ := h.broken _ (hkey ▸ hfield)
          rw [zeroed_of_eq hkey, Row.refresh, Row.refresh, Formula.cellOf_zero,
            Formula.cellOf_of_parse_error hparse, hkey]
        · rw [zeroed_of_ne hkey]
      rw [List.map_cons, Row.refreshAll, List.foldl_cons, hfirst]
      exact ih hrest _

theorem refreshAll_passFields (sweeps : Nat) :
    (row.withOverrides overrides).refreshAll params
        (other.passFields (row.withOverrides overrides) sweeps) =
      (row.refreshAll params (schema.passFields row sweeps)).withOverrides overrides := by
  have hother : (other.keys.map Text.normalizeKey).Nodup := by rwa [h.keys]
  have hnodup : (((schema.passFields row 0).map (zeroed key)).map (·.1)).Nodup := by
    rw [List.map_map]
    simpa only [Function.comp_def, zeroed_fst] using
      Schema.nodup_keys_passFields_zero (.of_map _ hkeys)
  have hsource : ∀ field ∈ schema.passFields row 0, schema.formula? row field.1 = some field.2 :=
    fun field hfield =>
      (Schema.mem_formulasInForce.1 (Schema.mem_formulasInForce_of_mem_passFields hfield)).2
  have honce : row.refreshAll params (other.passFields (row.withOverrides overrides) 0) =
      row.refreshAll params (schema.passFields row 0) := by
    rw [← h.refreshAll_zeroed hsource]
    exact (Row.refreshAll_perm (h.passFields_zero_perm hkeys) hnodup
      (inOrder_map_zeroed hkeys) (Schema.inOrder_passFields_zero hother) row).symm
  rw [Row.refreshAll_withOverrides, other.passFields_eq_append, schema.passFields_eq_append,
    Row.refreshAll_append, Row.refreshAll_append, honce, h.blockedFormulas hkeys]

theorem sweepMovement (params : Formula.Params) :
    other.sweepMovement params (row.withOverrides overrides) = schema.sweepMovement params row := by
  funext sweep
  rw [Schema.sweepMovement, Schema.sweepMovement, Schema.sweepLog, Schema.sweepLog,
    h.refreshAll_passFields hkeys, h.blockedFormulas hkeys, Row.map_movement_withOverrides]

theorem sweepCount_formulaPass :
    sweepCount (formulaPass other context (row.withOverrides overrides)).2 =
      sweepCount (formulaPass schema context row).2 := by
  have hsome : (formulaPass other context (row.withOverrides overrides)).2.isSome ↔
      (formulaPass schema context row).2.isSome := by
    rw [formulaPass_snd_isSome_iff_blockedFormulas, formulaPass_snd_isSome_iff_blockedFormulas,
      h.blockedFormulas hkeys]
  cases hcycle : (formulaPass schema context row).2 with
  | none =>
      cases hother : (formulaPass other context (row.withOverrides overrides)).2 with
      | none => rfl
      | some report => simp [hcycle, hother] at hsome
  | some report =>
      cases hother : (formulaPass other context (row.withOverrides overrides)).2 with
      | none => simp [hcycle, hother] at hsome
      | some otherReport =>
          obtain ⟨-, hlast, -⟩ := formulaPass_snd hcycle
          obtain ⟨-, hlastOther, -⟩ := formulaPass_snd hother
          rw [h.sweepMovement hkeys] at hlastOther
          exact hlastOther.unique hlast

theorem formulaPass_row : (formulaPass other context (row.withOverrides overrides)).1.row =
    (formulaPass schema context row).1.row.withOverrides overrides := by
  rw [formulaPass_eq_advance, formulaPass_eq_advance, h.sweepCount_formulaPass hkeys]
  exact h.refreshAll_passFields hkeys _

theorem ruledRow_eq : ruledRow other context (row.withOverrides overrides) =
    (ruledRow schema context row).withOverrides overrides := by
  rw [ruledRow, h.formulaPass_row hkeys]
  exact (local_applyRules context).withOverrides overrides _

theorem recompute_fst (context : Context) :
    (recompute other context (row.withOverrides overrides)).1 =
      (recompute schema context row).1.withOverrides overrides := by
  have hproduct : Product.isTravel
      (formulaPass other context (row.withOverrides overrides)).1.row =
        Product.isTravel (formulaPass schema context row).1.row := by
    rw [h.formulaPass_row hkeys]
    rfl
  cases htravel : Product.isTravel (formulaPass schema context row).1.row with
  | true =>
      rw [recompute_row_of_travel (hproduct.trans htravel), recompute_row_of_travel htravel,
        h.ruledRow_eq hkeys, Rules.travel_withOverrides]
  | false =>
      have hsource : ∀ field ∈ schema.formulasOf row (repricedKeys (ruledRow schema context row)),
          schema.formula? row field.1 = some field.2 :=
        fun field hfield => (Schema.mem_formulasOf.1 hfield).2
      rw [recompute_row (hproduct.trans htravel), recompute_row htravel,
        h.ruledRow_eq hkeys, sharedRow_withOverrides, repricedKeys_withOverrides, h.formulas,
        Row.refreshAll_withOverrides, h.refreshAll_zeroed hsource]

end ZeroesBroken

/-! ## Replacing the formula of a field -/

theorem isBlankText_zero : Text.isBlankText "0" = false := by decide

namespace Schema

def withFormula (schema : Schema) (key formula : String) : Schema where
  name := schema.name
  columns := schema.columns.map fun column =>
    if column.key = key then { column with formula := some formula } else column

variable (schema : Schema) {row : Row} {key other source formula : String}

theorem keys_withFormula : (schema.withFormula key formula).keys = schema.keys := by
  rw [keys, withFormula, List.map_map, keys]
  refine List.map_congr_left fun column _ => ?_
  simp only [Function.comp_apply]
  split
  · rfl
  · rfl

theorem column?_withFormula : (schema.withFormula key formula).column? other =
    (schema.column? other).map fun column =>
      if column.key = key then { column with formula := some formula } else column := by
  rw [column?, withFormula, List.find?_map, column?]
  congr 2
  funext column
  simp only [Function.comp_apply]
  split
  · rfl
  · rfl

theorem key_of_column? {column : Column} (h : schema.column? other = some column) :
    column.key = other := by
  simpa using List.find?_some h

theorem formula?_withFormula_of_ne (h : other ≠ key) :
    (schema.withFormula key formula).formula? row other = schema.formula? row other := by
  rw [formula?, formula?, column?_withFormula]
  cases hcolumn : schema.column? other with
  | none => rfl
  | some column =>
      have hkey : column.key ≠ key := schema.key_of_column? hcolumn ▸ h
      rw [Option.map_some, if_neg hkey]

theorem formula?_withFormula_zero (hoverride : row.override? key = none)
    (hsource : schema.formula? row key = some source) :
    (schema.withFormula key "0").formula? row key = some "0" := by
  rw [formula?, hoverride, Option.none_or] at hsource
  obtain ⟨column, hcolumn, -⟩ := Option.bind_eq_some_iff.1 hsource
  rw [formula?, hoverride, Option.none_or, column?_withFormula, hcolumn, Option.map_some,
    if_pos (schema.key_of_column? hcolumn), Option.bind_some, Column.defaultFormula?,
    Option.filter_some, isBlankText_zero]
  rfl

theorem formula?_setOverride_zero (row : Row) (key : String) :
    schema.formula? (row.setOverride key "0") key = some "0" := by
  have hoverride : (row.setOverride key "0").override? key = some "0" := by
    rw [Row.override?, Row.setOverride, Keyed.get?_insert, if_pos rfl, Option.filter_some,
      isBlankText_zero]
    rfl
  rw [formula?, hoverride, Option.some_or]

theorem formula?_setOverride_of_ne (row : Row) (formula : String) (h : other ≠ key) :
    schema.formula? (row.setOverride key formula) other = schema.formula? row other := by
  rw [formula?, formula?, Row.override?, Row.setOverride, Keyed.get?_insert, if_neg h,
    Row.override?]

theorem formulasOf_eq_map_zeroed {replaced : Schema} {replacedRow : Row}
    (hsource : schema.formula? row key = some source)
    (hzero : replaced.formula? replacedRow key = some "0")
    (hothers : ∀ other ≠ key, replaced.formula? replacedRow other = schema.formula? row other)
    (keys : List String) :
    replaced.formulasOf replacedRow keys = (schema.formulasOf row keys).map (zeroed key) := by
  rw [formulasOf, formulasOf, List.map_filterMap]
  refine List.filterMap_congr fun other _ => ?_
  by_cases hkey : other = key
  · have hzeroed : zeroed key (key, source) = (key, "0") := zeroed_of_eq rfl
    rw [hkey, hzero, hsource, Option.map_some, Option.map_some, Option.map_some, hzeroed]
  · rw [hothers other hkey]
    cases schema.formula? row other with
    | none => rfl
    | some formula => exact congrArg some (zeroed_of_ne hkey).symm

end Schema

section

variable {schema : Schema} {row : Row} {key source : String} {error : FormulaError}

/-- A formula that cannot be read gives the row that zero gives in its place, be
it an override or the default of a column. -/
theorem recompute_zero_for_broken (context : Context)
    (hkeys : (schema.keys.map Text.normalizeKey).Nodup)
    (hsource : schema.formula? row key = some source)
    (hparse : Formula.parse source = .error error) :
    (recompute schema context (row.setOverride key "0")).1 =
        (recompute schema context row).1.setOverride key "0" ∧
      (row.override? key = none →
        (recompute (schema.withFormula key "0") context row).1 =
          (recompute schema context row).1) := by
  have hbroken : ∀ other, schema.formula? row key = some other →
      ∃ error, Formula.parse other = .error error := by
    intro other hother
    rw [hsource, Option.some.injEq] at hother
    exact ⟨error, hother ▸ hparse⟩
  constructor
  · have hzeroes : ZeroesBroken schema row key schema (row.overrides.insert key "0") :=
      ⟨rfl, hbroken, schema.formulasOf_eq_map_zeroed hsource
        (schema.formula?_setOverride_zero row key)
        fun other hother => schema.formula?_setOverride_of_ne row "0" hother⟩
    have hoverrides : (recompute schema context row).1.setOverride key "0" =
        (recompute schema context row).1.withOverrides (row.overrides.insert key "0") := by
      rw [← overrides_recompute schema context row]
      rfl
    rw [hoverrides]
    exact hzeroes.recompute_fst hkeys context
  · intro hoverride
    have hzeroes : ZeroesBroken schema row key (schema.withFormula key "0") row.overrides :=
      ⟨schema.keys_withFormula, hbroken, schema.formulasOf_eq_map_zeroed hsource
        (schema.formula?_withFormula_zero hoverride hsource)
        fun other hother => schema.formula?_withFormula_of_ne hother⟩
    have hsame := hzeroes.recompute_fst hkeys context
    rw [row.withOverrides_self] at hsame
    rw [hsame, ← overrides_recompute schema context row, Row.withOverrides_self]

def brokenRate : Schema where
  name := "grid"
  columns := [
    { key := Field.totalPrice, formula := some "\x7bprix_unitaire\x7d * 2" },
    { key := Field.unitPrice, formula := some "\x7btaux\x7d + 1" },
    { key := "taux", formula := some "2 *" },
    { key := "first", formula := some "\x7bsecond\x7d + \x7btaux\x7d" },
    { key := "second", formula := some "\x7bfirst\x7d" }]

theorem recompute_zero_for_broken_rate :
    (brokenRate.keys.map Text.normalizeKey).Nodup ∧
      (Plan.build (readable (brokenRate.formulasInForce { id := "r" }))).order = [1, 0] ∧
      (Plan.build (readable ((brokenRate.withFormula "taux" "0").formulasInForce
        { id := "r" }))).order = [2, 1, 0] ∧
      (recompute (brokenRate.withFormula "taux" "0") {} { id := "r" }).1 =
        (recompute brokenRate {} { id := "r" }).1 := by
  have hkeys : (brokenRate.keys.map Text.normalizeKey).Nodup := by decide +kernel
  have hsource : brokenRate.formula? { id := "r" } "taux" = some "2 *" := by decide +kernel
  have hbroken : (Formula.parse "2 *").toOption.isNone := by decide +kernel
  refine ⟨hkeys, by decide +kernel, by decide +kernel, ?_⟩
  cases hparse : Formula.parse "2 *" with
  | ok formula =>
      rw [hparse] at hbroken
      cases hbroken
  | error error =>
      exact (recompute_zero_for_broken {} hkeys hsource hparse).2 (by decide +kernel)

end

end Drapery
