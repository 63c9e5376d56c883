import Drapery.Proofs.RecomputedRow

/-!
# Formulas on the row in the end

Only the price formulas are evaluated after the rules.  Every other formula saw
the row as the formula pass left it, and it need not hold once the rules have
moved what it reads.  What a cell holds is the value of its formula on the row
in the end with the cells that moved since put back.
-/

namespace Drapery

/-! ## Putting cells back -/

namespace Row

def restore (row other : Row) (keys : List String) : Row :=
  keys.foldl (fun row key =>
    match other.get? key with
    | some cell => row.set key cell
    | none => row.remove key) row

theorem get?_restore (row other : Row) (keys : List String) (key : String) :
    (row.restore other keys).get? key =
      if key ∈ keys then other.get? key else row.get? key := by
  induction keys generalizing row with
  | nil => simp [restore]
  | cons first rest ih =>
      rw [restore, List.foldl_cons, ← restore, ih]
      by_cases hrest : key ∈ rest
      · simp [hrest]
      · by_cases hfirst : key = first
        · subst hfirst
          cases hcell : other.get? key with
          | none => simp [hrest, get?_remove]
          | some cell => simp [hrest]
        · cases hcell : other.get? first <;> simp [hrest, hfirst, get?_set, get?_remove]

-- a cell that the other row does not have is taken away again
example : ((({ id := "r" } : Row).setNumber Field.width 2).restore { id := "r" }
    [Field.width]).get? Field.width |>.isNone := by decide +kernel

end Row

/-! ## What moves after an evaluation -/

/-- The cells that may move once the field was evaluated for the last time. -/
def movedAfter (key : String) : List String :=
  if key = Field.totalPrice then []
  else if key = Field.unitPrice then [Field.totalPrice]
  else Rules.writtenFields ++ [Field.unitPrice, Field.totalPrice]

section

variable {schema : Schema} {context : Context} {row : Row} {key source : String}

theorem holds_restore_totalPrice
    (htravel : Product.isTravel (formulaPass schema context row).1.row = false)
    (hcommission : Product.isCommission (formulaPass schema context row).1.row = false)
    (hsource : schema.formula? row Field.totalPrice = some source)
    (hself : ¬ Formula.TextReads source Field.totalPrice) :
    (recompute schema context row).1.get? Field.totalPrice =
      some (Formula.cellOf context.params source
        ((recompute schema context row).1.restore (formulaPass schema context row).1.row
          (movedAfter Field.totalPrice))) := by
  rw [← isCommission_ruledRow] at hcommission
  rw [movedAfter, if_pos rfl]
  exact holds_totalPrice htravel hcommission hsource hself

theorem holds_restore_unitPrice
    (htravel : Product.isTravel (formulaPass schema context row).1.row = false)
    (hcommission : Product.isCommission (formulaPass schema context row).1.row = false)
    (hsource : schema.formula? row Field.unitPrice = some source)
    (hself : ¬ Formula.TextReads source Field.unitPrice) :
    (recompute schema context row).1.get? Field.unitPrice =
      some (Formula.cellOf context.params source
        ((recompute schema context row).1.restore (formulaPass schema context row).1.row
          (movedAfter Field.unitPrice))) := by
  have hframe := agreeOff_recompute_unitRow htravel
  -- the total is not written between the pass and the evaluation of the unit price
  have htotal : (unitRow schema context row).get? Field.totalPrice =
      (formulaPass schema context row).1.row.get? Field.totalPrice := by
    rw [agreeOff_unitRow_sharedRow.cells _ (by decide), sharedRow, isCommission_ruledRow,
      hcommission, if_neg Bool.false_ne_true,
      (agreeOff_ruledRow schema context row).cells _ (by decide)]
  have hheld : (unitRow schema context row).Holds context.params Field.unitPrice source :=
    holds_unitRow hsource hself
  rw [Row.Holds] at hheld
  rw [hframe.cells _ (by decide), hheld, Option.some.injEq]
  refine Formula.cellOf_congr fun read _ => ?_
  have hmoved : movedAfter Field.unitPrice = [Field.totalPrice] := by decide
  rw [Row.get?_restore, hmoved]
  split
  · rename_i hread
    rw [List.mem_singleton.1 hread, htotal]
  · rename_i hread
    exact (hframe.cells read hread).symm

theorem holds_restore_of_ne (hkeys : (schema.keys.map Text.normalizeKey).Nodup)
    (hacyclic : (Plan.build (readable (schema.formulasInForce row))).isAcyclic)
    (htravel : Product.isTravel (formulaPass schema context row).1.row = false)
    (hfield : (key, source) ∈ schema.formulasInForce row)
    (hself : ¬ Formula.TextReads source key) (hwritten : key ∉ Rules.writtenFields)
    (hunit : key ≠ Field.unitPrice) (htotal : key ≠ Field.totalPrice) :
    (recompute schema context row).1.get? key =
      some (Formula.cellOf context.params source
        ((recompute schema context row).1.restore (formulaPass schema context row).1.row
          (movedAfter key))) := by
  have hframe := agreeOff_recompute_formulaPass htravel
  have hheld : (formulaPass schema context row).1.row.Holds context.params key source :=
    holds_formulaPass hkeys hacyclic hfield hself
  rw [Row.Holds] at hheld
  rw [hframe.cells key (by simp [hwritten, hunit, htotal]), hheld, Option.some.injEq]
  refine Formula.cellOf_congr fun read _ => ?_
  rw [Row.get?_restore, movedAfter, if_neg htotal, if_neg hunit]
  split
  · rfl
  · rename_i hread
    exact (hframe.cells read hread).symm

/-- On a row that its formulas make neither a trip nor a commission, a field that
the rules do not write holds the value of its formula on the row in the end with
what moved since put back, and thus on the row in the end itself unless the
formula reads a cell that did move. -/
theorem recompute_holds {order : List String}
    (hkeys : (schema.keys.map Text.normalizeKey).Nodup) (hanalyze : schema.analyze = .ok order)
    (hoverrides : ∀ key, row.override? key = none)
    (htravel : Product.isTravel (formulaPass schema context row).1.row = false)
    (hcommission : Product.isCommission (formulaPass schema context row).1.row = false)
    (hself : ∀ field ∈ schema.formulasInForce row, ¬ Formula.TextReads field.2 field.1)
    (hfield : (key, source) ∈ schema.formulasInForce row) (hwritten : key ∉ Rules.writtenFields) :
    (recompute schema context row).1.get? key =
        some (Formula.shown (Formula.evaluateText source
          ((recompute schema context row).1.restore (formulaPass schema context row).1.row
            (movedAfter key)) context.params)).toCell ∧
      ((∀ read ∈ movedAfter key, Formula.TextReads source read →
          (recompute schema context row).1.get? read =
            (formulaPass schema context row).1.row.get? read) →
        (recompute schema context row).1.get? key =
          some (Formula.shown (Formula.evaluateText source (recompute schema context row).1
            context.params)).toCell) := by
  have hsource := (Schema.mem_formulasInForce.1 hfield).2
  have hunread := hself (key, source) hfield
  have hrestored : (recompute schema context row).1.get? key =
      some (Formula.cellOf context.params source
        ((recompute schema context row).1.restore (formulaPass schema context row).1.row
          (movedAfter key))) := by
    by_cases htotal : key = Field.totalPrice
    · subst htotal
      exact holds_restore_totalPrice htravel hcommission hsource hunread
    by_cases hunit : key = Field.unitPrice
    · subst hunit
      exact holds_restore_unitPrice htravel hcommission hsource hunread
    · exact holds_restore_of_ne hkeys (Schema.isAcyclic_of_analyze hkeys hanalyze hoverrides)
        htravel hfield hunread hwritten hunit htotal
  refine ⟨hrestored, fun hmoved => ?_⟩
  rw [hrestored, Option.some.injEq]
  refine Formula.cellOf_congr fun read hread => ?_
  rw [Row.get?_restore]
  split
  · rename_i hmem
    exact (hmoved read hmem hread).symm
  · rfl

end

/-! ## A price of labor -/

def laborSchema : Schema where
  name := "grid"
  columns := [
    { key := "double", kind := .number, formula := some "{pv_prepa} * 2" },
    { key := Field.unitPrice, kind := .number, formula := some "{pv_prepa}" }]

def laborContext : Context := { settings := { hourlyRate := 40 } }

def laborRow : Row :=
  ((⟨"r", ∅, ∅⟩ : Row).setText Field.product "Rideau").setNumber Field.preparationHours 1

theorem laborSchema_inForce :
    laborSchema.formulasInForce laborRow =
      [("double", "{pv_prepa} * 2"), (Field.unitPrice, "{pv_prepa}")] := by
  decide +kernel

theorem laborSchema_unread :
    ∀ field ∈ laborSchema.formulasInForce laborRow, ¬ Formula.TextReads field.2 field.1 := by
  rw [laborSchema_inForce]
  decide +kernel

theorem recompute_holds_laborRow :
    (laborSchema.keys.map Text.normalizeKey).Nodup ∧
      laborSchema.analyze.toOption = some ["double", Field.unitPrice] ∧
      (recompute laborSchema laborContext laborRow).1.get? Field.unitPrice =
        some (Formula.shown (Formula.evaluateText "{pv_prepa}"
          (recompute laborSchema laborContext laborRow).1 laborContext.params)).toCell := by
  have hkeys : (laborSchema.keys.map Text.normalizeKey).Nodup := by decide +kernel
  have hanalyze : laborSchema.analyze.toOption = some ["double", Field.unitPrice] := by
    decide +kernel
  refine ⟨hkeys, hanalyze, ?_⟩
  cases horder : laborSchema.analyze with
  | error error =>
      rw [horder] at hanalyze
      cases hanalyze
  | ok order =>
      refine (recompute_holds hkeys horder (fun _ => rfl) (by decide +kernel) (by decide +kernel)
        laborSchema_unread (by simp [laborSchema_inForce]) (by decide)).2 ?_
      have hunread : ∀ read ∈ movedAfter Field.unitPrice,
          ¬ Formula.TextReads "{pv_prepa}" read := by decide +kernel
      exact fun read hread hreads => absurd hreads (hunread read hread)

/-- The first column reads a price of labor, which the rules write after it. -/
theorem stale_after_rules :
    ((laborRow.cells.keys ++ laborSchema.keys).map Text.normalizeKey).Nodup ∧
      laborSchema.analyze.toOption = some ["double", Field.unitPrice] ∧
      laborRow.overrides.isEmpty ∧ Product.isTravel laborRow = false ∧
      Product.isCommission laborRow = false ∧
      (∀ field ∈ laborSchema.formulasInForce laborRow, ¬ Formula.TextReads field.2 field.1) ∧
      ("double", "{pv_prepa} * 2") ∈ laborSchema.formulasInForce laborRow ∧
      "double" ∉ Rules.writtenFields ∧
      (recompute laborSchema laborContext laborRow).1.get? "double" ≠
        some (Formula.shown (Formula.evaluateText "{pv_prepa} * 2"
          (recompute laborSchema laborContext laborRow).1 laborContext.params)).toCell := by
  have hamounts : ((recompute laborSchema laborContext laborRow).1.get? "double").map
      Amount.ofCell ≠ (some (Formula.shown (Formula.evaluateText "{pv_prepa} * 2"
        (recompute laborSchema laborContext laborRow).1 laborContext.params)).toCell).map
          Amount.ofCell := by
    decide +kernel
  refine ⟨by decide +kernel, by decide +kernel, rfl, by decide +kernel, by decide +kernel,
    laborSchema_unread, by simp [laborSchema_inForce], by decide, ?_⟩
  intro heq
  exact hamounts (congrArg _ heq)

end Drapery
