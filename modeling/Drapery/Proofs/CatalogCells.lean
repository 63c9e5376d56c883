import Drapery.Proofs.WrittenCells

/-!
# What the catalog leaves in a row

The slots and the mechanism write different cells and read none of each other's.
So each of them leaves what it would have written alone into the row that the
formulas left, and its reference leads where it led on that row.  The end of a
recomputation writes prices and trips only.
-/

namespace Drapery

/-! ## References read one after the other -/

namespace MaterialSlot

theorem reference?_congr {slot : MaterialSlot} {a b : Row} (catalog : Catalog)
    (hname : a.get? slot.reference = b.get? slot.reference)
    (hid : a.get? slot.referenceId = b.get? slot.referenceId) :
    slot.reference? catalog a = slot.reference? catalog b :=
  Row.reference_congr hname hid

theorem local_applyCatalog (slot : MaterialSlot) (catalog : Catalog) :
    Row.Local slot.footprint.inputs slot.footprint.outputs (slot.applyCatalog catalog) := by
  have hlocal := (slot.step catalog).isLocal
  simpa only [step] using hlocal

theorem reference?_priceSlots {slots : List MaterialSlot} {slot : MaterialSlot}
    (h : ∀ other ∈ slots, other.footprint.Apart slot.footprint) (catalog : Catalog) (row : Row) :
    slot.reference? catalog (Rules.priceSlots slots catalog row).1 =
      slot.reference? catalog row := by
  have hunwritten : ∀ key ∈ slot.footprint.inputs ++ slot.footprint.outputs,
      ∀ step ∈ slots.map (·.step catalog), key ∉ step.outputs := by
    intro key hkey step hstep hmem
    obtain ⟨other, hother, rfl⟩ := List.mem_map.1 hstep
    exact (h other hother).1 key hmem hkey
  rw [Rules.priceSlots_row]
  exact reference?_congr catalog
    (Step.get?_runAll_of_not_mem (hunwritten _ (by simp [footprint])) row)
    (Step.get?_runAll_of_not_mem (hunwritten _ (by simp [footprint])) row)

end MaterialSlot

namespace Rules

theorem priceSlots_unresolved (catalog : Catalog) {slots : List MaterialSlot}
    (h : slots.Pairwise fun slot other => slot.footprint.Apart other.footprint) (row : Row) :
    (priceSlots slots catalog row).2 =
      (slots.filter fun slot => !(slot.reference? catalog row).isResolved).map (·.reference) := by
  induction slots using List.reverseRecOn with
  | nil => rfl
  | append_singleton earlier slot ih =>
      obtain ⟨hearlier, -, hslot⟩ := List.pairwise_append.1 h
      have hlast : (priceSlots (earlier ++ [slot]) catalog row).2 =
          if (slot.reference? catalog (priceSlots earlier catalog row).1).isResolved then
            (priceSlots earlier catalog row).2
          else (priceSlots earlier catalog row).2 ++ [slot.reference] := by
        rw [priceSlots, List.foldl_append, ← priceSlots]
        simp only [List.foldl_cons, List.foldl_nil]
      have hsame : slot.reference? catalog (priceSlots earlier catalog row).1 =
          slot.reference? catalog row :=
        MaterialSlot.reference?_priceSlots
          (fun other hother => hslot other hother slot List.mem_cons_self) catalog row
      rw [hlast, hsame, ih hearlier]
      cases hresolved : (slot.reference? catalog row).isResolved <;> simp [hresolved]

end Rules

/-! ## The cells in the end -/

section

variable {schema : Schema} {context : Context} {row : Row} {slot : MaterialSlot} {key : String}

theorem get?_ruledRow_of_mem_steps {step : Step} (hstep : step ∈ Rules.steps context)
    (hkey : key ∈ step.outputs) :
    (ruledRow schema context row).get? key =
      (step.run (formulaPass schema context row).1.row).get? key := by
  rw [ruledRow, applyRules_row]
  exact Step.get?_runAll_of_mem (Rules.pairwise_steps context) hstep hkey _

theorem get?_recompute_of_slot (hslot : slot ∈ MaterialSlot.fabrics)
    (hkey : key ∈ slot.footprint.outputs) :
    (recompute schema context row).1.get? key =
      (slot.applyCatalog context.catalog (formulaPass schema context row).1.row).get? key := by
  have hunfinished : ∀ slot ∈ MaterialSlot.fabrics, ∀ key ∈ slot.footprint.outputs,
      key ∉ finishedFields := by decide
  have hstep : slot.step context.catalog ∈ Rules.steps context :=
    List.mem_append_left _ (List.mem_map_of_mem hslot)
  rw [get?_recompute_ruledRow (hunfinished slot hslot key hkey),
    get?_ruledRow_of_mem_steps hstep hkey, MaterialSlot.run_step]

theorem get?_recompute_of_slot_input (hslot : slot ∈ MaterialSlot.fabrics)
    (hkey : key ∈ slot.footprint.inputs) :
    (recompute schema context row).1.get? key =
      (formulaPass schema context row).1.row.get? key := by
  have hread : ∀ slot ∈ MaterialSlot.fabrics, ∀ key ∈ slot.footprint.inputs,
      key ∉ finishedFields ++ Rules.writtenFields := by decide
  exact get?_recompute_formulaPass (hread slot hslot key hkey)

theorem get?_recompute_of_mechanism_input (hkey : key ∈ Rules.mechanismFootprint.inputs) :
    (recompute schema context row).1.get? key =
      (formulaPass schema context row).1.row.get? key := by
  have hread : ∀ key ∈ Rules.mechanismFootprint.inputs,
      key ∉ finishedFields ++ Rules.writtenFields := by decide
  exact get?_recompute_formulaPass (hread key hkey)

theorem get?_recompute_of_mechanism (hkey : key ∈ Rules.mechanismFootprint.outputs) :
    (recompute schema context row).1.get? key =
      (Rules.mechanism context.catalog (formulaPass schema context row).1.row).1.get? key := by
  have hunfinished : ∀ key ∈ Rules.mechanismFootprint.outputs, key ∉ finishedFields := by decide
  have hstep : Rules.mechanismStep context.catalog ∈ Rules.steps context :=
    List.mem_append_right _ List.mem_cons_self
  rw [get?_recompute_ruledRow (hunfinished key hkey), get?_ruledRow_of_mem_steps hstep hkey,
    Rules.run_mechanismStep]

theorem mem_unresolved_recompute (hslot : slot ∈ MaterialSlot.fabrics) :
    slot.reference ∈ (recompute schema context row).2.unresolved ↔
      (slot.reference? context.catalog (formulaPass schema context row).1.row).isResolved =
        false := by
  set passed := (formulaPass schema context row).1.row with hpassed
  have hapart : MaterialSlot.fabrics.Pairwise
      fun slot other => slot.footprint.Apart other.footprint := by decide
  have hmechanism : ∀ slot ∈ MaterialSlot.fabrics, slot.reference ≠ Field.mechanismModel := by
    decide
  have hreferences : (MaterialSlot.fabrics.map (·.reference)).Nodup := by decide
  have hlisted : slot.reference ∈ (Rules.fabrics context.catalog passed).2 ↔
      (slot.reference? context.catalog passed).isResolved = false := by
    rw [Rules.fabrics, Rules.priceSlots_unresolved context.catalog hapart, List.mem_map]
    constructor
    · rintro ⟨other, hother, hsame⟩
      obtain ⟨hmem, hunresolved⟩ := List.mem_filter.1 hother
      rw [← List.inj_on_of_nodup_map hreferences hmem hslot hsame]
      simpa using hunresolved
    · intro hunresolved
      exact ⟨slot, List.mem_filter.2 ⟨hslot, by simp [hunresolved]⟩, rfl⟩
  have hreport : (recompute schema context row).2.unresolved = (applyRules context passed).2 := by
    rw [recompute_eq, hpassed]
  rw [hreport, ← hlisted, applyRules]
  simp only
  split
  · rfl
  · simp [hmechanism slot hslot]

end

end Drapery
