import Drapery.Proofs.ReferenceOutcomes

/-!
# The rules in any order

Fabrics, mechanism and labor are passes over a row.  None of them writes what
another one reads, be it to price the row or to tell whether a reference is
known, so that they may come in any order.  The same holds of the slots.
-/

namespace Drapery

namespace Rules

inductive Pass where
  | fabrics
  | mechanism
  | labor
  deriving DecidableEq, Repr

def Pass.inOrder : List Pass := [fabrics, mechanism, labor]

@[ext] structure Outcome where
  row : Row
  unresolved : List String
  resolved : Bool

def Pass.apply (context : Context) (slots : List MaterialSlot) (outcome : Outcome) : Pass → Outcome
  | fabrics =>
    let priced := priceSlots slots context.catalog outcome.row
    { outcome with row := priced.1, unresolved := priced.2 }
  | mechanism =>
    let priced := Rules.mechanism context.catalog outcome.row
    { outcome with row := priced.1, resolved := priced.2 }
  | labor => { outcome with row := Rules.labor context.settings outcome.row }

def runPasses (context : Context) (slots : List MaterialSlot) (passes : List Pass) (row : Row) :
    Outcome :=
  passes.foldl (Pass.apply context slots) ⟨row, [], true⟩

theorem runPasses_inOrder (context : Context) (slots : List MaterialSlot) (row : Row) :
    runPasses context slots Pass.inOrder row =
      let priced := priceSlots slots context.catalog row
      let mounted := mechanism context.catalog priced.1
      ⟨labor context.settings mounted.1, priced.2, mounted.2⟩ := by
  simp only [runPasses, Pass.inOrder, List.foldl_cons, List.foldl_nil, Pass.apply]

theorem applyRules_eq_runPasses (context : Context) (row : Row) :
    applyRules context row =
      let outcome := runPasses context MaterialSlot.fabrics Pass.inOrder row
      (outcome.row, if outcome.resolved then outcome.unresolved
        else outcome.unresolved ++ [Field.mechanismModel]) := by
  rw [runPasses_inOrder, applyRules, fabrics]

/-! ## What the passes read and write -/

def fabricsFootprint : Footprint where
  inputs := MaterialSlot.fabrics.flatMap (·.footprint.inputs)
  outputs := MaterialSlot.fabrics.flatMap (·.footprint.outputs)

section

variable {slots : List MaterialSlot} (hslots : slots.Perm MaterialSlot.fabrics)

include hslots

theorem pairwise_slots :
    slots.Pairwise fun slot other => slot.footprint.Apart other.footprint := by
  have hfabrics : MaterialSlot.fabrics.Pairwise
      fun slot other => slot.footprint.Apart other.footprint := by decide
  exact hslots.symm.pairwise hfabrics fun h => ⟨h.2, h.1⟩

theorem local_priceSlots (catalog : Catalog) :
    Row.Local fabricsFootprint.inputs fabricsFootprint.outputs
      fun row => (priceSlots slots catalog row).1 := by
  simp only [priceSlots_row]
  apply Step.local_runAll
  intro step hstep
  obtain ⟨slot, hslot, rfl⟩ := List.mem_map.1 hstep
  have hmem : slot ∈ MaterialSlot.fabrics := hslots.subset hslot
  exact ⟨fun key hkey => List.mem_flatMap.2 ⟨slot, hmem, hkey⟩,
    fun key hkey => List.mem_flatMap.2 ⟨slot, hmem, hkey⟩⟩

/-- Which references are unknown is told by the cells of the slots alone. -/
theorem dependsOn_unresolved (catalog : Catalog) :
    Row.DependsOn (fabricsFootprint.inputs ++ fabricsFootprint.outputs)
      fun row => (priceSlots slots catalog row).2 := by
  intro a b h
  have hreference : ∀ slot ∈ slots, slot.reference? catalog a = slot.reference? catalog b := by
    intro slot hslot
    have hmem : slot ∈ MaterialSlot.fabrics := hslots.subset hslot
    have hcell : ∀ key ∈ slot.footprint.inputs ++ slot.footprint.outputs,
        a.get? key = b.get? key := by
      intro key hkey
      apply h
      rcases List.mem_append.1 hkey with hin | hout
      · exact List.mem_append_left _ (List.mem_flatMap.2 ⟨slot, hmem, hin⟩)
      · exact List.mem_append_right _ (List.mem_flatMap.2 ⟨slot, hmem, hout⟩)
    exact MaterialSlot.reference?_congr catalog (hcell _ (by simp [MaterialSlot.footprint]))
      (hcell _ (by simp [MaterialSlot.footprint]))
  have hunresolved := priceSlots_unresolved catalog (pairwise_slots hslots)
  have hsame : (slots.filter fun slot => !(slot.reference? catalog a).isResolved) =
      slots.filter fun slot => !(slot.reference? catalog b).isResolved :=
    List.filter_congr fun slot hslot => by rw [hreference slot hslot]
  simp only [hunresolved, hsame]

end

theorem dependsOn_resolved (catalog : Catalog) :
    Row.DependsOn (mechanismFootprint.inputs ++ mechanismFootprint.outputs)
      fun row => (mechanism catalog row).2 := by
  intro a b h
  have hkind : Product.hasRail a = Product.hasRail b := by
    rw [Product.hasRail, Product.hasRail, Row.label_congr (h _ (by decide))]
  have hreference : a.reference catalog Field.mechanismModel Field.mechanismModelId =
      b.reference catalog Field.mechanismModel Field.mechanismModelId :=
    Row.reference_congr (h _ (by decide)) (h _ (by decide))
  simp only [mechanism_isResolved, hkind, hreference]

/-! ## Passes as steps -/

namespace Pass

def footprint : Pass → Footprint
  | fabrics => fabricsFootprint
  | mechanism => mechanismFootprint
  | labor => laborFootprint

theorem apart_footprint : ∀ {first second : Pass}, first ≠ second →
    first.footprint.Apart second.footprint := by
  have hfabrics : fabricsFootprint.Apart mechanismFootprint ∧
      fabricsFootprint.Apart laborFootprint := by decide
  have hmechanism : mechanismFootprint.Apart laborFootprint := by decide
  intro first second h
  cases first with
  | fabrics =>
      cases second with
      | fabrics => exact absurd rfl h
      | mechanism => exact hfabrics.1
      | labor => exact hfabrics.2
  | mechanism =>
      cases second with
      | fabrics => exact hfabrics.1.symm
      | mechanism => exact absurd rfl h
      | labor => exact hmechanism
  | labor =>
      cases second with
      | fabrics => exact hfabrics.2.symm
      | mechanism => exact hmechanism.symm
      | labor => exact absurd rfl h

variable (context : Context) {slots : List MaterialSlot}

theorem local_apply (hslots : slots.Perm MaterialSlot.fabrics) (pass : Pass) :
    Row.Local pass.footprint.inputs pass.footprint.outputs
      fun row => (pass.apply context slots ⟨row, [], true⟩).row := by
  cases pass with
  | fabrics => exact local_priceSlots hslots context.catalog
  | mechanism =>
      have hlocal : Row.Local mechanismFootprint.inputs mechanismFootprint.outputs
          fun row => (Rules.mechanism context.catalog row).1 := by
        simpa only [mechanismStep] using (mechanismStep context.catalog).isLocal
      exact hlocal
  | labor =>
      exact (laborStep context.settings).isLocal

def step (hslots : slots.Perm MaterialSlot.fabrics) (pass : Pass) : Step where
  toFootprint := pass.footprint
  run row := (pass.apply context slots ⟨row, [], true⟩).row
  isLocal := local_apply context hslots pass

variable (hslots : slots.Perm MaterialSlot.fabrics) (outcome : Outcome) (pass : Pass)

theorem row_apply :
    (pass.apply context slots outcome).row = (pass.step context hslots).run outcome.row := by
  cases pass <;> rfl

theorem unresolved_apply : (pass.apply context slots outcome).unresolved =
    if pass = fabrics then (priceSlots slots context.catalog outcome.row).2
    else outcome.unresolved := by
  cases pass <;> rfl

theorem resolved_apply : (pass.apply context slots outcome).resolved =
    if pass = mechanism then (Rules.mechanism context.catalog outcome.row).2
    else outcome.resolved := by
  cases pass <;> rfl

theorem told_comm {ρ : Type} {value : Row → ρ} (teller : Pass) {first second : Pass}
    (hvalue : Row.DependsOn (teller.footprint.inputs ++ teller.footprint.outputs) value)
    (hdistinct : first ≠ second) (old : ρ) (row : Row) :
    (if second = teller then value ((first.step context hslots).run row)
      else if first = teller then value row else old) =
    if first = teller then value ((second.step context hslots).run row)
      else if second = teller then value row else old := by
  have hunchanged : ∀ {other : Pass}, other ≠ teller →
      value ((other.step context hslots).run row) = value row := by
    intro other hother
    exact (other.step context hslots).eq_run_of_dependsOn hvalue (apart_footprint hother).1 row
  by_cases hfirst : first = teller
  · have hsecond : second ≠ teller := fun h => hdistinct (hfirst.trans h.symm)
    rw [if_neg hsecond, if_pos hfirst, if_pos hfirst, hunchanged hsecond]
  · by_cases hsecond : second = teller
    · rw [if_pos hsecond, if_neg hfirst, if_pos hsecond, hunchanged hfirst]
    · rw [if_neg hsecond, if_neg hfirst, if_neg hfirst, if_neg hsecond]

include hslots

/-- Two passes leave the same cells and find the same references in either order. -/
theorem apply_comm (first second : Pass) :
    second.apply context slots (first.apply context slots outcome) =
      first.apply context slots (second.apply context slots outcome) := by
  by_cases hsame : first = second
  · rw [hsame]
  rw [Outcome.ext_iff]
  refine ⟨?_, ?_, ?_⟩
  · simp only [row_apply context hslots]
    exact Step.run_comm (apart_footprint hsame).symm outcome.row
  · simp only [unresolved_apply, row_apply context hslots]
    exact told_comm context hslots fabrics (dependsOn_unresolved hslots context.catalog) hsame _ _
  · simp only [resolved_apply, row_apply context hslots]
    exact told_comm context hslots mechanism (dependsOn_resolved context.catalog) hsame _ _

end Pass

/-! ## Any order -/

section

variable {slots : List MaterialSlot} (hslots : slots.Perm MaterialSlot.fabrics)

include hslots

theorem priceSlots_perm (catalog : Catalog) (row : Row) :
    (priceSlots slots catalog row).1 = (fabrics catalog row).1 := by
  have hapart : (slots.map (·.step catalog)).Pairwise fun s t => s.Apart t.toFootprint :=
    List.pairwise_map.2 (pairwise_slots hslots)
  rw [fabrics, priceSlots_row, priceSlots_row]
  exact Step.runAll_perm (hslots.map _) hapart row

theorem unresolved_priceSlots_perm (catalog : Catalog) (row : Row) :
    (priceSlots slots catalog row).2.Perm (fabrics catalog row).2 := by
  rw [fabrics, priceSlots_unresolved catalog (pairwise_slots hslots),
    priceSlots_unresolved catalog (pairwise_slots (.refl _))]
  exact (hslots.filter _).map _

/-- The passes leave the same row, list the same references and resolve the same
mechanism in whichever order they come, and the slots leave the same row in
whichever order they are priced. -/
theorem runPasses_anyOrder {passes : List Pass}
    (hpasses : passes.Perm Pass.inOrder) (context : Context) (row : Row) :
    runPasses context slots passes row = runPasses context slots Pass.inOrder row ∧
      (priceSlots slots context.catalog row).1 = (fabrics context.catalog row).1 ∧
      (runPasses context slots passes row).row = (applyRules context row).1 ∧
      (runPasses context slots passes row).unresolved.Perm (fabrics context.catalog row).2 := by
  have hrow := priceSlots_perm hslots context.catalog row
  have hpass : runPasses context slots passes row = runPasses context slots Pass.inOrder row :=
    hpasses.foldl_eq' (fun first _ second _ outcome =>
      Pass.apply_comm context hslots outcome first second) _
  refine ⟨hpass, hrow, ?_, ?_⟩
  · rw [hpass, runPasses_inOrder, applyRules]
    simp only [hrow]
  · rw [hpass, runPasses_inOrder]
    exact unresolved_priceSlots_perm hslots context.catalog row

end

def linedHall : Row :=
  ((hallRow.setText Field.product "Rideau").setNumber Field.preparationHours 2).setText
    MaterialSlot.lining.reference "Satin"

theorem runPasses_anyOrder_linedHall :
    [Pass.labor, Pass.mechanism, Pass.fabrics].Perm Pass.inOrder ∧
      MaterialSlot.fabrics.reverse.Perm MaterialSlot.fabrics ∧
      (priceSlots MaterialSlot.fabrics.reverse yardContext.catalog linedHall).2 =
        ["interdoublure", "doublure"] ∧
      (runPasses yardContext MaterialSlot.fabrics.reverse [.labor, .mechanism, .fabrics]
        linedHall).row = (applyRules yardContext linedHall).1 := by
  have hpasses : [Pass.labor, Pass.mechanism, Pass.fabrics].Perm Pass.inOrder :=
    Pass.inOrder.reverse_perm
  have hslots := MaterialSlot.fabrics.reverse_perm
  exact ⟨hpasses, hslots, by decide +kernel,
    (runPasses_anyOrder hslots hpasses yardContext linedHall).2.2.1⟩

end Rules

end Drapery
