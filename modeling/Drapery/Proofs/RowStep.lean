import Mathlib.Data.List.Pairwise
import Mathlib.Data.List.Perm.Basic
import Drapery.Proofs.RowFrame

/-!
# Steps on rows

A `Step` changes a row by what it finds in some cells and leaves all but its
outputs alone.  Steps that write nothing another one reads or writes may be run
in any order, and a list of them settles at once when each of them does.
-/

namespace Drapery

namespace Row

def DependsOn {ρ : Type} (keys : List String) (value : Row → ρ) : Prop :=
  ∀ a b : Row, (∀ key ∈ keys, a.get? key = b.get? key) → value a = value b

theorem DependsOn.mono {ρ : Type} {keys others : List String} {value : Row → ρ}
    (h : DependsOn keys value) (hsub : keys ⊆ others) : DependsOn others value :=
  fun a b hagree => h a b fun key hkey => hagree key (hsub hkey)

/-- The outputs may keep what was in them, so they count among what is read. -/
structure Local (inputs outputs : List String) (f : Row → Row) : Prop where
  frame : ∀ row, AgreeOff outputs (f row) row
  dependsOn : ∀ key ∈ outputs, DependsOn (inputs ++ outputs) fun row => (f row).get? key

namespace Local

variable {inputs outputs : List String} {f g : Row → Row}

theorem agreeOff {keys : List String} (hf : Local inputs outputs f)
    (hkeys : ∀ key ∈ keys, key ∉ inputs ++ outputs) {a b : Row} (h : AgreeOff keys a b) :
    AgreeOff keys (f a) (f b) := by
  have ha := hf.frame a
  have hb := hf.frame b
  refine ⟨(ha.id.trans h.id).trans hb.id.symm,
    (ha.overrides.trans h.overrides).trans hb.overrides.symm, fun key hkey => ?_⟩
  by_cases hout : key ∈ outputs
  · refine hf.dependsOn key hout a b fun other hother => h.cells other fun hmem => ?_
    exact hkeys other hmem hother
  · rw [ha.cells key hout, hb.cells key hout, h.cells key hkey]

theorem mono {moreInputs moreOutputs : List String} (hf : Local inputs outputs f)
    (hin : inputs ⊆ moreInputs) (hout : outputs ⊆ moreOutputs) :
    Local moreInputs moreOutputs f := by
  refine ⟨fun row => (hf.frame row).mono hout, fun key hkey a b h => ?_⟩
  have hall : inputs ++ outputs ⊆ moreInputs ++ moreOutputs := by
    intro other hother
    rw [List.mem_append] at hother ⊢
    exact hother.imp (@hin other) (@hout other)
  by_cases hmem : key ∈ outputs
  · exact hf.dependsOn key hmem a b fun other hother => h other (hall hother)
  · change (f a).get? key = (f b).get? key
    rw [(hf.frame a).cells key hmem, (hf.frame b).cells key hmem]
    exact h key (List.mem_append_right _ hkey)

protected theorem id : Local inputs outputs fun row => row := by
  refine ⟨fun row => .refl _ row, fun key hkey a b h => ?_⟩
  exact h key (List.mem_append_right _ hkey)

theorem comp (hf : Local inputs outputs f) (hg : Local inputs outputs g) :
    Local inputs outputs fun row => g (f row) := by
  refine ⟨fun row => (hg.frame (f row)).trans (hf.frame row), fun key hkey a b h => ?_⟩
  refine hg.dependsOn key hkey _ _ fun other hother => ?_
  by_cases hout : other ∈ outputs
  · exact hf.dependsOn other hout a b h
  · rw [(hf.frame a).cells other hout, (hf.frame b).cells other hout]
    exact h other hother

theorem set {key : String} (hkey : key ∈ outputs) (cell : Cell) :
    Local inputs outputs fun row => row.set key cell := by
  refine ⟨fun row => .set_left hkey row cell, fun other hother a b h => ?_⟩
  have hcell := h other (List.mem_append_right _ hother)
  simp only [get?_set, hcell]

theorem remove {key : String} (hkey : key ∈ outputs) :
    Local inputs outputs fun row => row.remove key := by
  refine ⟨fun row => .remove_left hkey row, fun other hother a b h => ?_⟩
  have hcell := h other (List.mem_append_right _ hother)
  simp only [get?_remove, hcell]

theorem choose {ρ : Type} (choice : Row → ρ) (act : ρ → Row → Row)
    (hchoice : DependsOn (inputs ++ outputs) choice) (hact : ∀ r, Local inputs outputs (act r)) :
    Local inputs outputs fun row => act (choice row) row := by
  refine ⟨fun row => (hact _).frame row, fun key hkey a b h => ?_⟩
  simp only [hchoice a b h]
  exact (hact _).dependsOn key hkey a b h

end Local

end Row

/-! ## Lists of steps -/

structure Footprint where
  inputs : List String
  outputs : List String

def Footprint.Apart (s t : Footprint) : Prop :=
  (∀ key ∈ s.outputs, key ∉ t.inputs ++ t.outputs) ∧
    ∀ key ∈ t.outputs, key ∉ s.inputs ++ s.outputs

instance : DecidableRel Footprint.Apart := fun s t =>
  inferInstanceAs (Decidable ((∀ key ∈ s.outputs, key ∉ t.inputs ++ t.outputs) ∧
    ∀ key ∈ t.outputs, key ∉ s.inputs ++ s.outputs))

theorem Footprint.Apart.symm {s t : Footprint} (h : s.Apart t) : t.Apart s := ⟨h.2, h.1⟩

structure Step extends Footprint where
  run : Row → Row
  isLocal : Row.Local inputs outputs run

namespace Step

def runAll (steps : List Step) (row : Row) : Row :=
  steps.foldl (fun row step => step.run row) row

@[simp] theorem runAll_nil (row : Row) : runAll [] row = row := rfl

@[simp] theorem runAll_cons (step : Step) (rest : List Step) (row : Row) :
    runAll (step :: rest) row = runAll rest (step.run row) := rfl

theorem runAll_append (first rest : List Step) (row : Row) :
    runAll (first ++ rest) row = runAll rest (runAll first row) :=
  List.foldl_append

theorem local_runAll {inputs outputs : List String} {steps : List Step}
    (h : ∀ step ∈ steps, step.inputs ⊆ inputs ∧ step.outputs ⊆ outputs) :
    Row.Local inputs outputs (runAll steps) := by
  induction steps with
  | nil => exact .id
  | cons step rest ih =>
      obtain ⟨hin, hout⟩ := h step List.mem_cons_self
      have hrest := ih fun other hother => h other (List.mem_cons_of_mem _ hother)
      exact (step.isLocal.mono hin hout).comp hrest

theorem get?_run_run {s t : Step} (h : ∀ key ∈ t.outputs, key ∉ s.inputs ++ s.outputs)
    (row : Row) {key : String} (hkey : key ∈ s.outputs) :
    (s.run (t.run row)).get? key = (s.run row).get? key := by
  refine s.isLocal.dependsOn key hkey _ _ fun other hother => ?_
  exact (t.isLocal.frame row).cells other fun hmem => h other hmem hother

theorem get?_runAll_of_not_mem {steps : List Step} {key : String}
    (h : ∀ step ∈ steps, key ∉ step.outputs) (row : Row) :
    (runAll steps row).get? key = row.get? key := by
  induction steps generalizing row with
  | nil => rfl
  | cons step rest ih =>
      rw [runAll_cons, ih fun other hother => h other (List.mem_cons_of_mem _ hother)]
      exact (step.isLocal.frame row).cells key (h step List.mem_cons_self)

theorem get?_runAll_of_mem {steps : List Step}
    (hapart : steps.Pairwise fun s t => s.Apart t.toFootprint) {s : Step} (hs : s ∈ steps)
    {key : String} (hkey : key ∈ s.outputs) (row : Row) :
    (runAll steps row).get? key = (s.run row).get? key := by
  induction steps generalizing row with
  | nil => cases hs
  | cons t rest ih =>
      obtain ⟨ht, hrest⟩ := List.pairwise_cons.1 hapart
      rw [runAll_cons]
      rcases List.mem_cons.1 hs with rfl | hs
      · refine get?_runAll_of_not_mem (fun u hu hmem => ?_) _
        exact (ht u hu).1 key hkey (List.mem_append_right _ hmem)
      · rw [ih hrest hs]
        exact get?_run_run (ht s hs).1 row hkey

theorem run_comm {s t : Step} (h : s.Apart t.toFootprint) (row : Row) :
    s.run (t.run row) = t.run (s.run row) := by
  have hs := s.isLocal.frame
  have ht := t.isLocal.frame
  refine Row.AgreeOff.eq ⟨?_, ?_, fun key _ => ?_⟩
  · rw [(hs _).id, (ht _).id, (ht _).id, (hs _).id]
  · rw [(hs _).overrides, (ht _).overrides, (ht _).overrides, (hs _).overrides]
  by_cases hkeyS : key ∈ s.outputs
  · have hkeyT : key ∉ t.outputs := fun hmem => h.1 key hkeyS (List.mem_append_right _ hmem)
    rw [get?_run_run h.2 row hkeyS, (ht _).cells key hkeyT]
  · by_cases hkeyT : key ∈ t.outputs
    · rw [get?_run_run h.1 row hkeyT, (hs _).cells key hkeyS]
    · rw [(hs _).cells key hkeyS, (ht _).cells key hkeyT, (ht _).cells key hkeyT,
        (hs _).cells key hkeyS]

theorem run_runAll_comm {s : Step} {steps : List Step}
    (h : ∀ t ∈ steps, s.Apart t.toFootprint) (row : Row) :
    s.run (runAll steps row) = runAll steps (s.run row) := by
  induction steps generalizing row with
  | nil => rfl
  | cons t rest ih =>
      have hrest : ∀ u ∈ rest, s.Apart u.toFootprint :=
        fun u hu => h u (List.mem_cons_of_mem _ hu)
      rw [runAll_cons, runAll_cons, ih hrest, run_comm (h t List.mem_cons_self)]

theorem runAll_perm {first second : List Step} (hperm : first.Perm second)
    (hapart : first.Pairwise fun s t => s.Apart t.toFootprint) (row : Row) :
    runAll first row = runAll second row := by
  have hsymm : Std.Symm fun s t : Step => ∀ row, t.run (s.run row) = s.run (t.run row) :=
    ⟨fun _ _ h row => (h row).symm⟩
  have hcomm := List.Pairwise.forall_of_forall (fun s _ row => rfl)
    (hapart.imp fun h row => (run_comm h row).symm)
  exact hperm.foldl_eq' (fun s hs t ht => hcomm hs ht) row

theorem eq_run_of_dependsOn {ρ : Type} {keys : List String} {value : Row → ρ} (step : Step)
    (hvalue : Row.DependsOn keys value) (h : ∀ key ∈ step.outputs, key ∉ keys) (row : Row) :
    value (step.run row) = value row :=
  hvalue _ _ fun key hkey => (step.isLocal.frame row).cells key fun hmem => h key hmem hkey

theorem runAll_runAll {steps : List Step}
    (hapart : steps.Pairwise fun s t => s.Apart t.toFootprint)
    (hsettled : ∀ step ∈ steps, ∀ row, step.run (step.run row) = step.run row) (row : Row) :
    runAll steps (runAll steps row) = runAll steps row := by
  induction steps generalizing row with
  | nil => rfl
  | cons s rest ih =>
      obtain ⟨hs, hrest⟩ := List.pairwise_cons.1 hapart
      rw [runAll_cons, runAll_cons, run_runAll_comm hs, hsettled s List.mem_cons_self]
      exact ih hrest (fun t ht => hsettled t (List.mem_cons_of_mem _ ht)) _

end Step

end Drapery
