import Drapery.Proofs.DistinctLists
import Drapery.Proofs.Schedule

/-!
# Placing fields after their dependencies

Every round of a schedule puts the first ready field behind the placed ones, so
the placed fields stay in an order of their dependencies.  With a round for each
field none is ready at the end: a field that is not placed then waits for one
that is never placed.
-/

namespace Drapery

namespace Dependencies

def Ordered (deps : Dependencies) (order : List Nat) : Prop :=
  ∀ before field after, order = before ++ field :: after →
    ∀ dep ∈ deps.of field, dep ∈ before

theorem Ordered.nil (deps : Dependencies) : deps.Ordered [] := by
  intro before field after h
  simp at h

theorem Ordered.concat {deps : Dependencies} {order : List Nat} {field : Nat}
    (horder : deps.Ordered order) (hfield : ∀ dep ∈ deps.of field, dep ∈ order) :
    deps.Ordered (order ++ [field]) := by
  intro before other after h
  rcases List.eq_nil_or_concat after with rfl | ⟨front, last, rfl⟩
  · obtain ⟨rfl, hlast⟩ := List.append_inj' h rfl
    cases hlast
    exact hfield
  · rw [List.concat_eq_append, ← List.cons_append, ← List.append_assoc] at h
    obtain ⟨hfront, -⟩ := List.append_inj' h rfl
    exact horder before other front hfront

theorem Ordered.sublist {deps : Dependencies} {order : List Nat} {field dep : Nat}
    (horder : deps.Ordered order) (hfield : field ∈ order) (hdep : dep ∈ deps.of field) :
    [dep, field].Sublist order := by
  obtain ⟨before, after, rfl⟩ := List.append_of_mem hfield
  have hbefore : [dep].Sublist before :=
    List.singleton_sublist.2 (horder before field after rfl dep hdep)
  have hafter : [field].Sublist (field :: after) := by simp
  exact hbefore.append hafter

/-- Fields placed one after the other, the last first: each was the first that was ready. -/
inductive Greedy (deps : Dependencies) : List Nat → Prop
  | nil : Greedy deps []
  | cons {placed ready : List Nat} {field : Nat} :
      Greedy deps placed → (Schedule.after deps placed).ready = field :: ready →
        Greedy deps (field :: placed)

namespace Greedy

variable {deps : Dependencies} {placed : List Nat}

theorem ordered (h : deps.Greedy placed) : deps.Ordered placed.reverse := by
  induction h with
  | nil => exact .nil deps
  | @cons placed ready field _ hready ih =>
      obtain ⟨-, -, hdeps⟩ := Schedule.mem_ready_of_eq_cons hready
      rw [List.reverse_cons]
      exact ih.concat (by simpa using hdeps)

theorem nodup (h : deps.Greedy placed) : placed.Nodup := by
  induction h with
  | nil => exact List.nodup_nil
  | cons _ hready ih =>
      obtain ⟨-, hunplaced, -⟩ := Schedule.mem_ready_of_eq_cons hready
      exact List.nodup_cons.2 ⟨hunplaced, ih⟩

theorem lt_of_mem (h : deps.Greedy placed) {field : Nat} (hfield : field ∈ placed) :
    field < deps.length := by
  induction h with
  | nil => cases hfield
  | cons _ hready ih =>
      rcases List.mem_cons.1 hfield with rfl | hfield
      · exact (Schedule.mem_ready_of_eq_cons hready).1
      · exact ih hfield

theorem mem_of_dep (h : deps.Greedy placed) {field dep : Nat} (hfield : field ∈ placed)
    (hdep : dep ∈ deps.of field) : dep ∈ placed := by
  obtain ⟨before, after, horder⟩ := List.append_of_mem (List.mem_reverse.2 hfield)
  have hbefore : dep ∈ before := h.ordered before field after horder dep hdep
  rw [← List.mem_reverse, horder]
  exact List.mem_append_left _ hbefore

theorem run (hdistinct : deps.Distinct) (rounds : Nat) (h : deps.Greedy placed) :
    ∃ final, deps.Greedy final ∧
      Schedule.run deps rounds (Schedule.after deps placed) = Schedule.after deps final ∧
      ((Schedule.after deps final).ready = [] ∨ final.length = placed.length + rounds) := by
  induction rounds generalizing placed with
  | zero => exact ⟨placed, h, rfl, .inr rfl⟩
  | succ rounds ih =>
      rw [Schedule.run]
      split
      · rename_i hready
        exact ⟨placed, h, rfl, .inl hready⟩
      · rename_i field ready hready
        rw [Schedule.place_after hdistinct (fun _ hother _ hdep => h.mem_of_dep hother hdep) hready]
        obtain ⟨final, hfinal, hrun, hend⟩ := ih (h.cons hready)
        refine ⟨final, hfinal, hrun, hend.imp_right fun hlength => ?_⟩
        rw [hlength, List.length_cons]
        omega

end Greedy

theorem exists_greedy_of_run {deps : Dependencies} (hdistinct : deps.Distinct) :
    ∃ placed, deps.Greedy placed ∧ (Schedule.after deps placed).ready = [] ∧
      Schedule.run deps deps.length (Schedule.start deps) = Schedule.after deps placed := by
  obtain ⟨placed, hgreedy, hrun, hend⟩ := Greedy.nil.run hdistinct deps.length
  refine ⟨placed, hgreedy, ?_, Schedule.start_eq_after deps ▸ hrun⟩
  rcases hend with hready | hlength
  · exact hready
  · -- as many as there are fields, so all of them are placed
    rw [List.length_nil, Nat.zero_add] at hlength
    have hsubset : placed ⊆ List.range deps.length := fun field hfield =>
      List.mem_range.2 (hgreedy.lt_of_mem hfield)
    have hall : (List.range deps.length) ⊆ placed :=
      ((List.subperm_of_subset hgreedy.nodup hsubset).perm_of_length_le
        (by simp [hlength])).symm.subset
    refine List.eq_nil_iff_forall_not_mem.2 fun field hfield => ?_
    obtain ⟨hlt, hunplaced, -⟩ := Schedule.mem_ready_after.1 hfield
    exact hunplaced (hall (List.mem_range.2 hlt))

end Dependencies

/-! ## Plans -/

namespace Plan

variable (fields : List (String × Formula))

theorem length_dependencies : (dependencies fields).length = fields.length := by
  simp [dependencies]

theorem distinct_dependencies : (dependencies fields).Distinct := by
  intro field
  by_cases hfield : field < fields.length
  · simp only [Dependencies.of, dependencies, dependenciesOf, List.getD_eq_getElem?_getD,
      List.getElem?_map, List.getElem?_zipIdx, hfield, List.getElem?_eq_getElem, Option.map_some,
      Option.getD_some]
    exact (nodup_eraseDups _).filter _
  · rw [Dependencies.of_eq_nil_of_le (by simpa [length_dependencies] using hfield)]
    exact List.nodup_nil

/-- The order of a plan is greedy, and what can never be placed is blocked. -/
theorem exists_greedy : ∃ placed, (dependencies fields).Greedy placed ∧
    (Schedule.after (dependencies fields) placed).ready = [] ∧
    (build fields).order = placed.reverse ∧
    (build fields).blocked = (List.range fields.length).filter (· ∉ placed) := by
  obtain ⟨placed, hgreedy, hready, hrun⟩ :=
    Dependencies.exists_greedy_of_run (distinct_dependencies fields)
  rw [length_dependencies] at hrun
  refine ⟨placed, hgreedy, hready, by simp only [build, hrun]; rfl, ?_⟩
  simp only [build, hrun]
  refine List.filter_congr fun field hfield => ?_
  rw [Schedule.getD_waiting_after, decide_eq_decide, Nat.pos_iff_ne_zero, not_iff_not,
    Dependencies.missing_eq_zero_iff]
  constructor
  · intro hdeps
    by_contra hunplaced
    have hlt : field < (dependencies fields).length := by
      simpa [length_dependencies] using hfield
    have hmem := Schedule.mem_ready_after.2 ⟨hlt, hunplaced, hdeps⟩
    rw [hready] at hmem
    cases hmem
  · exact fun hplaced dep hdep => hgreedy.mem_of_dep hplaced hdep

theorem order_append_blocked_perm :
    ((build fields).order ++ (build fields).blocked).Perm (List.range fields.length) := by
  obtain ⟨placed, hgreedy, -, horder, hblocked⟩ := exists_greedy fields
  have hplaced : placed.reverse.Perm ((List.range fields.length).filter (· ∈ placed)) := by
    refine (List.perm_ext_iff_of_nodup (List.nodup_reverse.2 hgreedy.nodup)
      (List.nodup_range.filter _)).2 fun field => ?_
    simp only [List.mem_reverse, List.mem_filter, List.mem_range, decide_eq_true_eq]
    rw [iff_and_self, ← length_dependencies fields]
    exact hgreedy.lt_of_mem
  rw [horder, hblocked]
  refine (hplaced.append_right _).trans ?_
  simpa using List.filter_append_perm (· ∈ placed) (List.range fields.length)

theorem nodup_order_append_blocked :
    ((build fields).order ++ (build fields).blocked).Nodup :=
  (order_append_blocked_perm fields).nodup_iff.2 List.nodup_range

theorem order_ordered : (dependencies fields).Ordered (build fields).order := by
  obtain ⟨placed, hgreedy, -, horder, -⟩ := exists_greedy fields
  exact horder ▸ hgreedy.ordered

variable {fields}

theorem mem_order_or_mem_blocked {field : Nat} :
    field ∈ (build fields).order ∨ field ∈ (build fields).blocked ↔ field < fields.length := by
  rw [← List.mem_append, (order_append_blocked_perm fields).mem_iff, List.mem_range]

theorem exists_dep_not_mem_order {field : Nat} (h : field ∈ (build fields).blocked) :
    ∃ dep ∈ (dependencies fields).of field, dep ∉ (build fields).order := by
  obtain ⟨placed, -, hready, horder, hblocked⟩ := exists_greedy fields
  rw [hblocked, List.mem_filter, List.mem_range, ← length_dependencies fields] at h
  by_contra hall
  push Not at hall
  rw [horder] at hall
  have hmem : field ∈ (Schedule.after (dependencies fields) placed).ready :=
    Schedule.mem_ready_after.2
      ⟨h.1, by simpa using h.2, fun dep hdep => List.mem_reverse.1 (hall dep hdep)⟩
  rw [hready] at hmem
  cases hmem

theorem isAcyclic_of_rank (rank : Nat → Nat)
    (h : ∀ field < fields.length, ∀ dep ∈ (dependencies fields).of field,
      dep < fields.length ∧ rank dep < rank field) : (build fields).isAcyclic := by
  have hplaced : ∀ bound field, rank field < bound → field ∉ (build fields).blocked := by
    intro bound
    induction bound with
    | zero =>
        intro field hrank
        omega
    | succ bound ih =>
        intro field hrank hblocked
        have hfield := mem_order_or_mem_blocked.1 (.inr hblocked)
        obtain ⟨dep, hdep, hnot⟩ := exists_dep_not_mem_order hblocked
        obtain ⟨hlt, hlower⟩ := h field hfield dep hdep
        have hdepBlocked := (mem_order_or_mem_blocked.2 hlt).resolve_left hnot
        exact ih dep (by omega) hdepBlocked
  rw [isAcyclic, List.isEmpty_iff]
  exact List.eq_nil_iff_forall_not_mem.2 fun field => hplaced _ field (Nat.lt_succ_self _)

end Plan

end Drapery
