import Mathlib.Data.List.Sort
import Drapery.Plan

/-!
# The counters of a schedule

A schedule counts for each field the dependencies that are not placed yet, and
keeps the fields for which none is left.  As long as fields are placed after
their dependencies, both follow from the placed fields alone (`Schedule.after`),
and placing one more field keeps it so.  A run therefore goes through the
schedules of greedy placements, and no field is ready at its end.
-/

namespace Drapery

namespace Dependencies

variable {deps : Dependencies} {placed : List Nat} {field : Nat}

def Distinct (deps : Dependencies) : Prop := ∀ field, (deps.of field).Nodup

def missing (deps : Dependencies) (placed : List Nat) (field : Nat) : Nat :=
  (deps.of field).countP (· ∉ placed)

theorem missing_eq_zero_iff :
    deps.missing placed field = 0 ↔ ∀ dep ∈ deps.of field, dep ∈ placed := by
  simp [missing, List.countP_eq_zero]

theorem missing_nil : deps.missing [] field = (deps.of field).length := by
  simp [missing]

theorem missing_cons (hfield : field ∉ placed) (other : Nat) :
    deps.missing placed other =
      deps.missing (field :: placed) other + (deps.of other).count field := by
  rw [missing, missing]
  induction deps.of other with
  | nil => rfl
  | cons dep rest ih =>
      rw [List.countP_cons, List.countP_cons, List.count_cons, ih]
      by_cases hdep : dep = field
      · simp [hdep, hfield]
        omega
      · by_cases hplaced : dep ∈ placed
        · simp [hdep, hplaced]
        · simp [hdep, hplaced]
          omega

theorem of_eq_nil_of_le (h : deps.length ≤ field) : deps.of field = [] := by
  simp [of, List.getD_eq_getElem?_getD, h]

theorem lt_of_mem_of {dep : Nat} (h : dep ∈ deps.of field) : field < deps.length := by
  by_contra hlong
  rw [of_eq_nil_of_le (Nat.le_of_not_lt hlong)] at h
  cases h

theorem mem_dependents {other : Nat} :
    other ∈ deps.dependents field ↔ field ∈ deps.of other := by
  rw [dependents, List.mem_filter, List.mem_range, List.contains_iff_mem, and_iff_right_iff_imp]
  exact lt_of_mem_of

theorem nodup_dependents (deps : Dependencies) (field : Nat) : (deps.dependents field).Nodup :=
  List.nodup_range.filter _

theorem count_dependents (hdistinct : deps.Distinct) (other : Nat) :
    (deps.dependents field).count other = (deps.of other).count field := by
  rw [(deps.nodup_dependents field).count, (hdistinct other).count]
  simp only [mem_dependents]

end Dependencies

namespace Schedule

variable {deps : Dependencies}

/-! ## Released fields -/

theorem mem_insertField {field other : Nat} {ready : List Nat} :
    other ∈ insertField field ready ↔ other = field ∨ other ∈ ready := by
  induction ready with
  | nil => simp [insertField]
  | cons first rest ih =>
      rw [insertField]
      split
      · simp
      · split
        · rename_i heq
          simp [heq]
        · simp [ih, or_left_comm]

theorem pairwise_insertField (field : Nat) {ready : List Nat}
    (h : ready.Pairwise (· < ·)) : (insertField field ready).Pairwise (· < ·) := by
  induction ready with
  | nil => simp [insertField]
  | cons first rest ih =>
      obtain ⟨hfirst, hrest⟩ := List.pairwise_cons.1 h
      rw [insertField]
      split
      · rename_i hlt
        refine List.pairwise_cons.2 ⟨fun other hother => ?_, h⟩
        rcases List.mem_cons.1 hother with rfl | hother
        · exact hlt
        · exact hlt.trans (hfirst other hother)
      · split
        · exact h
        · refine List.pairwise_cons.2 ⟨fun other hother => ?_, ih hrest⟩
          rcases mem_insertField.1 hother with rfl | hother
          · omega
          · exact hfirst other hother

variable (schedule : Schedule) (fields : List Nat)

theorem getD_waiting_release (field other : Nat) :
    (schedule.release field).waiting.getD other 0 =
      schedule.waiting.getD other 0 - if other = field then 1 else 0 := by
  simp only [release, List.getD_eq_getElem?_getD, List.getElem?_set]
  by_cases hother : field = other
  · subst hother
    by_cases hlt : field < schedule.waiting.length
    · simp [hlt]
    · simp [hlt]
  · simp [hother, Ne.symm hother]

theorem mem_ready_release (field other : Nat) :
    other ∈ (schedule.release field).ready ↔
      other ∈ schedule.ready ∨ other = field ∧ schedule.waiting.getD other 0 - 1 = 0 := by
  simp only [release]
  split
  · rename_i hcount
    rw [mem_insertField, or_comm]
    refine or_congr_right ⟨?_, And.left⟩
    rintro rfl
    exact ⟨rfl, hcount⟩
  · rename_i hcount
    rw [iff_self_or]
    rintro ⟨rfl, hzero⟩
    exact absurd hzero hcount

theorem placed_foldl_release : (fields.foldl release schedule).placed = schedule.placed := by
  refine List.foldlRecOn (motive := fun current => current.placed = schedule.placed)
    fields release rfl fun current hcurrent field _ => ?_
  exact hcurrent

theorem length_waiting_foldl_release :
    (fields.foldl release schedule).waiting.length = schedule.waiting.length :=
  List.foldlRecOn (motive := fun current => current.waiting.length = schedule.waiting.length)
    fields release rfl fun _ h _ _ => List.length_set.trans h

theorem pairwise_ready_foldl_release (h : schedule.ready.Pairwise (· < ·)) :
    (fields.foldl release schedule).ready.Pairwise (· < ·) := by
  refine List.foldlRecOn (motive := fun current => current.ready.Pairwise (· < ·)) fields release h
    fun current hcurrent field _ => ?_
  rw [release]
  split
  · exact pairwise_insertField field hcurrent
  · exact hcurrent

theorem getD_waiting_foldl_release (other : Nat) :
    (fields.foldl release schedule).waiting.getD other 0 =
      schedule.waiting.getD other 0 - fields.count other := by
  induction fields generalizing schedule with
  | nil => simp
  | cons field rest ih =>
      rw [List.foldl_cons, ih, getD_waiting_release, List.count_cons, Nat.sub_sub]
      by_cases hother : field = other
      · simp [hother, Nat.add_comm]
      · simp [hother, Ne.symm hother]

variable {fields}

theorem mem_ready_foldl_release (hfields : fields.Nodup) (other : Nat) :
    other ∈ (fields.foldl release schedule).ready ↔
      other ∈ schedule.ready ∨ other ∈ fields ∧ schedule.waiting.getD other 0 - 1 = 0 := by
  induction fields generalizing schedule with
  | nil => simp
  | cons field rest ih =>
      obtain ⟨hfield, hrest⟩ := List.nodup_cons.1 hfields
      rw [List.foldl_cons, ih _ hrest, mem_ready_release, getD_waiting_release, List.mem_cons]
      by_cases hother : other = field
      · simp [hother, hfield]
      · simp [hother]

/-! ## A placed field -/

section

variable (deps) (field : Nat) (ready : List Nat)

theorem placed_place :
    (schedule.place deps field ready).placed = field :: schedule.placed :=
  placed_foldl_release ..

theorem length_waiting_place :
    (schedule.place deps field ready).waiting.length = schedule.waiting.length :=
  length_waiting_foldl_release ..

theorem getD_waiting_place (hdistinct : deps.Distinct) (other : Nat) :
    (schedule.place deps field ready).waiting.getD other 0 =
      schedule.waiting.getD other 0 - (deps.of other).count field := by
  rw [place, getD_waiting_foldl_release, Dependencies.count_dependents hdistinct]

variable {ready}

theorem pairwise_ready_place (h : ready.Pairwise (· < ·)) :
    (schedule.place deps field ready).ready.Pairwise (· < ·) :=
  pairwise_ready_foldl_release _ _ h

theorem mem_ready_place {other : Nat} :
    other ∈ (schedule.place deps field ready).ready ↔
      other ∈ ready ∨ field ∈ deps.of other ∧ schedule.waiting.getD other 0 - 1 = 0 := by
  rw [place, mem_ready_foldl_release _ (deps.nodup_dependents field), Dependencies.mem_dependents]

end

/-! ## Schedules that follow from the placed fields -/

def after (deps : Dependencies) (placed : List Nat) : Schedule where
  placed := placed
  waiting := (List.range deps.length).map (deps.missing placed)
  ready := (List.range deps.length).filter fun field =>
    field ∉ placed ∧ ∀ dep ∈ deps.of field, dep ∈ placed

theorem mem_ready_after {placed : List Nat} {field : Nat} :
    field ∈ (after deps placed).ready ↔
      field < deps.length ∧ field ∉ placed ∧ ∀ dep ∈ deps.of field, dep ∈ placed := by
  simp [after]

theorem mem_ready_of_eq_cons {placed ready : List Nat} {field : Nat}
    (h : (after deps placed).ready = field :: ready) :
    field < deps.length ∧ field ∉ placed ∧ ∀ dep ∈ deps.of field, dep ∈ placed :=
  mem_ready_after.1 (h ▸ List.mem_cons_self)

theorem pairwise_ready_after (deps : Dependencies) (placed : List Nat) :
    (after deps placed).ready.Pairwise (· < ·) :=
  List.pairwise_lt_range.filter _

theorem getD_waiting_after (deps : Dependencies) (placed : List Nat) (field : Nat) :
    (after deps placed).waiting.getD field 0 = deps.missing placed field := by
  by_cases hfield : field < deps.length
  · simp [after, List.getD_eq_getElem?_getD, hfield]
  · have hnone : deps.of field = [] := Dependencies.of_eq_nil_of_le (Nat.le_of_not_lt hfield)
    simp [after, List.getD_eq_getElem?_getD, hfield, Dependencies.missing, hnone]

theorem start_eq_after (deps : Dependencies) : start deps = after deps [] := by
  have hwaiting : deps.map List.length = (after deps []).waiting := by
    refine List.ext_getElem (by simp [after]) fun field hfield _ => ?_
    have hlt : field < deps.length := by simpa using hfield
    simp [after, Dependencies.missing_nil, Dependencies.of, List.getD_eq_getElem?_getD, hlt]
  rw [start, hwaiting]
  refine Schedule.ext rfl rfl ?_
  refine List.filter_congr fun field _ => ?_
  rw [getD_waiting_after, Bool.eq_iff_iff, beq_iff_eq, Dependencies.missing_eq_zero_iff]
  simp

section

variable {placed ready : List Nat} {field : Nat}

theorem mem_ready_iff_of_eq_cons (h : (after deps placed).ready = field :: ready) (other : Nat) :
    other ∈ ready ↔ other ≠ field ∧ other ∈ (after deps placed).ready := by
  obtain ⟨hfirst, -⟩ := List.pairwise_cons.1 (h ▸ pairwise_ready_after deps placed)
  rw [h, List.mem_cons]
  constructor
  · exact fun hother => ⟨(hfirst other hother).ne', .inr hother⟩
  · exact fun ⟨hne, hother⟩ => hother.resolve_left hne

theorem mem_ready_place_after (hdistinct : deps.Distinct)
    (hclosed : ∀ other ∈ placed, ∀ dep ∈ deps.of other, dep ∈ placed)
    (hready : (after deps placed).ready = field :: ready) (other : Nat) :
    other ∈ ((after deps placed).place deps field ready).ready ↔
      other ∈ (after deps (field :: placed)).ready := by
  obtain ⟨-, hunplaced, hdeps⟩ := mem_ready_of_eq_cons hready
  have hcount : deps.missing placed other =
      deps.missing (field :: placed) other + (deps.of other).count field :=
    Dependencies.missing_cons hunplaced other
  rw [mem_ready_place, getD_waiting_after, mem_ready_iff_of_eq_cons hready, mem_ready_after,
    mem_ready_after, ← Dependencies.missing_eq_zero_iff, ← Dependencies.missing_eq_zero_iff,
    List.mem_cons]
  by_cases hdep : field ∈ deps.of other
  · -- a field that waits for the placed one is neither placed nor ready before
    rw [List.count_eq_one_of_mem (hdistinct other) hdep] at hcount
    have hlong : other < deps.length := Dependencies.lt_of_mem_of hdep
    have hother : other ∉ placed := fun hplaced => hunplaced (hclosed other hplaced field hdep)
    have hne : other ≠ field := by
      rintro rfl
      exact hunplaced (hdeps other hdep)
    simp [hcount, hdep, hlong, hother, hne]
  · rw [List.count_eq_zero_of_not_mem hdep, Nat.add_zero] at hcount
    rw [hcount]
    tauto

/-- Placing the first ready field gives the schedule in which it is placed too. -/
theorem place_after (hdistinct : deps.Distinct)
    (hclosed : ∀ other ∈ placed, ∀ dep ∈ deps.of other, dep ∈ placed)
    (hready : (after deps placed).ready = field :: ready) :
    (after deps placed).place deps field ready = after deps (field :: placed) := by
  obtain ⟨-, hunplaced, -⟩ := mem_ready_of_eq_cons hready
  obtain ⟨-, hrest⟩ := List.pairwise_cons.1 (hready ▸ pairwise_ready_after deps placed)
  refine Schedule.ext (placed_place ..) (List.ext_getElem ?_ fun other hother hother' => ?_) ?_
  · rw [length_waiting_place]
    simp [after]
  · rw [List.getElem_eq_getD 0, List.getElem_eq_getD 0, getD_waiting_place _ _ _ _ hdistinct,
      getD_waiting_after, getD_waiting_after, Dependencies.missing_cons hunplaced,
      Nat.add_sub_cancel]
  · exact (pairwise_ready_place _ _ _ hrest).eq_of_mem_iff
      (pairwise_ready_after deps (field :: placed)) fun _ =>
        mem_ready_place_after hdistinct hclosed hready _

end

end Schedule

end Drapery
