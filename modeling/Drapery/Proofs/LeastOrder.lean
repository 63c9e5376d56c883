import Mathlib.Data.List.Lex
import Mathlib.Order.Bounds.Basic
import Drapery.Proofs.Resolution

/-!
# The least order of the fields

At every position of its order a plan takes the least of the fields that can be
placed there.  The order is therefore the lexicographically least among the
orders of its fields that respect the dependencies, and it ends when no further
field can be placed.
-/

namespace Drapery

namespace Dependencies

variable {deps : Dependencies} {placed : List Nat}

def Placeable (deps : Dependencies) (placed : List Nat) : Set Nat :=
  {field | field < deps.length ∧ field ∉ placed ∧ ∀ dep ∈ deps.of field, dep ∈ placed}

/-- Each field of an order is the least that could stand in its place. -/
def TakesLeast (deps : Dependencies) (order : List Nat) : Prop :=
  ∀ before field after, order = before ++ field :: after → IsLeast (deps.Placeable before) field

theorem mem_placeable_reverse {field : Nat} :
    field ∈ deps.Placeable placed.reverse ↔ field ∈ (Schedule.after deps placed).ready := by
  rw [Schedule.mem_ready_after]
  simp [Placeable]

theorem isLeast_placeable {ready : List Nat} {field : Nat}
    (h : (Schedule.after deps placed).ready = field :: ready) :
    IsLeast (deps.Placeable placed.reverse) field := by
  obtain ⟨hfirst, -⟩ := List.pairwise_cons.1 (h ▸ Schedule.pairwise_ready_after deps placed)
  refine ⟨mem_placeable_reverse.2 (h ▸ List.mem_cons_self), fun other hother => ?_⟩
  rw [mem_placeable_reverse, h] at hother
  rcases List.mem_cons.1 hother with rfl | hother
  · exact le_rfl
  · exact (hfirst other hother).le

theorem Greedy.takesLeast (h : deps.Greedy placed) : deps.TakesLeast placed.reverse := by
  induction h with
  | nil =>
      intro before field after hsplit
      simp at hsplit
  | cons _ hready ih =>
      intro before field after hsplit
      rw [List.reverse_cons] at hsplit
      rcases List.eq_nil_or_concat after with rfl | ⟨front, last, rfl⟩
      · obtain ⟨rfl, hlast⟩ := List.append_inj' hsplit rfl
        cases hlast
        exact isLeast_placeable hready
      · rw [List.concat_eq_append, ← List.cons_append, ← List.append_assoc] at hsplit
        obtain ⟨hfront, -⟩ := List.append_inj' hsplit rfl
        exact ih before field front hfront

theorem TakesLeast.le {order sequence : List Nat} (horder : deps.TakesLeast order)
    (hnodup : order.Nodup) (hlt : ∀ field ∈ order, field < deps.length)
    (hperm : sequence.Perm order) (hsequence : deps.Ordered sequence) : order ≤ sequence := by
  have hrest : ∀ rest before others, order = before ++ rest → sequence = before ++ others →
      rest ≤ others := by
    intro rest
    induction rest with
    | nil =>
        intro before others hsplit hother
        have hlength := hperm.length_eq
        rw [hsplit, hother, List.append_nil, List.length_append] at hlength
        rw [List.eq_nil_of_length_eq_zero (by omega : others.length = 0)]
    | cons field rest ih =>
        intro before others hsplit hother
        cases others with
        | nil =>
            have hlength := hperm.length_eq
            simp [hsplit, hother] at hlength
        | cons other others =>
            -- the sequence could place its field too
            have hmem : other ∈ order := hperm.mem_iff.1 (by simp [hother])
            have hfresh : other ∉ before := by
              have hdistinct := hperm.nodup_iff.2 hnodup
              rw [hother, List.nodup_append] at hdistinct
              exact fun hbefore => hdistinct.2.2 other hbefore other (by simp) rfl
            have hplaceable : other ∈ deps.Placeable before :=
              ⟨hlt other hmem, hfresh, hsequence before other others hother⟩
            rcases ((horder before field rest hsplit).2 hplaceable).lt_or_eq with hless | rfl
            · exact le_of_lt (.rel hless)
            · exact List.cons_le_cons field
                (ih (before ++ [field]) others (by simp [hsplit]) (by simp [hother]))
  exact hrest order [] sequence rfl rfl

end Dependencies

namespace Plan

/-- Every field is placed or blocked, and only once.  A placed field comes after its dependencies,
and each position of the order takes the least field that can be placed there, until none can. -/
theorem build_isLeast_order (fields : List (String × Formula)) :
    ((build fields).order ++ (build fields).blocked).Perm (List.range fields.length) ∧
      (dependencies fields).Ordered (build fields).order ∧
      (dependencies fields).TakesLeast (build fields).order ∧
      (dependencies fields).Placeable (build fields).order = ∅ ∧
      IsLeast
        {sequence | sequence.Perm (build fields).order ∧ (dependencies fields).Ordered sequence}
        (build fields).order := by
  obtain ⟨placed, hgreedy, hready, horder, -⟩ := exists_greedy fields
  have hordered : (dependencies fields).Ordered (build fields).order := order_ordered fields
  have hleast : (dependencies fields).TakesLeast (build fields).order :=
    horder ▸ hgreedy.takesLeast
  refine ⟨order_append_blocked_perm fields, hordered, hleast, ?_, ⟨.refl _, hordered⟩, ?_⟩
  · rw [horder, Set.eq_empty_iff_forall_notMem]
    intro field hfield
    rw [Dependencies.mem_placeable_reverse, hready] at hfield
    cases hfield
  · rintro sequence ⟨hperm, hsequence⟩
    have hnodup : (build fields).order.Nodup := horder ▸ List.nodup_reverse.2 hgreedy.nodup
    have hlt : ∀ field ∈ (build fields).order, field < (dependencies fields).length := by
      intro field hfield
      rw [horder, List.mem_reverse] at hfield
      exact hgreedy.lt_of_mem hfield
    exact hleast.le hnodup hlt hperm hsequence

end Plan

end Drapery
