import Mathlib.Data.List.Nodup

/-!
# Lists without repetitions

What is left after duplicates are dropped has none, and in a list without any
the order of two entries is that of their positions, which is also the order of
the entries that are kept from it.
-/

namespace Drapery

section

variable {κ : Type} [DecidableEq κ]

theorem nodup_eraseDups (keys : List κ) : keys.eraseDups.Nodup := by
  cases keys with
  | nil => exact List.nodup_nil
  | cons first rest =>
      rw [List.eraseDups_cons, List.nodup_cons]
      constructor
      · simp [List.mem_eraseDups]
      · exact nodup_eraseDups (rest.filter fun other => !other == first)
termination_by keys.length
decreasing_by
  exact Nat.lt_succ_of_le (List.length_filter_le _ _)

theorem pairwise_idxOf {order : List κ} (horder : order.Nodup) :
    order.Pairwise fun a b => order.idxOf a < order.idxOf b := by
  rw [List.pairwise_iff_getElem]
  intro i j hi hj hij
  rwa [horder.idxOf_getElem, horder.idxOf_getElem]

theorem idxOf_lt_of_sublist {order : List κ} {a b : κ} (horder : order.Nodup)
    (h : [a, b].Sublist order) : order.idxOf a < order.idxOf b :=
  List.pairwise_iff_forall_sublist.1 (pairwise_idxOf horder) h

theorem eq_of_sublist_of_mem_iff {first second order : List κ} (horder : order.Nodup)
    (hfirst : first.Sublist order) (hsecond : second.Sublist order)
    (hmem : ∀ a, a ∈ first ↔ a ∈ second) : first = second := by
  have hperm : first.Perm second :=
    (List.perm_ext_iff_of_nodup (hfirst.nodup horder) (hsecond.nodup horder)).2 hmem
  exact hperm.eq_of_pairwise (fun _ _ _ _ hab hba => absurd hba (Nat.lt_asymm hab))
    ((pairwise_idxOf horder).sublist hfirst) ((pairwise_idxOf horder).sublist hsecond)

end

end Drapery
