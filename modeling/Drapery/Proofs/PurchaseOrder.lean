import Mathlib.Data.List.Forall2
import Mathlib.Data.List.Lex
import Mathlib.Data.String.Basic
import Drapery.Proofs.PurchaseGroups

/-!
# The order of the purchase report

Label and kind give a group its place in the report.  They do not always tell two
groups apart, since a reference may read as another one with its pattern.  The
sort is stable, and its input has the groups in the order of their keys, so that
reference and then pattern decide a tie.  The report hence depends on the
order of the rows only in the order of the lines of a group.
-/

namespace Drapery

/-! ## A stable sort of a sorted list -/

/-- Entries that the second sort does not tell apart keep the order that the first gave them. -/
theorem pairwise_mergeSort_mergeSort {α : Type} {first second : α → α → Bool}
    (htransFirst : ∀ a b c, first a b → first b c → first a c)
    (htotalFirst : ∀ a b, first a b || first b a)
    (htransSecond : ∀ a b c, second a b → second b c → second a c)
    (htotalSecond : ∀ a b, second a b || second b a) (entries : List α) :
    ((entries.mergeSort first).mergeSort second).Pairwise
      fun a b => second a b ∧ (second b a → first a b) := by
  have hfirst := List.pairwise_mergeSort htransFirst htotalFirst entries
  generalize entries.mergeSort first = sorted at hfirst
  have hsecond := List.pairwise_mergeSort htransSecond htotalSecond sorted
  rw [List.pairwise_iff_forall_sublist] at hfirst hsecond ⊢
  intro a b hpair
  refine ⟨hsecond hpair, fun hback => hfirst ?_⟩
  -- the entries that tie with `a` are the same list before and after the second sort
  let tied := fun x => second a x && second x a
  have htied : (sorted.filter tied).Pairwise fun x y => second x y := by
    refine List.pairwise_of_forall_mem_list fun x hx y hy => ?_
    have hx := (List.mem_filter.1 hx).2
    have hy := (List.mem_filter.1 hy).2
    simp only [tied, Bool.and_eq_true] at hx hy
    exact htransSecond x a y hx.2 hy.1
  have hsub : (sorted.filter tied).Sublist ((sorted.mergeSort second).filter tied) := by
    have hkept := List.sublist_mergeSort htransSecond htotalSecond htied List.filter_sublist
    simpa using hkept.filter tied
  have hsame : sorted.filter tied = (sorted.mergeSort second).filter tied :=
    hsub.eq_of_length ((List.mergeSort_perm sorted second).filter tied).length_eq.symm
  have hkept : [a, b].Sublist ((sorted.mergeSort second).filter tied) := by
    have hself : second a a := by simpa using htotalSecond a a
    have hfiltered := hpair.filter tied
    simpa [tied, hself, hsecond hpair, hback] using hfiltered
  rw [← hsame] at hkept
  exact hkept.trans List.filter_sublist

/-! ## Places in the report -/

theorem cons_le_cons_iff_lt_or {a b : String} {as bs : List String} :
    a :: as ≤ b :: bs ↔ a < b ∨ a = b ∧ as ≤ bs := by
  rw [le_iff_lt_or_eq, le_iff_lt_or_eq, List.cons_lt_cons_iff, List.cons.injEq, and_or_left,
    or_assoc]

theorem isLE_compare_then {a b : String} {rest : Ordering} {as bs : List String}
    (hrest : rest.isLE ↔ as ≤ bs) : ((compare a b).then rest).isLE ↔ a :: as ≤ b :: bs := by
  have hlt : compare a b = .lt ↔ a < b := compareOfLessAndEq_eq_lt
  rw [Ordering.isLE_then_iff_or, hlt, Std.compare_eq_iff_eq, hrest, cons_le_cons_iff_lt_or]

theorem isLE_compare {a b : String} : (compare a b).isLE ↔ [a] ≤ [b] := by
  have hthen : ((compare a b).then .eq).isLE ↔ [a] ≤ [b] := isLE_compare_then (by simp)
  rwa [Ordering.then_eq] at hthen

namespace PurchaseKey

variable {a b : PurchaseKey}

theorem notAfter_iff :
    a.notAfter b ↔
      [a.kind, a.reference, a.pattern.getD ""] ≤ [b.kind, b.reference, b.pattern.getD ""] :=
  isLE_compare_then (isLE_compare_then isLE_compare)

def reportedNotAfter (a b : PurchaseKey) : Bool :=
  ((compare a.label b.label).then (compare a.kind b.kind)).isLE

theorem reportedNotAfter_iff : a.reportedNotAfter b ↔ [a.label, a.kind] ≤ [b.label, b.kind] :=
  isLE_compare_then isLE_compare

def rank (key : PurchaseKey) : List String :=
  [key.label, key.kind, key.reference, key.pattern.getD ""]

theorem rank_le (hreported : a.reportedNotAfter b)
    (hties : b.reportedNotAfter a → a.notAfter b) : a.rank ≤ b.rank := by
  rw [reportedNotAfter_iff] at hreported hties
  rw [notAfter_iff] at hties
  rcases hreported.lt_or_eq with hless | hequal
  · simp only [List.cons_lt_cons_iff, List.not_lt_nil, and_false, or_false] at hless
    simp only [rank, cons_le_cons_iff_lt_or]
    rcases hless with hlabel | ⟨hlabel, hkind⟩
    · exact .inl hlabel
    · exact .inr ⟨hlabel, .inl hkind⟩
  · have hkeys := hties hequal.ge
    simp only [List.cons.injEq, and_true] at hequal
    exact cons_le_cons_iff_lt_or.2 (.inr ⟨hequal.1, hkeys⟩)

theorem label_ne {family : MaterialFamily} {kind reference pattern : String} :
    label ⟨family, kind, reference, none⟩ ≠ label ⟨family, kind, reference, some pattern⟩ := by
  intro h
  change reference = reference ++ " (" ++ pattern ++ ")" at h
  have hlength := congrArg String.length h
  simp only [String.length_append] at hlength
  have hbracket : ")".length = 1 := rfl
  omega

theorem eq_of_rank_eq (hfamily : a.family = b.family) (h : a.rank = b.rank) : a = b := by
  obtain ⟨family, kind, reference, pattern⟩ := a
  obtain ⟨_, _, _, other⟩ := b
  simp only [rank, List.cons.injEq] at h
  obtain ⟨hlabel, rfl, rfl, hpattern, -⟩ := h
  obtain rfl : family = _ := hfamily
  cases pattern <;> cases other
  case none.none => rfl
  case none.some => exact absurd hlabel label_ne
  case some.none => exact absurd hlabel.symm label_ne
  case some.some text other =>
      obtain rfl : text = other := hpattern
      rfl

end PurchaseKey

/-! ## The groups in order -/

namespace Purchase

variable {family : MaterialFamily} {purchases others : List Purchase}

def sortedKeys (family : MaterialFamily) (purchases : List Purchase) : List PurchaseKey :=
  ((keysOf family purchases).mergeSort PurchaseKey.notAfter).mergeSort
    PurchaseKey.reportedNotAfter

theorem sortedKeys_perm (family : MaterialFamily) (purchases : List Purchase) :
    (sortedKeys family purchases).Perm (keysOf family purchases) :=
  (List.mergeSort_perm _ _).trans (List.mergeSort_perm _ _)

theorem groupsOf_eq (family : MaterialFamily) (purchases : List Purchase) :
    groupsOf family purchases = (sortedKeys family purchases).map (group purchases) :=
  (List.map_mergeSort (s := PurchaseGroup.notAfter) (f := group purchases)
    fun _ _ _ _ => rfl).symm

theorem pairwise_sortedKeys (family : MaterialFamily) (purchases : List Purchase) :
    (sortedKeys family purchases).Pairwise (·.rank < ·.rank) := by
  have hsorted : (sortedKeys family purchases).Pairwise
      fun a b => a.reportedNotAfter b ∧ (b.reportedNotAfter a → a.notAfter b) := by
    refine pairwise_mergeSort_mergeSort (fun a b c => ?_) (fun a b => ?_) (fun a b c => ?_)
      (fun a b => ?_) _
    · simpa only [PurchaseKey.notAfter_iff] using le_trans
    · simpa only [Bool.or_eq_true, PurchaseKey.notAfter_iff] using le_total _ _
    · simpa only [PurchaseKey.reportedNotAfter_iff] using le_trans
    · simpa only [Bool.or_eq_true, PurchaseKey.reportedNotAfter_iff] using le_total _ _
  have hnodup : (sortedKeys family purchases).Nodup :=
    (sortedKeys_perm family purchases).nodup_iff.2 (nodup_keysOf family purchases)
  have hfamily : ∀ key ∈ sortedKeys family purchases, key.family = family := fun key hkey =>
    (mem_keysOf.1 ((sortedKeys_perm family purchases).mem_iff.1 hkey)).2
  refine (hsorted.and hnodup).imp_of_mem fun {a b} ha hb ⟨⟨hreported, hties⟩, hne⟩ => ?_
  refine lt_of_le_of_ne (PurchaseKey.rank_le hreported hties) fun hrank => hne ?_
  exact PurchaseKey.eq_of_rank_eq ((hfamily a ha).trans (hfamily b hb).symm) hrank

theorem sortedKeys_eq_of_perm {keys : List PurchaseKey}
    (hperm : keys.Perm (keysOf family purchases)) (hsorted : keys.Pairwise (·.rank < ·.rank)) :
    sortedKeys family purchases = keys :=
  ((sortedKeys_perm family purchases).trans hperm.symm).eq_of_pairwise
    (fun _ _ _ _ hlt hgt => absurd hgt (lt_asymm hlt)) (pairwise_sortedKeys _ _) hsorted

theorem sortedKeys_congr (h : purchases.Perm others) (family : MaterialFamily) :
    sortedKeys family purchases = sortedKeys family others := by
  have hkeys : (keysOf family others).Perm (keysOf family purchases) :=
    (List.perm_ext_iff_of_nodup (nodup_keysOf _ _) (nodup_keysOf _ _)).2 fun key => by
      simp only [mem_keysOf, h.mem_iff]
  exact sortedKeys_eq_of_perm ((sortedKeys_perm _ _).trans hkeys) (pairwise_sortedKeys _ _)

end Purchase

namespace PurchaseGroup

def rank (group : PurchaseGroup) : List String :=
  [group.label, group.kind, group.reference, group.pattern.getD ""]

/-- Two groups of one material, whose lines are the same in some order. -/
structure Matches (a b : PurchaseGroup) : Prop where
  identity : a.identity = b.identity
  label : a.label = b.label
  lines : a.lines.Perm b.lines

end PurchaseGroup

namespace Purchase

theorem group_matches (h : purchases.Perm others) (key : PurchaseKey) :
    (group purchases key).Matches (group others key) where
  identity := rfl
  label := rfl
  lines := (h.filter _).map _

end Purchase

/-! ## The summary of rows in another order -/

namespace PurchaseSummary

/-- The rows in another order give the same groups in the same places, and only the lines of a
group may change theirs.  Label, kind, reference and pattern put all groups of a list in order. -/
theorem ofRows_perm {rows others : List Row} (h : rows.Perm others) (family : MaterialFamily) :
    List.Forall₂ PurchaseGroup.Matches ((ofRows rows).list family)
        ((ofRows others).list family) ∧
      (((ofRows rows).list family).map (·.identity)).Nodup ∧
      ((ofRows rows).list family).Pairwise (·.rank < ·.rank) := by
  have hpurchases : ((boughtSlots rows).map Purchase.ofEntry).Perm
      ((boughtSlots others).map Purchase.ofEntry) := by
    rw [← Purchase.flatMap_ofRow, ← Purchase.flatMap_ofRow]
    exact h.flatMap_right _
  rw [list_ofRows, list_ofRows]
  refine ⟨?_, Purchase.nodup_identity_groupsOf family _, ?_⟩
  · rw [Purchase.groupsOf_eq, Purchase.groupsOf_eq, Purchase.sortedKeys_congr hpurchases,
      List.forall₂_map_left_iff, List.forall₂_map_right_iff, List.forall₂_same]
    exact fun key _ => Purchase.group_matches hpurchases key
  · rw [Purchase.groupsOf_eq, List.pairwise_map]
    exact Purchase.pairwise_sortedKeys family _

def metreRow (id reference pattern : String) : Row :=
  ((({ id } : Row).setText MaterialSlot.decorative1.reference reference).setText
    MaterialSlot.decorative1.pattern pattern).setNumber MaterialSlot.decorative1.meters 1

def metreRows : List Row :=
  [metreRow "r1" "Lin (Bleu)" "", metreRow "r2" "Coton" "", metreRow "r3" "Lin" "Bleu"]

theorem ofRows_perm_metreRows :
    metreRows.Perm metreRows.reverse ∧
      List.Forall₂ PurchaseGroup.Matches ((ofRows metreRows).list .fabric)
        ((ofRows metreRows.reverse).list .fabric) ∧
      ((ofRows metreRows).list .fabric).map (fun group => (group.label, group.reference)) =
        [("Coton", "Coton"), ("Lin (Bleu)", "Lin"), ("Lin (Bleu)", "Lin (Bleu)")] := by
  have hperm : metreRows.Perm metreRows.reverse := (List.reverse_perm _).symm
  refine ⟨hperm, (ofRows_perm hperm .fabric).1, ?_⟩
  have hkeys : Purchase.sortedKeys .fabric ((boughtSlots metreRows).map Purchase.ofEntry) =
      [⟨.fabric, "Tissu", "Coton", none⟩, ⟨.fabric, "Tissu", "Lin", some "Bleu"⟩,
        ⟨.fabric, "Tissu", "Lin (Bleu)", none⟩] :=
    Purchase.sortedKeys_eq_of_perm (by decide +kernel) (by decide +kernel)
  rw [list_ofRows, Purchase.groupsOf_eq, hkeys]
  decide +kernel

end PurchaseSummary

end Drapery
