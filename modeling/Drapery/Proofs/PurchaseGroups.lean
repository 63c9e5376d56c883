import Mathlib.Data.List.Nodup
import Mathlib.Data.List.ProdSigma
import Drapery.Purchase.Summary
import Drapery.Proofs.DistinctLists

/-!
# Where each purchase goes

A slot of a row is bought when it applies to the row, names a material and takes
a positive length.  The groups of the summary split the bought slots up by what
they buy: each of them has its line in one group, and no group has another line.
-/

namespace Drapery

/-! ## Lists split by a key -/

section

variable {α κ : Type} [DecidableEq κ]

theorem flatMap_filter_perm (key : α → κ) {keys : List κ} (hkeys : keys.Nodup)
    (entries : List α) :
    (keys.flatMap fun k => entries.filter (key · = k)).Perm
      (entries.filter (key · ∈ keys)) := by
  induction keys with
  | nil => simp
  | cons first rest ih =>
      obtain ⟨hfirst, hrest⟩ := List.nodup_cons.1 hkeys
      -- the entries under the other keys are those left once the first key is taken out
      have hhere : (entries.filter (key · ∈ first :: rest)).filter (key · = first) =
          entries.filter (key · = first) := by
        rw [List.filter_filter]
        refine List.filter_congr fun entry _ => ?_
        by_cases hkey : key entry = first <;> simp [hkey]
      have hthere : (entries.filter (key · ∈ first :: rest)).filter
          (fun entry => !decide (key entry = first)) = entries.filter (key · ∈ rest) := by
        rw [List.filter_filter]
        refine List.filter_congr fun entry _ => ?_
        by_cases hkey : key entry = first <;> simp [hkey, hfirst]
      have hsplit := List.filter_append_perm (key · = first)
        (entries.filter (key · ∈ first :: rest))
      rw [hhere, hthere] at hsplit
      rw [List.flatMap_cons]
      exact ((ih hrest).append_left _).trans hsplit

end

/-! ## Bought slots -/

namespace PurchaseSlot

variable {slot : PurchaseSlot} {row : Row}

def metersOf (slot : PurchaseSlot) (row : Row) : Float := row.amount slot.meters / slot.divisor

structure Bought (slot : PurchaseSlot) (row : Row) : Prop where
  applies : slot.appliesTo row
  named : row.label slot.reference ≠ ""
  measured : 0 < slot.metersOf row

instance : Decidable (slot.Bought row) :=
  decidable_of_iff (slot.appliesTo row ∧ row.label slot.reference ≠ "" ∧ 0 < slot.metersOf row)
    ⟨fun ⟨applies, named, measured⟩ => ⟨applies, named, measured⟩,
      fun ⟨applies, named, measured⟩ => ⟨applies, named, measured⟩⟩

def costOf (slot : PurchaseSlot) (row : Row) : Float :=
  match slot.basis with
  | .lineTotal => row.amount slot.cost
  | .perUnit => row.amount slot.cost * row.quantity
  | .perMeter => row.amount slot.cost * slot.metersOf row * row.quantity

def lineOf (slot : PurchaseSlot) (row : Row) : PurchaseLine where
  rowId := row.id
  zone := row.text Field.zone
  room := row.text Field.room
  product := row.text Field.product
  dimensions := Purchase.dimensions row
  quantity := row.quantity
  linearMeters := slot.metersOf row * row.quantity
  cost := slot.costOf row

def identityOf (slot : PurchaseSlot) (row : Row) : String × String × Option String :=
  (slot.kind, row.label slot.reference, slot.pattern.bind row.label?)

end PurchaseSlot

/-- The bought slots of some rows, by row and then in the order of the slots. -/
def boughtSlots (rows : List Row) : List (Row × PurchaseSlot) :=
  (rows ×ˢ PurchaseSlot.all).filter fun entry => entry.2.Bought entry.1

namespace PurchaseKey

def identity (key : PurchaseKey) : String × String × Option String :=
  (key.kind, key.reference, key.pattern)

theorem ext_identity {a b : PurchaseKey} (hfamily : a.family = b.family)
    (hidentity : a.identity = b.identity) : a = b := by
  cases a
  cases b
  simp_all [identity]

end PurchaseKey

def PurchaseGroup.identity (group : PurchaseGroup) : String × String × Option String :=
  (group.kind, group.reference, group.pattern)

def PurchaseSummary.list (summary : PurchaseSummary) : MaterialFamily → List PurchaseGroup
  | .fabric => summary.fabrics
  | .lining => summary.linings
  | .rail => summary.rails

namespace Purchase

def ofEntry (entry : Row × PurchaseSlot) : Purchase where
  key := ⟨entry.2.family, entry.2.kind, entry.1.label entry.2.reference,
    entry.2.pattern.bind entry.1.label?⟩
  line := entry.2.lineOf entry.1

theorem ofSlot?_eq (row : Row) (slot : PurchaseSlot) :
    ofSlot? row slot = if slot.Bought row then some (ofEntry (row, slot)) else none := by
  by_cases hnamed : row.label slot.reference = ""
  · have hunnamed : ¬ slot.Bought row := fun hbought => hbought.named hnamed
    rw [if_neg hunnamed, ofSlot?, Row.label?, hnamed]
    rfl
  · have hlabel : row.label? slot.reference = some (row.label slot.reference) := by
      simp [Row.label?, hnamed]
    have hbought : slot.Bought row ↔
        (slot.appliesTo row && decide (0 < row.amount slot.meters / slot.divisor)) = true := by
      rw [Bool.and_eq_true, decide_eq_true_iff]
      exact ⟨fun h => ⟨h.applies, h.measured⟩, fun h => ⟨h.1, hnamed, h.2⟩⟩
    simp only [ofSlot?, hlabel, hbought]
    rfl

theorem ofRow_eq (row : Row) :
    ofRow row = (PurchaseSlot.all.filter fun slot => slot.Bought row).map
      fun slot => ofEntry (row, slot) := by
  rw [ofRow, ← List.filterMap_eq_filter, List.map_filterMap]
  refine List.filterMap_congr fun slot _ => ?_
  rw [ofSlot?_eq]
  by_cases hbought : slot.Bought row <;> simp [Option.guard, hbought]

theorem flatMap_ofRow (rows : List Row) :
    rows.flatMap ofRow = (boughtSlots rows).map ofEntry := by
  have hbought : boughtSlots rows = rows.flatMap fun row =>
      (PurchaseSlot.all.filter fun slot => slot.Bought row).map (row, ·) := by
    simp only [boughtSlots, SProd.sprod, List.product, List.filter_flatMap, List.filter_map,
      Function.comp_def]
  rw [hbought, List.map_flatMap]
  refine List.flatMap_congr fun row _ => ?_
  rw [ofRow_eq, List.map_map]
  rfl

/-! ## Groups of purchases -/

def keysOf (family : MaterialFamily) (purchases : List Purchase) : List PurchaseKey :=
  ((purchases.map (·.key)).filter (·.family = family)).eraseDups

theorem mem_keysOf {family : MaterialFamily} {purchases : List Purchase} {key : PurchaseKey} :
    key ∈ keysOf family purchases ↔
      (∃ purchase ∈ purchases, purchase.key = key) ∧ key.family = family := by
  simp [keysOf, List.mem_eraseDups]

theorem nodup_keysOf (family : MaterialFamily) (purchases : List Purchase) :
    (keysOf family purchases).Nodup := nodup_eraseDups _

theorem groupsOf_perm (family : MaterialFamily) (purchases : List Purchase) :
    (groupsOf family purchases).Perm ((keysOf family purchases).map (group purchases)) :=
  (List.mergeSort_perm _ _).trans ((List.mergeSort_perm _ _).map _)

theorem exists_of_mem_groupsOf {family : MaterialFamily} {purchases : List Purchase}
    {found : PurchaseGroup} (h : found ∈ groupsOf family purchases) :
    ∃ key ∈ keysOf family purchases, found = group purchases key := by
  obtain ⟨key, hkey, rfl⟩ := List.mem_map.1 ((groupsOf_perm family purchases).mem_iff.1 h)
  exact ⟨key, hkey, rfl⟩

theorem lines_groupsOf_perm (family : MaterialFamily) (purchases : List Purchase) :
    ((groupsOf family purchases).flatMap fun found =>
        found.lines.map (found.identity, ·)).Perm
      ((purchases.filter (·.key.family = family)).map fun purchase =>
        (purchase.key.identity, purchase.line)) := by
  have hgroup : ∀ key, (group purchases key).lines.map ((group purchases key).identity, ·) =
      (purchases.filter (·.key = key)).map fun purchase =>
        (purchase.key.identity, purchase.line) := by
    intro key
    simp only [group, PurchaseGroup.identity, List.map_map]
    refine List.map_congr_left fun purchase hpurchase => ?_
    obtain rfl : purchase.key = key := by simpa using (List.mem_filter.1 hpurchase).2
    rfl
  have hfamily : purchases.filter (·.key ∈ keysOf family purchases) =
      purchases.filter (·.key.family = family) := by
    refine List.filter_congr fun purchase hpurchase => ?_
    have hkey : ∃ other ∈ purchases, other.key = purchase.key := ⟨purchase, hpurchase, rfl⟩
    simp only [mem_keysOf, hkey, true_and]
  have hsplit := flatMap_filter_perm Purchase.key (nodup_keysOf family purchases) purchases
  rw [hfamily] at hsplit
  refine ((groupsOf_perm family purchases).flatMap_right _).trans ?_
  simp only [List.flatMap_map, hgroup]
  rw [← List.map_flatMap]
  exact hsplit.map _

theorem nodup_identity_groupsOf (family : MaterialFamily) (purchases : List Purchase) :
    ((groupsOf family purchases).map (·.identity)).Nodup := by
  rw [((groupsOf_perm family purchases).map _).nodup_iff, List.map_map]
  refine (nodup_keysOf family purchases).map_on fun a ha b hb hidentity => ?_
  exact PurchaseKey.ext_identity ((mem_keysOf.1 ha).2.trans (mem_keysOf.1 hb).2.symm) hidentity

theorem lines_group_ne_nil {family : MaterialFamily} {purchases : List Purchase}
    {key : PurchaseKey} (h : key ∈ keysOf family purchases) :
    (group purchases key).lines ≠ [] := by
  obtain ⟨⟨purchase, hmem, hkey⟩, -⟩ := mem_keysOf.1 h
  have hline : purchase.line ∈ (group purchases key).lines :=
    List.mem_map_of_mem (List.mem_filter.2 ⟨hmem, by simp [hkey]⟩)
  exact List.ne_nil_of_mem hline

end Purchase

/-! ## The summary -/

namespace PurchaseSummary

theorem list_ofRows (rows : List Row) (family : MaterialFamily) :
    (ofRows rows).list family =
      Purchase.groupsOf family ((boughtSlots rows).map Purchase.ofEntry) := by
  rw [← Purchase.flatMap_ofRow]
  cases family <;> rfl

theorem lines_list_perm (rows : List Row) (family : MaterialFamily) :
    (((ofRows rows).list family).flatMap fun group => group.lines.map (group.identity, ·)).Perm
      (((boughtSlots rows).filter (·.2.family = family)).map fun entry =>
        (entry.2.identityOf entry.1, entry.2.lineOf entry.1)) := by
  have hperm := Purchase.lines_groupsOf_perm family ((boughtSlots rows).map Purchase.ofEntry)
  rwa [← list_ofRows, List.filter_map, List.map_map] at hperm

theorem lines_of_mem_list {rows : List Row} {family : MaterialFamily} {group : PurchaseGroup}
    (h : group ∈ (ofRows rows).list family) :
    group.lines = ((boughtSlots rows).filter fun entry =>
        entry.2.family = family ∧ entry.2.identityOf entry.1 = group.identity).map
      fun entry => entry.2.lineOf entry.1 := by
  rw [list_ofRows] at h
  obtain ⟨key, hkey, rfl⟩ := Purchase.exists_of_mem_groupsOf h
  have hfamily : key.family = family := (Purchase.mem_keysOf.1 hkey).2
  have hsame : ∀ entry, (Purchase.ofEntry entry).key = key ↔
      entry.2.family = family ∧ entry.2.identityOf entry.1 = key.identity := by
    intro entry
    constructor
    · rintro rfl
      exact ⟨hfamily, rfl⟩
    · rintro ⟨hentry, hidentity⟩
      exact PurchaseKey.ext_identity (hentry.trans hfamily.symm) hidentity
  have hlines : (Purchase.group ((boughtSlots rows).map Purchase.ofEntry) key).lines =
      ((boughtSlots rows).filter fun entry => (Purchase.ofEntry entry).key = key).map
        fun entry => (Purchase.ofEntry entry).line := by
    simp only [Purchase.group, List.filter_map, List.map_map]
    rfl
  rw [hlines]
  simp only [hsame]
  rfl

/-- Each list of the summary has the lines of the bought slots of its family, one
line for each, in the group with what the slot buys.  No two groups of a list
buy the same, and none is empty.  The lines of a group follow the rows, and in a
row the slots; its totals add them up in this order. -/
theorem ofRows_accounts (rows : List Row) (family : MaterialFamily) :
    (((ofRows rows).list family).flatMap fun group => group.lines.map (group.identity, ·)).Perm
        (((boughtSlots rows).filter (·.2.family = family)).map fun entry =>
          (entry.2.identityOf entry.1, entry.2.lineOf entry.1)) ∧
      (((ofRows rows).list family).map (·.identity)).Nodup ∧
      ∀ group ∈ (ofRows rows).list family,
        group.lines ≠ [] ∧
        group.lines = ((boughtSlots rows).filter fun entry =>
            entry.2.family = family ∧ entry.2.identityOf entry.1 = group.identity).map
          (fun entry => entry.2.lineOf entry.1) ∧
        group.totalLinearMeters = (group.lines.map (·.linearMeters)).foldl (· + ·) 0 ∧
        group.totalCost = (group.lines.map (·.cost)).foldl (· + ·) 0 := by
  refine ⟨lines_list_perm rows family, ?_, fun group hgroup => ?_⟩
  · rw [list_ofRows]
    exact Purchase.nodup_identity_groupsOf family _
  · have hlines := lines_of_mem_list hgroup
    rw [list_ofRows] at hgroup
    obtain ⟨key, hkey, rfl⟩ := Purchase.exists_of_mem_groupsOf hgroup
    exact ⟨Purchase.lines_group_ne_nil hkey, hlines, List.foldl_map.symm, List.foldl_map.symm⟩

end PurchaseSummary

end Drapery
