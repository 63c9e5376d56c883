import Mathlib.Data.List.Nodup
import Drapery.Recompute.Rules
import Drapery.Proofs.RowStep

/-!
# References to the catalog

A row refers to an item by a name and a recorded identifier.  Once the
identifier is recorded, the row refers to the same item: names are read without
the blanks around them and compared as they are, so this needs that no two items
have one name.
-/

namespace Drapery

/-! ## Resolution -/

namespace Catalog

variable {catalog : Catalog} {item : CatalogItem} {id : Option String} {name : String}

theorem mem_of_findById? {id : String} (h : catalog.findById? id = some item) :
    item ∈ catalog.items ∧ item.id = id := by
  rw [findById?] at h
  split at h
  · cases h
  · exact ⟨List.mem_of_find?_eq_some h, by simpa using List.find?_some h⟩

theorem mem_of_findByName? (h : catalog.findByName? name = some item) :
    item ∈ catalog.items ∧ item.name = name := by
  rw [findByName?] at h
  split at h
  · cases h
  · exact ⟨List.mem_of_find?_eq_some h, by simpa using List.find?_some h⟩

theorem findByName?_of_mem (hnames : (catalog.items.map (·.name)).Nodup)
    (hitem : item ∈ catalog.items) (hname : item.name.isEmpty = false) :
    catalog.findByName? item.name = some item := by
  rw [findByName?, hname, if_neg Bool.false_ne_true]
  exact find?_key_of_mem hnames hitem

theorem findById?_of_mem (hids : (catalog.items.map (·.id)).Nodup)
    (hitem : item ∈ catalog.items) (hid : item.id.isEmpty = false) :
    catalog.findById? item.id = some item := by
  rw [findById?, hid, if_neg Bool.false_ne_true]
  exact find?_key_of_mem hids hitem

theorem resolve?_of_nonempty (id : Option String) (hname : name.isEmpty = false) :
    catalog.resolve? id name =
      ((id.bind catalog.findById?).filter (·.name == name)).or
        ((catalog.findByName? name).or (id.bind catalog.findById?)) := by
  simp only [resolve?, hname, Bool.false_eq_true, if_false]
  cases (id.bind catalog.findById?).filter (·.name == name) <;> rfl

theorem mem_of_resolve? (h : catalog.resolve? id name = some item) :
    item ∈ catalog.items ∧ name.isEmpty = false ∧ (item.name = name ∨ id = some item.id) := by
  have hrecorded : ∀ {found}, id.bind catalog.findById? = some found →
      found ∈ catalog.items ∧ id = some found.id := by
    intro found hfound
    obtain ⟨recorded, hid, hfind⟩ := Option.bind_eq_some_iff.1 hfound
    obtain ⟨hmem, heq⟩ := mem_of_findById? hfind
    exact ⟨hmem, by rw [hid, heq]⟩
  have hname : name.isEmpty = false := by
    by_contra hempty
    rw [resolve?, if_pos (by simpa using hempty)] at h
    cases h
  rw [resolve?_of_nonempty id hname] at h
  rcases Option.or_eq_some_iff.1 h with h | ⟨-, h⟩
  · obtain ⟨hmem, hid⟩ := hrecorded (Option.filter_eq_some_iff.1 h).1
    exact ⟨hmem, hname, .inr hid⟩
  · rcases Option.or_eq_some_iff.1 h with h | ⟨-, h⟩
    · obtain ⟨hmem, heq⟩ := mem_of_findByName? h
      exact ⟨hmem, hname, .inl heq⟩
    · obtain ⟨hmem, hid⟩ := hrecorded h
      exact ⟨hmem, hname, .inr hid⟩

theorem resolve?_of_name (hnames : (catalog.items.map (·.name)).Nodup)
    (hitem : item ∈ catalog.items) (hname : item.name.isEmpty = false) (id : Option String) :
    catalog.resolve? id item.name = some item := by
  rw [resolve?_of_nonempty id hname, findByName?_of_mem hnames hitem hname]
  cases hfilter : (id.bind catalog.findById?).filter (·.name == item.name) with
  | none => rfl
  | some found =>
      obtain ⟨hrecorded, hsame⟩ := Option.filter_eq_some_iff.1 hfilter
      obtain ⟨recorded, -, hfind⟩ := Option.bind_eq_some_iff.1 hrecorded
      have hfound := (mem_of_findById? hfind).1
      rw [List.inj_on_of_nodup_map hnames hfound hitem (eq_of_beq hsame)]
      rfl

end Catalog

/-! ## References of rows -/

namespace Row

variable {row after : Row} {catalog : Catalog} {nameKey idKey : String} {item : CatalogItem}

theorem label?_congr {key : String} (h : row.get? key = after.get? key) :
    row.label? key = after.label? key := by
  rw [label?, label?, label_congr h]

theorem label?_of_absent {key : String} (h : row.get? key = none) : row.label? key = none := by
  simp [label?, label, text, h]
  decide

theorem reference_congr (hname : row.get? nameKey = after.get? nameKey)
    (hid : row.get? idKey = after.get? idKey) :
    row.reference catalog nameKey idKey = after.reference catalog nameKey idKey := by
  rw [reference, reference, label?_congr hname, label?_congr hid]

theorem get?_record_of_ne {key : String} (hkey : key ≠ idKey) (reference : Reference) :
    (row.record idKey reference).get? key = row.get? key := by
  cases reference with
  | empty => rfl
  | cleared => rw [record, get?_remove, if_neg hkey]
  | found item =>
      rw [record]
      split
      · rfl
      · exact get?_set_of_ne row _ hkey
  | unknown => rfl

theorem record_of_label? (h : row.label? idKey = some item.id) :
    row.record idKey (.found item) = row := by
  simp [record, h]

theorem record_record (h : after.get? idKey = (row.record idKey (.found item)).get? idKey) :
    after.record idKey (.found item) = after := by
  by_cases hid : item.id.isEmpty || row.label? idKey == some item.id
  · have hafter : after.label? idKey = row.label? idKey := by
      apply label?_congr
      rw [h, record, if_pos hid]
    rw [record, hafter, if_pos hid]
  · rw [record]
    split
    · rfl
    · rw [record, if_neg hid, setText, get?_set_self] at h
      exact set_of_get? h

theorem reference_of_record (hnames : (catalog.items.map (·.name)).Nodup)
    (hfound : row.reference catalog nameKey idKey = .found item)
    (hname : after.get? nameKey = row.get? nameKey)
    (hid : after.get? idKey = (row.record idKey (.found item)).get? idKey) :
    after.reference catalog nameKey idKey = .found item := by
  rw [reference] at hfound ⊢
  rw [label?_congr hname]
  cases hlabel : row.label? nameKey with
  | none =>
      rw [hlabel] at hfound
      simp only at hfound
      split at hfound <;> cases hfound
  | some name =>
      simp only [hlabel] at hfound ⊢
      cases hresolved : catalog.resolve? (row.label? idKey) name with
      | none => simp [hresolved] at hfound
      | some found =>
          obtain rfl : found = item := by simpa [hresolved] using hfound
          obtain ⟨hmem, hnonempty, rfl | hrecorded⟩ := Catalog.mem_of_resolve? hresolved
          · rw [Catalog.resolve?_of_name hnames hmem hnonempty]
          · rw [record_of_label? hrecorded] at hid
            rw [label?_congr hid, hresolved]

theorem reference_of_cleared (hcleared : row.reference catalog nameKey idKey = .cleared)
    (hname : after.get? nameKey = row.get? nameKey) (hid : after.get? idKey = none) :
    after.reference catalog nameKey idKey = .empty := by
  rw [reference] at hcleared ⊢
  rw [label?_congr hname, label?_of_absent hid]
  cases hname : row.label? nameKey with
  | none => rfl
  | some name =>
      simp only [hname] at hcleared
      split at hcleared <;> cases hcleared

end Row

end Drapery
