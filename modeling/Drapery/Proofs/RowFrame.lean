import Drapery.Row.Basic
import Drapery.Proofs.KeyedMap

/-!
# Rows that agree outside some cells

`AgreeOff keys a b` says that two rows differ at most in the cells of `keys`.
What an operation leaves alone is stated with it, and rows that agree off no
cell at all are equal.
-/

namespace Drapery

namespace Row

structure AgreeOff (keys : List String) (a b : Row) : Prop where
  id : a.id = b.id
  overrides : a.overrides = b.overrides
  cells : ∀ key, key ∉ keys → a.get? key = b.get? key

/-! ## Cells after an update -/

theorem get?_set (row : Row) (key other : String) (cell : Cell) :
    (row.set key cell).get? other = if other = key then some cell else row.get? other :=
  Keyed.get?_insert row.cells key other cell

theorem get?_remove (row : Row) (key other : String) :
    (row.remove key).get? other = if other = key then none else row.get? other :=
  Keyed.get?_erase row.cells key other

@[simp] theorem get?_set_self (row : Row) (key : String) (cell : Cell) :
    (row.set key cell).get? key = some cell := by
  rw [get?_set, if_pos rfl]

theorem get?_set_of_ne (row : Row) {key other : String} (cell : Cell) (h : other ≠ key) :
    (row.set key cell).get? other = row.get? other := by
  rw [get?_set, if_neg h]

theorem text_congr {a b : Row} {key : String} (h : a.get? key = b.get? key) :
    a.text key = b.text key := by
  rw [text, text, h]

theorem label_congr {a b : Row} {key : String} (h : a.get? key = b.get? key) :
    a.label key = b.label key := by
  rw [label, label, text_congr h]

theorem amount_congr {a b : Row} {key : String} (h : a.get? key = b.get? key) :
    a.amount key = b.amount key := by
  rw [amount, amount, h]

theorem isTicked_congr {a b : Row} {key : String} (h : a.get? key = b.get? key) :
    a.isTicked key = b.isTicked key := by
  rw [isTicked, isTicked, h]

/-! ## Agreement -/

namespace AgreeOff

variable {keys : List String} {a b c : Row}

theorem refl (keys : List String) (row : Row) : AgreeOff keys row row :=
  ⟨rfl, rfl, fun _ _ => rfl⟩

theorem symm (h : AgreeOff keys a b) : AgreeOff keys b a :=
  ⟨h.id.symm, h.overrides.symm, fun key hkey => (h.cells key hkey).symm⟩

theorem trans (hab : AgreeOff keys a b) (hbc : AgreeOff keys b c) : AgreeOff keys a c :=
  ⟨hab.id.trans hbc.id, hab.overrides.trans hbc.overrides,
    fun key hkey => (hab.cells key hkey).trans (hbc.cells key hkey)⟩

theorem mono {others : List String} (h : AgreeOff keys a b) (hsub : keys ⊆ others) :
    AgreeOff others a b :=
  ⟨h.id, h.overrides, fun key hkey => h.cells key fun hmem => hkey (hsub hmem)⟩

theorem eq (h : AgreeOff [] a b) : a = b := by
  have hcells : a.cells = b.cells := Keyed.ext_get? fun key => h.cells key List.not_mem_nil
  cases a
  cases b
  cases h.id
  cases h.overrides
  cases hcells
  rfl

theorem eq_iff {key : String} (h : AgreeOff [key] a b) : a = b ↔ a.get? key = b.get? key := by
  refine ⟨fun hrows => by rw [hrows], fun hcell => eq ⟨h.id, h.overrides, fun other _ => ?_⟩⟩
  by_cases hother : other = key
  · rw [hother, hcell]
  · exact h.cells other (by simpa using hother)

theorem eq_of_disjoint {others : List String} (h : AgreeOff keys a b)
    (hothers : AgreeOff others a b) (hdisjoint : ∀ key ∈ keys, key ∉ others) : a = b := by
  refine eq ⟨h.id, h.overrides, fun key _ => ?_⟩
  by_cases hkey : key ∈ keys
  · exact hothers.cells key (hdisjoint key hkey)
  · exact h.cells key hkey

theorem set_left {key : String} (hkey : key ∈ keys) (row : Row) (cell : Cell) :
    AgreeOff keys (row.set key cell) row := by
  refine ⟨rfl, rfl, fun other hother => get?_set_of_ne row cell ?_⟩
  rintro rfl
  exact hother hkey

theorem remove_left {key : String} (hkey : key ∈ keys) (row : Row) :
    AgreeOff keys (row.remove key) row := by
  refine ⟨rfl, rfl, fun other hother => ?_⟩
  rw [get?_remove, if_neg]
  rintro rfl
  exact hother hkey

theorem set_both {key : String} (h : AgreeOff (key :: keys) a b) (cell : Cell) :
    AgreeOff keys (a.set key cell) (b.set key cell) := by
  refine ⟨h.id, h.overrides, fun other hother => ?_⟩
  rw [get?_set, get?_set]
  by_cases hkey : other = key
  · rw [if_pos hkey, if_pos hkey]
  · rw [if_neg hkey, if_neg hkey]
    exact h.cells other (by simp [hkey, hother])

end AgreeOff

theorem set_of_get? {row : Row} {key : String} {cell : Cell} (h : row.get? key = some cell) :
    row.set key cell = row := by
  refine AgreeOff.eq ⟨rfl, rfl, fun other _ => ?_⟩
  rw [get?_set]
  split
  · rename_i hother
    rw [hother, h]
  · rfl

end Row

end Drapery
