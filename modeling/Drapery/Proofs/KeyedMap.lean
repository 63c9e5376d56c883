import Mathlib.Data.List.Nodup
import Drapery.Keyed

/-!
# Look-ups in keyed maps

Entries are ordered by distinct keys, so an entry of the map, the value at its
key, and membership of the key all say the same.  A search by a property of the
key depends only on the values at the keys that have it.
-/

namespace Drapery

universe u

variable {α : Type u}

theorem find?_key_of_mem {key : α → String} {records : List α} (hkeys : (records.map key).Nodup)
    {record : α} (h : record ∈ records) :
    records.find? (key · == key record) = some record := by
  obtain ⟨found, hfound⟩ : ∃ found, records.find? (key · == key record) = some found :=
    Option.isSome_iff_exists.1 (List.find?_isSome.2 ⟨record, h, by simp⟩)
  have hsame : key found = key record := by simpa using List.find?_some hfound
  rw [hfound, List.inj_on_of_nodup_map hkeys (List.mem_of_find?_eq_some hfound) h hsame]

namespace Keyed

/-! ## Entries, keys and values -/

theorem mem_of_lookup {key : String} {value : α} {entries : List (String × α)}
    (h : entries.lookup key = some value) : (key, value) ∈ entries := by
  obtain ⟨before, after, rfl, -⟩ := List.lookup_eq_some_iff.1 h
  simp

theorem lookup_of_mem {key : String} {value : α} {entries : List (String × α)}
    (hsorted : entries.Pairwise fun a b => a.1 < b.1)
    (h : (key, value) ∈ entries) : entries.lookup key = some value := by
  induction entries with
  | nil => cases h
  | cons first rest ih =>
      obtain ⟨hfirst, hrest⟩ := List.pairwise_cons.1 hsorted
      rw [lookup_cons_eq_ite]
      rcases List.mem_cons.1 h with rfl | h
      · rw [if_pos rfl]
      · have hne : key ≠ first.1 := (String.ne_of_lt (hfirst _ h)).symm
        rw [if_neg hne]
        exact ih hrest h

theorem mem_entries_iff {map : Keyed α} {key : String} {value : α} :
    (key, value) ∈ map.entries ↔ map.get? key = some value :=
  ⟨lookup_of_mem map.ascending, mem_of_lookup⟩

theorem mem_keys_iff {map : Keyed α} {key : String} :
    key ∈ map.keys ↔ ∃ value, map.get? key = some value := by
  simp [keys, ← mem_entries_iff]

/-! ## Searching by key -/

theorem lookup_filter (p : String → Bool) (key : String) (entries : List (String × α)) :
    (entries.filter fun entry => p entry.1).lookup key =
      if p key then entries.lookup key else none := by
  induction entries with
  | nil => simp
  | cons first rest ih =>
      obtain ⟨firstKey, firstValue⟩ := first
      rw [List.filter_cons, lookup_cons_eq_ite]
      by_cases hkey : key = firstKey
      · subst hkey
        by_cases hp : p key <;> simp [hp, ih]
      · by_cases hp : p firstKey <;> simp [hp, ih, lookup_cons_eq_ite, hkey]

theorem find?_entries_congr {p : String → Bool} {a b : Keyed α}
    (h : ∀ key, p key → a.get? key = b.get? key) :
    a.entries.find? (fun entry => p entry.1) =
      b.entries.find? (fun entry => p entry.1) := by
  rw [← List.head?_filter, ← List.head?_filter]
  congr 1
  refine entries_ext (a.ascending.filter _) (b.ascending.filter _) fun key => ?_
  rw [lookup_filter, lookup_filter]
  by_cases hp : p key
  · simp only [hp, if_true]
    exact h key hp
  · simp [hp]

theorem find?_keys (map : Keyed α) (p : String → Bool) :
    map.keys.find? p = (map.entries.find? fun entry => p entry.1).map (·.1) := by
  rw [keys, List.find?_map]
  rfl

theorem find?_keys_congr {p : String → Bool} {a b : Keyed α}
    (h : ∀ key, p key → a.get? key = b.get? key) : a.keys.find? p = b.keys.find? p := by
  rw [find?_keys, find?_keys, find?_entries_congr h]

theorem find?_keys_eq_some_iff {map : Keyed α} {p : String → Bool} {key : String} :
    map.keys.find? p = some key ↔
      key ∈ map.keys ∧ p key ∧ ∀ other ∈ map.keys, p other → key ≤ other := by
  have hascending : map.keys.Pairwise (· < ·) := List.pairwise_map.2 map.ascending
  have hleast : ∀ {found : String}, map.keys.find? p = some found →
      ∀ other ∈ map.keys, p other → found ≤ other := by
    intro found hfound other hother hp
    obtain ⟨-, before, after, hsplit, hbefore⟩ := List.find?_eq_some_iff_append.1 hfound
    rw [hsplit] at hother hascending
    rcases List.mem_append.1 hother with hmem | hmem
    · have hnot := hbefore other hmem
      simp [hp] at hnot
    · rcases List.mem_cons.1 hmem with rfl | hmem
      · exact String.le_refl other
      · obtain ⟨-, hafter, -⟩ := List.pairwise_append.1 hascending
        exact String.lt_asymm ((List.pairwise_cons.1 hafter).1 other hmem)
  constructor
  · intro hfound
    exact ⟨List.mem_of_find?_eq_some hfound, List.find?_some hfound, hleast hfound⟩
  · rintro ⟨hkey, hp, hfirst⟩
    obtain ⟨found, hfound⟩ : ∃ found, map.keys.find? p = some found :=
      Option.isSome_iff_exists.1 (List.find?_isSome.2 ⟨key, hkey, hp⟩)
    have hle : key ≤ found :=
      hfirst found (List.mem_of_find?_eq_some hfound) (List.find?_some hfound)
    rw [hfound, String.le_antisymm (hleast hfound key hkey hp) hle]

/-! ## Maps made of lists -/

theorem mem_of_mem_ofList {entry : String × α} {entries : List (String × α)}
    (h : entry ∈ (ofList entries).entries) : entry ∈ entries := by
  have hfold : ∀ map : Keyed α,
      entry ∈ (entries.foldl (fun map entry => map.insert entry.1 entry.2) map).entries →
        entry ∈ map.entries ∨ entry ∈ entries := by
    clear h
    induction entries with
    | nil => exact fun map h => .inl h
    | cons first rest ih =>
        intro map h
        rcases ih _ h with hmap | hrest
        · rcases mem_insertEntry hmap with rfl | hmap
          · exact .inr (List.mem_cons_self ..)
          · exact .inl hmap
        · exact .inr (List.mem_cons_of_mem _ hrest)
  exact (hfold ∅ h).resolve_left List.not_mem_nil

theorem get?_ofList (key : String) (entries : List (String × α)) :
    (ofList entries).get? key = entries.reverse.lookup key := by
  have hfold : ∀ map : Keyed α,
      (entries.foldl (fun map entry => map.insert entry.1 entry.2) map).get? key =
        (entries.reverse.lookup key).or (map.get? key) := by
    induction entries with
    | nil => exact fun map => rfl
    | cons first rest ih =>
        intro map
        rw [List.foldl_cons, ih, get?_insert, List.reverse_cons, List.lookup_append,
          Option.or_assoc]
        congr 1
        rw [lookup_cons_eq_ite]
        split <;> rfl
  rw [ofList, hfold, get?_empty, Option.or_none]

theorem ofList_entries (map : Keyed α) : ofList map.entries = map := by
  refine ext_get? fun key => ?_
  rw [get?_ofList]
  cases hfound : map.entries.reverse.lookup key with
  | none =>
      have hnone : ∀ value, (key, value) ∉ map.entries := by
        intro value hvalue
        have := List.lookup_eq_none_iff.1 hfound (key, value) (List.mem_reverse.2 hvalue)
        simp at this
      cases hget : map.get? key with
      | none => rfl
      | some value => exact absurd (mem_entries_iff.2 hget) (hnone value)
  | some value =>
      exact (mem_entries_iff.1 (List.mem_reverse.1 (mem_of_lookup hfound))).symm

theorem mem_keys_insert {map : Keyed α} {key other : String} {value : α} :
    other ∈ (map.insert key value).keys ↔ other = key ∨ other ∈ map.keys := by
  simp only [mem_keys_iff, get?_insert]
  by_cases h : other = key <;> simp [h]

theorem mem_keys_ofList {key : String} {entries : List (String × α)} :
    key ∈ (ofList entries).keys ↔ key ∈ entries.map (·.1) := by
  have hfold : ∀ map : Keyed α,
      key ∈ (entries.foldl (fun map entry => map.insert entry.1 entry.2) map).keys ↔
        key ∈ map.keys ∨ key ∈ entries.map (·.1) := by
    induction entries with
    | nil => simp
    | cons first rest ih =>
        intro map
        rw [List.foldl_cons, ih, mem_keys_insert, List.map_cons, List.mem_cons]
        tauto
  have hempty : key ∉ (∅ : Keyed α).keys := List.not_mem_nil
  rw [ofList, hfold, or_iff_right hempty]

end Keyed

end Drapery
