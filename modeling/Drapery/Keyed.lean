/-!
Values by key, in ascending order of the keys.

`Keyed α` has one representation for each finite map: two of them are equal as soon as they answer
every `get?` alike (`Keyed.ext_get?`).  Keys are ordered by their code points.
-/

namespace Drapery

universe u

structure Keyed (α : Type u) where
  entries : List (String × α)
  ascending : entries.Pairwise fun a b => a.1 < b.1

namespace Keyed

variable {α : Type u}

/-! ## Entries -/

def insertEntry (key : String) (value : α) : List (String × α) → List (String × α)
  | [] => [(key, value)]
  | entry :: rest =>
    if key < entry.1 then (key, value) :: entry :: rest
    else if key = entry.1 then (key, value) :: rest
    else entry :: insertEntry key value rest

theorem mem_insertEntry {key : String} {value : α} {entry : String × α}
    {entries : List (String × α)} (h : entry ∈ insertEntry key value entries) :
    entry = (key, value) ∨ entry ∈ entries := by
  induction entries with
  | nil => simpa [insertEntry] using h
  | cons first rest ih =>
    rw [insertEntry] at h
    split at h
    · simpa using h
    · split at h
      · rcases List.mem_cons.1 h with h | h <;> simp [h]
      · rcases List.mem_cons.1 h with h | h
        · simp [h]
        · rcases ih h with h | h <;> simp [h]

theorem pairwise_insertEntry (key : String) (value : α) {entries : List (String × α)}
    (h : entries.Pairwise fun a b => a.1 < b.1) :
    (insertEntry key value entries).Pairwise fun a b => a.1 < b.1 := by
  induction entries with
  | nil => simp [insertEntry]
  | cons first rest ih =>
    obtain ⟨hfirst, hrest⟩ := List.pairwise_cons.1 h
    rw [insertEntry]
    split
    · rename_i hlt
      refine List.pairwise_cons.2 ⟨fun entry hentry => ?_, h⟩
      rcases List.mem_cons.1 hentry with rfl | hentry
      · exact hlt
      · exact String.lt_trans hlt (hfirst entry hentry)
    · split
      · rename_i heq
        exact List.pairwise_cons.2 ⟨fun entry hentry => heq ▸ hfirst entry hentry, hrest⟩
      · rename_i hlt hne
        refine List.pairwise_cons.2 ⟨fun entry hentry => ?_, ih hrest⟩
        rcases mem_insertEntry hentry with rfl | hentry
        · exact Decidable.byContradiction fun h' =>
            hne (String.le_antisymm h' hlt)
        · exact hfirst entry hentry

def empty : Keyed α := ⟨[], .nil⟩

instance : EmptyCollection (Keyed α) := ⟨empty⟩

instance : Inhabited (Keyed α) := ⟨empty⟩

def keys (map : Keyed α) : List String := map.entries.map (·.1)

def get? (map : Keyed α) (key : String) : Option α := map.entries.lookup key

def contains (map : Keyed α) (key : String) : Bool := (map.get? key).isSome

def insert (map : Keyed α) (key : String) (value : α) : Keyed α :=
  ⟨insertEntry key value map.entries, pairwise_insertEntry key value map.ascending⟩

def erase (map : Keyed α) (key : String) : Keyed α :=
  ⟨map.entries.filter (·.1 ≠ key), map.ascending.filter _⟩

/-- Later entries of the list replace earlier ones with the same key. -/
def ofList (entries : List (String × α)) : Keyed α :=
  entries.foldl (fun map entry => map.insert entry.1 entry.2) ∅

def isEmpty (map : Keyed α) : Bool := map.entries.isEmpty

/-! ## The values after an operation -/

theorem lookup_cons_eq_ite (key first : String) (value : α) (rest : List (String × α)) :
    ((first, value) :: rest).lookup key = if key = first then some value else rest.lookup key := by
  rw [List.lookup_cons]
  by_cases h : key = first
  · simp [h]
  · rw [beq_eq_false_iff_ne.2 h, if_neg h]

theorem lookup_insertEntry (key other : String) (value : α) (entries : List (String × α)) :
    (insertEntry key value entries).lookup other =
      if other = key then some value else entries.lookup other := by
  induction entries with
  | nil => rw [insertEntry, lookup_cons_eq_ite]
  | cons first rest ih =>
    obtain ⟨firstKey, firstValue⟩ := first
    rw [insertEntry]
    split
    · rw [lookup_cons_eq_ite]
    · split
      · rename_i hkey
        simp only [hkey, lookup_cons_eq_ite]
        split <;> rfl
      · rename_i hne
        rw [lookup_cons_eq_ite, ih, lookup_cons_eq_ite]
        by_cases h : other = firstKey
        · rw [if_pos h, if_neg fun h' => hne (h'.symm.trans h), if_pos h]
        · rw [if_neg h, if_neg h]

theorem get?_empty (key : String) : (∅ : Keyed α).get? key = none := rfl

theorem get?_insert (map : Keyed α) (key other : String) (value : α) :
    (map.insert key value).get? other = if other = key then some value else map.get? other :=
  lookup_insertEntry key other value map.entries

theorem get?_erase (map : Keyed α) (key other : String) :
    (map.erase key).get? other = if other = key then none else map.get? other := by
  simp only [get?, erase]
  induction map.entries with
  | nil => simp only [List.filter_nil, List.lookup_nil, ite_self]
  | cons first rest ih =>
    obtain ⟨firstKey, firstValue⟩ := first
    rw [List.filter_cons, lookup_cons_eq_ite]
    by_cases hkey : firstKey = key
    · rw [if_neg (by simp [hkey]), ih, ← hkey]
      by_cases h : other = firstKey <;> simp [h]
    · rw [if_pos (by simp [hkey]), lookup_cons_eq_ite, ih]
      by_cases h : other = firstKey
      · rw [if_pos h, if_neg (by simp [h, hkey]), if_pos h]
      · rw [if_neg h, if_neg h]

theorem lookup_eq_none_of_lt {key : String} {entries : List (String × α)}
    (h : ∀ entry ∈ entries, key < entry.1) : entries.lookup key = none := by
  induction entries with
  | nil => rfl
  | cons first rest ih =>
    obtain ⟨firstKey, firstValue⟩ := first
    have hlt : key < firstKey := h (firstKey, firstValue) (by simp)
    rw [lookup_cons_eq_ite, if_neg (String.ne_of_lt hlt)]
    exact ih fun entry hentry => h entry (List.mem_cons_of_mem _ hentry)

theorem entries_ext {as bs : List (String × α)} (ha : as.Pairwise fun a b => a.1 < b.1)
    (hb : bs.Pairwise fun a b => a.1 < b.1) (h : ∀ key, as.lookup key = bs.lookup key) :
    as = bs := by
  induction as generalizing bs with
  | nil =>
    cases bs with
    | nil => rfl
    | cons b bs =>
      obtain ⟨kb, vb⟩ := b
      have hfirst := h kb
      rw [lookup_cons_eq_ite, if_pos rfl] at hfirst
      cases hfirst
  | cons a as ih =>
    obtain ⟨ha₁, ha₂⟩ := List.pairwise_cons.1 ha
    cases bs with
    | nil =>
      obtain ⟨ka, va⟩ := a
      have hfirst := h ka
      rw [lookup_cons_eq_ite, if_pos rfl] at hfirst
      cases hfirst
    | cons b bs =>
      obtain ⟨hb₁, hb₂⟩ := List.pairwise_cons.1 hb
      obtain ⟨ka, va⟩ := a
      obtain ⟨kb, vb⟩ := b
      have hnot_lt : ¬ ka < kb := fun hlt => by
        have := h ka
        have hnone : ((kb, vb) :: bs).lookup ka = none :=
          lookup_eq_none_of_lt fun entry hentry => by
            rcases List.mem_cons.1 hentry with rfl | hentry
            · exact hlt
            · exact String.lt_trans hlt (hb₁ entry hentry)
        rw [hnone] at this
        simp at this
      have hnot_gt : ¬ kb < ka := fun hlt => by
        have := h kb
        have hnone : ((ka, va) :: as).lookup kb = none :=
          lookup_eq_none_of_lt fun entry hentry => by
            rcases List.mem_cons.1 hentry with rfl | hentry
            · exact hlt
            · exact String.lt_trans hlt (ha₁ entry hentry)
        rw [hnone] at this
        simp at this
      have hkey : ka = kb := String.le_antisymm hnot_gt hnot_lt
      subst hkey
      have hvalue : va = vb := by
        have := h ka
        simpa [lookup_cons_eq_ite] using this
      subst hvalue
      refine congrArg _ (ih ha₂ hb₂ fun key => ?_)
      by_cases hk : key = ka
      · subst hk
        rw [lookup_eq_none_of_lt ha₁, lookup_eq_none_of_lt hb₁]
      · simpa [lookup_cons_eq_ite, hk] using h key

theorem ext_get? {as bs : Keyed α} (h : ∀ key, as.get? key = bs.get? key) : as = bs := by
  obtain ⟨as, ha⟩ := as
  obtain ⟨bs, hb⟩ := bs
  cases entries_ext ha hb h
  rfl

end Keyed

end Drapery
