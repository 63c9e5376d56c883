import Drapery.Proofs.Resolution
import Drapery.Recompute.FormulaPass

/-!
# Where plans and rows resolve references alike

A row may hold several cells whose keys have one normal form.  A reference that
writes none of these keys out then reads the least of them, while the plan
counts the first column as read.  The main statement tells exactly when the
field that a reference reads is evaluated before its reader whatever the other
formulas are.
-/

namespace Drapery

namespace Plan

/-- The key at the position is written out in the reference, as it stands or
normalized, or it is the first of the list with its normal form. -/
def Determined (keys : List String) (name : String) (position : Nat) (key : String) : Prop :=
  key = name ∨ key = Text.normalizeKey name ∨
    ∀ other ∈ keys.take position, Text.normalizeKey other ≠ Text.normalizeKey key

section

variable {row : Row} {keys : List String} {name key : String}

theorem not_mem_of_resolved (hcells : ∀ listed ∈ keys, (row.get? listed).isSome)
    (hresolved : row.referencedKey? name = some key ∨ row.namedKey? name = some key)
    (hname : key ≠ name) : name ∉ keys := by
  intro hmem
  have hcell := hcells name hmem
  rcases hresolved with h | h
  · rw [Row.referencedKey?, if_pos hcell, Option.some.injEq] at h
    exact hname h.symm
  · have hfixed := Text.normalizeKey_eq_self_of_eq (Row.normalizeKey_of_namedKey? h)
    rw [Row.namedKey?, if_pos ⟨hfixed, hcell⟩, Option.some.injEq] at h
    exact hname h.symm

theorem normalizeKey_not_mem_of_resolved (hcells : ∀ listed ∈ keys, (row.get? listed).isSome)
    (hresolved : row.referencedKey? name = some key ∨ row.namedKey? name = some key)
    (hname : key ≠ name) (hnormal : key ≠ Text.normalizeKey name) :
    Text.normalizeKey name ∉ keys := by
  rcases hresolved with h | h
  · rw [Row.referencedKey?] at h
    split at h
    · exact absurd (Option.some.inj h).symm hname
    · exact not_mem_of_resolved hcells (.inr h) hnormal
  · rw [Text.normalizeKey_eq_self_of_eq (Row.normalizeKey_of_namedKey? h)]
    exact not_mem_of_resolved hcells (.inr h) hname

theorem normalizeKey_of_resolved
    (hresolved : row.referencedKey? name = some key ∨ row.namedKey? name = some key) :
    Text.normalizeKey key = Text.normalizeKey name := by
  rcases hresolved with h | h
  · exact Row.normalizeKey_of_referencedKey? h
  · have hkey := Row.normalizeKey_of_namedKey? h
    rw [hkey, Text.normalizeKey_eq_self_of_eq hkey]

theorem target?_eq_some_iff_determined {position : Nat} (hkeys : keys.Nodup)
    (hcells : ∀ listed ∈ keys, (row.get? listed).isSome)
    (hkey : keys[position]? = some key)
    (hresolved : row.referencedKey? name = some key ∨ row.namedKey? name = some key) :
    target? keys name = some position ↔ Determined keys name position key := by
  by_cases hname : key = name
  · subst hname
    simp [target?_of_listed hkeys hkey, Determined]
  have hunlisted : name ∉ keys := not_mem_of_resolved hcells hresolved hname
  by_cases hnormal : key = Text.normalizeKey name
  · have htarget := target?_of_normalized_listed hkeys hunlisted (hnormal ▸ hkey)
    simp [htarget, Determined, hnormal]
  have hnormalUnlisted := normalizeKey_not_mem_of_resolved hcells hresolved hname hnormal
  rw [target?_of_unlisted hunlisted hnormalUnlisted, ← normalizeKey_of_resolved hresolved,
    findIdx?_normalizeKey_eq_some_iff hkey]
  simp [Determined, hname, hnormal]

end

/-! ## Formulas that tell the two resolutions apart -/

/-- The reader reads a name, the read field reads the reader, and the others
read nothing. -/
def entangled (keys : List String) (reader read : Nat) (name readerKey : String) :
    List (String × Formula) :=
  keys.zipIdx.map fun (key, position) =>
    (key,
      if position = reader then ⟨name, .field name⟩
      else if position = read then ⟨readerKey, .field readerKey⟩
      else ⟨"true", .boolean true⟩)

theorem references_field (source name : String) :
    (⟨source, .field name⟩ : Formula).references = [name] := rfl

theorem references_boolean (source : String) (value : Bool) :
    (⟨source, .boolean value⟩ : Formula).references = [] := rfl

section

variable (keys : List String) (reader read : Nat) (name readerKey : String)

theorem keys_entangled : (entangled keys reader read name readerKey).map (·.1) = keys := by
  simp [entangled, Function.comp_def]

theorem length_entangled : (entangled keys reader read name readerKey).length = keys.length := by
  simp [entangled]

variable {keys}

theorem getElem?_entangled {key : String} {position : Nat} (hkey : keys[position]? = some key) :
    (entangled keys reader read name readerKey)[position]? =
      some (key,
        if position = reader then ⟨name, .field name⟩
        else if position = read then ⟨readerKey, .field readerKey⟩
        else ⟨"true", .boolean true⟩) := by
  simp [entangled, hkey]

variable {reader read readerKey}

theorem dependencies_entangled_read {readKey : String} (hkeys : keys.Nodup)
    (hreader : keys[reader]? = some readerKey) (hread : keys[read]? = some readKey)
    (hne : read ≠ reader) :
    reader ∈ (dependencies (entangled keys reader read name readerKey)).of read := by
  have hget := getElem?_entangled reader read name readerKey hread
  refine (mem_of_dependencies hget).2 ⟨hne.symm, readerKey, ?_, ?_⟩
  · simp [hne, references_field]
  · rw [keys_entangled, target?_of_listed hkeys hreader]

variable {name}

theorem isAcyclic_entangled (hkeys : keys.Nodup) (hreader : keys[reader]? = some readerKey)
    (hne : read ≠ reader) (htarget : target? keys name ≠ some read) :
    (build (entangled keys reader read name readerKey)).isAcyclic := by
  apply isAcyclic_of_rank fun position =>
    if position = read then 2 else if position = reader then 1 else 0
  intro field hfield dep hdep
  rw [length_entangled] at hfield
  have hget := getElem?_entangled reader read name readerKey (List.getElem?_eq_getElem hfield)
  refine ⟨lt_of_mem_dependencies hget hdep, ?_⟩
  obtain ⟨hself, other, hother, hfound⟩ := (mem_of_dependencies hget).1 hdep
  rw [keys_entangled] at hfound
  by_cases hfieldReader : field = reader
  · -- what the reader depends on is neither of the two fields
    subst hfieldReader
    rw [if_pos rfl, references_field, List.mem_singleton] at hother
    subst hother
    have hdepRead : dep ≠ read := by
      rintro rfl
      exact htarget hfound
    simp [hself, hdepRead, hne.symm]
  · by_cases hfieldRead : field = read
    · subst hfieldRead
      rw [if_neg hfieldReader, if_pos rfl, references_field, List.mem_singleton] at hother
      subst hother
      rw [target?_of_listed hkeys hreader, Option.some.injEq] at hfound
      subst hfound
      simp [hne.symm]
    · rw [if_neg hfieldReader, if_neg hfieldRead, references_boolean] at hother
      cases hother

end

/-! ## The exact condition -/

/-- A reference of the reader is resolved on the row to the key of another field.
Whatever the formulas are, that field is then placed before the reader, unless
the reader is blocked, exactly if the key is determined. -/
theorem resolved_before_reader_iff {row : Row} {keys : List String} {reader read : Nat}
    {name key : String} (hkeys : keys.Nodup)
    (hcells : ∀ listed ∈ keys, (row.get? listed).isSome)
    (hreader : reader < keys.length) (hread : keys[read]? = some key) (hne : read ≠ reader)
    (hresolved : row.referencedKey? name = some key ∨ row.namedKey? name = some key) :
    (∀ fields : List (String × Formula), fields.map (·.1) = keys →
      ∀ readerKey formula, fields[reader]? = some (readerKey, formula) →
        name ∈ formula.references →
          [read, reader].Sublist (build fields).order ∨ reader ∈ (build fields).blocked) ↔
      Determined keys name read key := by
  rw [← target?_eq_some_iff_determined hkeys hcells hread hresolved]
  constructor
  · intro hall
    by_contra htarget
    have hgetReader := List.getElem?_eq_getElem hreader
    set fields := entangled keys reader read name keys[reader] with hfields
    have hblocked : (build fields).blocked = [] := by
      have hacyclic := isAcyclic_entangled hkeys hgetReader hne htarget
      rwa [isAcyclic, List.isEmpty_iff] at hacyclic
    have hbefore : [read, reader].Sublist (build fields).order := by
      have hget := getElem?_entangled reader read name keys[reader] hgetReader
      have hor := hall fields (keys_entangled ..) _ _ hget (by simp [references_field])
      simpa [hblocked] using hor
    -- the read field reads its reader, so it is placed after it
    have hafter : [reader, read].Sublist (build fields).order := by
      have hget := getElem?_entangled reader read name keys[reader] hread
      have hor := sublist_order_or_mem_blocked hget
        (dependencies_entangled_read name hkeys hgetReader hread hne)
      simpa [← hfields, hblocked] using hor
    have hnodup : (build fields).order.Nodup :=
      (List.nodup_append.1 (nodup_order_append_blocked fields)).1
    have hlt := idxOf_lt_of_sublist hnodup hbefore
    have hgt := idxOf_lt_of_sublist hnodup hafter
    omega
  · intro htarget fields hfields readerKey formula hfield hname
    have hdep : read ∈ (dependencies fields).of reader :=
      (mem_of_dependencies hfield).2 ⟨hne, name, hname, hfields ▸ htarget⟩
    exact sublist_order_or_mem_blocked hfield hdep

/-! ## Two columns with one normal form -/

def collidingFormulas : List (String × String) :=
  [("f", "{A_B}"), ("a-b", "1"), ("a b", "2")]

def collidingRow : Row :=
  ((({ id := "r" } : Row).setNumber "f" 0).setNumber "a-b" 0).setNumber "a b" 0

theorem resolved_before_reader_iff_colliding :
    collidingRow.referencedKey? "A_B" = some "a b" ∧
      ((∀ fields : List (String × Formula), fields.map (·.1) = ["f", "a-b", "a b"] →
        ∀ readerKey formula, fields[0]? = some (readerKey, formula) →
          "A_B" ∈ formula.references →
            [2, 0].Sublist (build fields).order ∨ 0 ∈ (build fields).blocked) ↔
        Determined ["f", "a-b", "a b"] "A_B" 2 "a b") := by
  have hresolved : collidingRow.referencedKey? "A_B" = some "a b" := by decide +kernel
  exact ⟨hresolved, resolved_before_reader_iff (by decide) (by decide +kernel) (by decide)
    (by decide) (by decide) (.inl hresolved)⟩

/-- The row resolves the reference of the first field to the last column, which
the plan places after it. -/
theorem reader_placed_before_resolved_key :
    (readable collidingFormulas).map (·.1) = ["f", "a-b", "a b"] ∧
      (∀ field ∈ readable collidingFormulas, (collidingRow.get? field.1).isSome) ∧
      (readable collidingFormulas).map (·.2.references) = [["A_B"], [], []] ∧
      collidingRow.referencedKey? "A_B" = some "a b" ∧
      ¬ [2, 0].Sublist (build (readable collidingFormulas)).order ∧
      0 ∉ (build (readable collidingFormulas)).blocked := by
  decide +kernel

end Plan

end Drapery
