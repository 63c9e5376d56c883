import Drapery.Proofs.Placement
import Drapery.Proofs.References

/-!
# How a plan resolves references

A plan looks a reference up among the keys that have a formula, a row among the
keys of its cells.  They find the same key when it is written out, or when the
listed keys tell themselves apart after normalization.  Among several keys with
one normal form the plan takes the first column and the row the least key.
-/

namespace Drapery.Plan

/-! ## Positions of keys -/

theorem exists_of_lastIndex? {p : String → Bool} {keys : List String} {position : Nat}
    (h : lastIndex? p keys = some position) :
    ∃ key, keys[position]? = some key ∧ p key := by
  obtain ⟨entry, hlast, rfl⟩ := Option.map_eq_some_iff.1 h
  obtain ⟨hentry, hp⟩ := List.mem_filter.1 (List.mem_of_getLast? hlast)
  exact ⟨entry.1, List.mem_zipIdx_iff_getElem?.1 hentry, hp⟩

theorem lastIndex?_of_nodup {keys : List String} {key : String} {position : Nat}
    (hkeys : keys.Nodup) (hkey : keys[position]? = some key) :
    lastIndex? (· == key) keys = some position := by
  cases hlast : lastIndex? (· == key) keys with
  | none =>
      have hmem : (key, position) ∈ keys.zipIdx.filter fun entry => entry.1 == key := by
        simpa [List.mem_zipIdx_iff_getElem?] using hkey
      rw [lastIndex?, Option.map_eq_none_iff, List.getLast?_eq_none_iff] at hlast
      rw [hlast] at hmem
      cases hmem
  | some last =>
      obtain ⟨other, hother, heq⟩ := exists_of_lastIndex? hlast
      cases eq_of_beq heq
      obtain ⟨hlt, -⟩ := List.getElem?_eq_some_iff.1 hother
      rw [(List.getElem?_inj hlt hkeys).1 (hother.trans hkey.symm)]

theorem lastIndex?_eq_none {keys : List String} {key : String} (h : key ∉ keys) :
    lastIndex? (· == key) keys = none := by
  cases hlast : lastIndex? (· == key) keys with
  | none => rfl
  | some last =>
      obtain ⟨other, hother, heq⟩ := exists_of_lastIndex? hlast
      cases eq_of_beq heq
      exact absurd (List.mem_of_getElem? hother) h

theorem findIdx?_normalizeKey_eq_none {name : String} (keys : List String)
    (h : Text.normalizeKey name ≠ name) :
    keys.findIdx? (Text.normalizeKey · == name) = none := by
  rw [List.findIdx?_eq_none_iff]
  intro key _
  rw [beq_eq_false_iff_ne]
  intro hkey
  exact h (Text.normalizeKey_eq_self_of_eq hkey)

theorem findIdx?_normalizeKey_eq_some_iff {keys : List String} {key : String} {position : Nat}
    (hkey : keys[position]? = some key) :
    keys.findIdx? (Text.normalizeKey · == Text.normalizeKey key) = some position ↔
      ∀ other ∈ keys.take position, Text.normalizeKey other ≠ Text.normalizeKey key := by
  obtain ⟨hlt, hget⟩ := List.getElem?_eq_some_iff.1 hkey
  rw [List.findIdx?_eq_some_iff_getElem]
  constructor
  · rintro ⟨_, -, hfirst⟩ other hother
    obtain ⟨index, hindex, rfl⟩ := List.mem_take_iff_getElem.1 hother
    simpa using hfirst index (by omega)
  · intro hfirst
    refine ⟨hlt, by simp [hget], fun index hindex => ?_⟩
    have hmem : keys[index] ∈ keys.take position :=
      List.mem_take_iff_getElem.2 ⟨index, by omega, rfl⟩
    simpa using hfirst _ hmem

/-! ## Targets of references -/

theorem target?_of_listed {keys : List String} {name : String} {position : Nat}
    (hkeys : keys.Nodup) (hname : keys[position]? = some name) :
    target? keys name = some position := by
  simp [target?, keyed?, lastIndex?_of_nodup hkeys hname]

theorem target?_of_normalized_listed {keys : List String} {name : String} {position : Nat}
    (hkeys : keys.Nodup) (hunlisted : name ∉ keys)
    (hname : keys[position]? = some (Text.normalizeKey name)) :
    target? keys name = some position := by
  have hne : Text.normalizeKey name ≠ name := by
    intro heq
    exact hunlisted (heq ▸ List.mem_of_getElem? hname)
  simp [target?, keyed?, lastIndex?_eq_none hunlisted, findIdx?_normalizeKey_eq_none keys hne,
    lastIndex?_of_nodup hkeys hname]

theorem target?_of_unlisted {keys : List String} {name : String} (hunlisted : name ∉ keys)
    (hnormalized : Text.normalizeKey name ∉ keys) :
    target? keys name = keys.findIdx? (Text.normalizeKey · == Text.normalizeKey name) := by
  by_cases hname : Text.normalizeKey name = name
  · simp [target?, keyed?, lastIndex?_eq_none hunlisted, hname]
  · simp [target?, keyed?, lastIndex?_eq_none hunlisted, lastIndex?_eq_none hnormalized,
      findIdx?_normalizeKey_eq_none keys hname]

theorem normalizeKey_of_keyed? {keys : List String} {name : String} {position : Nat}
    (h : keyed? keys name = some position) :
    ∃ key, keys[position]? = some key ∧ Text.normalizeKey key = Text.normalizeKey name := by
  rcases Option.or_eq_some_iff.1 h with h | ⟨-, h⟩
  · obtain ⟨key, hkey, heq⟩ := exists_of_lastIndex? h
    exact ⟨key, hkey, by rw [eq_of_beq heq]⟩
  · obtain ⟨hlt, heq, -⟩ := List.findIdx?_eq_some_iff_getElem.1 h
    refine ⟨keys[position], List.getElem?_eq_getElem hlt, ?_⟩
    rw [Text.normalizeKey_eq_self_of_eq (eq_of_beq heq), eq_of_beq heq]

theorem normalizeKey_of_target? {keys : List String} {name : String} {position : Nat}
    (h : target? keys name = some position) :
    ∃ key, keys[position]? = some key ∧ Text.normalizeKey key = Text.normalizeKey name := by
  rcases Option.or_eq_some_iff.1 h with h | ⟨-, h⟩
  · exact normalizeKey_of_keyed? h
  · simpa using normalizeKey_of_keyed? h

theorem exists_target? {keys : List String} {name key : String} (hkey : key ∈ keys)
    (hname : Text.normalizeKey key = Text.normalizeKey name) :
    ∃ position, target? keys name = some position := by
  have hfound : (keys.findIdx? (Text.normalizeKey · == Text.normalizeKey name)).isSome := by
    rw [List.findIdx?_isSome, List.any_eq_true]
    exact ⟨key, hkey, by simp [hname]⟩
  rw [← Option.isSome_iff_exists]
  simp [target?, keyed?, hfound]

theorem target?_of_distinct {keys : List String} {name key : String} {position : Nat}
    (hkeys : (keys.map Text.normalizeKey).Nodup) (hkey : keys[position]? = some key)
    (hname : Text.normalizeKey name = Text.normalizeKey key) :
    target? keys name = some position := by
  obtain ⟨found, hfound⟩ := exists_target? (List.mem_of_getElem? hkey) hname.symm
  obtain ⟨other, hother, heq⟩ := normalizeKey_of_target? hfound
  have hsame : (keys.map Text.normalizeKey)[found]? = (keys.map Text.normalizeKey)[position]? := by
    simp [hother, hkey, heq, hname]
  obtain ⟨hlt, -⟩ := List.getElem?_eq_some_iff.1 hother
  rw [hfound, (List.getElem?_inj (by simpa using hlt) hkeys).1 hsame]

/-! ## Dependencies of fields -/

theorem mem_of_dependencies {fields : List (String × Formula)} {field dep : Nat}
    {key : String} {formula : Formula} (hfield : fields[field]? = some (key, formula)) :
    dep ∈ (dependencies fields).of field ↔
      dep ≠ field ∧ ∃ name ∈ formula.references,
        target? (fields.map (·.1)) name = some dep := by
  have hof : (dependencies fields).of field =
      dependenciesOf (fields.map (·.1)) field formula := by
    simp [Dependencies.of, dependencies, List.getD_eq_getElem?_getD, hfield]
  rw [hof, dependenciesOf, List.mem_filter, List.mem_eraseDups, List.mem_filterMap]
  simp [and_comm]

theorem lt_of_mem_dependencies {fields : List (String × Formula)} {field dep : Nat}
    {key : String} {formula : Formula} (hfield : fields[field]? = some (key, formula))
    (hdep : dep ∈ (dependencies fields).of field) : dep < fields.length := by
  obtain ⟨-, name, -, htarget⟩ := (mem_of_dependencies hfield).1 hdep
  obtain ⟨key, hkey, -⟩ := normalizeKey_of_target? htarget
  simpa using (List.getElem?_eq_some_iff.1 hkey).1

theorem sublist_order_or_mem_blocked {fields : List (String × Formula)} {field dep : Nat}
    {key : String} {formula : Formula} (hfield : fields[field]? = some (key, formula))
    (hdep : dep ∈ (dependencies fields).of field) :
    [dep, field].Sublist (build fields).order ∨ field ∈ (build fields).blocked := by
  have hlt : field < fields.length := (List.getElem?_eq_some_iff.1 hfield).1
  rcases mem_order_or_mem_blocked.2 hlt with horder | hblocked
  · exact .inl ((order_ordered fields).sublist horder hdep)
  · exact .inr hblocked

theorem mem_dependencies_of_reads {fields : List (String × Formula)} {field dep : Nat}
    {key depKey : String} {formula depFormula : Formula}
    (hkeys : ((fields.map (·.1)).map Text.normalizeKey).Nodup)
    (hfield : fields[field]? = some (key, formula))
    (hdep : fields[dep]? = some (depKey, depFormula)) (hne : dep ≠ field)
    (hreads : formula.Reads depKey) : dep ∈ (dependencies fields).of field := by
  obtain ⟨name, hname, hsame⟩ := hreads
  have hkey : (fields.map (·.1))[dep]? = some depKey := by simp [hdep]
  exact (mem_of_dependencies hfield).2 ⟨hne, name, hname, target?_of_distinct hkeys hkey hsame⟩

/-- What is evaluated after an ordered field, blocked fields included, is
neither its own cell nor one that it reads. -/
theorem apart_of_later {fields : List (String × Formula)} {before after : List Nat}
    {field later : Nat} {key laterKey : String} {formula laterFormula : Formula}
    (hkeys : ((fields.map (·.1)).map Text.normalizeKey).Nodup)
    (horder : (build fields).order = before ++ field :: after)
    (hlater : later ∈ after ++ (build fields).blocked)
    (hfield : fields[field]? = some (key, formula))
    (hget : fields[later]? = some (laterKey, laterFormula)) :
    laterKey ≠ key ∧ ¬ formula.Reads laterKey := by
  have hnodup : (before ++ (field :: (after ++ (build fields).blocked))).Nodup := by
    have hall := nodup_order_append_blocked fields
    rwa [horder, List.append_assoc, List.cons_append] at hall
  obtain ⟨-, hrest, hdisjoint⟩ := List.nodup_append.1 hnodup
  have hne : later ≠ field := by
    rintro rfl
    exact (List.nodup_cons.1 hrest).1 hlater
  constructor
  · rintro rfl
    have hsame : (fields.map (·.1))[later]? = (fields.map (·.1))[field]? := by
      simp [hfield, hget]
    have hlt : later < (fields.map (·.1)).length := by
      simpa using (List.getElem?_eq_some_iff.1 hget).1
    exact hne ((List.getElem?_inj hlt (.of_map _ hkeys)).1 hsame)
  · intro hreads
    have hdep := mem_dependencies_of_reads hkeys hfield hget hne hreads
    have hbefore : later ∈ before := order_ordered fields before field after horder later hdep
    exact hdisjoint later hbefore later (List.mem_cons_of_mem _ hlater) rfl

end Drapery.Plan
