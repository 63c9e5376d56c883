import Drapery.Proofs.FormulaPass

/-!
# Plans of analyzed schemas

The analysis of a schema plans its default formulas.  Leaving some of them out
leaves the others acyclic, so on a row without overrides, where the formulas in
force are defaults, an analyzed schema leaves nothing blocked.
-/

namespace Drapery

/-! ## Plans of some of the fields -/

namespace Plan

theorem getElem?_idxOf_of_nodup {keys : List String} {key : String} {position : Nat}
    (hkeys : keys.Nodup) (hkey : keys[position]? = some key) : keys.idxOf key = position := by
  obtain ⟨hlt, rfl⟩ := List.getElem?_eq_some_iff.1 hkey
  exact hkeys.idxOf_getElem position hlt

theorem isAcyclic_of_subset {fields part : List (String × Formula)}
    (hkeys : ((fields.map (·.1)).map Text.normalizeKey).Nodup)
    (hpart : (part.map (·.1)).Nodup) (hsubset : part ⊆ fields)
    (hacyclic : (build fields).isAcyclic) : (build part).isAcyclic := by
  have hblocked : (build fields).blocked = [] := by rwa [isAcyclic, List.isEmpty_iff] at hacyclic
  have horder : (build fields).order.Nodup :=
    (List.nodup_append.1 (nodup_order_append_blocked fields)).1
  have hplace : ∀ {key formula}, (key, formula) ∈ part →
      fields[(fields.map (·.1)).idxOf key]? = some (key, formula) := by
    intro key formula hmem
    obtain ⟨position, hget⟩ := List.getElem?_of_mem (hsubset hmem)
    have hkey : (fields.map (·.1))[position]? = some key := by simp [hget]
    rwa [getElem?_idxOf_of_nodup (.of_map _ hkeys) hkey]
  -- a field ranks by its place in the order of the whole plan
  apply isAcyclic_of_rank fun field =>
    (build fields).order.idxOf ((fields.map (·.1)).idxOf ((part.map (·.1)).getD field ""))
  intro field hlt dep hdep
  obtain ⟨⟨key, formula⟩, hfield⟩ : ∃ entry, part[field]? = some entry :=
    ⟨_, List.getElem?_eq_getElem hlt⟩
  have hdepLt := lt_of_mem_dependencies hfield hdep
  refine ⟨hdepLt, ?_⟩
  obtain ⟨hne, name, hname, htarget⟩ := (mem_of_dependencies hfield).1 hdep
  obtain ⟨⟨depKey, depFormula⟩, hdepField⟩ : ∃ entry, part[dep]? = some entry :=
    ⟨_, List.getElem?_eq_getElem hdepLt⟩
  obtain ⟨found, hfound, hsame⟩ := normalizeKey_of_target? htarget
  have hdepKey : (part.map (·.1))[dep]? = some depKey := by simp [hdepField]
  obtain rfl : depKey = found := Option.some.inj (hdepKey.symm.trans hfound)
  have hget := hplace (List.mem_of_getElem? hfield)
  have hdepGet := hplace (List.mem_of_getElem? hdepField)
  have hapart : (fields.map (·.1)).idxOf depKey ≠ (fields.map (·.1)).idxOf key := by
    intro heq
    rw [heq, hget, Option.some.injEq, Prod.mk.injEq] at hdepGet
    have hkey : (part.map (·.1))[dep]? = (part.map (·.1))[field]? := by
      simp [hdepField, hfield, hdepGet.1]
    exact hne ((List.getElem?_inj (by simpa using hdepLt) hpart).1 hkey)
  have hdependency :=
    mem_dependencies_of_reads hkeys hget hdepGet hapart ⟨name, hname, hsame.symm⟩
  have hbefore := (sublist_order_or_mem_blocked hget hdependency).resolve_right (by simp [hblocked])
  simpa [List.getD_eq_getElem?_getD, hfield, hdepField] using idxOf_lt_of_sublist horder hbefore

end Plan

/-! ## Default formulas -/

theorem eq_filterMap_of_filterMapM {ε α β : Type} {f : α → Except ε (Option β)}
    {entries : List α} {found : List β} (h : entries.filterMapM f = .ok found) :
    found = entries.filterMap fun entry => (f entry).toOption.join := by
  induction entries generalizing found with
  | nil =>
      cases h
      rfl
  | cons first rest ih =>
      rw [List.filterMapM_cons] at h
      obtain ⟨result, hfirst, hnext⟩ := Except.exists_of_bind_eq_ok h
      cases result with
      | none =>
          rw [ih hnext]
          simp [hfirst, Except.toOption]
      | some value =>
          obtain ⟨others, hothers, hfound⟩ := Except.exists_of_bind_eq_ok hnext
          cases hfound
          rw [ih hothers]
          simp [hfirst, Except.toOption]

namespace Schema

variable {schema : Schema} {row : Row}

theorem defaultFormula?_of_formula? (hoverrides : ∀ key, row.override? key = none)
    {key source : String} (h : schema.formula? row key = some source) :
    ∃ column ∈ schema.columns, column.key = key ∧ column.defaultFormula? = some source := by
  rw [formula?, hoverrides, Option.none_or] at h
  obtain ⟨column, hcolumn, hsource⟩ := Option.bind_eq_some_iff.1 h
  have hkey : column.key = key := by simpa using List.find?_some hcolumn
  exact ⟨column, List.mem_of_find?_eq_some hcolumn, hkey, hsource⟩

theorem readable_subset_defaultFormulas (hoverrides : ∀ key, row.override? key = none)
    {fields : List (String × Formula)} (hfields : schema.defaultFormulas = .ok fields) :
    readable (schema.formulasInForce row) ⊆ fields := by
  rintro ⟨key, formula⟩ hmem
  obtain ⟨hforce, hparse⟩ := mem_readable hmem
  obtain ⟨column, hcolumn, rfl, hsource⟩ :=
    defaultFormula?_of_formula? hoverrides (mem_formulasInForce.1 hforce).2
  rw [eq_filterMap_of_filterMapM hfields, List.mem_filterMap]
  exact ⟨column, hcolumn, by simp [hsource, hparse, Except.toOption]⟩

theorem keys_defaultFormulas_sublist {fields : List (String × Formula)}
    (hfields : schema.defaultFormulas = .ok fields) :
    (fields.map (·.1)).Sublist schema.keys := by
  rw [eq_filterMap_of_filterMapM hfields]
  refine keys_filterMap_sublist ?_ schema.columns
  intro column field hfield
  cases hsource : column.defaultFormula? with
  | none => simp [hsource, Except.toOption] at hfield
  | some source =>
      cases hparse : Formula.parse source with
      | error error => simp [hsource, hparse, Except.toOption] at hfield
      | ok formula =>
          simp only [hsource, hparse, Except.toOption, Option.join_some,
            Option.some.injEq] at hfield
          rw [← hfield]

theorem isAcyclic_of_analyze {order : List String}
    (hkeys : (schema.keys.map Text.normalizeKey).Nodup) (hanalyze : schema.analyze = .ok order)
    (hoverrides : ∀ key, row.override? key = none) :
    (Plan.build (readable (schema.formulasInForce row))).isAcyclic := by
  obtain ⟨fields, hfields, hplan⟩ := Except.exists_of_bind_eq_ok hanalyze
  have hacyclic : (Plan.build fields).isAcyclic := by
    by_contra hcyclic
    simp only [hcyclic] at hplan
    cases hplan
  exact Plan.isAcyclic_of_subset
    (((keys_defaultFormulas_sublist hfields).map Text.normalizeKey).nodup hkeys)
    (.of_map _ (nodup_keys_readable hkeys))
    (readable_subset_defaultFormulas hoverrides hfields) hacyclic

end Schema

end Drapery
