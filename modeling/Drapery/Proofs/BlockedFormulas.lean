import Drapery.Proofs.FormulaPass
import Drapery.Proofs.Reordering

/-!
# Which formulas are blocked

Whether a formula is blocked does not depend on where it stands: it is blocked
when it belongs to formulas each of which waits for another of them.  The others
are refreshed once, and each before those that read its cell.
-/

namespace Drapery

/-! ## Positions and formulas -/

theorem fieldsAt_range (fields : List (String × Formula)) :
    fieldsAt fields (List.range fields.length) = fields := by
  rw [fieldsAt]
  induction fields with
  | nil => rfl
  | cons field rest ih =>
      rw [List.length_cons, List.range_succ_eq_map, List.filterMap_cons, List.filterMap_map]
      exact congrArg (field :: ·) ih

theorem fieldsAt_blocked_sublist (fields : List (String × Formula)) :
    (fieldsAt fields (Plan.build fields).blocked).Sublist fields := by
  have hkept : (fieldsAt fields (Plan.build fields).blocked).Sublist
      (fieldsAt fields (List.range fields.length)) := List.filter_sublist.filterMap _
  rwa [fieldsAt_range] at hkept

theorem fieldsAt_append (fields : List (String × Formula)) (first rest : List Nat) :
    fieldsAt fields (first ++ rest) = fieldsAt fields first ++ fieldsAt fields rest :=
  List.filterMap_append

theorem sources_append (first rest : List (String × Formula)) :
    sources (first ++ rest) = sources first ++ sources rest :=
  List.map_append

theorem sources_readable (formulas : List (String × String)) :
    sources (readable formulas) =
      formulas.filter fun field => (Formula.parse field.2).toOption.isSome := by
  rw [sources, readable, List.map_filterMap, ← List.filterMap_eq_filter]
  refine List.filterMap_congr fun field _ => ?_
  cases hparse : Formula.parse field.2 with
  | error error => simp [hparse, Except.toOption, Option.guard]
  | ok formula => simp [hparse, Except.toOption, Option.guard, Formula.source_of_parse hparse]

theorem sources_unreadable (formulas : List (String × String)) :
    (unreadable formulas).map (fun failure => (failure.field, failure.formula)) =
      formulas.filter fun field => !(Formula.parse field.2).toOption.isSome := by
  rw [unreadable, List.map_filterMap, ← List.filterMap_eq_filter]
  refine List.filterMap_congr fun field _ => ?_
  cases hparse : Formula.parse field.2 with
  | ok formula => simp [hparse, Except.toOption, Option.guard]
  | error error => simp [hparse, Except.toOption, Option.guard]

theorem pairwise_of_append {α : Type} {r : α → α → Prop} {entries : List α}
    (h : ∀ before a after, entries = before ++ a :: after → ∀ b ∈ after, r a b) :
    entries.Pairwise r := by
  rw [List.pairwise_iff_forall_sublist]
  intro a b hab
  obtain ⟨front, back, rfl, ha, hb⟩ := List.cons_sublist_iff.1 hab
  obtain ⟨before, middle, rfl⟩ := List.append_of_mem ha
  refine h before a (middle ++ back) (by simp) b (List.mem_append_right _ ?_)
  exact List.singleton_sublist.1 hb

namespace Schema

variable {schema : Schema} {row : Row}

theorem blockedFormulas_sublist (schema : Schema) (row : Row) :
    (schema.blockedFormulas row).Sublist (schema.formulasInForce row) := by
  have hreadable : (sources (readable (schema.formulasInForce row))).Sublist
      (schema.formulasInForce row) := by
    rw [sources_readable]
    exact List.filter_sublist
  exact ((fieldsAt_blocked_sublist _).map _).trans hreadable

theorem keys_blockedFormulas_sublist (schema : Schema) (row : Row) :
    ((schema.blockedFormulas row).map (·.1)).Sublist schema.keys :=
  ((schema.blockedFormulas_sublist row).map _).trans (keys_formulasInForce_sublist schema row)

theorem blockedFormulas_eq_nil_iff : schema.blockedFormulas row = [] ↔
    (Plan.build (readable (schema.formulasInForce row))).blocked = [] := by
  rw [blockedFormulas, sources, List.map_eq_nil_iff, fieldsAt, List.filterMap_eq_nil_iff,
    List.eq_nil_iff_forall_not_mem]
  refine forall_congr' fun position => imp_congr_right fun hposition => ?_
  have hlt := Plan.mem_order_or_mem_blocked.1 (.inr hposition)
  simp [List.getElem?_eq_getElem hlt]

/-! ## The formulas that are refreshed once -/

/-- What is not blocked is refreshed once, before the sweeps. -/
theorem passFields_zero_append_blocked_perm (schema : Schema) (row : Row) :
    (schema.passFields row 0 ++ schema.blockedFormulas row).Perm (schema.formulasInForce row) := by
  set formulas := schema.formulasInForce row with hformulas
  have hplaced : (sources (fieldsAt (readable formulas) (Plan.build (readable formulas)).order) ++
      schema.blockedFormulas row).Perm (sources (readable formulas)) := by
    rw [blockedFormulas, ← sources_append, ← fieldsAt_append]
    have hall := (Plan.order_append_blocked_perm (readable formulas)).filterMap
      ((readable formulas)[·]?)
    change (fieldsAt _ _).Perm (fieldsAt _ _) at hall
    rw [fieldsAt_range] at hall
    exact hall.map _
  have hpass : schema.passFields row 0 =
      formulas.filter (fun field => !(Formula.parse field.2).toOption.isSome) ++
        sources (fieldsAt (readable formulas) (Plan.build (readable formulas)).order) := by
    rw [passFields, ← hformulas, sources_unreadable]
    simp
  rw [hpass, List.append_assoc]
  refine (hplaced.append_left _).trans (List.perm_append_comm.trans ?_)
  rw [sources_readable]
  exact List.filter_append_perm _ formulas

theorem count_keys_passFields_zero_le (schema : Schema) (row : Row) (key : String) :
    ((schema.passFields row 0).map (·.1)).count key ≤ schema.keys.count key := by
  have hall := (schema.passFields_zero_append_blocked_perm row).map (·.1)
  calc ((schema.passFields row 0).map (·.1)).count key
      ≤ ((schema.formulasInForce row).map (·.1)).count key := by
        rw [← hall.count_eq, List.map_append, List.count_append]
        exact Nat.le_add_right ..
    _ ≤ schema.keys.count key := (keys_formulasInForce_sublist schema row).count_le key

theorem nodup_keys_passFields_zero (hkeys : schema.keys.Nodup) :
    ((schema.passFields row 0).map (·.1)).Nodup :=
  List.nodup_iff_count_le_one.2 fun key =>
    (count_keys_passFields_zero_le schema row key).trans (List.nodup_iff_count_le_one.1 hkeys key)

theorem inOrder_passFields_zero (hkeys : (schema.keys.map Text.normalizeKey).Nodup) :
    Row.InOrder (schema.passFields row 0) := by
  have hdistinct : (((readable (schema.formulasInForce row)).map (·.1)).map
      Text.normalizeKey).Nodup := nodup_keys_readable hkeys
  set formulas := schema.formulasInForce row with hformulas
  have hunread : ∀ field ∈ (unreadable formulas).map fun failure =>
      (failure.field, failure.formula), ∀ key, ¬ Formula.TextReads field.2 key := by
    intro field hfield key
    obtain ⟨failure, hfailure, rfl⟩ := List.mem_map.1 hfield
    exact Formula.not_textReads_of_parse_error (mem_unreadable.1 hfailure).2 key
  have hordered : (sources (fieldsAt (readable formulas)
      (Plan.build (readable formulas)).order)).Pairwise
        fun first later => ¬ Formula.TextReads first.2 later.1 := by
    rw [sources, List.pairwise_map, fieldsAt, List.pairwise_filterMap]
    refine pairwise_of_append fun before position after horder later hlater => ?_
    intro first hfirst second hsecond
    have hparse := (mem_readable (List.mem_of_getElem? hfirst)).2
    rw [Formula.textReads_of_parse hparse]
    exact (Plan.apart_of_later hdistinct horder (List.mem_append_left _ hlater) hfirst hsecond).2
  rw [passFields, ← hformulas, List.replicate_zero, List.flatten_nil, List.append_nil]
  refine List.pairwise_append.2 ⟨?_, hordered, fun first hfirst later _ => hunread first hfirst _⟩
  exact List.pairwise_of_forall_mem_list fun first hfirst later _ => hunread first hfirst _

/-! ## The formulas that are swept -/

/-- Formulas each of which waits for another of them. -/
def Deadlock (formulas : List (String × String)) (among : Set (String × String)) : Prop :=
  ∀ field ∈ among, field ∈ formulas ∧
    ∃ other ∈ among, other.1 ≠ field.1 ∧ Formula.TextReads field.2 other.1

section

variable (hkeys : (schema.keys.map Text.normalizeKey).Nodup)

include hkeys

theorem deadlock_blockedFormulas :
    Deadlock (schema.formulasInForce row) {field | field ∈ schema.blockedFormulas row} := by
  have hdistinct : (((readable (schema.formulasInForce row)).map (·.1)).map
      Text.normalizeKey).Nodup := nodup_keys_readable hkeys
  intro field hfield
  refine ⟨(schema.blockedFormulas_sublist row).subset hfield, ?_⟩
  obtain ⟨⟨key, formula⟩, hmem, rfl⟩ := List.mem_map.1 hfield
  obtain ⟨position, hposition, hget⟩ := mem_fieldsAt.1 hmem
  have hparse := (mem_readable (List.mem_of_getElem? hget)).2
  obtain ⟨dep, hdep, hunplaced⟩ := Plan.exists_dep_not_mem_order hposition
  have hlt := Plan.lt_of_mem_dependencies hget hdep
  have hdepBlocked := (Plan.mem_order_or_mem_blocked.2 hlt).resolve_left hunplaced
  obtain ⟨⟨depKey, depFormula⟩, hdepGet⟩ : ∃ entry,
      (readable (schema.formulasInForce row))[dep]? = some entry :=
    ⟨_, List.getElem?_eq_getElem hlt⟩
  obtain ⟨hne, name, hname, htarget⟩ := (Plan.mem_of_dependencies hget).1 hdep
  obtain ⟨_, hlisted, hnormal⟩ := Plan.normalizeKey_of_target? htarget
  refine ⟨(depKey, depFormula.source), List.mem_map.2
    ⟨(depKey, depFormula), mem_fieldsAt.2 ⟨dep, hdepBlocked, hdepGet⟩, rfl⟩, ?_, ?_⟩
  · rintro rfl
    refine hne ((List.getElem?_inj (by simpa using hlt) (.of_map _ hdistinct)).1 ?_)
    simp [hget, hdepGet]
  · rw [List.getElem?_map, hdepGet, Option.map_some, Option.some.injEq] at hlisted
    exact (Formula.textReads_of_parse hparse).2 ⟨name, hname, by rw [← hnormal, hlisted]⟩

omit hkeys in
theorem Deadlock.exists_position {among : Set (String × String)}
    (h : Deadlock (schema.formulasInForce row) among) {field : String × String}
    (hfield : field ∈ among) :
    ∃ (position : Nat) (formula : Formula), formula.source = field.2 ∧
      (readable (schema.formulasInForce row))[position]? = some (field.1, formula) := by
  obtain ⟨key, source⟩ := field
  obtain ⟨hmem, other, -, -, hreads⟩ := h _ hfield
  cases hparse : Formula.parse source with
  | error error => exact absurd hreads (Formula.not_textReads_of_parse_error hparse _)
  | ok formula =>
      have hsource := Formula.source_of_parse hparse
      subst hsource
      obtain ⟨position, hget⟩ := List.getElem?_of_mem (mem_readable_of_parse hmem hparse)
      exact ⟨position, formula, rfl, hget⟩

theorem not_mem_of_mem_order {among : Set (String × String)}
    (h : Deadlock (schema.formulasInForce row) among) {position : Nat} {key : String}
    {formula : Formula}
    (horder : position ∈ (Plan.build (readable (schema.formulasInForce row))).order)
    (hget : (readable (schema.formulasInForce row))[position]? = some (key, formula)) :
    (key, formula.source) ∉ among := by
  have hdistinct : (((readable (schema.formulasInForce row)).map (·.1)).map
      Text.normalizeKey).Nodup := nodup_keys_readable hkeys
  -- another of them would have been placed before
  induction hrank : (Plan.build (readable (schema.formulasInForce row))).order.idxOf position
    using Nat.strong_induction_on generalizing position key formula with
  | _ rank ih =>
      intro hmem
      obtain ⟨-, other, hother, hne, hreads⟩ := h _ hmem
      obtain ⟨dep, depFormula, hsource, hdepGet⟩ := h.exists_position hother
      have hparse := (mem_readable (List.mem_of_getElem? hget)).2
      have hdep : dep ∈
          (Plan.dependencies (readable (schema.formulasInForce row))).of position := by
        refine Plan.mem_dependencies_of_reads hdistinct hget hdepGet ?_
          ((Formula.textReads_of_parse hparse).1 hreads)
        rintro rfl
        rw [hget] at hdepGet
        cases hdepGet
        exact hne rfl
      have hbefore := (Plan.order_ordered _).sublist horder hdep
      have hlower := idxOf_lt_of_sublist
        (List.nodup_append.1 (Plan.nodup_order_append_blocked _)).1 hbefore
      refine ih _ (hrank ▸ hlower) (hbefore.subset List.mem_cons_self) hdepGet rfl ?_
      rwa [hsource]

theorem mem_blockedFormulas_iff {field : String × String} :
    field ∈ schema.blockedFormulas row ↔
      ∃ among, Deadlock (schema.formulasInForce row) among ∧ field ∈ among := by
  constructor
  · exact fun hfield => ⟨_, deadlock_blockedFormulas hkeys, hfield⟩
  · rintro ⟨among, hamong, hfield⟩
    obtain ⟨position, formula, hsource, hget⟩ := hamong.exists_position hfield
    have hlt := (List.getElem?_eq_some_iff.1 hget).1
    have hblocked := (Plan.mem_order_or_mem_blocked.2 hlt).resolve_left fun horder => by
      refine not_mem_of_mem_order hkeys hamong horder hget ?_
      rwa [hsource]
    refine List.mem_map.2 ⟨(field.1, formula), mem_fieldsAt.2 ⟨position, hblocked, hget⟩, ?_⟩
    rw [hsource]

end

end Schema

end Drapery
