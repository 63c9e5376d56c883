import Mathlib.Data.List.Cycle
import Mathlib.Data.Fintype.Card
import Mathlib.Logic.Relation
import Drapery.Proofs.AnalyzedRows

/-!
# Fields on a cycle

A field is on a cycle exactly if it leads back to itself.  A plan blocks the
fields that lead to a cycle, because a placed field comes after all that it leads
to; and since blocked fields are finitely many, each of them leads to one.  Only
blocked fields lead to a blocked one, so the search among them finds every way
back.
-/

namespace Drapery

open Relation

/-! ## Ways back -/

section

variable {α : Type} {r : α → α → Prop}

theorem exists_nodup_path {a b : α} (h : ReflTransGen r a b) :
    ∃ path, (a :: path).IsChain r ∧ (a :: path).getLast? = some b ∧ (a :: path).Nodup := by
  induction h using ReflTransGen.head_induction_on with
  | refl => exact ⟨[], by simp⟩
  | @head a c hac _ ih =>
      obtain ⟨path, hchain, hlast, hnodup⟩ := ih
      by_cases ha : a ∈ c :: path
      · -- the path comes by its new start: leave out the detour
        obtain ⟨front, rest, hsplit⟩ := List.append_of_mem ha
        rw [hsplit] at hchain hlast hnodup
        refine ⟨rest, hchain.right_of_append, ?_, hnodup.of_append_right⟩
        simpa [List.getLast?_append] using hlast
      · have hlast' : (a :: c :: path).getLast? = some b := by
          rw [List.getLast?_cons_cons, hlast]
        exact ⟨c :: path, List.isChain_cons_cons.2 ⟨hac, hchain⟩, hlast',
          List.nodup_cons.2 ⟨ha, hnodup⟩⟩

/-- Going on and on among finitely many comes back to one of them. -/
theorem exists_leads_back {among : List α} {a : α} (ha : a ∈ among)
    (hnext : ∀ b ∈ among, ∃ c ∈ among, r b c) :
    ∃ c, ReflTransGen r a c ∧ TransGen r c c := by
  by_contra hnone
  push Not at hnone
  let led : Set α := {b | b ∈ among ∧ ReflTransGen r a b}
  have : Finite led := (among.finite_toSet.subset fun b hb => hb.1).to_subtype
  have : IsTrans led fun b c => TransGen r c.1 b.1 := ⟨fun b c d hbc hcd => hcd.trans hbc⟩
  have : Std.Irrefl fun b c : led => TransGen r c.1 b.1 := ⟨fun b => hnone b.1 b.2.2⟩
  have hfounded := Finite.wellFounded_of_trans_of_irrefl fun b c : led => TransGen r c.1 b.1
  obtain ⟨⟨b, hb, hled⟩, -, hlast⟩ := hfounded.has_min Set.univ ⟨⟨a, ha, .refl⟩, trivial⟩
  obtain ⟨c, hc, hbc⟩ := hnext b hb
  exact hlast ⟨c, hc, hled.tail hbc⟩ trivial (.single hbc)

theorem exists_cycle_iff (hirrefl : ∀ a, ¬ r a a) {a : α} :
    (∃ cycle : Cycle α, cycle.Nontrivial ∧ cycle.Nodup ∧ cycle.Chain r ∧ a ∈ cycle) ↔
      TransGen r a a := by
  constructor
  · rintro ⟨cycle, -, -, hchain, ha⟩
    have htrans : cycle.Chain (TransGen r) := hchain.imp fun _ _ => .single
    exact Cycle.chain_iff_pairwise.1 htrans a ha a ha
  · intro hback
    obtain ⟨b, hab, hba⟩ := TransGen.head'_iff.1 hback
    obtain ⟨path, hchain, hlast, hnodup⟩ := exists_nodup_path hba
    have ha : a ∈ b :: path := List.mem_of_getLast? hlast
    have hne : a ≠ b := by
      rintro rfl
      exact hirrefl a hab
    refine ⟨(b :: path : List α), ⟨a, b, hne, ha, List.mem_cons_self⟩, hnodup, ?_, ha⟩
    rw [Cycle.chain_ne_nil r (List.cons_ne_nil b path)]
    rw [List.getLast?_eq_some_getLast (List.cons_ne_nil b path), Option.some.injEq] at hlast
    rw [hlast]
    exact List.isChain_cons_cons.2 ⟨hab, hchain⟩

end

namespace Dependencies

variable {deps : Dependencies}

def DependsOn (deps : Dependencies) (field dep : Nat) : Prop := dep ∈ deps.of field

/-- There are fields, at least two and this one among them, each of which depends on the next and
the last on the first. -/
def OnCycle (deps : Dependencies) (field : Nat) : Prop :=
  ∃ cycle : Cycle Nat,
    cycle.Nontrivial ∧ cycle.Nodup ∧ cycle.Chain deps.DependsOn ∧ field ∈ cycle

/-! ## The search -/

section

variable {blocked seen stack : List Nat} {target : Nat}

theorem passes_iff {field : Nat} :
    passes blocked seen target field ↔ field ≠ target ∧ (field ∈ seen ∨ field ∉ blocked) := by
  simp [passes]

theorem finds_succ (deps : Dependencies) (blocked : List Nat) (target rounds : Nat)
    (seen stack : List Nat) :
    ((∀ field ∈ stack, passes blocked seen target field) ∧
        deps.finds blocked target (rounds + 1) seen stack = false) ∨
      ∃ passed field rest, stack = passed ++ field :: rest ∧
        (∀ other ∈ passed, passes blocked seen target other) ∧
        ¬ passes blocked seen target field ∧
        deps.finds blocked target (rounds + 1) seen stack =
          (field == target ||
            deps.finds blocked target rounds (field :: seen) (deps.of field ++ rest)) := by
  rw [finds]
  cases hdrop : stack.dropWhile (passes blocked seen target) with
  | nil => exact .inl ⟨List.dropWhile_eq_nil_iff.1 hdrop, rfl⟩
  | cons field rest =>
      refine .inr ⟨stack.takeWhile (passes blocked seen target), field, rest, ?_,
        fun _ => List.mem_takeWhile_imp, ?_, rfl⟩
      · rw [← hdrop, List.takeWhile_append_dropWhile]
      · have hne : stack.dropWhile (passes blocked seen target) ≠ [] := by simp [hdrop]
        simpa [hdrop] using List.head_dropWhile_not (passes blocked seen target) hne

theorem exists_leads_of_finds {rounds : Nat}
    (h : deps.finds blocked target rounds seen stack = true) :
    ∃ field ∈ stack, ReflTransGen deps.DependsOn field target := by
  induction rounds generalizing seen stack with
  | zero => cases h
  | succ rounds ih =>
      rcases finds_succ deps blocked target rounds seen stack with
        ⟨-, hfalse⟩ | ⟨passed, field, rest, hstack, -, -, hfinds⟩
      · rw [hfalse] at h
        cases h
      · have hfield : field ∈ stack := by simp [hstack]
        rw [hfinds, Bool.or_eq_true, beq_iff_eq] at h
        rcases h with rfl | h
        · exact ⟨field, hfield, .refl⟩
        · obtain ⟨other, hother, hleads⟩ := ih h
          rcases List.mem_append.1 hother with hdep | hrest
          · exact ⟨field, hfield, .head hdep hleads⟩
          · exact ⟨other, by simp [hstack, hrest], hleads⟩

theorem length_filter_cons_lt {field : Nat} (hblocked : field ∈ blocked) (hseen : field ∉ seen) :
    (blocked.filter (· ∉ field :: seen)).length < (blocked.filter (· ∉ seen)).length := by
  have hfilter : blocked.filter (· ∉ field :: seen) =
      (blocked.filter (· ∉ seen)).filter (· ≠ field) := by
    simp [List.filter_filter]
  rw [hfilter, List.length_filter_lt_length_iff_exists]
  exact ⟨field, by simp [hblocked, hseen], by simp⟩

theorem passes_cons {field other : Nat} (h : passes blocked seen target other) :
    passes blocked (field :: seen) target other := by
  rw [passes_iff] at h ⊢
  exact ⟨h.1, h.2.imp_left (List.mem_cons_of_mem field)⟩

theorem mem_seen_of_passes
    (hblocked : ∀ field, ReflTransGen deps.DependsOn field target → field ∈ blocked)
    {field : Nat} (h : passes blocked seen target field)
    (hleads : ReflTransGen deps.DependsOn field target) : field ∈ seen :=
  (passes_iff.1 h).2.resolve_right (not_not_intro (hblocked field hleads))

/-- The target is not seen yet, and what a seen field depends on waits on the stack or is passed
over. -/
structure Searching (deps : Dependencies) (blocked : List Nat) (target : Nat)
    (seen stack : List Nat) : Prop where
  unseen : target ∉ seen
  kept : ∀ field ∈ seen, ∀ dep ∈ deps.of field, dep ∈ stack ∨ passes blocked seen target dep

namespace Searching

theorem start : Searching deps blocked target [] stack := ⟨List.not_mem_nil, by simp⟩

theorem next {passed rest : List Nat} {field : Nat}
    (h : Searching deps blocked target seen (passed ++ field :: rest))
    (hpassed : ∀ other ∈ passed, passes blocked seen target other) (hne : field ≠ target) :
    Searching deps blocked target (field :: seen) (deps.of field ++ rest) := by
  refine ⟨by simp [hne.symm, h.unseen], fun other hother dep hdep => ?_⟩
  rcases List.mem_cons.1 hother with rfl | hother
  · exact .inl (List.mem_append_left _ hdep)
  · rcases h.kept other hother dep hdep with hstacked | hpass
    · rw [List.mem_append, List.mem_cons] at hstacked
      rcases hstacked with hpass | rfl | hlater
      · exact .inr (passes_cons (hpassed dep hpass))
      · exact .inr (passes_iff.2 ⟨hne, .inl List.mem_cons_self⟩)
      · exact .inl (List.mem_append_right _ hlater)
    · exact .inr (passes_cons hpass)

theorem not_leads (h : Searching deps blocked target seen stack)
    (hblocked : ∀ field, ReflTransGen deps.DependsOn field target → field ∈ blocked)
    (hpassed : ∀ field ∈ stack, passes blocked seen target field) {field : Nat}
    (hfield : field ∈ seen) : ¬ ReflTransGen deps.DependsOn field target := by
  intro hleads
  induction hleads using ReflTransGen.head_induction_on with
  | refl => exact h.unseen hfield
  | @head other dep hdep hleads ih =>
      have hpass := (h.kept other hfield dep hdep).elim (hpassed dep) id
      exact ih (mem_seen_of_passes hblocked hpass hleads)

/-- A search that ends without its target has seen all that leads to it. -/
theorem not_leads_of_finds (h : Searching deps blocked target seen stack)
    (hblocked : ∀ field, ReflTransGen deps.DependsOn field target → field ∈ blocked)
    {rounds : Nat} (hrounds : (blocked.filter (· ∉ seen)).length < rounds)
    (hfinds : deps.finds blocked target rounds seen stack = false) {field : Nat}
    (hfield : field ∈ seen ∨ field ∈ stack) : ¬ ReflTransGen deps.DependsOn field target := by
  induction rounds generalizing seen stack with
  | zero => omega
  | succ rounds ih =>
      rcases finds_succ deps blocked target rounds seen stack with
        ⟨hpassed, -⟩ | ⟨passed, first, rest, rfl, hpassed, hfirst, hround⟩
      · intro hleads
        have hseen : field ∈ seen :=
          hfield.elim id fun hstack => mem_seen_of_passes hblocked (hpassed field hstack) hleads
        exact h.not_leads hblocked hpassed hseen hleads
      · rw [hfinds, eq_comm, Bool.or_eq_false_iff, beq_eq_false_iff_ne] at hround
        obtain ⟨hne, hrest⟩ := hround
        have hfresh : first ∉ seen ∧ first ∈ blocked := by
          rw [passes_iff] at hfirst
          simpa [hne] using hfirst
        have hcount : (blocked.filter (· ∉ first :: seen)).length < rounds :=
          Nat.lt_of_lt_of_le (length_filter_cons_lt hfresh.2 hfresh.1) (Nat.le_of_lt_succ hrounds)
        intro hleads
        have hnext : field ∈ first :: seen ∨ field ∈ deps.of first ++ rest := by
          simp only [List.mem_append, List.mem_cons] at hfield ⊢
          rcases hfield with hseen | hpass | hfirst | hrest
          · exact .inl (.inr hseen)
          · exact .inl (.inr (mem_seen_of_passes hblocked (hpassed field hpass) hleads))
          · exact .inl (.inl hfirst)
          · exact .inr (.inr hrest)
        exact ih (h.next hpassed hne) hcount hrest hnext hleads

end Searching

theorem finds_iff
    (hblocked : ∀ field, ReflTransGen deps.DependsOn field target → field ∈ blocked) :
    deps.finds blocked target (blocked.length + 1) [] stack ↔
      ∃ field ∈ stack, ReflTransGen deps.DependsOn field target := by
  refine ⟨exists_leads_of_finds, fun ⟨field, hfield, hleads⟩ => ?_⟩
  by_contra hnone
  exact Searching.start.not_leads_of_finds hblocked
    (Nat.lt_succ_of_le (List.length_filter_le ..)) (by simpa using hnone) (.inr hfield) hleads

theorem onCycle_iff {field : Nat}
    (hblocked : ∀ other, ReflTransGen deps.DependsOn other field → other ∈ blocked) :
    deps.onCycle blocked field ↔ TransGen deps.DependsOn field field := by
  rw [onCycle, finds_iff hblocked, TransGen.head'_iff]
  rfl

end

end Dependencies

/-! ## Cycles and plans -/

namespace Plan

variable {fields : List (String × Formula)}

theorem irrefl_dependsOn (fields : List (String × Formula)) (field : Nat) :
    ¬ (dependencies fields).DependsOn field field := by
  intro hself
  have hlt : field < fields.length := by
    rw [← length_dependencies fields]
    exact Dependencies.lt_of_mem_of hself
  exact ((mem_of_dependencies (List.getElem?_eq_getElem hlt)).1 hself).1 rfl

theorem onCycle_dependencies_iff {field : Nat} :
    (dependencies fields).OnCycle field ↔ TransGen (dependencies fields).DependsOn field field :=
  exists_cycle_iff (irrefl_dependsOn fields)

theorem lt_of_dependsOn {field dep : Nat} (h : (dependencies fields).DependsOn field dep) :
    field < fields.length ∧ dep < fields.length := by
  have hlt : field < fields.length := by
    rw [← length_dependencies fields]
    exact Dependencies.lt_of_mem_of h
  exact ⟨hlt, lt_of_mem_dependencies (List.getElem?_eq_getElem hlt) h⟩

theorem not_mem_blocked_of_mem_order {field : Nat} (h : field ∈ (build fields).order) :
    field ∉ (build fields).blocked := fun hblocked =>
  (List.nodup_append.1 (nodup_order_append_blocked fields)).2.2 field h field hblocked rfl

theorem leads_before {field other : Nat} (hfield : field ∈ (build fields).order)
    (h : TransGen (dependencies fields).DependsOn field other) :
    other ∈ (build fields).order ∧
      (build fields).order.idxOf other < (build fields).order.idxOf field := by
  have hnodup : (build fields).order.Nodup :=
    (List.nodup_append.1 (nodup_order_append_blocked fields)).1
  have hstep : ∀ {field dep}, field ∈ (build fields).order →
      (dependencies fields).DependsOn field dep →
        dep ∈ (build fields).order ∧
          (build fields).order.idxOf dep < (build fields).order.idxOf field := by
    intro field dep hfield hdep
    have hbefore := (order_ordered fields).sublist hfield hdep
    exact ⟨hbefore.subset List.mem_cons_self, idxOf_lt_of_sublist hnodup hbefore⟩
  induction h with
  | single hdep => exact hstep hfield hdep
  | tail _ hdep ih => exact ⟨(hstep ih.1 hdep).1, (hstep ih.1 hdep).2.trans ih.2⟩

theorem mem_blocked_of_leads {field other : Nat}
    (h : ReflTransGen (dependencies fields).DependsOn field other)
    (hother : other ∈ (build fields).blocked) : field ∈ (build fields).blocked := by
  rcases reflTransGen_iff_eq_or_transGen.1 h with rfl | h
  · exact hother
  · obtain ⟨dep, hdep, -⟩ := TransGen.head'_iff.1 h
    refine (mem_order_or_mem_blocked.2 (lt_of_dependsOn hdep).1).resolve_left fun hfield => ?_
    exact not_mem_blocked_of_mem_order (leads_before hfield h).1 hother

theorem mem_blocked_of_transGen {field : Nat}
    (h : TransGen (dependencies fields).DependsOn field field) :
    field ∈ (build fields).blocked := by
  obtain ⟨dep, hdep, -⟩ := TransGen.head'_iff.1 h
  refine (mem_order_or_mem_blocked.2 (lt_of_dependsOn hdep).1).resolve_left fun hfield => ?_
  exact absurd (leads_before hfield h).2 (Nat.lt_irrefl _)

theorem exists_leads_of_mem_blocked {field : Nat} (h : field ∈ (build fields).blocked) :
    ∃ other, ReflTransGen (dependencies fields).DependsOn field other ∧
      TransGen (dependencies fields).DependsOn other other := by
  refine exists_leads_back h fun other hother => ?_
  obtain ⟨dep, hdep, hunplaced⟩ := exists_dep_not_mem_order hother
  exact ⟨dep, (mem_order_or_mem_blocked.2 (lt_of_dependsOn hdep).2).resolve_left hunplaced, hdep⟩

theorem mem_blocked_iff {field : Nat} :
    field ∈ (build fields).blocked ↔
      ∃ other, ReflTransGen (dependencies fields).DependsOn field other ∧
        (dependencies fields).OnCycle other := by
  simp only [onCycle_dependencies_iff]
  constructor
  · exact exists_leads_of_mem_blocked
  · rintro ⟨other, hleads, hback⟩
    exact mem_blocked_of_leads hleads (mem_blocked_of_transGen hback)

theorem pairwise_blocked (fields : List (String × Formula)) :
    (build fields).blocked.Pairwise (· < ·) :=
  List.pairwise_lt_range.filter _

variable (fields) in
/-- The positions of the fields that a plan finds on a cycle, in ascending order. -/
def cyclic : List Nat :=
  (build fields).blocked.filter ((dependencies fields).onCycle (build fields).blocked)

theorem pairwise_cyclic (fields : List (String × Formula)) : (cyclic fields).Pairwise (· < ·) :=
  (pairwise_blocked fields).filter _

theorem mem_cyclic {field : Nat} :
    field ∈ cyclic fields ↔ (dependencies fields).OnCycle field := by
  rw [onCycle_dependencies_iff, cyclic, List.mem_filter]
  constructor
  · rintro ⟨hfield, hback⟩
    exact (Dependencies.onCycle_iff fun _ hleads => mem_blocked_of_leads hleads hfield).1 hback
  · intro hback
    have hfield := mem_blocked_of_transGen hback
    exact ⟨hfield,
      (Dependencies.onCycle_iff fun _ hleads => mem_blocked_of_leads hleads hfield).2 hback⟩

theorem lt_of_mem_cyclic {field : Nat} (h : field ∈ cyclic fields) : field < fields.length := by
  obtain ⟨dep, hdep, -⟩ := TransGen.head'_iff.1 (onCycle_dependencies_iff.1 (mem_cyclic.1 h))
  exact (lt_of_dependsOn hdep).1

theorem filterMap_key {positions : List Nat} (h : ∀ field ∈ positions, field < fields.length) :
    positions.filterMap (fun field => (fields[field]?).map (·.1)) =
      positions.map fun field => (fields.map (·.1)).getD field "" := by
  rw [← List.filterMap_eq_map]
  refine List.filterMap_congr fun field hfield => ?_
  simp [List.getD_eq_getElem?_getD, h field hfield]

theorem cycle_eq (fields : List (String × Formula)) :
    (build fields).cycle = (cyclic fields).map fun field => (fields.map (·.1)).getD field "" :=
  filterMap_key fun _ => lt_of_mem_cyclic

theorem map_some_cycle (fields : List (String × Formula)) :
    (build fields).cycle.map some =
      (cyclic fields).map fun field => (fields.map (·.1))[field]? := by
  rw [cycle_eq, List.map_map]
  refine List.map_congr_left fun field hfield => ?_
  simp [List.getD_eq_getElem?_getD, lt_of_mem_cyclic hfield]

theorem length_cycle (fields : List (String × Formula)) :
    (build fields).cycle.length = (cyclic fields).length := by
  rw [cycle_eq, List.length_map]

theorem isAcyclic_iff_cycle_eq_nil (fields : List (String × Formula)) :
    (build fields).isAcyclic ↔ (build fields).cycle = [] := by
  rw [isAcyclic, List.isEmpty_iff, ← List.length_eq_zero_iff (l := (build fields).cycle),
    length_cycle, List.length_eq_zero_iff]
  constructor
  · intro hblocked
    rw [cyclic, hblocked, List.filter_nil]
  · intro hcyclic
    refine List.eq_nil_iff_forall_not_mem.2 fun field hfield => ?_
    obtain ⟨other, -, hother⟩ := mem_blocked_iff.1 hfield
    rw [← mem_cyclic, hcyclic] at hother
    cases hother

theorem cycle_sublist_keys (fields : List (String × Formula)) :
    (build fields).cycle.Sublist (fields.map (·.1)) := by
  have hall : (List.range fields.length).map (fun field => (fields.map (·.1)).getD field "") =
      fields.map (·.1) := by
    refine List.ext_getElem (by simp) fun field hfield _ => ?_
    have hlt : field < fields.length := by simpa using hfield
    simp [List.getD_eq_getElem?_getD, hlt]
  have hcyclic : (cyclic fields).Sublist (List.range fields.length) :=
    List.filter_sublist.trans List.filter_sublist
  have hsublist := hcyclic.map fun field => (fields.map (·.1)).getD field ""
  rwa [hall, ← cycle_eq] at hsublist

theorem two_le_length_cycle {fields : List (String × Formula)}
    (h : (build fields).isAcyclic = false) : 2 ≤ (build fields).cycle.length := by
  have hne : cyclic fields ≠ [] := by
    rw [← List.length_pos_iff, ← length_cycle, List.length_pos_iff]
    intro hcycle
    rw [(isAcyclic_iff_cycle_eq_nil fields).2 hcycle] at h
    cases h
  obtain ⟨field, hfield⟩ := List.exists_mem_of_ne_nil _ hne
  obtain ⟨cycle, ⟨a, b, hab, ha, hb⟩, hnodup, hchain, -⟩ := mem_cyclic.1 hfield
  have hon : ∀ other ∈ cycle, other ∈ cyclic fields := fun other hother =>
    mem_cyclic.2 ⟨cycle, ⟨a, b, hab, ha, hb⟩, hnodup, hchain, hother⟩
  have hpair : [a, b].Subperm (cyclic fields) :=
    List.subperm_of_subset (by simp [hab]) (by simp [hon a ha, hon b hb])
  simpa [length_cycle] using hpair.length_le

/-- A plan blocks the fields that lead to a cycle, and names those that are on one, both in the
order of the fields.  It is acyclic if there is none, and an analysis that refuses a schema for a
cycle names two or more of its columns. -/
theorem build_blocks_cycles :
    (∀ fields : List (String × Formula),
      (build fields).blocked.Pairwise (· < ·) ∧
      (∀ field, field ∈ (build fields).blocked ↔
        ∃ other, ReflTransGen (dependencies fields).DependsOn field other ∧
          (dependencies fields).OnCycle other) ∧
      (∃ positions : List Nat, positions.Pairwise (· < ·) ∧
        (∀ field, field ∈ positions ↔ (dependencies fields).OnCycle field) ∧
        (build fields).cycle.map some = positions.map fun field => (fields.map (·.1))[field]?) ∧
      ((build fields).isAcyclic ↔ (build fields).cycle = [])) ∧
    ∀ (schema : Schema) (names : List String), schema.analyze = .error (.cycle names) →
      names.Sublist schema.keys ∧ 2 ≤ names.length := by
  refine ⟨fun fields => ⟨pairwise_blocked fields, fun _ => mem_blocked_iff,
    ⟨cyclic fields, pairwise_cyclic fields, fun _ => mem_cyclic, map_some_cycle fields⟩,
    isAcyclic_iff_cycle_eq_nil fields⟩, fun schema names hanalyze => ?_⟩
  obtain ⟨fields, hfields, hcyclic, rfl⟩ := Schema.defaultFormulas_of_analyze_eq_cycle hanalyze
  exact ⟨(cycle_sublist_keys fields).trans (Schema.keys_defaultFormulas_sublist hfields),
    two_le_length_cycle hcyclic⟩

def crossedSchema : Schema where
  name := "grid"
  columns := [
    { key := "after", formula := some "{fourth} + {free}" },
    { key := "first", formula := some "{second} + {third}" },
    { key := "second", formula := some "{first}" },
    { key := "third", formula := some "{first} * {free}" },
    { key := "between", formula := some "{first} + {between}" },
    { key := "fourth", formula := some "{fifth}" },
    { key := "fifth", formula := some "{fourth} + {between}" },
    { key := "free", formula := some "2" }]

theorem build_blocks_cycles_crossedSchema :
    crossedSchema.analyze = .error (.cycle ["first", "second", "third", "fourth", "fifth"]) ∧
      ["first", "second", "third", "fourth", "fifth"].Sublist crossedSchema.keys ∧
      2 ≤ ["first", "second", "third", "fourth", "fifth"].length := by
  have hanalyze : crossedSchema.analyze =
      .error (.cycle ["first", "second", "third", "fourth", "fifth"]) := by decide +kernel
  exact ⟨hanalyze, build_blocks_cycles.2 crossedSchema _ hanalyze⟩

end Plan

end Drapery
