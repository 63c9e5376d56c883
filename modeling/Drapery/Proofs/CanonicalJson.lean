import Drapery.Proofs.JsonText
import Drapery.Proofs.KeyedMap

/-!
# Values with ordered members

An object in canonical form is the list of entries of a keyed map.  A canonical
value is its own canonical form, and it is as sound and legible as the value that
it was made of.
-/

namespace Drapery.Json

theorem canonicalItems_eq_map (items : List Json) :
    canonicalItems items = items.map canonical := by
  induction items with
  | nil => rfl
  | cons item rest ih => rw [canonicalItems, ih, List.map_cons]

theorem canonicalMembers_eq_entries (members : List (String × Json)) (sorted : Keyed Json) :
    canonicalMembers members sorted.entries =
      ((members.map fun member => (member.1, canonical member.2)).foldl
        (fun map entry => map.insert entry.1 entry.2) sorted).entries := by
  induction members generalizing sorted with
  | nil => rfl
  | cons member rest ih =>
      rw [canonicalMembers, List.map_cons, List.foldl_cons, ← ih]
      rfl

theorem canonical_array (items : List Json) :
    canonical (array items) = array (items.map canonical) := by
  rw [canonical, canonicalItems_eq_map]

theorem canonical_object (members : List (String × Json)) :
    canonical (object members) =
      object (Keyed.ofList (members.map fun member => (member.1, canonical member.2))).entries := by
  rw [canonical]
  exact congrArg object (canonicalMembers_eq_entries members ∅)

theorem exists_of_mem_canonical {members : List (String × Json)} {entry : String × Json}
    (h : entry ∈ (Keyed.ofList
      (members.map fun member => (member.1, canonical member.2))).entries) :
    ∃ member ∈ members, entry.2 = canonical member.2 := by
  obtain ⟨member, hmember, rfl⟩ := List.mem_map.1 (Keyed.mem_of_mem_ofList h)
  exact ⟨member, hmember, rfl⟩

theorem canonical_canonical (value : Json) : canonical (canonical value) = canonical value := by
  induction value using Json.induction with
  | array items ih =>
      rw [canonical_array, canonical_array, List.map_map]
      exact congrArg array (List.map_congr_left ih)
  | object members ih =>
      rw [canonical_object, canonical_object]
      have hsame : ∀ map : Keyed Json, (∀ entry ∈ map.entries, canonical entry.2 = entry.2) →
          Keyed.ofList (map.entries.map fun member => (member.1, canonical member.2)) = map := by
        intro map hmap
        rw [List.map_congr_left fun entry hentry => by rw [hmap entry hentry], List.map_id',
          Keyed.ofList_entries]
      rw [hsame]
      intro entry hentry
      obtain ⟨member, hmember, hvalue⟩ := exists_of_mem_canonical hentry
      rw [hvalue, ih member hmember]
  | _ => rfl

theorem isSound_canonical {value : Json} (h : value.isSound = true) :
    (canonical value).isSound = true := by
  induction value using Json.induction with
  | array items ih =>
      rw [isSound_array] at h
      rw [canonical_array, isSound_array, List.forall_mem_map]
      exact fun item hitem => ih item hitem (h item hitem)
  | object members ih =>
      rw [isSound_object] at h
      rw [canonical_object, isSound_object]
      intro entry hentry
      obtain ⟨member, hmember, hvalue⟩ := exists_of_mem_canonical hentry
      rw [hvalue]
      exact ih member hmember (h member hmember)
  | _ => exact h

theorem isLegible_canonical {value : Json} {levels : Nat} (h : value.isLegible levels = true) :
    (canonical value).isLegible levels = true := by
  induction value using Json.induction generalizing levels with
  | array items ih =>
      rw [isLegible_array] at h
      rw [canonical_array, isLegible_array, List.forall_mem_map]
      exact ⟨h.1, fun item hitem => ih item hitem (h.2 item hitem)⟩
  | object members ih =>
      rw [isLegible_object] at h
      rw [canonical_object, isLegible_object]
      refine ⟨h.1, fun entry hentry => ?_⟩
      obtain ⟨member, hmember, hvalue⟩ := exists_of_mem_canonical hentry
      rw [hvalue]
      exact ih member hmember (h.2 member hmember)
  | _ => exact h

end Drapery.Json
