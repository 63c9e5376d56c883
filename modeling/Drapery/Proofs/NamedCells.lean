import Drapery.Proofs.ByteOrder
import Drapery.Proofs.EvaluationErrors

/-!
# The cell that a name stands for

A name finds a cell of a row exactly if it is the normal form of some key of
the row.  Among several such keys the name itself comes first, then the first
in the order of their bytes.  A name that is no normal key finds nothing, not
even a key that is written alike.
-/

namespace Drapery.Row

/-- One of the keys whose normal form is the name: the name itself if it is a
key, else the first by its bytes. -/
structure StandsFor (row : Row) (name key : String) : Prop where
  listed : key ∈ row.cells.keys
  normal : Text.normalizeKey key = name
  exact_or_first : key = name ∨ name ∉ row.cells.keys ∧
    ∀ other ∈ row.cells.keys, Text.normalizeKey other = name → Text.bytes key ≤ Text.bytes other

theorem isSome_get?_iff {row : Row} {key : String} :
    (row.get? key).isSome ↔ key ∈ row.cells.keys := by
  rw [Keyed.mem_keys_iff, Option.isSome_iff_exists]
  rfl

theorem namedKey?_eq_some_iff {row : Row} {name key : String} :
    row.namedKey? name = some key ↔ row.StandsFor name key := by
  by_cases hexact : Text.normalizeKey name = name ∧ name ∈ row.cells.keys
  · rw [namedKey?, if_pos (hexact.imp_right isSome_get?_iff.2), Option.some.injEq]
    constructor
    · rintro rfl
      exact ⟨hexact.2, hexact.1, .inl rfl⟩
    · intro h
      exact (h.exact_or_first.resolve_right fun hfirst => hfirst.1 hexact.2).symm
  · -- no key is written like the name and has it as its normal form
    have hunlisted : ∀ {found}, Text.normalizeKey found = name → name ∉ row.cells.keys :=
      fun hnormal hname => hexact ⟨Text.normalizeKey_eq_self_of_eq hnormal, hname⟩
    rw [namedKey?, if_neg fun h => hexact (h.imp_right isSome_get?_iff.1),
      Keyed.find?_keys_eq_some_iff]
    simp only [beq_iff_eq, ← Text.bytes_le_bytes_iff]
    constructor
    · rintro ⟨hlisted, hnormal, hfirst⟩
      exact ⟨hlisted, hnormal, .inr ⟨hunlisted hnormal, hfirst⟩⟩
    · rintro ⟨hlisted, hnormal, rfl | ⟨-, hfirst⟩⟩
      · exact absurd hlisted (hunlisted hnormal)
      · exact ⟨hlisted, hnormal, hfirst⟩

theorem named?_eq_some_iff {row : Row} {name : String} {cell : Cell} :
    row.named? name = some cell ↔
      ∃ key, row.StandsFor name key ∧ row.get? key = some cell := by
  rw [named?_eq, Option.bind_eq_some_iff]
  simp only [namedKey?_eq_some_iff]

theorem isSome_named?_iff {row : Row} {name : String} :
    (row.named? name).isSome ↔ ∃ key ∈ row.cells.keys, Text.normalizeKey key = name := by
  rw [Option.isSome_iff_ne_none, ne_eq, named?_eq_none_iff]
  push Not
  rfl

/-- Names are matched up to normalization, which takes every text to a normal
key and leaves exactly these as they are. -/
theorem named?_finds_normalForms (row : Row) (name : String) :
    (∀ key, Text.IsNormalKey (Text.normalizeKey key) ∧
      Text.normalizeKey (Text.normalizeKey key) = Text.normalizeKey key ∧
      (Text.normalizeKey key = key ↔ Text.IsNormalKey key)) ∧
    ((row.named? name).isSome ↔ ∃ key ∈ row.cells.keys, Text.normalizeKey key = name) ∧
    ((row.named? name).isSome → Text.normalizeKey name = name) ∧
    ∀ cell, row.named? name = some cell ↔
      ∃ key, row.StandsFor name key ∧ row.get? key = some cell := by
  refine ⟨fun key => ?_, isSome_named?_iff, fun hfound => ?_, fun cell => named?_eq_some_iff⟩
  · exact ⟨Text.isNormalKey_normalizeKey key, Text.normalizeKey_normalizeKey key,
      Text.normalizeKey_eq_self_iff⟩
  · obtain ⟨key, -, hnormal⟩ := isSome_named?_iff.1 hfound
    exact Text.normalizeKey_eq_self_of_eq hnormal

/-- Capitals come before small letters, and the blank before the hyphen. -/
example :
    (⟨"r", ∅, .ofList [("a-b", .flag true), ("A b", .flag false), ("a b", .null)]⟩ : Row).namedKey?
      "a_b" = some "A b" := by
  decide +kernel

end Drapery.Row
