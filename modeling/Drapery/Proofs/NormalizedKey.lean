import Mathlib
import Drapery.Text.Key

/-!
# Normalized keys

The normalized keys are the texts of lower-case letters, digits and single
underscores, and each of them is its own normal form.  Lower-casing can make
letters out of other characters, so this does not hold character by character:
it rests on what `collapse` lets through.
-/

namespace Drapery.Text

def IsSpaced (text : List Char) : Prop := text.IsChain fun c d => ¬ (c = '_' ∧ d = '_')

theorem isSpaced_cons {c : Char} {text : List Char} :
    IsSpaced (c :: text) ↔ (c = '_' → text.head? ≠ some '_') ∧ IsSpaced text := by
  rw [IsSpaced, IsSpaced, List.isChain_cons]
  refine and_congr_left fun _ => ⟨?_, ?_⟩
  · intro hnext hc hhead
    exact hnext '_' hhead ⟨hc, rfl⟩
  · rintro hnext d hd ⟨hc, rfl⟩
    exact hnext hc hd

/-- Lower-case letters, digits and single underscores. -/
structure IsNormalKey (key : String) : Prop where
  plain : ∀ c ∈ key.toList, c.isLower ∨ c.isDigit ∨ c = '_'
  spaced : IsSpaced key.toList

/-! ## Characters -/

theorem isUpper_of_mem_keyCase {c d : Char} (h : c ∈ keyCase d) :
    c.isUpper = false := by
  unfold keyCase at h
  split at h
  · rw [List.mem_singleton.1 h]
    decide
  · rcases List.mem_pair.1 h with rfl | rfl <;> decide
  · rw [List.mem_singleton.1 h]
    exact Char.isUpper_toLower_eq_false d

theorem keyCase_eq_self {c : Char} (halnum : c.isAlphanum ∨ c = '_')
    (hupper : c.isUpper = false) : keyCase c = [c] := by
  unfold keyCase
  split
  · revert halnum
    decide
  · revert halnum
    decide
  · rw [Char.toLower_eq_of_not_isUpper (by simp [hupper])]

theorem plain_iff {c : Char} :
    c.isLower ∨ c.isDigit ∨ c = '_' ↔ (c.isAlphanum ∨ c = '_') ∧ c.isUpper = false := by
  have hlower : c.isLower → ¬ c.isUpper := Char.not_isUpper_of_isLower
  have hdigit : c.isDigit → ¬ c.isUpper := by
    intro hdigit hupper
    simp [Char.isDigit, Char.isUpper, UInt32.le_iff_toNat_le] at hdigit hupper
    omega
  have hgap : c = '_' → ¬ c.isUpper := by
    rintro rfl
    decide
  rw [Char.isAlphanum, Char.isAlpha]
  grind

/-! ## Gaps -/

theorem mem_of_mem_collapse {c : Char} {inGap : Bool} {text : List Char}
    (h : c ∈ collapse inGap text) : c ∈ text ∧ c.isAlphanum ∨ c = '_' := by
  induction text generalizing inGap with
  | nil => cases h
  | cons first rest ih =>
      have hrest : ∀ {gap : Bool}, c ∈ collapse gap rest →
          c ∈ first :: rest ∧ c.isAlphanum ∨ c = '_' := by
        intro gap h
        exact (ih h).imp_left fun hc => ⟨List.mem_cons_of_mem _ hc.1, hc.2⟩
      rw [collapse] at h
      split at h
      · rename_i hfirst
        rcases List.mem_cons.1 h with rfl | h
        · exact .inl ⟨List.mem_cons_self, hfirst⟩
        · exact hrest h
      · split at h
        · exact hrest h
        · rcases List.mem_cons.1 h with rfl | h
          · exact .inr rfl
          · exact hrest h

theorem head?_collapse_true (text : List Char) : (collapse true text).head? ≠ some '_' := by
  induction text with
  | nil => simp [collapse]
  | cons first rest ih =>
      by_cases hfirst : first.isAlphanum
      · rw [collapse, if_pos hfirst, List.head?_cons, ne_eq, Option.some.injEq]
        rintro rfl
        exact absurd hfirst (by decide)
      · rw [collapse, if_neg hfirst, if_pos rfl]
        exact ih

theorem isSpaced_collapse (inGap : Bool) (text : List Char) : IsSpaced (collapse inGap text) := by
  induction text generalizing inGap with
  | nil => exact .nil
  | cons first rest ih =>
      by_cases hfirst : first.isAlphanum
      · have hne : first ≠ '_' := by
          rintro rfl
          exact absurd hfirst (by decide)
        rw [collapse, if_pos hfirst]
        exact isSpaced_cons.2 ⟨fun heq => absurd heq hne, ih false⟩
      · cases inGap with
        | true =>
            rw [collapse, if_neg hfirst, if_pos rfl]
            exact ih true
        | false =>
            rw [collapse, if_neg hfirst, if_neg Bool.false_ne_true]
            exact isSpaced_cons.2 ⟨fun _ => head?_collapse_true rest, ih true⟩

theorem collapse_eq_self {inGap : Bool} {text : List Char}
    (hplain : ∀ c ∈ text, c.isAlphanum ∨ c = '_') (hspaced : IsSpaced text)
    (hgap : inGap → text.head? ≠ some '_') : collapse inGap text = text := by
  induction text generalizing inGap with
  | nil => rfl
  | cons first rest ih =>
      obtain ⟨hnext, hrest⟩ := isSpaced_cons.1 hspaced
      have hplainRest : ∀ c ∈ rest, c.isAlphanum ∨ c = '_' :=
        fun c hc => hplain c (List.mem_cons_of_mem _ hc)
      by_cases hfirst : first.isAlphanum
      · rw [collapse, if_pos hfirst, ih hplainRest hrest (by simp)]
      · obtain rfl : first = '_' := (hplain first List.mem_cons_self).resolve_left hfirst
        have hinGap : ¬ inGap := fun h => hgap h rfl
        rw [collapse, if_neg hfirst, if_neg hinGap, ih hplainRest hrest fun _ => hnext rfl]

/-! ## Keys -/

theorem isNormalKey_normalizeKey (key : String) : IsNormalKey (normalizeKey key) := by
  rw [normalizeKey]
  constructor
  · intro c hc
    rw [String.toList_ofList] at hc
    rcases mem_of_mem_collapse hc with ⟨hmem, halnum⟩ | rfl
    · obtain ⟨d, -, hd⟩ := List.mem_flatMap.1 hmem
      exact plain_iff.2 ⟨.inl halnum, isUpper_of_mem_keyCase hd⟩
    · exact .inr (.inr rfl)
  · rw [String.toList_ofList]
    exact isSpaced_collapse false _

theorem IsNormalKey.normalizeKey_eq {key : String} (h : IsNormalKey key) :
    normalizeKey key = key := by
  have hplain : ∀ c ∈ key.toList, (c.isAlphanum ∨ c = '_') ∧ c.isUpper = false :=
    fun c hc => plain_iff.1 (h.plain c hc)
  have hcase : key.toList.flatMap keyCase = key.toList := by
    rw [List.flatMap_congr fun c hc => keyCase_eq_self (hplain c hc).1 (hplain c hc).2,
      List.flatMap_singleton']
  rw [normalizeKey, hcase, collapse_eq_self (fun c hc => (hplain c hc).1) h.spaced (by simp),
    String.ofList_toList]

theorem normalizeKey_eq_self_iff {key : String} : normalizeKey key = key ↔ IsNormalKey key :=
  ⟨fun h => h ▸ isNormalKey_normalizeKey key, IsNormalKey.normalizeKey_eq⟩

@[simp] theorem normalizeKey_normalizeKey (key : String) :
    normalizeKey (normalizeKey key) = normalizeKey key :=
  (isNormalKey_normalizeKey key).normalizeKey_eq

theorem normalizeKey_eq_self_of_eq {key name : String}
    (h : normalizeKey key = name) : normalizeKey name = name := by
  rw [← h, normalizeKey_normalizeKey]

/-- The Kelvin sign is a k, and the capital I with a dot an i with a mark. -/
example : normalizeKey "\u0130n \u212a__2" = "i_n_k_2" := by decide

end Drapery.Text
