import Drapery.Formula.Eval
import Drapery.Proofs.KeyedMap
import Drapery.Proofs.NormalizedKey

/-!
# What a formula reads

A reference is resolved to the key of one cell of the row, and that key has the
normal form of the reference.  The value of a formula therefore depends on the
cells whose keys it names up to normalization, and on nothing else of the row.
-/

namespace Drapery

/-! ## The key that a reference is resolved to -/

namespace Row

def namedKey? (row : Row) (name : String) : Option String :=
  if Text.normalizeKey name = name ∧ (row.get? name).isSome then some name
  else row.cells.keys.find? (Text.normalizeKey · == name)

def referencedKey? (row : Row) (name : String) : Option String :=
  if (row.get? name).isSome then some name
  else row.namedKey? (Text.normalizeKey name)

theorem named?_eq (row : Row) (name : String) :
    row.named? name = (row.namedKey? name).bind row.get? := by
  have hfound : (row.cells.entries.find? fun entry => Text.normalizeKey entry.1 == name).map (·.2) =
      (row.cells.keys.find? (Text.normalizeKey · == name)).bind row.get? := by
    rw [Keyed.find?_keys]
    cases hfind : row.cells.entries.find? fun entry => Text.normalizeKey entry.1 == name with
    | none => rfl
    | some entry =>
        exact (Keyed.mem_entries_iff.1 (List.mem_of_find?_eq_some hfind)).symm
  simp only [named?, namedKey?, hfound]
  by_cases hname : Text.normalizeKey name = name
  · cases hcell : row.get? name <;> simp [hname, hcell]
  · simp [hname]

theorem referenced?_eq (row : Row) (name : String) :
    row.referenced? name = (row.referencedKey? name).bind row.get? := by
  rw [referenced?, referencedKey?, named?_eq]
  cases hcell : row.get? name <;> simp [hcell]

theorem normalizeKey_of_namedKey? {row : Row} {name key : String}
    (h : row.namedKey? name = some key) : Text.normalizeKey key = name := by
  rw [namedKey?] at h
  split at h
  · rename_i hexact
    cases h
    exact hexact.1
  · simpa using List.find?_some h

theorem normalizeKey_of_referencedKey? {row : Row} {name key : String}
    (h : row.referencedKey? name = some key) :
    Text.normalizeKey key = Text.normalizeKey name := by
  rw [referencedKey?] at h
  split at h
  · cases h
    rfl
  · exact normalizeKey_of_namedKey? h

/-! ## Rows with the same cells under a name -/

theorem namedKey?_congr {a b : Row} {name : String}
    (h : ∀ key, Text.normalizeKey key = name → a.get? key = b.get? key) :
    a.namedKey? name = b.namedKey? name := by
  have hfind : a.cells.keys.find? (Text.normalizeKey · == name) =
      b.cells.keys.find? (Text.normalizeKey · == name) :=
    Keyed.find?_keys_congr fun key hkey => h key (by simpa using hkey)
  rw [namedKey?, namedKey?, hfind]
  by_cases hname : Text.normalizeKey name = name
  · rw [h name hname]
  · simp [hname]

theorem named?_congr {a b : Row} {name : String}
    (h : ∀ key, Text.normalizeKey key = name → a.get? key = b.get? key) :
    a.named? name = b.named? name := by
  rw [named?_eq, named?_eq, namedKey?_congr h]
  cases hkey : b.namedKey? name with
  | none => rfl
  | some key => exact h key (normalizeKey_of_namedKey? hkey)

theorem referenced?_congr {a b : Row} {name : String}
    (h : ∀ key, Text.normalizeKey key = Text.normalizeKey name → a.get? key = b.get? key) :
    a.referenced? name = b.referenced? name := by
  rw [referenced?, referenced?, h name rfl, named?_congr h]

end Row

/-! ## Evaluation -/

namespace Formula

namespace Expr

mutual

theorem eval_congr {a b : Row} (params : Params) (expr : Expr)
    (h : ∀ name ∈ expr.references, ∀ key,
      Text.normalizeKey name = Text.normalizeKey key → a.get? key = b.get? key) :
    expr.eval a params = expr.eval b params := by
  cases expr with
  | number value => simp only [eval]
  | text value => simp only [eval]
  | boolean value => simp only [eval]
  | param key => simp only [eval]
  | field name =>
      have hname : a.referenced? name = b.referenced? name :=
        Row.referenced?_congr fun key hkey => h name (by simp [references]) key hkey.symm
      simp only [eval, hname]
  | name name =>
      have hname : a.named? name = b.named? name := by
        refine Row.named?_congr fun key hkey => h name (by simp [references]) key ?_
        rw [hkey, Text.normalizeKey_eq_self_of_eq hkey]
      simp only [eval, hname]
  | call function args =>
      have hargs : evalAll a params args = evalAll b params args :=
        evalAll_congr params args fun name hname => h name (by simpa [references] using hname)
      simp only [eval, hargs]
  | unary op operand =>
      have hoperand : operand.eval a params = operand.eval b params :=
        eval_congr params operand fun name hname => h name (by simpa [references] using hname)
      simp only [eval, hoperand]
  | binary op left right =>
      have hleft : left.eval a params = left.eval b params :=
        eval_congr params left fun name hname => h name (by simp [references, hname])
      have hright : right.eval a params = right.eval b params :=
        eval_congr params right fun name hname => h name (by simp [references, hname])
      simp only [eval, hleft, hright]

theorem evalAll_congr {a b : Row} (params : Params) (exprs : List Expr)
    (h : ∀ name ∈ referencesOfAll exprs, ∀ key,
      Text.normalizeKey name = Text.normalizeKey key → a.get? key = b.get? key) :
    evalAll a params exprs = evalAll b params exprs := by
  cases exprs with
  | nil => simp only [evalAll]
  | cons first rest =>
      have hfirst : first.eval a params = first.eval b params :=
        eval_congr params first fun name hname => h name (by simp [referencesOfAll, hname])
      have hrest : evalAll a params rest = evalAll b params rest :=
        evalAll_congr params rest fun name hname => h name (by simp [referencesOfAll, hname])
      simp only [evalAll, hfirst, hrest]

end

end Expr

theorem mem_references {formula : Formula} {name : String} :
    name ∈ formula.references ↔ name ∈ formula.expr.references := by
  simp [references, Keyed.mem_keys_ofList]

def Reads (formula : Formula) (key : String) : Prop :=
  ∃ name ∈ formula.references, Text.normalizeKey name = Text.normalizeKey key

instance (formula : Formula) (key : String) : Decidable (formula.Reads key) :=
  inferInstanceAs (Decidable (∃ name ∈ formula.references, _))

theorem evaluate_congr {formula : Formula} {a b : Row} (params : Params)
    (h : ∀ key, formula.Reads key → a.get? key = b.get? key) :
    formula.evaluate a params = formula.evaluate b params := by
  rw [evaluate, evaluate, Expr.eval_congr params formula.expr]
  intro name hname key hkey
  exact h key ⟨name, mem_references.2 hname, hkey⟩

theorem get?_congr_of_mem_entries {a b : Row} {key : String}
    (h : ∀ cell, (key, cell) ∈ a.cells.entries ↔ (key, cell) ∈ b.cells.entries) :
    a.get? key = b.get? key := by
  refine Option.ext fun cell => ?_
  have hcell := h cell
  rwa [Keyed.mem_entries_iff, Keyed.mem_entries_iff] at hcell

/-- Rows that have the same cells under the references give the same value or the same error. -/
theorem evaluate_eq_of_cells_agree {formula : Formula} {a b : Row} (params : Params)
    (h : ∀ name ∈ formula.references, ∀ key, Text.normalizeKey key = Text.normalizeKey name →
      ∀ cell, (key, cell) ∈ a.cells.entries ↔ (key, cell) ∈ b.cells.entries) :
    formula.evaluate a params = formula.evaluate b params := by
  refine evaluate_congr params fun key hreads => ?_
  obtain ⟨name, hname, hkey⟩ := hreads
  exact get?_congr_of_mem_entries (h name hname key hkey.symm)

def ratedPrice : Formula :=
  ⟨"\x7bPrix B\x7d * taux", .binary .multiply (.field "Prix B") (.name "taux")⟩

def ratedRow : Row := ⟨"1", ∅, .ofList [("prix b", .number 12), ("taux", .number 2)]⟩

def annotatedRow : Row :=
  ⟨"2", .ofList [("taux", "3")], ratedRow.cells.insert "notes" (.text "urgent")⟩

theorem evaluate_ratedRow_eq_annotatedRow :
    ratedPrice.evaluate ratedRow ∅ = ratedPrice.evaluate annotatedRow ∅ := by
  refine evaluate_eq_of_cells_agree ∅ fun name hname key hkey cell => ?_
  have hnames : name = "Prix B" ∨ name = "taux" := by
    simpa [ratedPrice, mem_references, Expr.references] using hname
  have hne : key ≠ "notes" := by
    rintro rfl
    revert hkey
    rcases hnames with rfl | rfl <;> decide
  rw [Keyed.mem_entries_iff, Keyed.mem_entries_iff, annotatedRow, Keyed.get?_insert, if_neg hne]

/-- A text reads what its formula reads; a text that is no formula reads nothing. -/
def TextReads (source key : String) : Prop :=
  ∃ formula ∈ (parse source).toOption, formula.Reads key

instance (source key : String) : Decidable (TextReads source key) :=
  inferInstanceAs (Decidable (∃ formula ∈ (parse source).toOption, formula.Reads key))

theorem textReads_of_parse {source key : String} {formula : Formula}
    (hparse : parse source = .ok formula) : TextReads source key ↔ formula.Reads key := by
  simp [TextReads, hparse, Except.toOption]

theorem not_textReads_of_parse_error {source : String} {error : FormulaError}
    (hparse : parse source = .error error) (key : String) : ¬ TextReads source key := by
  simp [TextReads, hparse, Except.toOption]

theorem evaluateText_of_parse {source : String} {formula : Formula}
    (hparse : parse source = .ok formula) (row : Row) (params : Params) :
    evaluateText source row params = formula.evaluate row params := by
  rw [evaluateText, hparse]
  rfl

theorem evaluateText_of_parse_error {source : String} {error : FormulaError}
    (hparse : parse source = .error error) (row : Row) (params : Params) :
    evaluateText source row params = .error error := by
  rw [evaluateText, hparse]
  rfl

theorem evaluateText_congr {source : String} {a b : Row} (params : Params)
    (h : ∀ key, TextReads source key → a.get? key = b.get? key) :
    evaluateText source a params = evaluateText source b params := by
  cases hparse : parse source with
  | error error =>
      rw [evaluateText_of_parse_error hparse, evaluateText_of_parse_error hparse]
  | ok formula =>
      rw [evaluateText_of_parse hparse, evaluateText_of_parse hparse]
      exact evaluate_congr params fun key hkey => h key ((textReads_of_parse hparse).2 hkey)

theorem source_of_parse {source : String} {formula : Formula}
    (hparse : parse source = .ok formula) : formula.source = source := by
  rw [parse] at hparse
  cases hexpr : Parser.parse source with
  | error error => simp [hexpr, Except.map] at hparse
  | ok expr =>
      simp only [hexpr, Except.map, Except.ok.injEq] at hparse
      rw [← hparse]

end Formula

end Drapery
