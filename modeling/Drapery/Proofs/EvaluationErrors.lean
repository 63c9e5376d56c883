import Drapery.Proofs.References

/-!
# Errors of evaluation

Evaluation fails only where a part of the formula has no meaning on the row: a
bare name that no key stands for, a call of no function, or a call with a number
of arguments that the function does not take.  Its error is then the one of this
part.  A formula without such parts has a value on every row, and the value is a
finite number, a text or nothing.
-/

namespace Drapery

theorem Row.named?_eq_none_iff {row : Row} {name : String} :
    row.named? name = none ↔ ∀ key ∈ row.cells.keys, Text.normalizeKey key ≠ name := by
  constructor
  · intro h key hkey hname
    rw [named?] at h
    have hscan : row.cells.entries.find? (fun entry => Text.normalizeKey entry.1 == name) = none :=
      Option.map_eq_none_iff.1 (Option.or_eq_none_iff.1 h).2
    obtain ⟨cell, hcell⟩ := Keyed.mem_keys_iff.1 hkey
    have hentry := List.find?_eq_none.1 hscan (key, cell) (Keyed.mem_entries_iff.2 hcell)
    exact hentry (beq_iff_eq.2 hname)
  · intro h
    rw [named?_eq]
    cases hkey : row.namedKey? name with
    | none => rfl
    | some key =>
        have hname := normalizeKey_of_namedKey? hkey
        cases hcell : row.get? key with
        | none => exact hcell
        | some cell => exact absurd hname (h key (Keyed.mem_keys_iff.2 ⟨cell, hcell⟩))

namespace Formula

/-! ## The functions that a name calls -/

namespace Builtin

def IsNamed (function : Builtin) (name : String) : Prop :=
  name.toList.map Char.toUpper = function.name.toList

instance (function : Builtin) (name : String) : Decidable (function.IsNamed name) :=
  inferInstanceAs (Decidable (_ = _))

theorem ofName?_eq_some_iff {name : String} {function : Builtin} :
    ofName? name = some function ↔ function.IsNamed name := by
  constructor
  · intro h
    simpa [IsNamed] using List.find?_some h
  · intro h
    rw [IsNamed] at h
    simp only [ofName?, h]
    cases function <;> decide

theorem ofName?_eq_none_iff {name : String} :
    ofName? name = none ↔ ∀ function : Builtin, ¬ function.IsNamed name := by
  simp [Option.eq_none_iff_forall_ne_some, ofName?_eq_some_iff]

theorem IsNamed.unique {a b : Builtin} {name : String} (ha : a.IsNamed name)
    (hb : b.IsNamed name) : a = b := by
  have hsame : some a = some b :=
    (ofName?_eq_some_iff.2 ha).symm.trans (ofName?_eq_some_iff.2 hb)
  exact Option.some.inj hsame

end Builtin

/-! ## Results that fail in known ways -/

/-- Whatever error the result is, it has the property. -/
def FailsOnly {α : Type} (p : FormulaError → Prop) (result : Except FormulaError α) : Prop :=
  ∀ error, result = .error error → p error

namespace FailsOnly

variable {α β : Type} {p q : FormulaError → Prop} {result : Except FormulaError α}
  {next : α → Except FormulaError β}

protected theorem ok (value : α) : FailsOnly p (.ok value) := by
  intro error h
  cases h

protected theorem error {error : FormulaError} (h : p error) :
    FailsOnly p (.error error : Except FormulaError α) := by
  intro other hother
  cases hother
  exact h

theorem mono (h : FailsOnly p result) (hpq : ∀ error, p error → q error) : FailsOnly q result :=
  fun error herror => hpq error (h error herror)

theorem bind (h : FailsOnly p result) (hnext : ∀ value, FailsOnly p (next value)) :
    FailsOnly p (result >>= next) := by
  cases result with
  | ok value => exact hnext value
  | error error => exact .error (h error rfl)

theorem map (h : FailsOnly p result) (f : α → β) : FailsOnly p (result.map f) := by
  cases result with
  | ok value => exact .ok (f value)
  | error error => exact .error (h error rfl)

end FailsOnly

/-! ## Functions fail where their arguments do -/

namespace Builtin

variable {p : FormulaError → Prop} {args : List Argument}

theorem failsOnly_amounts (h : ∀ arg ∈ args, FailsOnly p arg) : FailsOnly p (amounts args) := by
  induction args with
  | nil => exact .ok []
  | cons first rest ih =>
      rw [amounts, List.mapM_cons]
      have hfirst := (h first List.mem_cons_self).map Value.amount
      have hrest := ih fun arg harg => h arg (List.mem_cons_of_mem _ harg)
      exact hfirst.bind fun amount => hrest.bind fun amounts => .ok (amount :: amounts)

theorem failsOnly_anyCounts (h : ∀ arg ∈ args, FailsOnly p arg) (wanted : Bool) :
    FailsOnly p (anyCounts wanted args) := by
  induction args with
  | nil => exact .ok false
  | cons first rest ih =>
      rw [anyCounts]
      refine (h first List.mem_cons_self).bind fun value => ?_
      split
      · exact .ok true
      · exact ih fun arg harg => h arg (List.mem_cons_of_mem _ harg)

theorem failsOnly_headD (h : ∀ arg ∈ args, FailsOnly p arg) :
    FailsOnly p (args.headD (.ok Value.empty)) := by
  cases args with
  | nil => exact .ok Value.empty
  | cons first rest => exact h first List.mem_cons_self

theorem failsOnly_applyRounding (h : ∀ arg ∈ args, FailsOnly p arg) (toWhole : Float → Float) :
    FailsOnly p (applyRounding toWhole args) := by
  rw [applyRounding]
  refine (failsOnly_amounts h).bind fun numbers => ?_
  cases numbers with
  | nil => exact .ok Value.empty
  | cons x rest => exact .ok _

theorem failsOnly_applyChecked (function : Builtin) (h : ∀ arg ∈ args, FailsOnly p arg) :
    FailsOnly p (function.applyChecked args) := by
  fun_cases applyChecked function args with
  | case1 condition consequence otherwise =>
      simp only [List.forall_mem_cons] at h
      obtain ⟨hcondition, hconsequence, hotherwise⟩ := h
      refine hcondition.bind fun value => ?_
      split
      · exact hconsequence
      · exact failsOnly_headD hotherwise
  | case2 first fallback =>
      obtain ⟨hfirst, hfallback⟩ := List.forall_mem_cons.1 h
      refine hfirst.bind fun value => ?_
      split
      · exact (failsOnly_headD hfallback).map _
      · exact .ok _
  | case3 => exact failsOnly_applyRounding h halfUp
  | case4 => exact failsOnly_applyRounding h upFromNoise
  | case5 arg => exact (h arg List.mem_cons_self).map _
  | case6 arg => exact (h arg List.mem_cons_self).map _
  | case7 arg => exact (h arg List.mem_cons_self).map _
  | case8 => exact (failsOnly_amounts h).map _
  | case9 => exact (failsOnly_amounts h).map _
  | case10 => exact (failsOnly_anyCounts h false).map _
  | case11 => exact (failsOnly_anyCounts h true).map _
  | case12 arg => exact (h arg List.mem_cons_self).map _
  | case13 => exact .ok Value.empty

theorem failsOnly_apply {function : Builtin} (hargs : ∀ arg ∈ args, FailsOnly p arg)
    (hcount : ¬ function.arity.admits args.length →
      p (.arity function.name function.arity args.length)) :
    FailsOnly p (function.apply args) := by
  rw [apply]
  split
  · exact failsOnly_applyChecked function hargs
  · rename_i hrefused
    exact .error (hcount hrefused)

end Builtin

/-! ## The part that is to blame -/

namespace Expr

mutual

def parts : Expr → List Expr
  | call function args => call function args :: partsOfAll args
  | unary op operand => unary op operand :: operand.parts
  | binary op left right => binary op left right :: (left.parts ++ right.parts)
  | number value => [number value]
  | text value => [text value]
  | boolean value => [boolean value]
  | field key => [field key]
  | name key => [name key]
  | param key => [param key]

def partsOfAll : List Expr → List Expr
  | [] => []
  | first :: rest => first.parts ++ partsOfAll rest

end

theorem mem_parts_self (expr : Expr) : expr ∈ expr.parts := by
  cases expr <;> simp [parts]

/-- What is wrong on a row with an expression itself, whatever is in it. -/
inductive Flaw (row : Row) : Expr → FormulaError → Prop where
  | unknownName {key : String} (h : ∀ found ∈ row.cells.keys, Text.normalizeKey found ≠ key) :
      Flaw row (name key) (.unknownName key)
  | unknownFunction {function : String} {args : List Expr}
      (h : ∀ builtin : Builtin, ¬ builtin.IsNamed function) :
      Flaw row (call function args) (.unknownFunction function)
  | arity {function : String} {args : List Expr} {builtin : Builtin}
      (hname : builtin.IsNamed function) (hcount : ¬ builtin.arity.admits args.length) :
      Flaw row (call function args) (.arity builtin.name builtin.arity args.length)

theorem length_evalAll (row : Row) (params : Params) (exprs : List Expr) :
    (evalAll row params exprs).length = exprs.length := by
  induction exprs with
  | nil => simp only [evalAll, List.length_nil]
  | cons first rest ih => simp only [evalAll, List.length_cons, ih]

theorem eval_of_flaw {row : Row} {expr : Expr} {error : FormulaError}
    (h : expr.Flaw row error) (params : Params) : expr.eval row params = .error error := by
  cases h with
  | unknownName h => rw [eval, Row.named?_eq_none_iff.2 h]
  | unknownFunction h => rw [eval, Builtin.ofName?_eq_none_iff.2 h]
  | arity hname hcount =>
      rw [eval, Builtin.ofName?_eq_some_iff.2 hname]
      simp only [Builtin.apply, length_evalAll, if_neg hcount]

def Blames (row : Row) (parts : List Expr) (error : FormulaError) : Prop :=
  ∃ part ∈ parts, part.Flaw row error

theorem failsOnly_of_subset {α : Type} {row : Row} {parts more : List Expr}
    {result : Except FormulaError α} (h : FailsOnly (Blames row parts) result)
    (hsubset : parts ⊆ more) : FailsOnly (Blames row more) result := by
  refine h.mono fun error herror => ?_
  obtain ⟨part, hpart, hflaw⟩ := herror
  exact ⟨part, hsubset hpart, hflaw⟩

theorem Flaw.blames {row : Row} {expr : Expr} {error : FormulaError} (h : expr.Flaw row error) :
    Blames row expr.parts error := ⟨expr, expr.mem_parts_self, h⟩

mutual

theorem failsOnly_eval (row : Row) (params : Params) (expr : Expr) :
    FailsOnly (Blames row expr.parts) (expr.eval row params) := by
  cases expr with
  | number value => simpa only [eval] using .ok _
  | text value => simpa only [eval] using .ok _
  | boolean value => simpa only [eval] using .ok _
  | param key => simpa only [eval] using .ok _
  | field key => simpa only [eval] using .ok _
  | name key =>
      cases hcell : row.named? key with
      | some cell => simpa only [eval, hcell] using .ok _
      | none =>
          have hflaw : (name key).Flaw row (.unknownName key) :=
            .unknownName (Row.named?_eq_none_iff.1 hcell)
          rw [eval, hcell]
          exact .error hflaw.blames
  | call function args =>
      cases hfunction : Builtin.ofName? function with
      | none =>
          have hflaw : (call function args).Flaw row (.unknownFunction function) :=
            .unknownFunction (Builtin.ofName?_eq_none_iff.1 hfunction)
          rw [eval, hfunction]
          exact .error hflaw.blames
      | some builtin =>
          have hname := Builtin.ofName?_eq_some_iff.1 hfunction
          rw [eval, hfunction]
          refine Builtin.failsOnly_apply (fun arg harg => ?_) fun hcount => ?_
          · exact failsOnly_of_subset (failsOnly_evalAll row params args arg harg)
              (by simp [parts])
          · rw [length_evalAll] at hcount ⊢
            exact Flaw.blames (.arity hname hcount)
  | unary op operand =>
      rw [eval]
      refine FailsOnly.bind ?_ fun value => .ok _
      exact failsOnly_of_subset (failsOnly_eval row params operand) (by simp [parts])
  | binary op left right =>
      rw [eval]
      refine FailsOnly.bind ?_ fun leftValue => ?_
      · exact failsOnly_of_subset (failsOnly_eval row params left) (by simp [parts])
      · split
        · exact .ok leftValue
        · refine FailsOnly.bind ?_ fun rightValue => .ok _
          exact failsOnly_of_subset (failsOnly_eval row params right) (by simp [parts])

theorem failsOnly_evalAll (row : Row) (params : Params) (exprs : List Expr) :
    ∀ result ∈ evalAll row params exprs, FailsOnly (Blames row (partsOfAll exprs)) result := by
  cases exprs with
  | nil =>
      intro result hresult
      cases hresult
  | cons first rest =>
      rw [evalAll, List.forall_mem_cons]
      refine ⟨?_, fun result hresult => ?_⟩
      · exact failsOnly_of_subset (failsOnly_eval row params first) (by simp [partsOfAll])
      · exact failsOnly_of_subset (failsOnly_evalAll row params rest result hresult)
          (by simp [partsOfAll])

end

/-- No bare name, and calls only of functions with as many arguments as they take. -/
structure IsSafe (expr : Expr) : Prop where
  no_name : ∀ key, name key ∉ expr.parts
  calls : ∀ function args, call function args ∈ expr.parts →
    ∃ builtin : Builtin, builtin.IsNamed function ∧ builtin.arity.admits args.length

def isFlawless : Expr → Bool
  | name _ => false
  | call function args => (Builtin.ofName? function).any (·.arity.admits args.length)
  | _ => true

theorem isSafe_iff {expr : Expr} : expr.IsSafe ↔ ∀ part ∈ expr.parts, part.isFlawless = true := by
  constructor
  · intro h part hpart
    cases part with
    | name key => exact absurd hpart (h.no_name key)
    | call function args =>
        obtain ⟨builtin, hname, hadmits⟩ := h.calls function args hpart
        simpa [isFlawless, Builtin.ofName?_eq_some_iff.2 hname] using hadmits
    | _ => rfl
  · intro h
    refine ⟨fun key hkey => ?_, fun function args hcall => ?_⟩
    · cases h _ hkey
    · have hflawless := h _ hcall
      rw [isFlawless, Option.any_eq_true] at hflawless
      obtain ⟨builtin, hname, hadmits⟩ := hflawless
      exact ⟨builtin, Builtin.ofName?_eq_some_iff.1 hname, hadmits⟩

instance (expr : Expr) : Decidable expr.IsSafe := decidable_of_iff _ isSafe_iff.symm

theorem IsSafe.not_blames {expr : Expr} (h : expr.IsSafe) (row : Row) (error : FormulaError) :
    ¬ Blames row expr.parts error := by
  rintro ⟨part, hpart, hflaw⟩
  cases hflaw with
  | unknownName => exact h.no_name _ hpart
  | unknownFunction hunknown =>
      obtain ⟨builtin, hname, -⟩ := h.calls _ _ hpart
      exact hunknown builtin hname
  | arity hname hcount =>
      obtain ⟨builtin, hname', hadmits⟩ := h.calls _ _ hpart
      obtain rfl := hname.unique hname'
      exact hcount hadmits

end Expr

/-! ## Values of whole formulas -/

def Value.IsSettled : Value → Prop
  | number x => x.isFinite = true
  | text value => numericText? value = none
  | boolean _ => False
  | empty => True

theorem Value.isSettled_settled (value : Value) : value.settled.IsSettled := by
  cases value with
  | number x =>
      rw [settled]
      split
      · assumption
      · trivial
  | text value =>
      rw [settled]
      cases hnumber : numericText? value with
      | none => exact hnumber
      | some x => exact (Option.filter_eq_some_iff.1 hnumber).2
  | boolean value => cases value <;> rfl
  | empty => trivial

theorem failsOnly_evaluate (formula : Formula) (row : Row) (params : Params) :
    FailsOnly (Expr.Blames row formula.expr.parts) (formula.evaluate row params) :=
  (formula.expr.failsOnly_eval row params).map Value.settled

/-- A formula without bare names, that calls functions with as many arguments as
they take, has a value on every row.  What any formula fails with is the error of
one of its parts, and this part has a flaw of its own. -/
theorem evaluate_safe_or_flawed (formula : Formula) (row : Row) (params : Params) :
    (formula.expr.IsSafe →
      ∃ value, formula.evaluate row params = .ok value ∧ value.IsSettled) ∧
    ∀ error, formula.evaluate row params = .error error →
      ∃ part ∈ formula.expr.parts,
        part.Flaw row error ∧ part.eval row params = .error error := by
  constructor
  · intro hsafe
    cases hresult : formula.expr.eval row params with
    | ok value =>
        refine ⟨value.settled, ?_, value.isSettled_settled⟩
        rw [evaluate, hresult]
        rfl
    | error error =>
        have hblamed := formula.expr.failsOnly_eval row params error hresult
        exact absurd hblamed (hsafe.not_blames row error)
  · intro error herror
    obtain ⟨part, hpart, hflaw⟩ := formula.failsOnly_evaluate row params error herror
    exact ⟨part, hpart, hflaw, Expr.eval_of_flaw hflaw params⟩

def widthRate : Formula where
  source := "if(\x7blargeur\x7d > 0, Round(\x7bprix\x7d / \x7blargeur\x7d, 2), \"sur mesure\")"
  expr := .call "if" [.binary .greater (.field "largeur") (.number 0),
    .call "Round" [.binary .divide (.field "prix") (.field "largeur"), .number 2],
    .text "sur mesure"]

def discountedRate : Formula where
  source := "NVL(remise, 0)"
  expr := .call "NVL" [.name "remise", .number 0]

theorem evaluate_safe_or_flawed_emptyRow :
    (∃ value, widthRate.evaluate { id := "r" } ∅ = .ok value ∧ value.IsSettled) ∧
    ∃ part ∈ discountedRate.expr.parts, part.Flaw { id := "r" } (.unknownName "remise") ∧
      part.eval { id := "r" } ∅ = .error (.unknownName "remise") :=
  ⟨(evaluate_safe_or_flawed widthRate { id := "r" } ∅).1 (by decide +kernel),
    (evaluate_safe_or_flawed discountedRate { id := "r" } ∅).2 _ (by decide +kernel)⟩

end Formula

end Drapery
