import Drapery.Proofs.DoubleOrder
import Drapery.Proofs.EvaluationErrors

/-!
# Blank values and their defaults

A value can be blank in two ways: as nothing, and as the empty text.  Comparisons
take them for the same.  `NVL` puts the default in the place of nothing only, and
reads the empty text as zero.  An expression has the empty text for its value only
if this text is written where a value is handed on: in a branch of `IF`, or in an
operand of `&&` or `||`.
-/

namespace Drapery

theorem Binary.beq_iff_compare {x y : Float} :
    (x == y) = true ↔ x.toModel.unpack.compare y.toModel.unpack = some .eq := by
  change (x.toModel.unpack.compare y.toModel.unpack == some .eq) = true ↔ _
  exact beq_iff_eq

theorem Except.exists_of_map_eq_ok {ε α β : Type} {result : Except ε α} {f : α → β} {value : β}
    (h : result.map f = .ok value) : ∃ found, result = .ok found ∧ f found = value := by
  cases result with
  | error error => cases h
  | ok found => exact ⟨found, rfl, Except.ok.inj h⟩

namespace Formula

/-! ## Blank values -/

namespace Value

def IsBlank (value : Value) : Prop := value = empty ∨ value = text ""

instance (value : Value) : Decidable value.IsBlank := inferInstanceAs (Decidable (_ ∨ _))

theorem isEmpty_iff {value : Value} : value.isEmpty = true ↔ value = empty := by
  cases value <;> simp [isEmpty]

theorem compareNumbers?_notANumber (x : Float) : compareNumbers? x Binary.notANumber = none := by
  have hlt : ¬ x < Binary.notANumber := fun h => by
    cases (Binary.isNaN_eq_false_of_lt h).2
  have hgt : ¬ Binary.notANumber < x := fun h => by
    cases (Binary.isNaN_eq_false_of_lt h).1
  have heq : ¬ (x == Binary.notANumber) = true := fun h => by
    cases (Binary.isNaN_eq_false_of_compare (Binary.beq_iff_compare.1 h)).2
  simp only [compareNumbers?, if_neg hlt, if_neg hgt, if_neg heq]

/-- Blank values are those that compare as equal to the empty text. -/
theorem compare?_emptyText_iff {value : Value} :
    value.compare? (text "") = some .eq ↔ value.IsBlank := by
  have hoperand : (text "").operand = Binary.notANumber := by decide +kernel
  cases value with
  | number x => simp [compare?, hoperand, compareNumbers?_notANumber, IsBlank]
  | text value => simp [compare?, IsBlank]
  | boolean flag => simp [compare?, hoperand, compareNumbers?_notANumber, IsBlank]
  | empty => simp [compare?, IsBlank]

theorem ofCell_ne_text (cell : Cell) (value : String) : ofCell cell ≠ text value := by
  cases cell with
  | text content =>
      rw [ofCell]
      split <;> exact nofun
  | _ => exact nofun

end Value

/-! ## What functions return -/

namespace Builtin

theorem exists_cons_of_admits {function : Builtin} {args : List Argument}
    (h : function.arity.admits args.length) : ∃ first rest, args = first :: rest := by
  cases args with
  | nil => cases function <;> cases h
  | cons first rest => exact ⟨first, rest, rfl⟩

theorem length_of_amounts {args : List Argument} {numbers : List Float}
    (h : amounts args = .ok numbers) : numbers.length = args.length := by
  induction args generalizing numbers with
  | nil => cases h; rfl
  | cons first rest ih =>
      rw [amounts, List.mapM_cons] at h
      obtain ⟨number, -, hrest⟩ := Except.exists_of_bind_eq_ok h
      obtain ⟨others, hothers, hnumbers⟩ := Except.exists_of_bind_eq_ok hrest
      cases hnumbers
      rw [List.length_cons, List.length_cons, ih hothers]

theorem exists_number_of_applyRounding {toWhole : Float → Float} {first : Argument}
    {rest : List Argument} {value : Value}
    (h : applyRounding toWhole (first :: rest) = .ok value) : ∃ x, value = .number x := by
  rw [applyRounding] at h
  obtain ⟨numbers, hnumbers, hvalue⟩ := Except.exists_of_bind_eq_ok h
  cases numbers with
  | nil => cases length_of_amounts hnumbers
  | cons x others => exact ⟨_, (Except.ok.inj hvalue).symm⟩

/-- Functions return numbers and flags, and `choose` returns what one of its
branches has.  No argument is missing, since they were counted. -/
theorem applyChecked_eq_ok {function : Builtin} {args : List Argument} {value : Value}
    (hcount : function.arity.admits args.length) (h : function.applyChecked args = .ok value) :
    (∃ x, value = .number x) ∨ (∃ flag, value = .boolean flag) ∨
      function = choose ∧ (.ok value ∈ args.tail ∨ value = .empty) := by
  obtain ⟨first, rest, rfl⟩ := exists_cons_of_admits hcount
  cases function with
  | choose =>
      cases rest with
      | nil => cases hcount
      | cons consequence otherwise =>
          obtain ⟨test, -, hbranch⟩ := Except.exists_of_bind_eq_ok h
          refine .inr (.inr ⟨rfl, ?_⟩)
          split at hbranch
          · exact .inl (hbranch ▸ List.mem_cons_self)
          · cases otherwise with
            | nil => exact .inr (Except.ok.inj hbranch).symm
            | cons branch others =>
                have hbranch : branch = .ok value := hbranch
                exact .inl (by simp [hbranch])
  | orElse =>
      obtain ⟨found, -, hvalue⟩ := Except.exists_of_bind_eq_ok h
      split at hvalue
      · obtain ⟨fallback, -, rfl⟩ := Except.exists_of_map_eq_ok hvalue
        exact .inl ⟨_, rfl⟩
      · exact .inl ⟨_, (Except.ok.inj hvalue).symm⟩
  | round | roundUp => exact .inl (exists_number_of_applyRounding h)
  | ceiling | floor | abs | min | max =>
      obtain ⟨found, -, rfl⟩ := Except.exists_of_map_eq_ok h
      exact .inl ⟨_, rfl⟩
  | and | or | not =>
      obtain ⟨found, -, rfl⟩ := Except.exists_of_map_eq_ok h
      exact .inr (.inl ⟨_, rfl⟩)

theorem apply_eq_text {function : Builtin} {args : List Argument} {value : String}
    (h : function.apply args = .ok (.text value)) :
    function = choose ∧ .ok (.text value) ∈ args.tail := by
  rw [apply] at h
  split at h
  · rename_i hcount
    rcases applyChecked_eq_ok hcount h with ⟨x, hx⟩ | ⟨flag, hflag⟩ | ⟨hchoose, hbranch | hempty⟩
    · cases hx
    · cases hflag
    · exact ⟨hchoose, hbranch⟩
    · cases hempty
  · cases h

end Builtin

/-! ## Texts of expressions -/

namespace Expr

/-- The text is written in the expression where a value is handed on. -/
inductive Offers : Expr → String → Prop where
  | text (value : String) : Offers (text value) value
  | branch {function : String} {args : List Expr} {expr : Expr} {value : String}
      (hname : Builtin.choose.IsNamed function) (hmem : expr ∈ args.tail)
      (h : Offers expr value) : Offers (call function args) value
  | left {op : BinaryOp} {left right : Expr} {value : String} (hop : op = .and ∨ op = .or)
      (h : Offers left value) : Offers (binary op left right) value
  | right {op : BinaryOp} {left right : Expr} {value : String} (hop : op = .and ∨ op = .or)
      (h : Offers right value) : Offers (binary op left right) value

end Expr

theorem BinaryOp.apply_eq_text {op : BinaryOp} {left right : Value} {value : String}
    (h : op.apply left right = .text value) :
    (op = .and ∨ op = .or) ∧ (left = .text value ∨ right = .text value) := by
  cases op with
  | and =>
      rw [apply] at h
      split at h
      · exact ⟨.inl rfl, .inr h⟩
      · exact ⟨.inl rfl, .inl h⟩
  | or =>
      rw [apply] at h
      split at h
      · exact ⟨.inr rfl, .inl h⟩
      · exact ⟨.inr rfl, .inr h⟩
  | _ => cases h

namespace Expr

variable {row : Row} {params : Params} {value : String}

mutual

theorem offers_of_eval (expr : Expr) (h : expr.eval row params = .ok (.text value)) :
    expr.Offers value := by
  cases expr with
  | number x =>
      rw [eval] at h
      cases h
  | text content =>
      rw [eval] at h
      cases h
      exact .text value
  | boolean flag =>
      rw [eval] at h
      cases h
  | param key =>
      rw [eval] at h
      cases h
  | field key =>
      rw [eval] at h
      cases hcell : row.referenced? key with
      | none =>
          rw [hcell] at h
          cases h
      | some cell =>
          rw [hcell] at h
          exact absurd (Except.ok.inj h) (Value.ofCell_ne_text cell value)
  | name key =>
      rw [eval] at h
      cases hcell : row.named? key with
      | none =>
          rw [hcell] at h
          cases h
      | some cell =>
          rw [hcell] at h
          exact absurd (Except.ok.inj h) (Value.ofCell_ne_text cell value)
  | call function args =>
      rw [eval] at h
      cases hfunction : Builtin.ofName? function with
      | none =>
          rw [hfunction] at h
          cases h
      | some builtin =>
          rw [hfunction] at h
          obtain ⟨rfl, hbranch⟩ := Builtin.apply_eq_text h
          cases args with
          | nil => cases hbranch
          | cons condition branches =>
              rw [evalAll, List.tail_cons] at hbranch
              obtain ⟨branch, hmem, hoffers⟩ := exists_offers_of_evalAll branches hbranch
              exact .branch (Builtin.ofName?_eq_some_iff.1 hfunction) hmem hoffers
  | unary op operand =>
      rw [eval] at h
      obtain ⟨found, -, hvalue⟩ := Except.exists_of_bind_eq_ok h
      cases op <;> cases hvalue
  | binary op left right =>
      rw [eval] at h
      obtain ⟨leftValue, hleft, hnext⟩ := Except.exists_of_bind_eq_ok h
      split at hnext
      · rename_i hdecided
        cases hnext
        have hop : op = .and ∨ op = .or := by
          cases op with
          | and => exact .inl rfl
          | or => exact .inr rfl
          | _ => cases hdecided
        exact .left hop (offers_of_eval left hleft)
      · obtain ⟨rightValue, hright, hvalue⟩ := Except.exists_of_bind_eq_ok hnext
        obtain ⟨hop, rfl | rfl⟩ := BinaryOp.apply_eq_text (Except.ok.inj hvalue)
        · exact .left hop (offers_of_eval left hleft)
        · exact .right hop (offers_of_eval right hright)

theorem exists_offers_of_evalAll (exprs : List Expr)
    (h : .ok (.text value) ∈ evalAll row params exprs) : ∃ expr ∈ exprs, expr.Offers value := by
  cases exprs with
  | nil => cases h
  | cons first rest =>
      rw [evalAll] at h
      rcases List.mem_cons.1 h with hfirst | hrest
      · exact ⟨first, List.mem_cons_self, offers_of_eval first hfirst.symm⟩
      · obtain ⟨expr, hmem, hoffers⟩ := exists_offers_of_evalAll rest hrest
        exact ⟨expr, List.mem_cons_of_mem _ hmem, hoffers⟩

end

/-! ## Defaults -/

variable {function : String} {first fallback : Expr} {found default : Value}

theorem eval_orElse (hname : Builtin.orElse.IsNamed function)
    (hfirst : first.eval row params = .ok found)
    (hfallback : fallback.eval row params = .ok default) :
    (call function [first, fallback]).eval row params =
      .ok (.number (if found.isEmpty then default else found).amount) := by
  rw [eval, Builtin.ofName?_eq_some_iff.2 hname]
  simp only [evalAll, hfirst, hfallback]
  cases found <;> rfl

theorem eval_orElse_single (hname : Builtin.orElse.IsNamed function) (first : Expr) :
    (call function [first]).eval row params =
      (call function [first, number 0]).eval row params := by
  rw [eval, eval, Builtin.ofName?_eq_some_iff.2 hname]
  simp only [evalAll, eval]
  cases first.eval row params with
  | error error => rfl
  | ok found => cases found <;> rfl

/-- `NVL` has the default for a blank value, and else the amount of the value,
unless the value is the empty text: then it has zero, whatever the default is.
The empty text is written in the expression then.  A default that is left out is
zero. -/
theorem orElse_defaults_iff (hname : Builtin.orElse.IsNamed function)
    (hfirst : first.eval row params = .ok found)
    (hfallback : fallback.eval row params = .ok default) :
    ((call function [first, fallback]).eval row params =
        .ok (.number (if found.IsBlank then default else found).amount) ↔
      (found = .text "" → default.amount = 0)) ∧
    (found = .text "" → (call function [first, fallback]).eval row params = .ok (.number 0) ∧
      first.Offers "") ∧
    (call function [first]).eval row params =
      (call function [first, number 0]).eval row params := by
  have hzero : (Value.text "").amount = 0 := by decide +kernel
  rw [eval_orElse hname hfirst hfallback]
  refine ⟨?_, ?_, eval_orElse_single hname first⟩
  · by_cases htext : found = .text ""
    · subst htext
      have hblank : (Value.text "").IsBlank := .inr rfl
      have hempty : (Value.text "").isEmpty = false := rfl
      simp [hblank, hempty, hzero, eq_comm]
    · have hblank : found.IsBlank ↔ found.isEmpty = true := by
        rw [Value.isEmpty_iff, Value.IsBlank, or_iff_left htext]
      simp only [hblank, htext, false_implies]
  · rintro rfl
    have hempty : (Value.text "").isEmpty = false := rfl
    rw [hempty, if_neg Bool.false_ne_true, hzero]
    exact ⟨rfl, offers_of_eval first hfirst⟩

def widthOrText : Expr :=
  call "IF" [binary .greater (field "largeur") (number 0), field "largeur", text ""]

theorem orElse_defaults_iff_widthOrText :
    ((call "nvl" [widthOrText, number 140]).eval { id := "r" } ∅ =
        .ok (.number (if (Value.text "").IsBlank then .number 140 else .text "" : Value).amount) ↔
      ((Value.text "") = .text "" → (Value.number 140).amount = 0)) ∧
    ((Value.text "") = .text "" →
      (call "nvl" [widthOrText, number 140]).eval { id := "r" } ∅ = .ok (.number 0) ∧
        widthOrText.Offers "") ∧
    (call "nvl" [widthOrText]).eval { id := "r" } ∅ =
      (call "nvl" [widthOrText, number 0]).eval { id := "r" } ∅ :=
  orElse_defaults_iff (by decide) (by decide +kernel) (by decide +kernel)

/-- The empty text is blank, and the default is not used for it. -/
theorem emptyText_without_default :
    (text "").eval { id := "r" } ∅ = .ok (.text "") ∧ (Value.text "").IsBlank ∧
      (number 5).eval { id := "r" } ∅ = .ok (.number 5) ∧
      (call "NVL" [text "", number 5]).eval { id := "r" } ∅ ≠
        .ok (.number (Value.number 5).amount) ∧
      evaluateText "NVL(\"\", 5)" { id := "r" } ∅ = .ok (.number 0) := by
  decide +kernel

end Expr

end Formula

end Drapery
