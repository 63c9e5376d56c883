import Mathlib.Data.List.Basic
import Drapery.Formula.Parser

/-!
# The grammar of formulas

`Phrase stratum tokens expr` says that the tokens write the expression as a
phrase of the stratum.  From the loosest, the strata are those of `||`, of `&&`,
of the comparisons, of `+` and `-`, and of `*` and `/`; an operator joins a
phrase of its own stratum on the left with one of the next on the right, so that
operators of one stratum group to the left.  The tightest stratum is that of
operands.

Whatever the parser reads off the front of a list of tokens is a phrase of the
tokens that it takes.
-/

namespace Drapery.Formula

/-! ## Operators -/

def BinaryOp.token : BinaryOp → Token
  | add => .plus
  | subtract => .minus
  | multiply => .star
  | divide => .slash
  | equals => .equals
  | notEquals => .notEquals
  | less => .less
  | lessEquals => .lessEquals
  | greater => .greater
  | greaterEquals => .greaterEquals
  | and => .and
  | or => .or

def BinaryOp.stratum : BinaryOp → Nat
  | or => 0
  | and => 1
  | equals | notEquals | less | lessEquals | greater | greaterEquals => 2
  | add | subtract => 3
  | multiply | divide => 4

def operandStratum : Nat := 5

def UnaryOp.token : UnaryOp → Token
  | negate => .minus
  | plus => .plus
  | not => .bang

theorem Token.binaryOp?_eq_some_iff {token : Token} {op : BinaryOp} :
    token.binaryOp? = some op ↔ token = op.token := by
  cases token <;> cases op <;> simp [Token.binaryOp?, BinaryOp.token]

theorem Token.unaryOp?_eq_some_iff {token : Token} {op : UnaryOp} :
    token.unaryOp? = some op ↔ token = op.token := by
  cases token <;> cases op <;> simp [Token.unaryOp?, UnaryOp.token]

@[simp] theorem BinaryOp.binaryOp?_token (op : BinaryOp) : op.token.binaryOp? = some op :=
  Token.binaryOp?_eq_some_iff.2 rfl

theorem BinaryOp.token_injective {a b : BinaryOp} (h : a.token = b.token) : a = b := by
  rw [← Option.some.injEq, ← a.binaryOp?_token, h, b.binaryOp?_token]

theorem BinaryOp.precedence_lt_iff {a b : BinaryOp} :
    a.precedence < b.precedence ↔ a.stratum < b.stratum := by
  cases a <;> cases b <;> decide

theorem BinaryOp.stratum_lt_operandStratum (op : BinaryOp) : op.stratum < operandStratum := by
  cases op <;> decide

/-- The operators that bind at least as tightly as `least` are those of the stratum and of the
tighter ones. -/
structure Fits (least stratum : Nat) : Prop where
  bounded : stratum ≤ operandStratum
  iff (op : BinaryOp) : least ≤ op.precedence ↔ stratum ≤ op.stratum

theorem fits_zero : Fits 0 0 := by
  constructor <;> simp

theorem fits_precedence_succ (op : BinaryOp) : Fits (op.precedence + 1) (op.stratum + 1) where
  bounded := op.stratum_lt_operandStratum
  iff other := by rw [Nat.succ_le_iff, Nat.succ_le_iff, BinaryOp.precedence_lt_iff]

theorem fits_unaryPrecedence : Fits unaryPrecedence operandStratum where
  bounded := Nat.le_refl _
  iff op := by cases op <;> decide

/-! ## Phrases -/

inductive Named : String → Expr → Prop
  | truth {word : String} (value : Bool)
      (hword : Text.sameIgnoringAsciiCase word (if value then "true" else "false")) :
      Named word (.boolean value)
  | param {word : String} {marker param : List Char} (hword : word.toList = marker ++ param)
      (hmarker : marker.map Char.toLower = "param.".toList) (hparam : param ≠ []) :
      Named word (.param (String.ofList param))
  | cell {word : String} (htrue : Text.sameIgnoringAsciiCase word "true" = false)
      (hfalse : Text.sameIgnoringAsciiCase word "false" = false)
      (hparam : ∀ marker param, word.toList = marker ++ param →
        marker.map Char.toLower ≠ "param.".toList) :
      Named word (.name word)

inductive Single : Token → Expr → Prop
  | number (value : Float) : Single (.number value) (.number value)
  | text (value : String) : Single (.text value) (.text value)
  | field (key : String) : Single (.field key) (.field key)
  | name {word : String} {expr : Expr} (h : Named word expr) : Single (.name word) expr

inductive Separated : List (List Token) → List Token → Prop
  | nil : Separated [] []
  | single (piece : List Token) : Separated [piece] piece
  | cons {piece : List Token} {separator : Token} {pieces : List (List Token)}
      {tokens : List Token} (hseparator : separator = .comma ∨ separator = .semicolon)
      (hpieces : pieces ≠ []) (h : Separated pieces tokens) :
      Separated (piece :: pieces) (piece ++ separator :: tokens)

inductive Phrase : Nat → List Token → Expr → Prop
  | tighter {stratum : Nat} {tokens : List Token} {expr : Expr}
      (h : Phrase (stratum + 1) tokens expr) : Phrase stratum tokens expr
  | binary {op : BinaryOp} {left right : List Token} {leftExpr rightExpr : Expr}
      (hleft : Phrase op.stratum left leftExpr)
      (hright : Phrase (op.stratum + 1) right rightExpr) :
      Phrase op.stratum (left ++ op.token :: right) (.binary op leftExpr rightExpr)
  | unary {op : UnaryOp} {tokens : List Token} {expr : Expr}
      (h : Phrase operandStratum tokens expr) :
      Phrase operandStratum (op.token :: tokens) (.unary op expr)
  | parens {tokens : List Token} {expr : Expr} (h : Phrase 0 tokens expr) :
      Phrase operandStratum (.openParen :: tokens ++ [.closeParen]) expr
  | call {function : String} {args : List (List Token × Expr)} {tokens : List Token}
      (hargs : ∀ arg ∈ args, Phrase 0 arg.1 arg.2)
      (htokens : Separated (args.map (·.1)) tokens) :
      Phrase operandStratum (.name function :: .openParen :: tokens ++ [.closeParen])
        (.call function (args.map (·.2)))
  | single {token : Token} {expr : Expr} (h : Single token expr) :
      Phrase operandStratum [token] expr

theorem Phrase.mono {stratum looser : Nat} {tokens : List Token} {expr : Expr}
    (hle : looser ≤ stratum) (h : Phrase stratum tokens expr) : Phrase looser tokens expr := by
  obtain ⟨steps, rfl⟩ := Nat.exists_eq_add_of_le hle
  induction steps with
  | zero => exact h
  | succ steps ih => exact ih (Nat.le_add_right _ _) (.tighter h)

/-! ## What is read is a phrase -/

namespace Parser

def Stops (least : Nat) (rest : List Token) : Prop :=
  ∀ op : BinaryOp, rest.head? = some op.token → op.precedence < least

/-- Reading with operators from `least` on takes a phrase, and all the operators that go with it. -/
def ReadsPhrases (inner : Nat → List Token → Except Rejection (Taken Expr)) : Prop :=
  ∀ {least stratum : Nat} {tokens rest : List Token} {expr : Expr}, Fits least stratum →
    inner least tokens = .ok (expr, rest) →
      ∃ taken, tokens = taken ++ rest ∧ Phrase stratum taken expr ∧ Stops least rest

theorem chain_eq_ok {room least : Nat} {left expr : Expr} {tokens rest : List Token}
    (h : chain room least left tokens = .ok (expr, rest)) :
    left = expr ∧ tokens = rest ∧ Stops least rest ∨
      ∃ less op right tail after, room = less + 1 ∧ tokens = BinaryOp.token op :: tail ∧
        least ≤ op.precedence ∧ expression less (op.precedence + 1) tail = .ok (right, after) ∧
        chain less least (.binary op left right) after = .ok (expr, rest) := by
  cases tokens with
  | nil =>
      rw [chain] at h
      cases h
      exact .inl ⟨rfl, rfl, by simp [Stops]⟩
  | cons token tail =>
      rw [chain] at h
      cases hop : token.binaryOp? with
      | none =>
          simp only [hop] at h
          cases h
          refine .inl ⟨rfl, rfl, fun op hhead => ?_⟩
          rw [Token.binaryOp?_eq_some_iff.2 (Option.some.inj hhead)] at hop
          cases hop
      | some op =>
          obtain rfl := Token.binaryOp?_eq_some_iff.1 hop
          simp only [hop] at h
          split at h
          · rename_i hlt
            cases h
            refine .inl ⟨rfl, rfl, fun other hhead => ?_⟩
            rwa [← BinaryOp.token_injective (Option.some.inj hhead)]
          · rename_i hloose
            cases room with
            | zero => cases h
            | succ less =>
                obtain ⟨⟨right, after⟩, hright, hrest⟩ := Except.exists_of_bind_eq_ok h
                exact .inr ⟨less, op, right, tail, after, rfl, rfl, Nat.not_lt.1 hloose, hright,
                  hrest⟩

theorem close_eq_ok {tokens rest : List Token} (h : close tokens = .ok rest) :
    tokens = .closeParen :: rest := by
  unfold close at h
  split at h <;> cases h
  rfl

theorem named_of_nameExpr {word : String} {rest : List Token} {expr : Expr}
    (h : nameExpr word rest = .ok expr) : Named word expr := by
  unfold nameExpr at h
  split at h
  · rename_i htrue
    cases h
    exact .truth true htrue
  · rename_i htrue
    split at h
    · rename_i hfalse
      cases h
      exact .truth false hfalse
    · rename_i hfalse
      split at h
      · rename_i hmarker
        by_cases hparam : word.toList.drop paramMarker.length = []
        · simp [hparam] at h
        · simp only [hparam, if_false, Except.ok.injEq] at h
          rw [← h]
          exact .param (List.take_append_drop _ _).symm hmarker hparam
      · rename_i hmarker
        cases h
        refine .cell (by simpa using htrue) (by simpa using hfalse) ?_
        intro marker param hword hlower
        have hlength : paramMarker.length = marker.length :=
          (congrArg List.length hlower).symm.trans (List.length_map Char.toLower)
        apply hmarker
        rw [hword, hlength, List.take_left, hlower]
        rfl

theorem primary_eq_ok {inner : Nat → List Token → Except Rejection (Taken Expr)}
    {tokens rest : List Token} {expr : Expr} (h : primary inner tokens = .ok (expr, rest)) :
    (∃ token, tokens = token :: rest ∧ Single token expr) ∨
      (∃ function args after, tokens = .name function :: .openParen :: after ∧
        argumentList (inner 0) after = .ok (args, rest) ∧ expr = .call function args) ∨
      (∃ after, tokens = .openParen :: after ∧ inner 0 after = .ok (expr, .closeParen :: rest)) ∨
      ∃ op operand after, tokens = UnaryOp.token op :: after ∧
        inner unaryPrecedence after = .ok (operand, rest) ∧ expr = .unary op operand := by
  unfold primary at h
  split at h
  · cases h
  · cases h
    exact .inl ⟨_, rfl, .number _⟩
  · cases h
    exact .inl ⟨_, rfl, .text _⟩
  · cases h
    exact .inl ⟨_, rfl, .field _⟩
  · rename_i function after
    obtain ⟨⟨args, tail⟩, hargs, heq⟩ := Except.exists_of_bind_eq_ok h
    cases heq
    exact .inr (.inl ⟨function, args, after, rfl, hargs, rfl⟩)
  · obtain ⟨found, hfound, heq⟩ := Except.exists_of_bind_eq_ok h
    cases heq
    exact .inl ⟨_, rfl, .name (named_of_nameExpr hfound)⟩
  · rename_i after
    obtain ⟨⟨found, tail⟩, hfound, hnext⟩ := Except.exists_of_bind_eq_ok h
    obtain ⟨tail', hclose, heq⟩ := Except.exists_of_bind_eq_ok hnext
    cases heq
    exact .inr (.inr (.inl ⟨after, rfl, by rw [hfound, close_eq_ok hclose]⟩))
  · split at h
    · rename_i after _ _ op hop
      obtain ⟨⟨operand, tail⟩, hoperand, heq⟩ := Except.exists_of_bind_eq_ok h
      cases heq
      obtain rfl := Token.unaryOp?_eq_some_iff.1 hop
      exact .inr (.inr (.inr ⟨op, operand, _, rfl, hoperand, rfl⟩))
    · cases h

theorem separated_of_arguments {operand : List Token → Except Rejection (Taken Expr)}
    {reads : List Token → Expr → Prop}
    (hoperand : ∀ {tokens rest : List Token} {expr : Expr}, operand tokens = .ok (expr, rest) →
      ∃ taken, tokens = taken ++ rest ∧ reads taken expr)
    {count : Nat} {tokens rest : List Token} {exprs : List Expr}
    (h : arguments operand count tokens = .ok (exprs, rest)) :
    ∃ (args : List (List Token × Expr)) (taken : List Token), args ≠ [] ∧
      tokens = taken ++ rest ∧ args.map (·.2) = exprs ∧
      (∀ arg ∈ args, reads arg.1 arg.2) ∧ Separated (args.map (·.1)) taken := by
  induction count generalizing tokens exprs with
  | zero => cases h
  | succ count ih =>
      rw [arguments] at h
      obtain ⟨⟨first, tail⟩, hfirst, hnext⟩ := Except.exists_of_bind_eq_ok h
      obtain ⟨taken, rfl, hreads⟩ := hoperand hfirst
      have hone : ∃ (args : List (List Token × Expr)) (single : List Token), args ≠ [] ∧
          taken ++ tail = single ++ tail ∧ args.map (·.2) = [first] ∧
          (∀ arg ∈ args, reads arg.1 arg.2) ∧ Separated (args.map (·.1)) single :=
        ⟨[(taken, first)], taken, by simp, rfl, rfl, by simpa using hreads, .single taken⟩
      dsimp only at hnext
      split at hnext
      · cases hnext
        exact hone
      · rename_i token others
        split at hnext
        · rename_i hseparator
          obtain ⟨⟨more, after⟩, hmore, heq⟩ := Except.exists_of_bind_eq_ok hnext
          cases heq
          obtain ⟨args, inner, hne, rfl, rfl, hargs, hinner⟩ := ih hmore
          refine ⟨(taken, first) :: args, taken ++ token :: inner, by simp, by simp, rfl, ?_, ?_⟩
          · exact List.forall_mem_cons.2 ⟨hreads, hargs⟩
          · refine .cons ?_ (by simpa using hne) hinner
            revert hseparator
            cases token <;> simp [Token.isSeparator]
        · cases hnext
          exact hone

theorem separated_of_argumentList {operand : List Token → Except Rejection (Taken Expr)}
    {reads : List Token → Expr → Prop}
    (hoperand : ∀ {tokens rest : List Token} {expr : Expr}, operand tokens = .ok (expr, rest) →
      ∃ taken, tokens = taken ++ rest ∧ reads taken expr)
    {tokens rest : List Token} {exprs : List Expr}
    (h : argumentList operand tokens = .ok (exprs, rest)) :
    ∃ (args : List (List Token × Expr)) (taken : List Token),
      tokens = taken ++ .closeParen :: rest ∧ args.map (·.2) = exprs ∧
      (∀ arg ∈ args, reads arg.1 arg.2) ∧ Separated (args.map (·.1)) taken := by
  unfold argumentList at h
  split at h
  · cases h
    exact ⟨[], [], rfl, rfl, by simp, .nil⟩
  · obtain ⟨⟨found, tail⟩, hfound, hnext⟩ := Except.exists_of_bind_eq_ok h
    obtain ⟨after, hclose, heq⟩ := Except.exists_of_bind_eq_ok hnext
    cases heq
    obtain ⟨args, taken, -, rfl, hexprs, hargs, hseparated⟩ :=
      separated_of_arguments hoperand hfound
    exact ⟨args, taken, by rw [close_eq_ok hclose], hexprs, hargs, hseparated⟩

theorem phrase_of_primary {inner : Nat → List Token → Except Rejection (Taken Expr)}
    (hinner : ReadsPhrases inner) {tokens rest : List Token} {expr : Expr}
    (h : primary inner tokens = .ok (expr, rest)) :
    ∃ taken, tokens = taken ++ rest ∧ Phrase operandStratum taken expr := by
  have hloosest : ∀ {tokens rest : List Token} {expr : Expr}, inner 0 tokens = .ok (expr, rest) →
      ∃ taken, tokens = taken ++ rest ∧ Phrase 0 taken expr := by
    intro tokens rest expr h
    obtain ⟨taken, heq, hphrase, -⟩ := hinner fits_zero h
    exact ⟨taken, heq, hphrase⟩
  rcases primary_eq_ok h with ⟨token, rfl, hsingle⟩ | ⟨function, exprs, after, rfl, hexprs, rfl⟩ |
    ⟨after, rfl, hinside⟩ | ⟨op, operand, after, rfl, hoperand, rfl⟩
  · exact ⟨[token], rfl, .single hsingle⟩
  · obtain ⟨args, taken, rfl, rfl, hargs, hseparated⟩ := separated_of_argumentList hloosest hexprs
    exact ⟨.name function :: .openParen :: taken ++ [.closeParen], by simp, .call hargs hseparated⟩
  · obtain ⟨taken, rfl, hphrase⟩ := hloosest hinside
    exact ⟨.openParen :: taken ++ [.closeParen], by simp, .parens hphrase⟩
  · obtain ⟨taken, rfl, hphrase, -⟩ := hinner fits_unaryPrecedence hoperand
    exact ⟨op.token :: taken, rfl, .unary hphrase⟩

/-- A phrase goes on with the operators from `least` on behind it, as long as the first of them
does not bind more tightly than the phrase. -/
def ExtendsPhrases (next : Nat → Expr → List Token → Except Rejection (Taken Expr)) : Prop :=
  ∀ {least stratum tighter : Nat} {before tokens rest : List Token} {left expr : Expr},
    Fits least stratum → stratum ≤ tighter → Phrase tighter before left →
      (∀ op : BinaryOp, tokens.head? = some op.token → op.stratum ≤ tighter) →
        next least left tokens = .ok (expr, rest) →
          ∃ taken, tokens = taken ++ rest ∧ Phrase stratum (before ++ taken) expr ∧ Stops least rest

theorem extendsPhrases_chain {room : Nat}
    (ih : ∀ less, room = less + 1 → ReadsPhrases (expression less) ∧ ExtendsPhrases (chain less)) :
    ExtendsPhrases (chain room) := by
  intro least stratum tighter before tokens rest left expr hfits hle hleft hnext h
  rcases chain_eq_ok h with ⟨rfl, rfl, hstops⟩ | ⟨less, op, right, tail, after, rfl, rfl, hloose,
    hright, hrest⟩
  · exact ⟨[], rfl, by simpa using hleft.mono hle, hstops⟩
  · obtain ⟨hexpression, hchain⟩ := ih less rfl
    obtain ⟨inner, rfl, hinner, hstops⟩ := hexpression (fits_precedence_succ op) hright
    have hjoined : Phrase op.stratum (before ++ op.token :: inner) (.binary op left right) :=
      .binary (hleft.mono (hnext op rfl)) hinner
    -- operators that bind more tightly were taken with the right operand
    have hfollow : ∀ other : BinaryOp, after.head? = some other.token →
        other.stratum ≤ op.stratum := by
      intro other hhead
      have := hstops other hhead
      rw [← Nat.not_lt, ← BinaryOp.precedence_lt_iff]
      omega
    obtain ⟨taken, rfl, hphrase, hend⟩ :=
      hchain hfits ((hfits.iff op).1 hloose) hjoined hfollow hrest
    exact ⟨op.token :: inner ++ taken, by simp, by simpa using hphrase, hend⟩

theorem readsPhrases_expression_and_extendsPhrases_chain (room : Nat) :
    ReadsPhrases (expression room) ∧ ExtendsPhrases (chain room) := by
  induction room with
  | zero =>
      refine ⟨fun _ h => ?_, extendsPhrases_chain (by simp)⟩
      rw [expression] at h
      cases h
  | succ room ih =>
      refine ⟨fun hfits h => ?_, extendsPhrases_chain fun less hless => ?_⟩
      · rw [expression] at h
        obtain ⟨⟨left, tail⟩, hprimary, hchain⟩ := Except.exists_of_bind_eq_ok h
        obtain ⟨before, rfl, hbefore⟩ := phrase_of_primary ih.1 hprimary
        obtain ⟨taken, rfl, hphrase, hstops⟩ := ih.2 hfits hfits.bounded hbefore
          (fun op _ => Nat.le_of_lt op.stratum_lt_operandStratum) hchain
        exact ⟨before ++ taken, by simp, hphrase, hstops⟩
      · cases hless
        exact ih

theorem readsPhrases_expression (room : Nat) : ReadsPhrases (expression room) :=
  (readsPhrases_expression_and_extendsPhrases_chain room).1

theorem whole_eq_ok_iff {tokens : List Token} {expr : Expr} :
    whole tokens = .ok expr ↔ expression nestingLimit 0 tokens = .ok (expr, []) := by
  rw [whole]
  constructor
  · intro h
    obtain ⟨⟨found, rest⟩, hfound, hnext⟩ := Except.exists_of_bind_eq_ok h
    cases rest with
    | nil =>
        cases hnext
        exact hfound
    | cons token rest => cases hnext
  · intro h
    rw [h]
    rfl

theorem phrase_of_whole {tokens : List Token} {expr : Expr} (h : whole tokens = .ok expr) :
    Phrase 0 tokens expr := by
  obtain ⟨taken, rfl, hphrase, -⟩ :=
    readsPhrases_expression nestingLimit fits_zero (whole_eq_ok_iff.1 h)
  simpa using hphrase

end Parser

end Drapery.Formula
