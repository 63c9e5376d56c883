import Drapery.Proofs.Grammar
import Drapery.Proofs.Lexicon

/-!
# What the parser accepts

The parser gives an expression for a text only when the tokens of the text are a
phrase that writes the expression, and it gives that expression for every such
text, unless the nesting limit strikes.  A level of nesting takes at least one
token, so that the limit never strikes a phrase with as many tokens as levels;
hence no text writes two expressions.
-/

namespace Drapery.Formula

theorem Separated.eq_append {piece tokens : List Token} {pieces : List (List Token)}
    (h : Separated (piece :: pieces) tokens) : ∃ more, tokens = piece ++ more := by
  cases h with
  | single => exact ⟨[], by simp⟩
  | cons => exact ⟨_, rfl⟩

namespace Parser

/-! ## Outcomes up to the nesting limit -/

/-- The value, or a rejection for nesting too deep, which then takes `short`. -/
def Gives {α : Type} (short : Prop) (outcome : Except Rejection α) (value : α) : Prop :=
  outcome = .ok value ∨ short ∧ ∃ rest, outcome = .error ⟨.tooDeep, rest⟩

namespace Gives

variable {α β : Type} {short longer : Prop} {outcome : Except Rejection α} {value : α}

theorem ok : Gives short (.ok value) value := .inl rfl

theorem mono (himp : short → longer) (h : Gives short outcome value) :
    Gives longer outcome value :=
  h.imp_right (.imp_left himp)

theorem bind {next : α → Except Rejection β} {result : β} (h : Gives short outcome value)
    (hnext : Gives short (next value) result) : Gives short (outcome >>= next) result := by
  rcases h with rfl | ⟨hshort, rest, rfl⟩
  · exact hnext
  · exact .inr ⟨hshort, rest, rfl⟩

end Gives

/-! ## Phrases at the front of the tokens -/

/-- What may come after a phrase of the stratum: no argument list, and no operator that binds more
tightly. -/
def Follows (stratum : Nat) (rest : List Token) : Prop :=
  ∀ token ∈ rest.head?, token ≠ .openParen ∧
    ∀ op : BinaryOp, token = op.token → op.stratum ≤ stratum

theorem Follows.mono {stratum tighter : Nat} {rest : List Token} (hle : stratum ≤ tighter)
    (h : Follows stratum rest) : Follows tighter rest := by
  intro token htoken
  obtain ⟨hparen, hop⟩ := h token htoken
  exact ⟨hparen, fun op heq => Nat.le_trans (hop op heq) hle⟩

theorem follows_of_not_operator {stratum : Nat} {token : Token} (rest : List Token)
    (hparen : token ≠ .openParen) (hop : token.binaryOp? = none) :
    Follows stratum (token :: rest) := by
  intro other hother
  cases hother
  refine ⟨hparen, fun op heq => ?_⟩
  rw [Token.binaryOp?_eq_some_iff.2 heq] at hop
  cases hop

theorem follows_operator (op : BinaryOp) (rest : List Token) :
    Follows op.stratum (op.token :: rest) := by
  intro token htoken
  cases htoken
  refine ⟨by cases op <;> simp [BinaryOp.token], fun other heq => ?_⟩
  rw [BinaryOp.token_injective heq]

theorem chain_of_stops {room least : Nat} {expr : Expr} {rest : List Token}
    (h : Stops least rest) : chain room least expr rest = .ok (expr, rest) := by
  cases rest with
  | nil => rw [chain]
  | cons token tail =>
      rw [chain]
      cases hop : token.binaryOp? with
      | none => rfl
      | some op =>
          have hlt := h op (by rw [Token.binaryOp?_eq_some_iff.1 hop]; rfl)
          simp [hlt]

/-- Reading the tokens first is going on behind the expression, with a level less for each of
the `spine` operators that the tokens chain. -/
def ReadAs (stratum : Nat) (tokens : List Token) (expr : Expr) : Prop :=
  ∃ spine < tokens.length, ∀ room least rest,
    (∀ op : BinaryOp, stratum ≤ op.stratum → least ≤ op.precedence) → Follows stratum rest →
      spine ≤ room ∧ expression (room + 1) least (tokens ++ rest) =
          chain (room - spine) least expr rest ∨
        room + 1 < tokens.length ∧
          ∃ left, expression (room + 1) least (tokens ++ rest) = .error ⟨.tooDeep, left⟩

theorem ReadAs.gives {stratum room least : Nat} {tokens rest : List Token} {expr : Expr}
    (h : ReadAs stratum tokens expr)
    (hleast : ∀ op : BinaryOp, stratum ≤ op.stratum → least ≤ op.precedence)
    (hfollows : Follows stratum rest) (hstops : Stops least rest) :
    Gives (room < tokens.length) (expression room least (tokens ++ rest)) (expr, rest) := by
  obtain ⟨spine, hspine, hread⟩ := h
  cases room with
  | zero =>
      rw [expression]
      exact .inr ⟨by omega, _, rfl⟩
  | succ room =>
      rcases hread room least rest hleast hfollows with ⟨-, heq⟩ | hshort
      · left
        rw [heq, chain_of_stops hstops]
      · exact .inr hshort

theorem readAs_of_primary {tokens : List Token} {expr : Expr} (hnonempty : tokens ≠ [])
    (h : ∀ room rest, Follows operandStratum rest →
      Gives (room + 1 < tokens.length) (primary (expression room) (tokens ++ rest)) (expr, rest)) :
    ReadAs operandStratum tokens expr := by
  refine ⟨0, List.length_pos_iff.2 hnonempty, fun room least rest _ hfollows => ?_⟩
  rw [expression]
  rcases h room rest hfollows with heq | ⟨hshort, left, heq⟩
  · left
    rw [heq]
    exact ⟨Nat.zero_le _, rfl⟩
  · right
    rw [heq]
    exact ⟨hshort, left, rfl⟩

theorem readAs_binary {op : BinaryOp} {left right : List Token} {leftExpr rightExpr : Expr}
    (hleft : ReadAs op.stratum left leftExpr) (hright : ReadAs (op.stratum + 1) right rightExpr) :
    ReadAs op.stratum (left ++ op.token :: right) (.binary op leftExpr rightExpr) := by
  obtain ⟨spine, hspine, hread⟩ := hleft
  refine ⟨spine + 1, by simp; omega, fun room least rest hleast hfollows => ?_⟩
  have hstops : Stops (op.precedence + 1) rest := by
    intro other hhead
    have hother := (hfollows other.token hhead).2 other rfl
    rw [← Nat.not_lt, ← BinaryOp.precedence_lt_iff] at hother
    omega
  rw [List.append_assoc, List.cons_append]
  rcases hread room least (op.token :: (right ++ rest)) hleast (follows_operator op _) with
    ⟨hle, heq⟩ | ⟨hshort, rejected, heq⟩
  · have hloose : ¬ op.precedence < least := Nat.not_lt.2 (hleast op le_rfl)
    rw [heq, chain, op.binaryOp?_token]
    simp only [hloose, if_false]
    cases hroom : room - spine with
    | zero => exact .inr ⟨by simp; omega, right ++ rest, rfl⟩
    | succ less =>
        -- the level of the operator is gone when its right operand is read
        have hgives : Gives (less < right.length)
            (expression less (op.precedence + 1) (right ++ rest)) (rightExpr, rest) :=
          hright.gives (fun other => ((fits_precedence_succ op).iff other).2)
            (hfollows.mono (Nat.le_succ _)) hstops
        rcases hgives with heq | ⟨hshort, rejected, heq⟩
        · left
          refine ⟨by omega, ?_⟩
          have hless : room - (spine + 1) = less := by omega
          rw [hless]
          simp only [heq]
          rfl
        · right
          refine ⟨by simp; omega, rejected, ?_⟩
          simp only [heq]
          rfl
  · right
    exact ⟨by simp; omega, rejected, heq⟩

theorem primary_unary (inner : Nat → List Token → Except Rejection (Taken Expr)) (op : UnaryOp)
    (tokens : List Token) :
    primary inner (op.token :: tokens) = (do
      let (operand, rest) ← inner unaryPrecedence tokens
      .ok (.unary op operand, rest)) := by
  cases op <;> rfl

theorem readAs_unary {op : UnaryOp} {tokens : List Token} {expr : Expr}
    (h : ReadAs operandStratum tokens expr) :
    ReadAs operandStratum (op.token :: tokens) (.unary op expr) := by
  refine readAs_of_primary (by simp) fun room rest hfollows => ?_
  have hstops : Stops unaryPrecedence rest := by
    intro other _
    cases other <;> decide
  have hoperand : Gives (room < tokens.length) (expression room unaryPrecedence (tokens ++ rest))
      (expr, rest) :=
    h.gives (fun other => (fits_unaryPrecedence.iff other).2) hfollows hstops
  rw [List.cons_append, primary_unary]
  exact (hoperand.mono (by simp)).bind .ok

theorem ReadAs.gives_before {tokens : List Token} {expr : Expr} (h : ReadAs 0 tokens expr)
    (room : Nat) {token : Token} (rest : List Token) (hparen : token ≠ .openParen)
    (hop : token.binaryOp? = none) :
    Gives (room < tokens.length) (expression room 0 (tokens ++ token :: rest))
      (expr, token :: rest) := by
  refine h.gives (by simp) (follows_of_not_operator rest hparen hop) fun op hhead => ?_
  rw [Token.binaryOp?_eq_some_iff.2 (Option.some.inj hhead)] at hop
  cases hop

theorem readAs_parens {tokens : List Token} {expr : Expr} (h : ReadAs 0 tokens expr) :
    ReadAs operandStratum (.openParen :: tokens ++ [.closeParen]) expr := by
  refine readAs_of_primary (by simp) fun room rest _ => ?_
  have hinner : Gives (room < tokens.length) (expression room 0 (tokens ++ .closeParen :: rest))
      (expr, .closeParen :: rest) :=
    h.gives_before room rest (by simp) rfl
  have heq : Token.openParen :: tokens ++ [.closeParen] ++ rest =
      .openParen :: (tokens ++ .closeParen :: rest) := by simp
  rw [heq, primary]
  exact (hinner.mono (by simp; omega)).bind .ok

theorem nameExpr_of_named {word : String} {expr : Expr} (rest : List Token)
    (h : Named word expr) : nameExpr word rest = .ok expr := by
  cases h with
  | truth value hword =>
      cases value with
      | true => simp [nameExpr, show Text.sameIgnoringAsciiCase word "true" from hword]
      | false =>
          have hfalse : word.toList.map Char.toLower = "false".toList.map Char.toLower := by
            simpa [Text.sameIgnoringAsciiCase] using hword
          have htrue : Text.sameIgnoringAsciiCase word "true" = false := by
            rw [Text.sameIgnoringAsciiCase, hfalse]
            decide
          simp [nameExpr, htrue, show Text.sameIgnoringAsciiCase word "false" from hword]
  | @param marker param hword hmarker hparam =>
      have hlength : marker.length = paramMarker.length := by
        rw [← List.length_map Char.toLower, hmarker]
        rfl
      have hother : ∀ other : String, other.toList.length ≤ marker.length →
          Text.sameIgnoringAsciiCase word other = false := by
        intro other hle
        rw [Text.sameIgnoringAsciiCase, beq_eq_false_iff_ne]
        intro heq
        have hlengths := congrArg List.length heq
        have := List.length_pos_iff.2 hparam
        simp only [List.length_map, hword, List.length_append] at hlengths
        omega
      have htake : word.toList.take paramMarker.length = marker := by
        rw [hword, ← hlength, List.take_left]
      have hdrop : word.toList.drop paramMarker.length = param := by
        rw [hword, ← hlength, List.drop_left]
      have hlower : (word.toList.take paramMarker.length).map Char.toLower = paramMarker := by
        rw [htake, hmarker]
        rfl
      simp only [nameExpr, hlower, hdrop, hparam, if_true, if_false,
        hother "true" (by rw [hlength]; decide), hother "false" (by rw [hlength]; decide),
        Bool.false_eq_true]
  | cell htrue hfalse hparam =>
      have hmarker : (word.toList.take paramMarker.length).map Char.toLower ≠ paramMarker :=
        hparam _ _ (List.take_append_drop _ _).symm
      rw [nameExpr, if_neg (by simp [htrue]), if_neg (by simp [hfalse]), if_neg hmarker]

theorem primary_name {word : String} {expr : Expr} {rest : List Token}
    (inner : Nat → List Token → Except Rejection (Taken Expr)) (h : Named word expr)
    (hparen : rest.head? ≠ some .openParen) :
    primary inner (.name word :: rest) = .ok (expr, rest) := by
  rw [primary, nameExpr_of_named rest h]
  · rfl
  · rintro tail rfl
    exact hparen rfl

theorem readAs_single {token : Token} {expr : Expr} (h : Single token expr) :
    ReadAs operandStratum [token] expr := by
  refine readAs_of_primary (by simp) fun room rest hfollows => .inl ?_
  cases h with
  | number value => rfl
  | text value => rfl
  | field key => rfl
  | name h => exact primary_name _ h fun hhead => (hfollows _ hhead).1 rfl

theorem gives_arguments {operand : List Token → Except Rejection (Taken Expr)} {room : Nat}
    {args : List (List Token × Expr)} {tokens : List Token} {count : Nat}
    (hoperand : ∀ arg ∈ args, ∀ token rest, token ≠ .openParen → token.binaryOp? = none →
      Gives (room < arg.1.length) (operand (arg.1 ++ token :: rest)) (arg.2, token :: rest))
    (h : Separated (args.map (·.1)) tokens) (hnonempty : args ≠ []) (hcount : tokens.length < count)
    (rest : List Token) :
    Gives (room < tokens.length) (arguments operand count (tokens ++ .closeParen :: rest))
      (args.map (·.2), .closeParen :: rest) := by
  induction args generalizing tokens count with
  | nil => cases hnonempty rfl
  | cons arg others ih =>
      obtain ⟨hfirst, hothers⟩ := List.forall_mem_cons.1 hoperand
      obtain ⟨less, rfl⟩ : ∃ less, count = less + 1 := ⟨count - 1, by omega⟩
      rw [arguments]
      rw [List.map_cons] at h
      generalize hpieces : others.map (·.1) = pieces at h
      cases h with
      | single =>
          obtain rfl := List.map_eq_nil_iff.1 hpieces
          exact (hfirst .closeParen rest (by simp) rfl).bind .ok
      | @cons _ separator _ after hseparator hne hafter =>
          subst hpieces
          have hnot : separator ≠ .openParen ∧ separator.binaryOp? = none ∧
              separator.isSeparator := by
            rcases hseparator with rfl | rfl <;> simp [Token.binaryOp?, Token.isSeparator]
          obtain ⟨hparen, hop, hisSeparator⟩ := hnot
          have hargument := hfirst separator (after ++ .closeParen :: rest) hparen hop
          have hmore : Gives (room < after.length)
              (arguments operand less (after ++ .closeParen :: rest))
              (others.map (·.2), .closeParen :: rest) :=
            ih hothers hafter (by simpa using hne) (by simp at hcount; omega)
          rw [List.append_assoc, List.cons_append]
          refine (hargument.mono (by simp; omega)).bind ?_
          simp only [hisSeparator, if_true]
          exact (hmore.mono (by simp; omega)).bind .ok

theorem argumentList_of_head? {operand : List Token → Except Rejection (Taken Expr)}
    {tokens : List Token} (h : tokens.head? ≠ some .closeParen) :
    argumentList operand tokens = (do
      let (args, rest) ← arguments operand (tokens.length + 1) tokens
      let rest ← close rest
      .ok (args, rest)) := by
  rw [argumentList]
  rintro tail rfl
  exact h rfl

theorem readAs_call {function : String} {args : List (List Token × Expr)} {tokens : List Token}
    (hargs : ∀ arg ∈ args, ReadAs 0 arg.1 arg.2)
    (hstarts : ∀ arg ∈ args, ∃ token, arg.1.head? = some token ∧ token ≠ .closeParen)
    (htokens : Separated (args.map (·.1)) tokens) :
    ReadAs operandStratum (.name function :: .openParen :: tokens ++ [.closeParen])
      (.call function (args.map (·.2))) := by
  refine readAs_of_primary (by simp) fun room rest _ => ?_
  have heq : Token.name function :: .openParen :: tokens ++ [.closeParen] ++ rest =
      .name function :: .openParen :: (tokens ++ .closeParen :: rest) := by simp
  rw [heq, primary]
  cases args with
  | nil =>
      cases htokens
      exact .ok
  | cons arg others =>
      have hhead : (tokens ++ .closeParen :: rest).head? ≠ some .closeParen := by
        obtain ⟨token, hstart, hne⟩ := hstarts arg List.mem_cons_self
        obtain ⟨more, rfl⟩ := htokens.eq_append
        simp [hstart, hne]
      have hgives : Gives (room < tokens.length)
          (arguments (expression room 0) ((tokens ++ .closeParen :: rest).length + 1)
            (tokens ++ .closeParen :: rest)) ((arg :: others).map (·.2), .closeParen :: rest) :=
        gives_arguments (fun arg hmem token rest => (hargs arg hmem).gives_before room rest) htokens
          (List.cons_ne_nil _ _) (by rw [List.length_append]; omega) rest
      rw [argumentList_of_head? hhead]
      refine Gives.bind ((hgives.mono (by simp; omega)).bind .ok) .ok

theorem head?_of_phrase {stratum : Nat} {tokens : List Token} {expr : Expr}
    (h : Phrase stratum tokens expr) :
    ∃ token, tokens.head? = some token ∧ token ≠ .closeParen ∧ token ≠ .equals := by
  induction h with
  | tighter _ ih => exact ih
  | binary _ _ ihLeft _ =>
      obtain ⟨token, hhead, hne⟩ := ihLeft
      exact ⟨token, by simp [hhead], hne⟩
  | @unary op _ _ _ _ => cases op <;> simp [UnaryOp.token]
  | single h => cases h <;> simp
  | _ => simp

theorem readAs_of_phrase {stratum : Nat} {tokens : List Token} {expr : Expr}
    (h : Phrase stratum tokens expr) : ReadAs stratum tokens expr := by
  induction h with
  | tighter _ ih =>
      obtain ⟨spine, hspine, hread⟩ := ih
      refine ⟨spine, hspine, fun room least rest hleast hfollows => ?_⟩
      exact hread room least rest (fun op hle => hleast op (Nat.le_of_succ_le hle))
        (hfollows.mono (Nat.le_succ _))
  | binary _ _ ihLeft ihRight => exact readAs_binary ihLeft ihRight
  | unary _ ih => exact readAs_unary ih
  | parens _ ih => exact readAs_parens ih
  | @call function args tokens hargs htokens ih =>
      refine readAs_call ih (fun arg hmem => ?_) htokens
      obtain ⟨token, hhead, hne, -⟩ := head?_of_phrase (hargs arg hmem)
      exact ⟨token, hhead, hne⟩
  | single h => exact readAs_single h

theorem gives_of_phrase {tokens : List Token} {expr : Expr} (h : Phrase 0 tokens expr)
    (room : Nat) : Gives (room < tokens.length) (expression room 0 tokens) (expr, []) := by
  have hgives : Gives (room < tokens.length) (expression room 0 (tokens ++ [])) (expr, []) :=
    (readAs_of_phrase h).gives (by simp) (by simp [Follows]) (by simp [Stops])
  rwa [List.append_nil] at hgives

theorem whole_of_phrase {tokens : List Token} {expr : Expr} (h : Phrase 0 tokens expr) :
    Gives (nestingLimit < tokens.length) (whole tokens) expr :=
  (gives_of_phrase h nestingLimit).bind .ok

theorem phrase_unique {tokens : List Token} {a b : Expr} (ha : Phrase 0 tokens a)
    (hb : Phrase 0 tokens b) : a = b := by
  -- with as many levels as tokens the limit does not strike
  have hread : ∀ {expr : Expr}, Phrase 0 tokens expr →
      expression tokens.length 0 tokens = .ok (expr, []) := by
    intro expr h
    rcases gives_of_phrase h tokens.length with heq | ⟨hshort, -⟩
    · exact heq
    · exact absurd hshort (Nat.lt_irrefl _)
  have heq := (hread ha).symm.trans (hread hb)
  exact congrArg Prod.fst (Except.ok.inj heq)

/-! ## Texts -/

/-- The text of a formula: blanks, at most one `=`, and the tokens of a phrase. -/
def Writes (source : String) (expr : Expr) : Prop :=
  ∃ blanks mark text tokens, source.toList = blanks ++ mark ++ text ∧
    (∀ c ∈ blanks, Text.isBlank c) ∧ (mark = [] ∨ mark = ['=']) ∧ Split text tokens ∧
    Phrase 0 tokens expr

theorem eq_append_of_body (source : List Char) : ∃ blanks mark,
    source = blanks ++ mark ++ body source ∧ (∀ c ∈ blanks, Text.isBlank c) ∧
      (mark = [] ∨ mark = ['=']) := by
  have htrim : source = source.takeWhile Text.isBlank ++ Text.trimLeft source :=
    List.takeWhile_append_dropWhile.symm
  have hblanks : ∀ c ∈ source.takeWhile Text.isBlank, Text.isBlank c :=
    fun c hc => List.mem_takeWhile_imp hc
  unfold body
  split
  · rename_i rest heq
    rw [heq] at htrim
    exact ⟨_, ['='], by simpa using htrim, hblanks, .inr rfl⟩
  · exact ⟨_, [], by simpa using htrim, hblanks, .inl rfl⟩

theorem split_trimLeft {text : List Char} {tokens : List Token} (h : Split text tokens) :
    Split (Text.trimLeft text) tokens := by
  induction h with
  | nil => exact .nil
  | blank hc _ ih => rwa [Text.trimLeft, List.dropWhile_cons_of_pos hc]
  | lexeme hword h _ =>
      obtain ⟨c, tail, rfl, hc, -⟩ := next_of_lexeme hword
      rw [Text.trimLeft, List.cons_append, List.dropWhile_cons_of_neg (by simp [hc])]
      exact .lexeme hword h

theorem head?_of_split_equals {rest : List Char} {tokens : List Token}
    (h : Split ('=' :: rest) tokens) : tokens.head? = some .equals := by
  obtain ⟨after, hsymbol⟩ : ∃ after, Lexemes.symbol? ('=' :: rest) = some (.equals, after) := by
    cases rest with
    | nil => exact ⟨[], rfl⟩
    | cons c tail =>
        by_cases hc : c = '='
        · exact ⟨tail, by rw [hc]; rfl⟩
        · exact ⟨c :: tail, by simp [Lexemes.symbol?, hc]⟩
  have hscan := scan_of_split h
  rw [scan_cons (by decide) (by rw [Lexemes.next, hsymbol]), Lexemes.cons] at hscan
  exact (congrArg (·.tokens.head?) hscan).symm

theorem split_body {source blanks mark text : List Char} {tokens : List Token} {expr : Expr}
    (hsource : source = blanks ++ mark ++ text) (hblanks : ∀ c ∈ blanks, Text.isBlank c)
    (hmark : mark = [] ∨ mark = ['=']) (hsplit : Split text tokens)
    (hphrase : Phrase 0 tokens expr) : Split (body source) tokens := by
  subst hsource
  rcases hmark with rfl | rfl
  · have htrim : Text.trimLeft (blanks ++ [] ++ text) = Text.trimLeft text := by
      rw [List.append_nil, Text.trimLeft, List.dropWhile_append_of_pos hblanks]
      rfl
    have hleft := split_trimLeft hsplit
    unfold body
    split
    · rename_i rest heq
      rw [← htrim, heq] at hleft
      obtain ⟨token, hhead, -, hne⟩ := head?_of_phrase hphrase
      rw [head?_of_split_equals hleft] at hhead
      exact absurd (Option.some.inj hhead).symm hne
    · rwa [htrim]
  · have htrim : Text.trimLeft (blanks ++ ['='] ++ text) = '=' :: text := by
      rw [List.append_assoc, Text.trimLeft, List.dropWhile_append_of_pos hblanks]
      rfl
    rwa [body, htrim]

theorem whole_of_parse {source : String} {expr : Expr} (h : parse source = .ok expr) :
    ∃ tokens, Split (body source.toList) tokens ∧ whole tokens = .ok expr := by
  simp only [parse] at h
  split at h
  · cases h
  · cases hscan : Lexemes.scan (body source.toList) with
    | mk tokens fault =>
        rw [hscan] at h
        cases hwhole : whole tokens with
        | error rejection => cases fault <;> simp [ofLexemes, hwhole, Except.mapError] at h
        | ok found =>
            cases fault with
            | some fault => simp [ofLexemes, hwhole, Except.mapError] at h
            | none =>
                simp only [ofLexemes, hwhole, Except.mapError, Except.ok.injEq] at h
                subst h
                exact ⟨tokens, split_of_scan hscan, hwhole⟩

theorem parse_eq_of_split {source : String} {tokens : List Token}
    (hsplit : Split (body source.toList) tokens) (hnonempty : tokens ≠ []) :
    parse source = (whole tokens).mapError fun rejection =>
      .malformed (String.ofList (body source.toList)) rejection.fault := by
  have hshown : (body source.toList).all Text.isBlank = false := by
    rw [Bool.eq_false_iff]
    intro hall
    rw [← scan_eq_iff_split, scan_of_blanks (List.all_eq_true.1 hall)] at hsplit
    exact hnonempty (congrArg Lexemes.tokens hsplit).symm
  rw [parse]
  simp only [hshown, scan_of_split hsplit, ofLexemes]
  cases whole tokens <;> rfl

theorem parse_of_split {source : String} {tokens : List Token} {expr : Expr}
    (hsplit : Split (body source.toList) tokens) (hphrase : Phrase 0 tokens expr) :
    parse source = .ok expr ∨ nestingLimit < tokens.length ∧
      parse source = .error (.malformed (String.ofList (body source.toList)) .tooDeep) := by
  have hnonempty : tokens ≠ [] := by
    obtain ⟨token, hhead, -⟩ := head?_of_phrase hphrase
    rintro rfl
    cases hhead
  rw [parse_eq_of_split hsplit hnonempty]
  rcases whole_of_phrase hphrase with hwhole | ⟨hlong, rest, hwhole⟩
  · exact .inl (by rw [hwhole]; rfl)
  · exact .inr ⟨hlong, by rw [hwhole]; rfl⟩

theorem writes_iff_split {source : String} {expr : Expr} : Writes source expr ↔
    ∃ tokens, Split (body source.toList) tokens ∧ Phrase 0 tokens expr := by
  constructor
  · rintro ⟨blanks, mark, text, tokens, hsource, hblanks, hmark, hsplit, hphrase⟩
    exact ⟨tokens, split_body hsource hblanks hmark hsplit hphrase, hphrase⟩
  · rintro ⟨tokens, hsplit, hphrase⟩
    obtain ⟨blanks, mark, hsource, hblanks, hmark⟩ := eq_append_of_body source.toList
    exact ⟨blanks, mark, body source.toList, tokens, hsource, hblanks, hmark, hsplit, hphrase⟩

theorem writes_unique {source : String} {a b : Expr} (ha : Writes source a)
    (hb : Writes source b) : a = b := by
  obtain ⟨tokens, hsplit, hphrase⟩ := writes_iff_split.1 ha
  obtain ⟨others, hsplit', hphrase'⟩ := writes_iff_split.1 hb
  have htokens : tokens = others :=
    congrArg Lexemes.tokens ((scan_of_split hsplit).symm.trans (scan_of_split hsplit'))
  subst htokens
  exact phrase_unique hphrase hphrase'

theorem exists_fault_of_parse {source : String} {error : FormulaError}
    (h : parse source = .error error) :
    ∃ fault, error = .malformed (String.ofList (body source.toList)) fault := by
  simp only [parse] at h
  split at h
  · cases h
    exact ⟨.empty, rfl⟩
  · cases hlexemes : ofLexemes (Lexemes.scan (body source.toList)) with
    | ok found => simp [hlexemes, Except.mapError] at h
    | error fault =>
        simp only [hlexemes, Except.mapError, Except.error.injEq] at h
        exact ⟨fault, h.symm⟩

/-- What is accepted is a text that writes the expression; a text that writes one is accepted or
too deep, and every other text is malformed. -/
theorem parse_recognizes (source : String) :
    (∀ expr, parse source = .ok expr → Writes source expr) ∧
      (∀ expr, Writes source expr → parse source = .ok expr ∨
        parse source = .error (.malformed (String.ofList (body source.toList)) .tooDeep)) ∧
      ((∀ expr, ¬ Writes source expr) → ∃ fault,
        parse source = .error (.malformed (String.ofList (body source.toList)) fault)) := by
  have haccepted : ∀ expr, parse source = .ok expr → Writes source expr := by
    intro expr h
    obtain ⟨tokens, hsplit, hwhole⟩ := whole_of_parse h
    exact writes_iff_split.2 ⟨tokens, hsplit, phrase_of_whole hwhole⟩
  refine ⟨haccepted, fun expr hwrites => ?_, fun hnone => ?_⟩
  · obtain ⟨tokens, hsplit, hphrase⟩ := writes_iff_split.1 hwrites
    exact (parse_of_split hsplit hphrase).imp_right And.right
  · cases hparse : parse source with
    | ok expr => exact absurd (haccepted expr hparse) (hnone expr)
    | error error =>
        obtain ⟨fault, rfl⟩ := exists_fault_of_parse hparse
        exact ⟨fault, rfl⟩

end Parser

end Drapery.Formula
