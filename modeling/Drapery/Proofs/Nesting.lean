import Drapery.Proofs.Printing

/-!
# How high a parsed expression grows

The levels that the parser counts are given back when an operand is complete,
while the left operand of a chain keeps its height.  What the limit bounds is
therefore `Expr.nesting`, in which a left operand stands on the level of its
operator; the height may be larger.  `Grown` describes the expressions that a
number of levels admits, and `tallest` is the greatest height among them.
-/

namespace Drapery.Formula

namespace Expr

/-! ## Height and nesting -/

mutual

def nesting : Expr → Nat
  | call _ args => nestingOfAll args + 1
  | unary _ operand => operand.nesting + 1
  | binary _ left right => max left.nesting (right.nesting + 1)
  | number _ | text _ | boolean _ | field _ | name _ | param _ => 1

def nestingOfAll : List Expr → Nat
  | [] => 0
  | first :: rest => max first.nesting (nestingOfAll rest)

end

theorem heightOfAll_le_iff {args : List Expr} {bound : Nat} :
    heightOfAll args ≤ bound ↔ ∀ arg ∈ args, arg.height ≤ bound := by
  induction args with
  | nil => simp [heightOfAll]
  | cons first rest ih => rw [heightOfAll, Nat.max_le, ih, List.forall_mem_cons]

theorem nestingOfAll_le_iff {args : List Expr} {bound : Nat} :
    nestingOfAll args ≤ bound ↔ ∀ arg ∈ args, arg.nesting ≤ bound := by
  induction args with
  | nil => simp [nestingOfAll]
  | cons first rest ih => rw [nestingOfAll, Nat.max_le, ih, List.forall_mem_cons]

theorem height_pos (expr : Expr) : 0 < expr.height := by
  cases expr <;> simp [height]

theorem nesting_eq_one_of_height {expr : Expr} (h : expr.height = 1) : expr.nesting = 1 := by
  cases expr with
  | call function args =>
      cases args with
      | nil => rfl
      | cons first rest =>
          have := first.height_pos
          simp only [height, heightOfAll] at h
          omega
  | unary op operand =>
      have := operand.height_pos
      simp only [height] at h
      omega
  | binary op left right =>
      have := left.height_pos
      simp only [height] at h
      omega
  | _ => rfl

end Expr

theorem Separated.length_le {pieces : List (List Token)} {tokens : List Token}
    (h : Separated pieces tokens) : ∀ piece ∈ pieces, piece.length ≤ tokens.length := by
  induction h with
  | nil => simp
  | single piece => simp
  | cons _ _ _ ih =>
      refine List.forall_mem_cons.2 ⟨by simp, fun piece hmem => ?_⟩
      have := ih piece hmem
      simp
      omega

theorem height_of_single {token : Token} {expr : Expr} (h : Single token expr) :
    expr.height = 1 := by
  cases h with
  | name h => cases h <;> rfl
  | _ => rfl

theorem heightOfAll_le_length {args : List (List Token × Expr)} {tokens : List Token}
    (hargs : ∀ arg ∈ args, arg.2.height ≤ arg.1.length)
    (htokens : Separated (args.map (·.1)) tokens) :
    Expr.heightOfAll (args.map (·.2)) ≤ tokens.length := by
  rw [Expr.heightOfAll_le_iff, List.forall_mem_map]
  intro arg hmem
  exact Nat.le_trans (hargs arg hmem) (htokens.length_le _ (List.mem_map_of_mem hmem))

theorem height_le_length {stratum : Nat} {tokens : List Token} {expr : Expr}
    (h : Phrase stratum tokens expr) : expr.height ≤ tokens.length := by
  induction h with
  | tighter _ ih => exact ih
  | binary _ _ ihLeft ihRight =>
      simp only [Expr.height, List.length_append, List.length_cons]
      omega
  | unary _ ih =>
      simp only [Expr.height, List.length_cons]
      omega
  | parens _ ih =>
      simp only [List.length_append, List.length_cons]
      omega
  | call _ htokens ih =>
      have := heightOfAll_le_length ih htokens
      simp only [Expr.height, List.length_append, List.length_cons]
      omega
  | single h => simp [height_of_single h]

/-- Only operators in front of one operand make a phrase as high as it is long. -/
theorem height_le_nesting_or_lt_length {stratum : Nat} {tokens : List Token} {expr : Expr}
    (h : Phrase stratum tokens expr) :
    expr.height ≤ expr.nesting ∨ expr.height < tokens.length := by
  induction h with
  | tighter _ ih => exact ih
  | @binary _ _ _ leftExpr rightExpr hleft hright _ _ =>
      have hleft := height_le_length hleft
      have hright := height_le_length hright
      have := leftExpr.height_pos
      have := rightExpr.height_pos
      simp only [Expr.height, List.length_append, List.length_cons]
      omega
  | unary _ ih =>
      simp only [Expr.height, Expr.nesting, List.length_cons]
      omega
  | parens h _ =>
      have := height_le_length h
      simp only [List.length_append, List.length_cons]
      omega
  | call hargs htokens _ =>
      have := heightOfAll_le_length (fun arg hmem => height_le_length (hargs arg hmem)) htokens
      simp only [Expr.height, List.length_append, List.length_cons]
      omega
  | single h =>
      have hheight := height_of_single h
      rw [hheight, Expr.nesting_eq_one_of_height hheight]
      exact .inl le_rfl

/-! ## What a number of levels admits -/

/-- What a chain that starts with `start` levels may hold when `left` of them are not used. -/
inductive Grown : (start left : Nat) → Expr → Prop
  | leaf {start : Nat} {expr : Expr} (hheight : expr.height = 1) : Grown start start expr
  | parens {start : Nat} {expr : Expr} (h : Grown start 0 expr) :
      Grown (start + 1) (start + 1) expr
  | unary {start : Nat} {op : UnaryOp} {operand : Expr} (h : Grown start 0 operand) :
      Grown (start + 1) (start + 1) (.unary op operand)
  | call {start : Nat} {function : String} {args : List Expr}
      (hargs : ∀ arg ∈ args, Grown start 0 arg) :
      Grown (start + 1) (start + 1) (.call function args)
  | binary {start right : Nat} {op : BinaryOp} {leftExpr rightExpr : Expr} (hle : right + 2 ≤ start)
      (hleft : Grown start (right + 2) leftExpr) (hright : Grown right 0 rightExpr) :
      Grown start (right + 1) (.binary op leftExpr rightExpr)
  | unused {start left : Nat} {expr : Expr} (h : Grown start (left + 1) expr) :
      Grown start left expr

theorem Grown.finish {start left : Nat} {expr : Expr} (h : Grown start left expr) :
    Grown start 0 expr := by
  induction left with
  | zero => exact h
  | succ left ih => exact ih (.unused h)

namespace Parser

def ReadsGrown (room : Nat) : Prop :=
  ∀ {least : Nat} {tokens rest : List Token} {expr : Expr},
    expression room least tokens = .ok (expr, rest) → ∃ start, room = start + 1 ∧ Grown start 0 expr

theorem grown_of_primary {room : Nat} (hreads : ReadsGrown room) {tokens rest : List Token}
    {expr : Expr} (h : primary (expression room) tokens = .ok (expr, rest)) :
    Grown room room expr := by
  rcases primary_eq_ok h with ⟨token, -, hsingle⟩ | ⟨function, exprs, after, -, hexprs, rfl⟩ |
    ⟨after, -, hinside⟩ | ⟨op, operand, after, -, hoperand, rfl⟩
  · exact .leaf (height_of_single hsingle)
  · have hread : ∀ {tokens rest : List Token} {expr : Expr},
        expression room 0 tokens = .ok (expr, rest) → ∃ taken, tokens = taken ++ rest ∧
          ∃ start, room = start + 1 ∧ Grown start 0 expr := by
      intro tokens rest expr h
      obtain ⟨taken, heq, -⟩ := readsPhrases_expression room fits_zero h
      exact ⟨taken, heq, hreads h⟩
    obtain ⟨args, taken, -, rfl, hgrown, -⟩ := separated_of_argumentList hread hexprs
    cases room with
    | zero =>
        obtain rfl : args = [] := List.eq_nil_iff_forall_not_mem.2 fun arg hmem => by
          obtain ⟨start, hroom, -⟩ := hgrown arg hmem
          omega
        exact .leaf rfl
    | succ start =>
        refine .call (List.forall_mem_map.2 fun arg hmem => ?_)
        obtain ⟨less, hroom, harg⟩ := hgrown arg hmem
        rwa [Nat.succ.inj hroom]
  · obtain ⟨start, rfl, hgrown⟩ := hreads hinside
    exact .parens hgrown
  · obtain ⟨start, rfl, hgrown⟩ := hreads hoperand
    exact .unary hgrown

theorem grown_of_chain {start room : Nat} (hreads : ∀ less < room, ReadsGrown less)
    (hle : room ≤ start) {least : Nat} {left expr : Expr} {tokens rest : List Token}
    (hleft : Grown start room left) (h : chain room least left tokens = .ok (expr, rest)) :
    Grown start 0 expr := by
  induction room generalizing left tokens with
  | zero =>
      rcases chain_eq_ok h with ⟨rfl, -⟩ | ⟨less, op, right, tail, after, hroom, -⟩
      · exact hleft
      · cases hroom
  | succ room ih =>
      rcases chain_eq_ok h with ⟨rfl, -⟩ |
        ⟨less, op, right, tail, after, hroom, -, -, hright, hrest⟩
      · exact hleft.finish
      · cases hroom
        obtain ⟨inner, rfl, hinner⟩ := hreads room (Nat.lt_succ_self room) hright
        exact ih (fun less hlt => hreads less (Nat.lt_succ_of_lt hlt)) (Nat.le_of_succ_le hle)
          (.binary hle hleft hinner) hrest

theorem readsGrown (room : Nat) : ReadsGrown room := by
  induction room using Nat.strong_induction_on with
  | _ room ih =>
      intro least tokens rest expr h
      cases room with
      | zero =>
          rw [expression] at h
          cases h
      | succ room =>
          rw [expression] at h
          obtain ⟨⟨left, tail⟩, hprimary, hchain⟩ := Except.exists_of_bind_eq_ok h
          have hleft := grown_of_primary (ih room (Nat.lt_succ_self room)) hprimary
          exact ⟨room, rfl, grown_of_chain (fun less hlt => ih less (Nat.lt_succ_of_lt hlt)) le_rfl
            hleft hchain⟩

theorem grown_of_whole {tokens : List Token} {expr : Expr} (h : whole tokens = .ok expr) :
    ∃ start, nestingLimit = start + 1 ∧ Grown start 0 expr :=
  readsGrown nestingLimit (whole_eq_ok_iff.1 h)

end Parser

theorem nesting_le_of_grown {start left : Nat} {expr : Expr} (h : Grown start left expr) :
    expr.nesting ≤ start + 1 := by
  induction h with
  | leaf hheight =>
      rw [Expr.nesting_eq_one_of_height hheight]
      omega
  | parens _ ih => omega
  | unary _ ih =>
      rw [Expr.nesting]
      omega
  | call _ ih =>
      rw [Expr.nesting]
      exact Nat.succ_le_succ (Expr.nestingOfAll_le_iff.2 ih)
  | binary hle _ _ ihLeft ihRight =>
      rw [Expr.nesting]
      omega
  | unused _ ih => exact ih

def tallest : (levels : Nat) → Nat
  | 0 => 0
  | levels + 1 => tallest levels + max levels 1

theorem tallest_mono {fewer levels : Nat} (hle : fewer ≤ levels) :
    tallest fewer ≤ tallest levels := by
  obtain ⟨more, rfl⟩ := Nat.exists_eq_add_of_le hle
  induction more with
  | zero => exact le_rfl
  | succ more ih => exact Nat.le_trans (ih (Nat.le_add_right _ _)) (Nat.le_add_right _ _)

theorem two_mul_tallest_succ (levels : Nat) :
    2 * tallest (levels + 1) = levels * (levels + 1) + 2 := by
  induction levels with
  | zero => rfl
  | succ levels ih =>
      rw [tallest]
      simp only [Nat.add_mul, Nat.mul_add] at ih ⊢
      omega

theorem tallest_nestingLimit : tallest nestingLimit = 32641 := by
  have := two_mul_tallest_succ 255
  change tallest (255 + 1) = 32641
  omega

/-- An operator of a chain adds to the height and takes a level. -/
theorem height_le_of_grown {start left : Nat} {expr : Expr} (h : Grown start left expr) :
    expr.height + max left 1 ≤ tallest (start + 1) + 1 := by
  induction h with
  | leaf hheight =>
      rw [tallest]
      omega
  | parens _ ih =>
      rw [tallest]
      omega
  | unary _ ih =>
      rw [tallest, Expr.height]
      omega
  | @call start function args _ ih =>
      have hargs : Expr.heightOfAll args ≤ tallest (start + 1) :=
        Expr.heightOfAll_le_iff.2 fun arg hmem => by
          have := ih arg hmem
          omega
      rw [tallest, Expr.height]
      omega
  | @binary start right _ _ _ hle _ _ ihLeft ihRight =>
      -- the right operand had fewer levels from the start than the chain had
      have hright := tallest_mono (Nat.le_of_succ_le hle)
      rw [tallest] at ihLeft ⊢
      rw [Expr.height]
      omega
  | unused _ ih => omega

/-! ## Expressions that reach the bounds -/

namespace Parser

def sums : (count : Nat) → List Token
  | 0 => []
  | count + 1 => .plus :: .name "a" :: sums count

def summed : (count : Nat) → Expr → Expr
  | 0, expr => expr
  | count + 1, expr => summed count (.binary .add expr (.name "a"))

/-- Calls in one another, each with as many sums behind it as there are levels for. -/
def tower : (storeys : Nat) → List Token
  | 0 => [.name "a"]
  | storeys + 1 => .name "f" :: .openParen :: tower storeys ++ .closeParen :: sums storeys

def towerExpr : (storeys : Nat) → Expr
  | 0 => .name "a"
  | storeys + 1 => summed storeys (.call "f" [towerExpr storeys])

def negated : (count : Nat) → Expr → Expr
  | 0, expr => expr
  | count + 1, expr => .unary .negate (negated count expr)

theorem named_a : Named "a" (.name "a") :=
  Expr.named_of_isPlainName ⟨by decide, by decide, by decide⟩

theorem height_summed {count : Nat} {expr : Expr} :
    (summed count expr).height = expr.height + count := by
  induction count generalizing expr with
  | zero => rfl
  | succ count ih =>
      have := expr.height_pos
      simp only [summed, ih, Expr.height]
      omega

theorem height_towerExpr (storeys : Nat) :
    (towerExpr storeys).height = tallest (storeys + 1) := by
  induction storeys with
  | zero => rfl
  | succ storeys ih =>
      rw [towerExpr, height_summed, tallest]
      simp only [Expr.height, Expr.heightOfAll, ih]
      omega

theorem height_negated (count : Nat) (expr : Expr) :
    (negated count expr).height = expr.height + count := by
  induction count with
  | zero => rfl
  | succ count ih =>
      simp only [negated, Expr.height, ih]
      omega

theorem expression_a {rest : List Token} (room least : Nat)
    (hparen : rest.head? ≠ some .openParen) :
    expression (room + 1) least (.name "a" :: rest) = chain room least (.name "a") rest := by
  rw [expression, primary_name _ named_a hparen]
  rfl

theorem primary_negate {rest : List Token} {room count : Nat}
    (h : expression room unaryPrecedence (List.replicate count .minus ++ .name "a" :: rest) =
      .ok (negated count (.name "a"), rest)) :
    primary (expression room) (List.replicate (count + 1) .minus ++ .name "a" :: rest) =
      .ok (negated (count + 1) (.name "a"), rest) := by
  have heq : List.replicate (count + 1) .minus ++ .name "a" :: rest =
      UnaryOp.negate.token :: (List.replicate count .minus ++ .name "a" :: rest) := rfl
  rw [heq, primary_unary, h]
  rfl

section

variable {rest : List Token} (hparen : rest.head? ≠ some .openParen)

include hparen

theorem chain_sums (hstops : Stops 0 rest) {count room : Nat} (hroom : count = 0 ∨ count < room)
    (left : Expr) : chain room 0 left (sums count ++ rest) = .ok (summed count left, rest) := by
  induction count generalizing room left with
  | zero => exact chain_of_stops hstops
  | succ count ih =>
      obtain ⟨less, rfl⟩ : ∃ less, room = less + 2 := ⟨room - 2, by omega⟩
      have hhead : (sums count ++ rest).head? ≠ some .openParen := by
        cases count with
        | zero => exact hparen
        | succ count => simp [sums]
      -- the next sum does not bind more tightly, so that it is left to the chain
      have hnext : Stops (BinaryOp.add.precedence + 1) (sums count ++ rest) := by
        intro op hop
        cases count with
        | zero => exact absurd (hstops op hop) (Nat.not_lt_zero _)
        | succ count =>
            obtain rfl : op = .add := BinaryOp.token_injective (Option.some.inj hop).symm
            exact Nat.lt_succ_self _
      have hright : expression (less + 1) (BinaryOp.add.precedence + 1)
          (.name "a" :: (sums count ++ rest)) = .ok (.name "a", sums count ++ rest) := by
        rw [expression_a less _ hhead, chain_of_stops hnext]
      have hmore : chain (less + 1) 0 (.binary .add left (.name "a")) (sums count ++ rest) =
          .ok (summed count (.binary .add left (.name "a")), rest) := ih (by omega) _
      rw [sums, List.cons_append, List.cons_append, chain]
      simp only [Token.binaryOp?, Nat.not_lt_zero, if_false, hright]
      exact hmore

theorem expression_tower (hstops : Stops 0 rest) (storeys : Nat) :
    expression (storeys + 1) 0 (tower storeys ++ rest) = .ok (towerExpr storeys, rest) := by
  induction storeys generalizing rest with
  | zero => exact (expression_a 0 0 hparen).trans (chain_of_stops hstops)
  | succ storeys ih =>
      have hinner : expression (storeys + 1) 0
          (tower storeys ++ .closeParen :: (sums storeys ++ rest)) =
            .ok (towerExpr storeys, .closeParen :: (sums storeys ++ rest)) :=
        ih (by simp) fun op hop => by cases op <;> cases hop
      have hstart : (tower storeys ++ .closeParen :: (sums storeys ++ rest)).head? ≠
          some .closeParen := by
        cases storeys <;> simp [tower]
      have hargs : argumentList (expression (storeys + 1) 0)
          (tower storeys ++ .closeParen :: (sums storeys ++ rest)) =
            .ok ([towerExpr storeys], sums storeys ++ rest) := by
        rw [argumentList_of_head? hstart, arguments, hinner]
        rfl
      have hprimary : primary (expression (storeys + 1)) (tower (storeys + 1) ++ rest) =
          .ok (.call "f" [towerExpr storeys], sums storeys ++ rest) := by
        have heq : tower (storeys + 1) ++ rest = .name "f" :: .openParen ::
            (tower storeys ++ .closeParen :: (sums storeys ++ rest)) := by simp [tower]
        rw [heq, primary, hargs]
        rfl
      rw [expression, hprimary]
      exact chain_sums hparen hstops (.inr (Nat.lt_succ_self _)) _

theorem expression_negated (hstops : Stops unaryPrecedence rest) (count : Nat) :
    expression (count + 1) unaryPrecedence (List.replicate count .minus ++ .name "a" :: rest) =
      .ok (negated count (.name "a"), rest) := by
  induction count with
  | zero => exact (expression_a 0 _ hparen).trans (chain_of_stops hstops)
  | succ count ih =>
      rw [expression, primary_negate ih]
      exact chain_of_stops hstops

end

theorem whole_tower : whole (tower 255) = .ok (towerExpr 255) := by
  have htower : expression (255 + 1) 0 (tower 255 ++ []) = .ok (towerExpr 255, []) :=
    expression_tower (by simp) (by simp [Stops]) 255
  rw [List.append_nil] at htower
  exact whole_eq_ok_iff.2 htower

theorem whole_negatedSum : whole (List.replicate 255 .minus ++ .name "a" :: sums 1) =
    .ok (summed 1 (negated 255 (.name "a"))) := by
  have hstops : Stops unaryPrecedence (sums 1) := fun op _ => by cases op <;> decide
  have hparen : (sums 1).head? ≠ some .openParen := by simp [sums]
  have hnegated := expression_negated hparen hstops 254
  have hsum : chain 255 0 (negated 255 (.name "a")) (sums 1 ++ []) =
      .ok (summed 1 (negated 255 (.name "a")), []) :=
    chain_sums (by simp) (by simp [Stops]) (by omega) _
  rw [whole_eq_ok_iff, nestingLimit, expression, primary_negate hnegated]
  exact hsum

theorem exists_words {tokens : List Token} (h : ∀ token ∈ tokens, ∃ word, token.Printed word) :
    ∃ words, List.Forall₂ Token.Printed tokens words := by
  induction tokens with
  | nil => exact ⟨[], .nil⟩
  | cons token rest ih =>
      obtain ⟨⟨word, hword⟩, hrest⟩ := List.forall_mem_cons.1 h
      obtain ⟨words, hwords⟩ := ih hrest
      exact ⟨word :: words, .cons hword hwords⟩

theorem exists_word_of_mem_sums {count : Nat} :
    ∀ token ∈ sums count, ∃ word, token.Printed word := by
  induction count with
  | zero => simp [sums]
  | succ count ih =>
      refine List.forall_mem_cons.2 ⟨⟨['+'], .symbol (by decide)⟩, List.forall_mem_cons.2 ⟨?_, ih⟩⟩
      exact ⟨_, .name rfl (by decide) (by simp)⟩

theorem exists_word_of_mem_tower {storeys : Nat} :
    ∀ token ∈ tower storeys, ∃ word, token.Printed word := by
  have hname : ∀ key ∈ ["a", "f"], ∃ word, (Token.name key).Printed word := by
    simp only [List.forall_mem_cons]
    exact ⟨⟨_, .name rfl (by decide) (by simp)⟩, ⟨_, .name rfl (by decide) (by simp)⟩, by simp⟩
  induction storeys with
  | zero => simpa [tower] using hname "a" (by simp)
  | succ storeys ih =>
      intro token hmem
      simp only [tower, List.mem_append, List.mem_cons] at hmem
      rcases hmem with (rfl | rfl | hmem) | rfl | hmem
      · exact hname "f" (by simp)
      · exact ⟨['('], .symbol (by decide)⟩
      · exact ih token hmem
      · exact ⟨[')'], .symbol (by decide)⟩
      · exact exists_word_of_mem_sums token hmem

theorem parse_of_whole {text : List Char} {tokens : List Token} {expr : Expr}
    (hsplit : Split text tokens) (hwhole : whole tokens = .ok expr) :
    parse (String.ofList text) = .ok expr ∧
      (Lexemes.scan (body (String.ofList text).toList)).tokens = tokens := by
  have hphrase := phrase_of_whole hwhole
  have hsource : (String.ofList text).toList = [] ++ [] ++ text := String.toList_ofList
  have hbody : Split (body (String.ofList text).toList) tokens :=
    split_body hsource (by simp) (.inl rfl) hsplit hphrase
  have hnonempty : tokens ≠ [] := by
    rintro rfl
    obtain ⟨token, hhead, -⟩ := head?_of_phrase hphrase
    cases hhead
  rw [parse_eq_of_split hbody hnonempty, hwhole, scan_of_split hbody]
  exact ⟨rfl, rfl⟩

theorem parse_tower : ∃ source, parse source = .ok (towerExpr 255) := by
  obtain ⟨words, hwords⟩ := exists_words exists_word_of_mem_tower
  exact ⟨_, (parse_of_whole (split_intercalate hwords) whole_tower).1⟩

theorem split_negatedSum (count : Nat) : Split (List.replicate count '-' ++ "a+a".toList)
    (List.replicate count .minus ++ .name "a" :: sums 1) := by
  have hname : ∀ rest : List Char, (∀ c ∈ rest.head?, Lexemes.isNamePart c = false) →
      Lexeme (.name "a") ['a'] rest :=
    fun _ hend => .name (by decide) (by simp) hend
  induction count with
  | zero =>
      have hplus : Lexeme .plus ['+'] ['a'] := symbol_of_single (by decide) (by simp)
      have hlast : Split (['a'] ++ []) [.name "a"] := .lexeme (hname [] (by simp)) .nil
      have hsum : Split (['a'] ++ (['+'] ++ (['a'] ++ []))) (.name "a" :: sums 1) :=
        .lexeme (hname _ (by simp; decide)) (.lexeme hplus hlast)
      exact hsum
  | succ count ih =>
      have hminus : Lexeme .minus ['-'] (List.replicate count '-' ++ "a+a".toList) :=
        symbol_of_single (by decide) (by simp)
      have hsplit := Split.lexeme hminus ih
      rwa [List.singleton_append, ← List.cons_append, ← List.cons_append, ← List.replicate_succ,
        ← List.replicate_succ] at hsplit

def negatedSum : String := String.ofList (List.replicate 255 '-' ++ "a+a".toList)

theorem parse_negatedSum : parse negatedSum = .ok (summed 1 (negated 255 (.name "a"))) ∧
    (Lexemes.scan (body negatedSum.toList)).tokens.length = nestingLimit + 2 := by
  obtain ⟨hparse, htokens⟩ := parse_of_whole (split_negatedSum 255) whole_negatedSum
  have hlength : (List.replicate 255 Token.minus ++ .name "a" :: sums 1).length =
      nestingLimit + 2 := by
    rw [List.length_append, List.length_replicate]
    rfl
  exact ⟨hparse, (congrArg List.length htokens).trans hlength⟩

/-! ## The bounds -/

theorem height_le_of_parse {source : String} {expr : Expr} (h : parse source = .ok expr) :
    expr.height ≤ 32641 := by
  obtain ⟨tokens, -, hwhole⟩ := whole_of_parse h
  obtain ⟨start, hstart, hgrown⟩ := grown_of_whole hwhole
  have hheight := height_le_of_grown hgrown
  rw [← hstart, tallest_nestingLimit] at hheight
  omega

theorem nesting_le_of_parse {source : String} {expr : Expr} (h : parse source = .ok expr) :
    expr.nesting ≤ nestingLimit := by
  obtain ⟨tokens, -, hwhole⟩ := whole_of_parse h
  obtain ⟨start, hstart, hgrown⟩ := grown_of_whole hwhole
  rw [hstart]
  exact nesting_le_of_grown hgrown

theorem height_le_of_parse_short {source : String} {expr : Expr} (h : parse source = .ok expr)
    (hshort : (Lexemes.scan (body source.toList)).tokens.length ≤ nestingLimit + 1) :
    expr.height ≤ nestingLimit := by
  obtain ⟨tokens, hsplit, hwhole⟩ := whole_of_parse h
  have hnesting := nesting_le_of_parse h
  have hheight := height_le_nesting_or_lt_length (phrase_of_whole hwhole)
  rw [scan_of_split hsplit] at hshort
  change tokens.length ≤ _ at hshort
  omega

theorem height_negatedSum : (summed 1 (negated 255 (.name "a"))).height = nestingLimit + 1 := by
  rw [height_summed, height_negated]
  rfl

/-- The limit bounds the nesting of whatever is parsed, but its height only for texts with at most
257 tokens; a text of any size may reach a height of 32641, and no more. -/
theorem height_le_nestingLimit_iff (size bound : Nat) :
    (∀ source expr, parse source = .ok expr → expr.nesting ≤ nestingLimit) ∧
    ((∀ source expr, parse source = .ok expr →
        (Lexemes.scan (body source.toList)).tokens.length ≤ size → expr.height ≤ nestingLimit) ↔
      size ≤ nestingLimit + 1) ∧
    ((∀ source expr, parse source = .ok expr → expr.height ≤ bound) ↔ 32641 ≤ bound) := by
  refine ⟨fun source expr h => nesting_le_of_parse h,
    ⟨fun hall => ?_, fun hsize source expr h hshort => ?_⟩,
    fun hall => ?_, fun hbound source expr h => Nat.le_trans (height_le_of_parse h) hbound⟩
  · by_contra hlong
    obtain ⟨hparse, htokens⟩ := parse_negatedSum
    have hheight := hall _ _ hparse (by omega)
    rw [height_negatedSum] at hheight
    omega
  · exact height_le_of_parse_short h (Nat.le_trans hshort hsize)
  · obtain ⟨source, hparse⟩ := parse_tower
    have hheight := hall _ _ hparse
    rwa [height_towerExpr, show tallest (255 + 1) = 32641 from tallest_nestingLimit] at hheight

theorem height_of_parse_exceeds_nestingLimit : ∃ expr,
    parse (String.ofList (List.replicate 255 '-' ++ "a+a".toList)) = .ok expr ∧
      nestingLimit < expr.height := by
  refine ⟨_, parse_negatedSum.1, ?_⟩
  rw [height_negatedSum]
  exact Nat.lt_succ_self _

end Parser

end Drapery.Formula
