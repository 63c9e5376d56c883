import Drapery.Json.Reader
import Drapery.Proofs.JsonTokens

/-!
# JSON texts and the values that they write

A value is legible when its doubles are finite, its whole numbers fit and it is
not nested too deep.  Every value that a text writes is legible.  The text of a
legible value is read back as that value by every reader of numbers that reads
printed doubles back, as the nearest double does.
-/

namespace Drapery.Json

/-! ## Values by their contents -/

@[elab_as_elim]
theorem induction {motive : Json → Prop} (null : motive null)
    (bool : ∀ value, motive (bool value)) (int : ∀ value, motive (int value))
    (float : ∀ value, motive (float value)) (string : ∀ value, motive (string value))
    (array : ∀ items, (∀ item ∈ items, motive item) → motive (array items))
    (object : ∀ members, (∀ member ∈ members, motive member.2) → motive (object members))
    (broken : motive broken) (value : Json) : motive value :=
  Json.rec null bool int float string array object broken
    (List.forall_mem_nil _) (fun _ _ hitem hrest => List.forall_mem_cons.2 ⟨hitem, hrest⟩)
    (List.forall_mem_nil _) (fun _ _ hmember hrest => List.forall_mem_cons.2 ⟨hmember, hrest⟩)
    (fun _ _ hvalue => hvalue) value

mutual

/-- Whether a text can write the value inside a container that may hold `levels` levels more. -/
def isLegible (levels : Nat) : Json → Bool
  | int value => FitsInteger value
  | float value => value.isFinite
  | array items => 0 < levels && areLegible (levels - 1) items
  | object members => 0 < levels && membersLegible (levels - 1) members
  | _ => true

def areLegible (levels : Nat) : List Json → Bool
  | [] => true
  | item :: rest => isLegible levels item && areLegible levels rest

def membersLegible (levels : Nat) : List (String × Json) → Bool
  | [] => true
  | (_, value) :: rest => isLegible levels value && membersLegible levels rest

end

theorem areLegible_iff {levels : Nat} {items : List Json} :
    areLegible levels items = true ↔ ∀ item ∈ items, item.isLegible levels = true := by
  induction items with
  | nil => simp [areLegible]
  | cons item rest ih => simp [areLegible, ih]

theorem membersLegible_iff {levels : Nat} {members : List (String × Json)} :
    membersLegible levels members = true ↔
      ∀ member ∈ members, member.2.isLegible levels = true := by
  induction members with
  | nil => simp [membersLegible]
  | cons member rest ih => simp [membersLegible, ih]

theorem isLegible_array {levels : Nat} {items : List Json} :
    (array items).isLegible levels = true ↔
      0 < levels ∧ ∀ item ∈ items, item.isLegible (levels - 1) = true := by
  simp [isLegible, areLegible_iff]

theorem isLegible_object {levels : Nat} {members : List (String × Json)} :
    (object members).isLegible levels = true ↔
      0 < levels ∧ ∀ member ∈ members, member.2.isLegible (levels - 1) = true := by
  simp [isLegible, membersLegible_iff]

theorem areSound_iff {items : List Json} :
    areSound items = true ↔ ∀ item ∈ items, item.isSound = true := by
  induction items with
  | nil => simp [areSound]
  | cons item rest ih => simp [areSound, ih]

theorem membersSound_iff {members : List (String × Json)} :
    membersSound members = true ↔ ∀ member ∈ members, member.2.isSound = true := by
  induction members with
  | nil => simp [membersSound]
  | cons member rest ih => simp [membersSound, ih]

theorem isSound_array {items : List Json} :
    (array items).isSound = true ↔ ∀ item ∈ items, item.isSound = true := by
  rw [isSound, areSound_iff]

theorem isSound_object {members : List (String × Json)} :
    (object members).isSound = true ↔ ∀ member ∈ members, member.2.isSound = true := by
  rw [isSound, membersSound_iff]

theorem itemsText_cons_cons (first next : Json) (rest : List Json) :
    itemsText (first :: next :: rest) = text first ++ ',' :: itemsText (next :: rest) := rfl

theorem membersText_cons_cons (first next : String × Json) (rest : List (String × Json)) :
    membersText (first :: next :: rest) =
      stringText first.1 ++ ':' :: text first.2 ++ ',' :: membersText (next :: rest) := rfl

/-! ## Reading a list one by one -/

theorem mapM_map_eq_some {α β : Type} {f : β → Option α} {g : α → β} {items : List α}
    (h : ∀ item ∈ items, f (g item) = some item) : (items.map g).mapM f = some items := by
  induction items with
  | nil => rfl
  | cons item rest ih =>
      obtain ⟨hitem, hrest⟩ := List.forall_mem_cons.1 h
      simp [hitem, ih hrest]

theorem exists_of_mem_mapM {α β : Type} {f : α → Option β} {items : List α} {results : List β}
    (h : items.mapM f = some results) {result : β} (hresult : result ∈ results) :
    ∃ item ∈ items, f item = some result := by
  induction items generalizing results with
  | nil =>
      cases h
      cases hresult
  | cons item rest ih =>
      simp only [List.mapM_cons, Option.bind_eq_bind, Option.bind_eq_some_iff] at h
      obtain ⟨first, hfirst, others, hothers, h⟩ := h
      cases h
      rcases List.mem_cons.1 hresult with rfl | hresult
      · exact ⟨item, by simp, hfirst⟩
      · obtain ⟨source, hsource, hf⟩ := ih hothers hresult
        exact ⟨source, by simp [hsource], hf⟩

/-! ## Reading token by token -/

namespace Reading

def run (numbers : NumberReader) (reading : Reading) (text : List Char) : Option Reading :=
  (scan numbers text).bind fun tokens => tokens.foldlM step reading

variable {numbers : NumberReader}

theorem run_nil (reading : Reading) : reading.run numbers [] = some reading := by
  rw [run, scan]
  rfl

theorem run_token (token : Token) {text rest : List Char} (h : token? numbers text = some (token, rest))
    (hspace : ∀ c ∈ text.head?, isSpace c = false) (reading : Reading) :
    reading.run numbers text = (reading.step token).bind fun next => next.run numbers rest := by
  cases text with
  | nil => cases h
  | cons c tail =>
      have hscan : scan numbers (c :: tail) = (scan numbers rest).map (token :: ·) := by
        rw [scan, hspace c rfl, if_neg (by decide)]
        split
        · simp_all
        · simp_all
      rw [run, hscan]
      cases hrest : scan numbers rest with
      | none => cases reading.step token <;> simp [run, hrest]
      | some tokens => simp [run, hrest]

theorem closeArray_of_lt {items : List Json} {outer : List Frame}
    (h : outer.length < nestingLimit) :
    closeArray items outer = complete (array items.reverse) outer := by
  rw [closeArray, if_pos h]

theorem closeObject_of_lt {members : List (String × Json)} {outer : List Frame}
    (h : outer.length < nestingLimit) :
    closeObject (members.map fun member => (some member.1, member.2)).reverse outer =
      complete (object members) outer := by
  have hnamed : (members.map fun member => (some member.1, member.2)).mapM
      (fun member : Option String × Json => member.1.map (·, member.2)) = some members :=
    mapM_map_eq_some fun _ _ => rfl
  simp only [closeObject, List.reverse_reverse, hnamed, if_pos h, Option.elim_some]

/-- The next token begins a value in `outer`, unless it closes an array that is still empty. -/
def BeginsValue (start : Reading) (outer : List Frame) : Prop :=
  ∀ token, token ≠ .closeArray → start.step token = beginValue outer token

theorem beginsValue_value (outer : List Frame) : (value outer).BeginsValue outer :=
  fun _ _ => rfl

theorem beginsValue_opened (outer : List Frame) :
    (opened outer).BeginsValue (.array [] :: outer) := by
  intro token htoken
  cases token <;> first | exact absurd rfl htoken | rfl

def BeginsMember (start : Reading) (before : List (Option String × Json)) (outer : List Frame) :
    Prop :=
  ∀ token, token ≠ .closeObject → start.step token = beginMember before outer token

theorem beginsMember_name (before : List (Option String × Json)) (outer : List Frame) :
    (name before outer).BeginsMember before outer :=
  fun _ _ => rfl

theorem beginsMember_openedObject (outer : List Frame) :
    (openedObject outer).BeginsMember [] outer := by
  intro token htoken
  cases token <;> first | exact absurd rfl htoken | rfl

variable {start : Reading} {outer : List Frame} {rest : List Char}

theorem run_scalar {value : Json} {text : List Char} (hstart : start.BeginsValue outer)
    (h : token? numbers text = some (.scalar value, rest)) (hspace : ∀ c ∈ text.head?, isSpace c = false) :
    start.run numbers text = (complete value outer).run numbers rest := by
  rw [run_token _ h hspace, hstart (.scalar value) (by simp)]
  rfl

theorem run_number {value : Json} {text : List Char} (hstart : start.BeginsValue outer)
    (h : number? numbers text = some (value, rest)) :
    start.run numbers text = (complete value outer).run numbers rest := by
  refine run_scalar hstart (token?_of_number? h) ?_
  obtain ⟨c, tail, rfl, hhead⟩ := head_of_number? h
  intro other hother
  obtain rfl : c = other := Option.some.inj hother
  rw [Bool.eq_false_iff]
  intro hspace
  simp only [isSpace, Bool.or_eq_true, decide_eq_true_eq] at hspace
  rcases hspace with ((rfl | rfl) | rfl) | rfl <;> exact absurd hhead (by decide)

/-- The text of the value is read as the value wherever `depth` containers are open. -/
def Reads (numbers : NumberReader) (value : Json) (depth : Nat) : Prop :=
  ∀ outer : List Frame, outer.length = depth → ∀ start : Reading, start.BeginsValue outer →
    ∀ rest, EndsNumber rest →
      start.run numbers (text value ++ rest) = (complete value outer).run numbers rest

theorem run_itemsText {items : List Json} (hne : items ≠ [])
    (hitems : ∀ item ∈ items, Reads numbers item (outer.length + 1)) {before : List Json}
    (hstart : start.BeginsValue (.array before :: outer)) :
    start.run numbers (itemsText items ++ ']' :: rest) =
      (closeArray (items.reverse ++ before) outer).run numbers rest := by
  induction items generalizing before start with
  | nil => exact absurd rfl hne
  | cons item others ih =>
      obtain ⟨hitem, hothers⟩ := List.forall_mem_cons.1 hitems
      cases others with
      | nil =>
          rw [itemsText, hitem _ rfl _ hstart _ (by simp [EndsNumber]),
            run_token .closeArray rfl (by simp [isSpace])]
          rfl
      | cons next more =>
          have hnext := ih (by simp) hothers (beginsValue_value (.array (item :: before) :: outer))
          rw [itemsText_cons_cons, List.append_assoc, List.cons_append,
            hitem _ rfl _ hstart _ (by simp [EndsNumber]),
            run_token .comma rfl (by simp [isSpace]), List.reverse_cons, List.append_assoc]
          exact hnext

theorem run_membersText {members : List (String × Json)} (hne : members ≠ [])
    (hmembers : ∀ member ∈ members, Reads numbers member.2 (outer.length + 1))
    {before : List (Option String × Json)} (hstart : start.BeginsMember before outer) :
    start.run numbers (membersText members ++ '\x7d' :: rest) =
      (closeObject ((members.map fun member => (some member.1, member.2)).reverse ++ before)
        outer).run numbers rest := by
  induction members generalizing before start with
  | nil => exact absurd rfl hne
  | cons member others ih =>
      obtain ⟨key, item⟩ := member
      obtain ⟨hmember, hothers⟩ := List.forall_mem_cons.1 hmembers
      have hvalue : ∀ tail, EndsNumber tail →
          start.run numbers (stringText key ++ ':' :: text item ++ tail) =
            (complete item (.object before (some key) :: outer)).run numbers tail := by
        intro tail htail
        rw [List.append_assoc, List.cons_append,
          run_token _ (token?_stringText numbers key _) (by simp [stringText, isSpace]),
          hstart (.scalar (string key)) (by simp)]
        change (colon before (some key) outer).run numbers _ = _
        rw [run_token .colon rfl (by simp [isSpace])]
        exact hmember _ rfl _ (beginsValue_value _) _ htail
      cases others with
      | nil =>
          rw [membersText, hvalue _ (by simp [EndsNumber]),
            run_token .closeObject rfl (by simp [isSpace])]
          rfl
      | cons next more =>
          have hnext := ih (by simp) hothers
            (beginsMember_name ((some key, item) :: before) outer)
          rw [membersText_cons_cons, List.append_assoc, List.cons_append,
            hvalue _ (by simp [EndsNumber]), run_token .comma rfl (by simp [isSpace]),
            List.map_cons, List.reverse_cons, List.append_assoc]
          exact hnext

end Reading

theorem read?_eq_run (text : String) (numbers : NumberReader) :
    read? text numbers = ((Reading.value []).run numbers text.toList).bind Reading.result? := by
  rw [read?, Reading.run, Option.bind_assoc]
  rfl

/-! ## Doubles that are printed -/

section

variable {numbers : NumberReader}

theorem read?_of_number? {text : List Char} {value : Json}
    (h : number? numbers text = some (value, [])) :
    read? (String.ofList text) numbers = some value := by
  rw [read?_eq_run, String.toList_ofList,
    Reading.run_number (Reading.beginsValue_value []) h, Reading.run_nil]
  rfl

/-- A finite double that is printed is read back as the same double. -/
def NumberReader.ReadsPrinted (numbers : NumberReader) : Prop :=
  ∀ x : Float, x.isFinite = true → read? (float x).print numbers = some (float x)

theorem NumberReader.ReadsPrinted.number?_floatText (h : numbers.ReadsPrinted) {x : Float}
    {rest : List Char} (hfinite : x.isFinite = true) (hrest : EndsNumber rest) :
    number? numbers (floatText x ++ rest) = some (float x, rest) := by
  obtain ⟨value, hvalue⟩ := exists_number?_floatText numbers hfinite
  have halone : number? numbers (floatText x) = some (value, []) := by
    simpa using hvalue [] (by simp [EndsNumber])
  have hread : some value = some (float x) := (read?_of_number? halone).symm.trans (h x hfinite)
  rw [hvalue rest hrest, Option.some.inj hread]

theorem readsPrinted_nearest : NumberReader.nearest.ReadsPrinted := by
  intro x hfinite
  have halone : number? .nearest (floatText x ++ []) = some (float x, []) :=
    number?_nearest_floatText hfinite (by simp [EndsNumber])
  rw [List.append_nil] at halone
  exact read?_of_number? halone

/-! ## Values that are printed -/

namespace Reading

variable {outer : List Frame}

theorem reads_of_isLegible (hnumbers : numbers.ReadsPrinted) {value : Json}
    (hsound : value.isSound = true) (depth : Nat)
    (hlegible : value.isLegible (nestingLimit - depth) = true) : Reads numbers value depth := by
  induction value using Json.induction generalizing depth with
  | null => exact fun outer _ start hstart rest _ => run_scalar hstart rfl (by simp [text, isSpace])
  | bool value =>
      intro outer _ start hstart rest _
      cases value
      · exact run_scalar hstart rfl (by simp [text, isSpace])
      · exact run_scalar hstart rfl (by simp [text, isSpace])
  | int n =>
      exact fun outer _ start hstart rest hrest =>
        run_number hstart (number?_toString numbers (by simpa [isLegible] using hlegible) hrest)
  | float x =>
      exact fun outer _ start hstart rest hrest =>
        run_number hstart (hnumbers.number?_floatText (by simpa [isLegible] using hlegible) hrest)
  | string value =>
      exact fun outer _ start hstart rest _ =>
        run_scalar hstart (token?_stringText numbers value rest) (by simp [text, stringText, isSpace])
  | array items ih =>
      rw [isSound_array] at hsound
      rw [isLegible_array] at hlegible
      obtain ⟨hdepth, hitems⟩ := hlegible
      rintro outer rfl start hstart rest -
      rw [text, List.cons_append, List.cons_append, List.append_assoc, List.singleton_append,
        run_token .openArray rfl (by simp [isSpace]), hstart .openArray (by simp)]
      change (opened outer).run numbers _ = _
      rw [← List.reverse_reverse items, ← closeArray_of_lt (by omega)]
      by_cases hnil : items = []
      · subst hnil
        exact run_token .closeArray rfl (by simp [itemsText, isSpace]) _
      · rw [List.reverse_reverse, run_itemsText hnil ?_ (beginsValue_opened outer),
          List.append_nil]
        exact fun item hitem => ih item hitem (hsound item hitem) _ (hitems item hitem)
  | object members ih =>
      rw [isSound_object] at hsound
      rw [isLegible_object] at hlegible
      obtain ⟨hdepth, hmembers⟩ := hlegible
      rintro outer rfl start hstart rest -
      rw [text, List.cons_append, List.cons_append, List.append_assoc, List.singleton_append,
        run_token .openObject rfl (by simp [isSpace]), hstart .openObject (by simp)]
      change (openedObject outer).run numbers _ = _
      rw [← closeObject_of_lt (by omega)]
      by_cases hnil : members = []
      · subst hnil
        exact run_token .closeObject rfl (by simp [membersText, isSpace]) _
      · rw [run_membersText hnil ?_ (beginsMember_openedObject outer), List.append_nil]
        exact fun member hmember =>
          ih member hmember (hsound member hmember) _ (hmembers member hmember)
  | broken => cases hsound

end Reading

theorem read?_print (hnumbers : numbers.ReadsPrinted) {value : Json} (hsound : value.isSound = true)
    (hlegible : value.isLegible nestingLimit = true) :
    read? value.print numbers = some value := by
  have hread := Reading.reads_of_isLegible hnumbers hsound 0 hlegible [] rfl (.value [])
    (Reading.beginsValue_value []) [] (by simp [EndsNumber])
  rw [read?_eq_run, print, String.toList_ofList, ← List.append_nil (text value), hread,
    Reading.run_nil]
  rfl

end

/-! ## What texts write -/

variable {numbers : NumberReader}

theorem isLegible_ofSpelling (negative : Bool) (spelling : Spelling) (levels : Nat) :
    (ofSpelling numbers negative spelling).isLegible levels = true := by
  rw [ofSpelling]
  cases hread : numbers.double? negative spelling with
  | none => rfl
  | some x => exact numbers.isFinite_of_double? hread

theorem isLegible_int {n : Int} (h : FitsInteger n) (levels : Nat) :
    (int n).isLegible levels = true := decide_eq_true h

theorem isLegible_ofWhole (negative : Bool) (digits : List Char) (levels : Nat) :
    (ofWhole numbers negative digits).isLegible levels = true := by
  simp only [ofWhole, Nat.pow_eq]
  split
  · split
    · exact isLegible_ofSpelling ..
    · exact isLegible_int ⟨by omega, by omega⟩ levels
  · split
    · exact isLegible_int ⟨by omega, by omega⟩ levels
    · exact isLegible_ofSpelling ..

def Token.IsLegible : Token → Prop
  | .scalar value => ∀ levels, value.isLegible levels = true
  | _ => True

theorem isLegible_of_number? {text rest : List Char} {value : Json}
    (h : number? numbers text = some (value, rest)) (levels : Nat) : value.isLegible levels = true := by
  rw [number?.eq_def] at h
  simp only [Option.bind_eq_bind, Option.bind_eq_some_iff, Prod.exists] at h
  obtain ⟨whole, _, -, fraction, _, -, exponent, _, -, h⟩ := h
  split at h <;> cases h
  · exact isLegible_ofWhole ..
  · exact isLegible_ofSpelling ..

theorem Token.isLegible_of_token? {text rest : List Char} {token : Token}
    (h : token? numbers text = some (token, rest)) : token.IsLegible := by
  unfold token? at h
  split at h
  case h_10 =>
      simp only [Option.bind_eq_bind, Option.bind_eq_some_iff, Prod.exists] at h
      obtain ⟨pieces, after, -, h⟩ := h
      split at h <;> cases h
      · exact fun _ => rfl
      · trivial
  case h_11 =>
      simp only [Option.bind_eq_bind, Option.bind_eq_some_iff, Prod.exists] at h
      obtain ⟨value, after, hvalue, h⟩ := h
      cases h
      exact isLegible_of_number? hvalue
  all_goals
    cases h
    first | trivial | exact fun _ => rfl

theorem Token.isLegible_of_scan {text : List Char} {tokens : List Token}
    (h : scan numbers text = some tokens) : ∀ token ∈ tokens, token.IsLegible := by
  fun_induction scan numbers text generalizing tokens with
  | case1 => simp_all
  | case2 c rest _ ih => exact ih h
  | case3 => cases h
  | case4 c rest _ token after htoken _ ih =>
      obtain ⟨others, hothers, rfl⟩ := Option.map_eq_some_iff.1 h
      exact List.forall_mem_cons.2 ⟨isLegible_of_token? htoken, ih hothers⟩

def Frame.contents : Frame → List Json
  | .array items => items
  | .object members _ => members.map (·.2)

/-- What the open containers hold is legible inside them. -/
def OuterLegible : List Frame → Prop
  | [] => True
  | frame :: outer =>
      (∀ item ∈ frame.contents, item.isLegible (nestingLimit - (outer.length + 1)) = true) ∧
        OuterLegible outer

namespace Reading

def IsLegible : Reading → Prop
  | value outer | opened outer | openedObject outer => OuterLegible outer
  | name members outer | colon members _ outer => OuterLegible (.object members none :: outer)
  | complete item outer =>
      item.isLegible (nestingLimit - outer.length) = true ∧ OuterLegible outer

theorem isLegible_closeArray {items : List Json} {outer : List Frame}
    (h : OuterLegible (.array items :: outer)) : (closeArray items outer).IsLegible := by
  obtain ⟨hitems, houter⟩ := h
  rw [closeArray]
  refine ⟨?_, houter⟩
  split
  · rw [isLegible_array]
    refine ⟨by omega, fun item hitem => ?_⟩
    rw [Nat.sub_sub]
    exact hitems item (List.mem_reverse.1 hitem)
  · rfl

theorem isLegible_closeObject {members : List (Option String × Json)} {outer : List Frame}
    (h : OuterLegible (.object members none :: outer)) :
    (closeObject members outer).IsLegible := by
  obtain ⟨hmembers, houter⟩ := h
  rw [closeObject]
  refine ⟨?_, houter⟩
  split
  · rename_i hlt
    cases hnamed : members.reverse.mapM fun member => member.1.map (·, member.2) with
    | none => rfl
    | some named =>
        rw [Option.elim_some, isLegible_object]
        refine ⟨by omega, fun member hmember => ?_⟩
        rw [Nat.sub_sub]
        obtain ⟨source, hsource, hname⟩ := exists_of_mem_mapM hnamed hmember
        obtain ⟨name, -, rfl⟩ := Option.map_eq_some_iff.1 hname
        exact hmembers _ (List.mem_map_of_mem (List.mem_reverse.1 hsource))
  · rfl

theorem outerLegible_array {item : Json} {items : List Json} {outer : List Frame}
    (h : (complete item (.array items :: outer)).IsLegible) :
    OuterLegible (.array (item :: items) :: outer) :=
  ⟨List.forall_mem_cons.2 ⟨h.1, h.2.1⟩, h.2.2⟩

theorem outerLegible_object {item : Json} {members : List (Option String × Json)}
    {key : Option String} {outer : List Frame}
    (h : (complete item (.object members key :: outer)).IsLegible) :
    OuterLegible (.object ((key, item) :: members) none :: outer) :=
  ⟨List.forall_mem_cons.2 ⟨h.1, h.2.1⟩, h.2.2⟩

theorem isLegible_beginValue {outer : List Frame} {token : Token} {next : Reading}
    (houter : OuterLegible outer) (htoken : token.IsLegible)
    (h : beginValue outer token = some next) : next.IsLegible := by
  cases token <;> cases h
  · exact houter
  · exact houter
  · exact ⟨htoken _, houter⟩
  · exact ⟨rfl, houter⟩

theorem isLegible_beginMember {members : List (Option String × Json)} {outer : List Frame}
    {token : Token} {next : Reading} (houter : OuterLegible (.object members none :: outer))
    (h : beginMember members outer token = some next) : next.IsLegible := by
  unfold beginMember at h
  split at h <;> cases h <;> exact houter

theorem isLegible_step {reading next : Reading} {token : Token} (hreading : reading.IsLegible)
    (htoken : token.IsLegible) (h : reading.step token = some next) : next.IsLegible := by
  unfold step at h
  split at h
  · exact isLegible_beginValue hreading htoken h
  · cases h
    exact isLegible_closeArray ⟨List.forall_mem_nil _, hreading⟩
  · have houter : OuterLegible (.array [] :: _) := ⟨List.forall_mem_nil _, hreading⟩
    exact isLegible_beginValue houter htoken h
  · cases h
    exact isLegible_closeObject ⟨List.forall_mem_nil _, hreading⟩
  · exact isLegible_beginMember ⟨List.forall_mem_nil _, hreading⟩ h
  · exact isLegible_beginMember hreading h
  · cases h
    exact hreading
  · cases h
  · cases h
    exact outerLegible_array hreading
  · cases h
    exact isLegible_closeArray (outerLegible_array hreading)
  · cases h
    exact outerLegible_object hreading
  · cases h
    exact isLegible_closeObject (outerLegible_object hreading)
  · cases h

theorem isLegible_foldlM {tokens : List Token} {reading last : Reading}
    (hreading : reading.IsLegible) (htokens : ∀ token ∈ tokens, token.IsLegible)
    (h : tokens.foldlM step reading = some last) : last.IsLegible := by
  induction tokens generalizing reading with
  | nil =>
      cases h
      exact hreading
  | cons token rest ih =>
      obtain ⟨htoken, hrest⟩ := List.forall_mem_cons.1 htokens
      rw [List.foldlM_cons, Option.bind_eq_bind, Option.bind_eq_some_iff] at h
      obtain ⟨next, hnext, h⟩ := h
      exact ih (isLegible_step hreading htoken hnext) hrest h

end Reading

theorem isLegible_of_read? {text : String} {value : Json} (h : read? text numbers = some value) :
    value.isLegible nestingLimit = true := by
  simp only [read?, Option.bind_eq_bind, Option.bind_eq_some_iff] at h
  obtain ⟨tokens, htokens, reading, hreading, hresult⟩ := h
  have hstart : (Reading.value []).IsLegible := trivial
  have hlegible := Reading.isLegible_foldlM hstart (Token.isLegible_of_scan htokens) hreading
  unfold Reading.result? at hresult
  split at hresult <;> cases hresult
  exact hlegible.1

end Drapery.Json
