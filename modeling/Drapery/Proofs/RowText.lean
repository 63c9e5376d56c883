import Drapery.Proofs.CanonicalJson
import Drapery.Row.Json

/-!
# Rows are read back from their text

A row can be saved when no cell takes the name of another member and every cell
holds what a text can write.  A row is read back from its text exactly if it can
be saved, and rows that are read from a text can be.
-/

namespace Drapery

open Json

/-! ## Cells -/

theorem Decimal.nearestBits_whole_lt {n : Nat} (h : n ≤ 2 ^ 64) :
    nearestBits ⟨n, 0⟩ < Binary.infinityBits := by
  rcases Nat.eq_zero_or_pos n with rfl | hpos
  · decide
  · have hhigh : ¬exponentLimit < (0 : Int) := by decide
    have hlow : ¬(0 : Int) + n.log2 < -exponentLimit := by
      rw [exponentLimit]
      omega
    have hone : 0 < Nat.pow 10 (Int.toNat 0) := by decide
    rw [nearestBits, if_neg hpos.ne', if_neg hhigh, if_neg hlow]
    refine Binary.nearestBits_lt (Nat.mul_pos hpos hone) hone ?_
    have hsize : (n : ℚ) ≤ 2 ^ (64 : Int) := by exact_mod_cast h
    calc ((n * Nat.pow 10 (Int.toNat 0) : Nat) / (Nat.pow 10 (Int.toNat (-0)) : Nat) : ℚ)
      _ = n := by norm_num
      _ ≤ 2 ^ (64 : Int) := hsize
      _ < 2 ^ (1023 : Int) := zpow_lt_zpow_right₀ (by norm_num) (by decide)

theorem Json.isFinite_floatOfInt {n : Int} (h : FitsInteger n) :
    (floatOfInt n).isFinite = true := by
  refine Binary.isFinite_toFloat _ (Decimal.nearestBits_whole_lt ?_)
  obtain ⟨hlow, hhigh⟩ := h
  omega

namespace Cell

structure Savable (cell : Cell) : Prop where
  sound : cell.toJson.isSound = true
  legible : cell.toJson.isLegible (nestingLimit - 1) = true
  canonical : cell.toJson.canonical = cell.toJson

theorem savable_null : Savable null := ⟨rfl, rfl, rfl⟩

theorem savable_flag (value : Bool) : (flag value).Savable := ⟨rfl, rfl, rfl⟩

theorem savable_text (value : String) : (text value).Savable := ⟨rfl, rfl, rfl⟩

theorem savable_number_iff {value : Float} : (number value).Savable ↔ value.isFinite = true :=
  ⟨fun h => h.legible, fun h => ⟨rfl, h, rfl⟩⟩

theorem ofJson?_toJson {cell : Cell} (h : cell.Savable) : ofJson? cell.toJson = some cell := by
  cases cell with
  | list items =>
      have hsound : areSound items = true := h.sound
      have hcanonical : canonicalItems items = items := Json.array.inj h.canonical
      rw [toJson, ofJson?, if_pos hsound, hcanonical]
  | _ => rfl

theorem savable_of_ofJson? {value : Json} {cell : Cell} (h : ofJson? value = some cell)
    (hlegible : value.isLegible (nestingLimit - 1) = true) : cell.Savable := by
  cases value with
  | null =>
      cases h
      exact savable_null
  | bool value =>
      cases h
      exact savable_flag value
  | int n =>
      cases h
      exact savable_number_iff.2 (isFinite_floatOfInt (of_decide_eq_true hlegible))
  | float x =>
      cases h
      exact savable_number_iff.2 hlegible
  | string value =>
      cases h
      exact savable_text value
  | array items =>
      rw [ofJson?] at h
      split at h
      · rename_i hitems
        cases h
        have hsound : (Json.array items).isSound = true := hitems
        exact ⟨isSound_canonical hsound, isLegible_canonical hlegible,
          canonical_canonical (array items)⟩
      · cases h
  | object members => cases h
  | broken => cases h

end Cell

/-! ## Rows -/

namespace Row

/-- A row that its text keeps: no cell has the name of the identifier or of the overrides. -/
structure Savable (row : Row) : Prop where
  id : row.get? idName = none
  overrides : row.get? overridesName = none
  cells : ∀ key cell, row.get? key = some cell → cell.Savable

def overridesMember (row : Row) : List (String × Json) :=
  if row.overrides.isEmpty then []
  else [(overridesName,
    .object (row.overrides.entries.map fun entry => (entry.1, .string entry.2)))]

def cellMembers (row : Row) : List (String × Json) :=
  row.cells.entries.map fun entry => (entry.1, entry.2.toJson)

theorem toJson_eq (row : Row) :
    row.toJson = .object ((idName, .string row.id) :: row.overridesMember ++ row.cellMembers) := rfl

theorem mem_cellMembers {row : Row} {member : String × Json} :
    member ∈ row.cellMembers ↔ ∃ cell, row.get? member.1 = some cell ∧ cell.toJson = member.2 := by
  rw [cellMembers, List.mem_map]
  constructor
  · rintro ⟨⟨key, cell⟩, hentry, rfl⟩
    exact ⟨cell, Keyed.mem_entries_iff.1 hentry, rfl⟩
  · rintro ⟨cell, hget, hvalue⟩
    exact ⟨(member.1, cell), Keyed.mem_entries_iff.2 hget, Prod.ext rfl hvalue⟩

theorem isSound_toJson {row : Row} (h : ∀ key cell, row.get? key = some cell → cell.Savable) :
    row.toJson.isSound = true := by
  rw [toJson_eq, isSound_object]
  intro member hmember
  rcases List.mem_append.1 hmember with hmember | hmember
  · rcases List.mem_cons.1 hmember with rfl | hmember
    · rfl
    · rw [overridesMember] at hmember
      split at hmember
      · cases hmember
      · rw [List.mem_singleton.1 hmember, isSound_object, List.forall_mem_map]
        exact fun _ _ => rfl
  · obtain ⟨cell, hget, hvalue⟩ := mem_cellMembers.1 hmember
    rw [← hvalue]
    exact (h _ cell hget).sound

theorem isLegible_toJson {row : Row} (h : ∀ key cell, row.get? key = some cell → cell.Savable) :
    row.toJson.isLegible nestingLimit = true := by
  rw [toJson_eq, isLegible_object]
  refine ⟨by decide, fun member hmember => ?_⟩
  rcases List.mem_append.1 hmember with hmember | hmember
  · rcases List.mem_cons.1 hmember with rfl | hmember
    · rfl
    · rw [overridesMember] at hmember
      split at hmember
      · cases hmember
      · rw [List.mem_singleton.1 hmember, isLegible_object, List.forall_mem_map]
        exact ⟨by decide, fun _ _ => rfl⟩
  · obtain ⟨cell, hget, hvalue⟩ := mem_cellMembers.1 hmember
    rw [← hvalue]
    exact (h _ cell hget).legible

section Saved

variable {row : Row} (h : row.Savable)

include h

theorem Savable.name_ne {member : String × Json} (hmember : member ∈ row.cellMembers) :
    member.1 ≠ idName ∧ member.1 ≠ overridesName := by
  obtain ⟨cell, hget, -⟩ := mem_cellMembers.1 hmember
  constructor <;> intro hname <;> rw [hname] at hget
  · rw [h.id] at hget
    cases hget
  · rw [h.overrides] at hget
    cases hget

theorem Savable.single?_id :
    single? [idName] ((idName, .string row.id) :: row.overridesMember ++ row.cellMembers) =
      some (some (.string row.id)) := by
  have hoverrides : row.overridesMember.filter (·.1 ∈ [idName]) = [] := by
    rw [overridesMember]
    split
    · rfl
    · exact List.filter_cons_of_neg (by simp [idName, overridesName])
  have hcells : row.cellMembers.filter (·.1 ∈ [idName]) = [] := by
    rw [List.filter_eq_nil_iff]
    intro member hmember
    simpa using (h.name_ne hmember).1
  rw [single?, List.filter_append, List.filter_cons_of_pos (by simp), hoverrides, hcells]
  rfl

theorem Savable.single?_overrides :
    (single? [overridesName]
        ((idName, .string row.id) :: row.overridesMember ++ row.cellMembers)).bind
      (orDefault ∅ overridesOfJson?) = some row.overrides := by
  have hcells : row.cellMembers.filter (·.1 ∈ [overridesName]) = [] := by
    rw [List.filter_eq_nil_iff]
    intro member hmember
    simpa using (h.name_ne hmember).2
  rw [single?, List.filter_append, List.filter_cons_of_neg (by simp [idName, overridesName]),
    hcells, List.append_nil, overridesMember]
  by_cases hempty : row.overrides.isEmpty = true
  · have hnone : row.overrides = ∅ := by
      refine Keyed.ext_get? fun key => ?_
      rw [Keyed.get?, List.isEmpty_iff.1 hempty]
      rfl
    rw [if_pos hempty, hnone]
    rfl
  · have hformulas : (row.overrides.entries.map fun entry => (entry.1, Json.string entry.2)).mapM
        (fun member : String × Json => member.2.string?.map (member.1, ·)) =
          some row.overrides.entries :=
      mapM_map_eq_some fun _ _ => rfl
    rw [if_neg hempty, List.filter_cons_of_pos (by simp), List.filter_nil]
    simp only [Option.bind_some, orDefault, overridesOfJson?, Option.bind_eq_bind, hformulas,
      Keyed.ofList_entries]

theorem Savable.cells_toJson :
    (((idName, .string row.id) :: row.overridesMember ++ row.cellMembers).filter
        fun member => member.1 != idName && member.1 != overridesName).mapM
      (fun member => (Cell.ofJson? member.2).map (member.1, ·)) = some row.cells.entries := by
  have hoverrides : row.overridesMember.filter
      (fun member => member.1 != idName && member.1 != overridesName) = [] := by
    rw [overridesMember]
    split
    · rfl
    · exact List.filter_cons_of_neg (by simp)
  have hcells : row.cellMembers.filter
      (fun member => member.1 != idName && member.1 != overridesName) = row.cellMembers := by
    rw [List.filter_eq_self]
    intro member hmember
    simpa using h.name_ne hmember
  rw [List.filter_append, List.filter_cons_of_neg (by simp), hoverrides, hcells, List.nil_append]
  refine mapM_map_eq_some fun entry hentry => ?_
  rw [Cell.ofJson?_toJson (h.cells entry.1 entry.2 (Keyed.mem_entries_iff.1 hentry))]
  rfl

theorem Savable.ofJson?_toJson : ofJson? row.toJson = some row := by
  obtain ⟨member, hmember, hoverrides⟩ := Option.bind_eq_some_iff.1 h.single?_overrides
  rw [toJson_eq, ofJson?]
  simp only [Option.bind_eq_bind, h.single?_id, Option.bind_some, Json.string?, hmember, hoverrides,
    h.cells_toJson, Keyed.ofList_entries]

theorem Savable.read?_print {numbers : NumberReader} (hnumbers : numbers.ReadsPrinted) :
    Row.read? row.print numbers = some row := by
  rw [Row.read?, Row.print,
    Json.read?_print hnumbers (isSound_toJson h.cells) (isLegible_toJson h.cells),
    Option.bind_some, h.ofJson?_toJson]

end Saved

theorem savable_of_ofJson? {value : Json} {row : Row} (h : ofJson? value = some row)
    (hlegible : value.isLegible nestingLimit = true) : row.Savable := by
  cases value with
  | object members =>
      simp only [ofJson?, Option.bind_eq_bind, Option.bind_eq_some_iff] at h
      obtain ⟨-, -, id, -, -, -, overrides, -, cells, hcells, h⟩ := h
      cases h
      have hcell : ∀ key cell, (Keyed.ofList cells).get? key = some cell →
          key ≠ idName ∧ key ≠ overridesName ∧ cell.Savable := by
        intro key cell hget
        have hmem := Keyed.mem_of_mem_ofList (Keyed.mem_entries_iff.2 hget)
        obtain ⟨member, hmember, hread⟩ := exists_of_mem_mapM hcells hmem
        obtain ⟨read, hcell, hpair⟩ := Option.map_eq_some_iff.1 hread
        cases hpair
        obtain ⟨hmember, hname⟩ := List.mem_filter.1 hmember
        have hname : member.1 ≠ idName ∧ member.1 ≠ overridesName := by simpa using hname
        exact ⟨hname.1, hname.2,
          Cell.savable_of_ofJson? hcell ((isLegible_object.1 hlegible).2 member hmember)⟩
      refine ⟨?_, ?_, fun key cell hget => (hcell key cell hget).2.2⟩
      · by_contra hsome
        obtain ⟨cell, hget⟩ := Option.ne_none_iff_exists'.1 hsome
        exact (hcell _ cell hget).1 rfl
      · by_contra hsome
        obtain ⟨cell, hget⟩ := Option.ne_none_iff_exists'.1 hsome
        exact (hcell _ cell hget).2.1 rfl
  | _ => cases h

variable {numbers : NumberReader}

theorem savable_of_read? {text : String} {row : Row} (h : Row.read? text numbers = some row) :
    row.Savable := by
  obtain ⟨value, hvalue, hrow⟩ := Option.bind_eq_some_iff.1 h
  exact savable_of_ofJson? hrow (isLegible_of_read? hvalue)

theorem read?_print_iff_savable (hnumbers : numbers.ReadsPrinted) {row : Row} :
    Row.read? row.print numbers = some row ↔ row.Savable :=
  ⟨savable_of_read?, fun h => h.read?_print hnumbers⟩

/-- Whatever text a row is read from, its own text is read back as the same row: the
identifier, the overrides, and every cell with its kind and contents.  Of the reader of numbers
this takes that it reads back the doubles that are printed. -/
theorem read?_print_of_read? (hnumbers : numbers.ReadsPrinted) {text : String} {row : Row}
    (h : Row.read? text numbers = some row) : Row.read? row.print numbers = some row :=
  (savable_of_read? h).read?_print hnumbers

def lampText : String :=
  "\x7b\"id\":\"lamp\",\"n\":3,\"cellFormulas\":\x7b\"b\":\"1+1\"\x7d,\"t\":\"\\u0001\\n\"," ++
    "\"l\":[1,-2.50,\x7b\"b\":null,\"a\":[true]\x7d]\x7d"

def lampPrinted : String :=
  "\x7b\"id\":\"lamp\",\"cellFormulas\":\x7b\"b\":\"1+1\"\x7d," ++
    "\"l\":[1,-2.5,\x7b\"a\":[true],\"b\":null\x7d],\"n\":3.0,\"t\":\"\\u0001\\n\"\x7d"

theorem read?_print_lampText : NumberReader.nearest.ReadsPrinted ∧
    ∃ row, Row.read? lampText .nearest = some row ∧ row.print = lampPrinted ∧
      Row.read? row.print .nearest = some row := by
  have hread : (Row.read? lampText .nearest).map Row.print = some lampPrinted := by decide +kernel
  obtain ⟨row, hrow, hprint⟩ := Option.map_eq_some_iff.1 hread
  exact ⟨readsPrinted_nearest, row, hrow, hprint, read?_print_of_read? readsPrinted_nearest hrow⟩

end Row

/-! ## Rows that cannot be saved -/

theorem Json.membersText_congr {a b : List (String × Json)}
    (h : a.map (fun member => (member.1, text member.2)) =
      b.map fun member => (member.1, text member.2)) : membersText a = membersText b := by
  induction a generalizing b with
  | nil =>
      rw [List.map_nil, eq_comm, List.map_eq_nil_iff] at h
      rw [h]
  | cons first rest ih =>
      cases b with
      | nil => cases h
      | cons other others =>
          obtain ⟨hfirst, hrest⟩ := List.cons.inj h
          obtain ⟨hname, hvalue⟩ := Prod.mk.inj hfirst
          have htail := ih hrest
          cases rest <;> cases others
          · rw [membersText, membersText, hname, hvalue]
          · cases hrest
          · cases hrest
          · rw [membersText_cons_cons, membersText_cons_cons, hname, hvalue, htail]

theorem Json.eq_of_single? {names : List String} {members : List (String × Json)}
    {found : Option Json} (h : single? names members = some found) {member : String × Json}
    (hmem : member ∈ members) (hname : member.1 ∈ names) : found = some member.2 := by
  have hfound : member ∈ members.filter (·.1 ∈ names) := List.mem_filter.2 ⟨hmem, by simpa⟩
  rw [single?] at h
  split at h
  · rename_i hnone
    rw [hnone] at hfound
    cases hfound
  · rename_i only hone
    rw [hone] at hfound
    rw [List.mem_singleton.1 hfound]
    exact (Option.some.inj h).symm
  · cases h

theorem Json.single?_eq_none {names : List String} {first second : String × Json}
    {rest : List (String × Json)} (hfirst : first.1 ∈ names) (hsecond : second.1 ∈ names)
    (hmem : second ∈ rest) : single? names (first :: rest) = none := by
  have hfound : second ∈ rest.filter (·.1 ∈ names) := List.mem_filter.2 ⟨hmem, by simpa⟩
  rw [single?, List.filter_cons_of_pos (by simpa)]
  cases hrest : rest.filter (·.1 ∈ names) with
  | nil =>
      rw [hrest] at hfound
      cases hfound
  | cons other others => rfl

namespace Cell

def isFinite : Cell → Bool
  | number value => value.isFinite
  | _ => true

/-- The cell that is read where this one was printed. -/
def printed (cell : Cell) : Cell := if cell.isFinite then cell else null

theorem text_toJson_printed (cell : Cell) :
    Json.text cell.printed.toJson = Json.text cell.toJson := by
  cases cell with
  | number value =>
      rw [printed]
      split
      · rfl
      · rename_i h
        have hinfinite : ¬value.isFinite = true := h
        rw [toJson, toJson, Json.text, Json.text, floatText, if_neg hinfinite]
  | _ => rfl

theorem isFinite_of_savable {cell : Cell} (h : cell.Savable) : cell.isFinite = true := by
  cases cell with
  | number value => exact savable_number_iff.1 h
  | _ => rfl

theorem savable_printed_of_savable {cell : Cell} (h : cell.Savable) : cell.printed.Savable := by
  rwa [printed, if_pos (isFinite_of_savable h)]

theorem savable_printed_number (value : Float) : (number value).printed.Savable := by
  rw [printed]
  split
  · rename_i hfinite
    exact savable_number_iff.2 hfinite
  · exact savable_null

end Cell

namespace Row

def printed (row : Row) : Row where
  id := row.id
  overrides := row.overrides
  cells := ⟨row.cells.entries.map fun entry => (entry.1, entry.2.printed),
    List.pairwise_map.2 row.cells.ascending⟩

theorem get?_printed (row : Row) (key : String) :
    row.printed.get? key = (row.get? key).map Cell.printed := by
  change (row.cells.entries.map fun entry => (entry.1, entry.2.printed)).lookup key =
    (row.cells.entries.lookup key).map Cell.printed
  induction row.cells.entries with
  | nil => rfl
  | cons first rest ih =>
      rw [List.map_cons, Keyed.lookup_cons_eq_ite, Keyed.lookup_cons_eq_ite, ih]
      split <;> rfl

theorem print_printed (row : Row) : row.printed.print = row.print := by
  have hcells : row.printed.cellMembers.map (fun member => (member.1, Json.text member.2)) =
      row.cellMembers.map fun member => (member.1, Json.text member.2) := by
    simp only [cellMembers, printed, List.map_map]
    exact List.map_congr_left fun entry _ => Prod.ext rfl (Cell.text_toJson_printed entry.2)
  have hmembers : Json.membersText
        ((idName, .string row.id) :: row.overridesMember ++ row.printed.cellMembers) =
      Json.membersText ((idName, .string row.id) :: row.overridesMember ++ row.cellMembers) := by
    refine Json.membersText_congr ?_
    rw [List.map_append, hcells, ← List.map_append]
  rw [print, print, Json.print, Json.print, toJson_eq, toJson_eq, Json.text, Json.text]
  exact congrArg (fun members => String.ofList ('\x7b' :: members ++ ['\x7d'])) hmembers

/-- An object in which a cell takes the place of another member is no row. -/
theorem get?_reserved_of_ofJson? {row back : Row} (h : ofJson? row.toJson = some back) :
    row.get? idName = none ∧ row.get? overridesName = none := by
  simp only [toJson_eq, ofJson?, Option.bind_eq_bind, Option.bind_eq_some_iff] at h
  obtain ⟨identifier, hidentifier, id, -, overrides, hoverrides, formulas, hformulas, -⟩ := h
  refine ⟨?_, ?_⟩ <;> by_contra hsome <;> obtain ⟨cell, hget⟩ := Option.ne_none_iff_exists'.1 hsome
  · have hcell : (idName, cell.toJson) ∈ row.overridesMember ++ row.cellMembers :=
      List.mem_append_right _ (mem_cellMembers.2 ⟨cell, hget, rfl⟩)
    rw [List.cons_append, single?_eq_none (by simp) (by simp) hcell] at hidentifier
    cases hidentifier
  · have hcell : (overridesName, cell.toJson) ∈ row.cellMembers :=
      mem_cellMembers.2 ⟨cell, hget, rfl⟩
    rw [single?, List.cons_append, List.filter_cons_of_neg (by simp [idName, overridesName]),
      ← single?, overridesMember] at hoverrides
    split at hoverrides
    · -- the cell is read in place of the overrides, and no cell is an object
      rw [List.nil_append] at hoverrides
      rw [eq_of_single? hoverrides hcell (by simp)] at hformulas
      cases cell <;> cases hformulas
    · rw [List.singleton_append, single?_eq_none (by simp) (by simp) hcell] at hoverrides
      cases hoverrides

section

variable {numbers : NumberReader} (hnumbers : numbers.ReadsPrinted)

include hnumbers

theorem read?_print_of_printed {row : Row} (h : row.printed.Savable) :
    Row.read? row.print numbers = some row.printed := by
  rw [← print_printed, h.read?_print hnumbers]

/-- If only numbers keep a row from being saved, then its text is read exactly if no cell takes the
place of another member, and these numbers are cleared. -/
theorem read?_print_eq {row : Row}
    (h : ∀ key cell, row.get? key = some cell → cell.printed.Savable) :
    Row.read? row.print numbers =
      if row.get? idName = none ∧ row.get? overridesName = none then some row.printed
      else none := by
  have hcells : ∀ key cell, row.printed.get? key = some cell → cell.Savable := by
    intro key cell hget
    rw [get?_printed] at hget
    obtain ⟨source, hsource, rfl⟩ := Option.map_eq_some_iff.1 hget
    exact h key source hsource
  have hnone : ∀ key, row.printed.get? key = none ↔ row.get? key = none := by
    intro key
    rw [get?_printed, Option.map_eq_none_iff]
  split
  · rename_i hnames
    exact read?_print_of_printed hnumbers
      ⟨(hnone _).2 hnames.1, (hnone _).2 hnames.2, hcells⟩
  · rename_i hnames
    rw [← print_printed, Row.read?, Row.print,
      Json.read?_print hnumbers (isSound_toJson hcells) (isLegible_toJson hcells),
      Option.bind_some]
    by_contra hsome
    obtain ⟨back, hback⟩ := Option.ne_none_iff_exists'.1 hsome
    obtain ⟨hid, hoverrides⟩ := get?_reserved_of_ofJson? hback
    exact hnames ⟨(hnone _).1 hid, (hnone _).1 hoverrides⟩

end

end Row

end Drapery
