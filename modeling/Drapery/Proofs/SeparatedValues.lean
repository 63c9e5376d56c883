import Drapery.Proofs.FixedPlaces
import Drapery.Purchase.Csv

/-!
# Separated values are read back

A reader goes through a text one character at a time.  A field stands as it is,
or between quotes that write a quote inside it twice; a semicolon ends a field,
and a line end, which is a line feed, a carriage return or both, ends a record.
Every table whose records have a field is read back from its text, whatever the
fields hold, if fields are quoted where they must be.
-/

namespace Drapery

namespace Csv

def reserved : List Char := [';', '"', '\n', '\r']

/-- Fields with reserved characters are written in quotes, with a quote inside them written twice.
Others may be. -/
structure QuotesReserved (write : List Char → List Char) : Prop where
  quoted : ∀ text, (∃ c ∈ text, c ∈ reserved) → write text = '"' :: quoteBody text ++ ['"']
  plain : ∀ text, (∀ c ∈ text, c ∉ reserved) →
    write text = text ∨ write text = '"' :: quoteBody text ++ ['"']

theorem needsQuotes_iff {c : Char} : needsQuotes c = true ↔ c ∈ reserved := by
  simp only [needsQuotes, Bool.or_eq_true, decide_eq_true_eq]
  simp [separator, reserved, or_assoc]

theorem quotesReserved_field : QuotesReserved field where
  quoted text h := if_pos (by simpa [needsQuotes_iff] using h)
  plain text h := .inl (if_neg (by simpa [needsQuotes_iff] using h))

/-! ## The reader -/

inductive Position where
  | recordStart
  /-- After a carriage return, whose line end may go on with a line feed. -/
  | returned
  | fieldStart
  | bare (text : List Char)
  | quoted (text : List Char)
  /-- Behind a quote that closes the field, unless it is the first of two. -/
  | closed (text : List Char)

structure Reader where
  records : List (List String) := []
  fields : List String := []
  position : Position := .recordStart

namespace Reader

def endRecord (text : List Char) (position : Position) (reader : Reader) : Reader where
  records := reader.records ++ [reader.fields ++ [String.ofList text]]
  position := position

def endField (text : List Char) (c : Char) (reader : Reader) : Option Reader :=
  if c = ';' then
    some { reader with fields := reader.fields ++ [String.ofList text], position := .fieldStart }
  else if c = '\n' then some (reader.endRecord text .recordStart)
  else if c = '\r' then some (reader.endRecord text .returned)
  else none

def beginField (c : Char) (reader : Reader) : Option Reader :=
  if c = '"' then some { reader with position := .quoted [] }
  else if c ∈ reserved then reader.endField [] c
  else some { reader with position := .bare [c] }

def step (reader : Reader) (c : Char) : Option Reader :=
  match reader.position with
  | .recordStart | .fieldStart => reader.beginField c
  | .returned =>
    if c = '\n' then some { reader with position := .recordStart } else reader.beginField c
  | .bare text =>
    if c ∈ reserved then reader.endField text c
    else some { reader with position := .bare (text ++ [c]) }
  | .quoted text =>
    some { reader with position := if c = '"' then .closed text else .quoted (text ++ [c]) }
  | .closed text =>
    if c = '"' then some { reader with position := .quoted (text ++ [c]) }
    else reader.endField text c

/-- The records at the end of the text.  A line that is not ended is a record all the same. -/
def finish? (reader : Reader) : Option (List (List String)) :=
  match reader.position with
  | .recordStart | .returned => some reader.records
  | .fieldStart => some (reader.endRecord [] .recordStart).records
  | .bare text | .closed text => some (reader.endRecord text .recordStart).records
  | .quoted _ => none

end Reader

def read? (text : String) : Option (List (List String)) :=
  (text.toList.foldlM Reader.step {}).bind Reader.finish?

/-! ## Fields -/

namespace Reader

variable {records : List (List String)} {fields : List String} {write : List Char → List Char}

theorem run_quoteBody (before text rest : List Char) :
    (quoteBody text ++ '"' :: rest).foldlM step ⟨records, fields, .quoted before⟩ =
      rest.foldlM step ⟨records, fields, .closed (before ++ text)⟩ := by
  induction text generalizing before with
  | nil =>
      rw [quoteBody, List.nil_append, List.append_nil]
      rfl
  | cons c tail ih =>
      rw [List.append_cons before c tail, ← ih]
      by_cases hquote : c = '"'
      · subst hquote
        rw [quoteBody]
        rfl
      · rw [quoteBody, List.cons_append, List.foldlM_cons]
        · simp only [step, if_neg hquote]
          rfl
        · exact hquote

theorem run_bare {text : List Char} (htext : ∀ c ∈ text, c ∉ reserved)
    (before rest : List Char) :
    (text ++ rest).foldlM step ⟨records, fields, .bare before⟩ =
      rest.foldlM step ⟨records, fields, .bare (before ++ text)⟩ := by
  induction text generalizing before with
  | nil => rw [List.nil_append, List.append_nil]
  | cons c tail ih =>
      obtain ⟨hc, htail⟩ := List.forall_mem_cons.1 htext
      rw [List.append_cons before c tail, ← ih htail, List.cons_append, List.foldlM_cons]
      simp only [step, if_neg hc]
      rfl

section Field

variable {position : Position} {stop : Char}

theorem step_of_start (hposition : position = .recordStart ∨ position = .fieldStart) (c : Char) :
    step ⟨records, fields, position⟩ c = beginField c ⟨records, fields, position⟩ := by
  rcases hposition with rfl | rfl <;> rfl

theorem ne_quote_and_mem_reserved (hstop : stop = separator ∨ stop = '\n') :
    stop ≠ '"' ∧ stop ∈ reserved := by
  rcases hstop with rfl | rfl <;> decide

theorem run_between_quotes (text : List Char)
    (hposition : position = .recordStart ∨ position = .fieldStart)
    (hstop : stop = separator ∨ stop = '\n') (rest : List Char) :
    ('"' :: quoteBody text ++ ['"'] ++ stop :: rest).foldlM step ⟨records, fields, position⟩ =
      (endField text stop ⟨records, fields, position⟩).bind fun reader =>
        rest.foldlM step reader := by
  rw [List.cons_append, List.cons_append, List.append_assoc, List.singleton_append,
    List.foldlM_cons, step_of_start hposition]
  change (quoteBody text ++ '"' :: stop :: rest).foldlM step ⟨records, fields, .quoted []⟩ = _
  rw [run_quoteBody, List.nil_append, List.foldlM_cons]
  simp only [step, if_neg (ne_quote_and_mem_reserved hstop).1]
  rfl

theorem run_without_quotes {text : List Char} (htext : ∀ c ∈ text, c ∉ reserved)
    (hposition : position = .recordStart ∨ position = .fieldStart)
    (hstop : stop = separator ∨ stop = '\n') (rest : List Char) :
    (text ++ stop :: rest).foldlM step ⟨records, fields, position⟩ =
      (endField text stop ⟨records, fields, position⟩).bind fun reader =>
        rest.foldlM step reader := by
  obtain ⟨hquote, hreserved⟩ := ne_quote_and_mem_reserved hstop
  cases text with
  | nil =>
      rw [List.nil_append, List.foldlM_cons, step_of_start hposition, beginField, if_neg hquote,
        if_pos hreserved]
      rfl
  | cons c tail =>
      obtain ⟨hc, htail⟩ := List.forall_mem_cons.1 htext
      have hplain : c ≠ '"' := by
        rintro rfl
        exact hc (by decide)
      rw [List.cons_append, List.foldlM_cons, step_of_start hposition, beginField, if_neg hplain,
        if_neg hc]
      change (tail ++ stop :: rest).foldlM step ⟨records, fields, .bare [c]⟩ = _
      rw [run_bare htail, List.foldlM_cons]
      simp only [step, if_pos hreserved]
      rfl

/-- Whatever a field holds, it is what the reader has read when it comes to the character behind
the field. -/
theorem run_field (hwrite : QuotesReserved write) (text : List Char)
    (hposition : position = .recordStart ∨ position = .fieldStart)
    (hstop : stop = separator ∨ stop = '\n') (rest : List Char) :
    (write text ++ stop :: rest).foldlM step ⟨records, fields, position⟩ =
      (endField text stop ⟨records, fields, position⟩).bind fun reader =>
        rest.foldlM step reader := by
  by_cases hany : ∃ c ∈ text, c ∈ reserved
  · rw [hwrite.quoted text hany, run_between_quotes text hposition hstop]
  · have htext : ∀ c ∈ text, c ∉ reserved := fun c hc hreserved => hany ⟨c, hc, hreserved⟩
    rcases hwrite.plain text htext with hbare | hquoted
    · rw [hbare, run_without_quotes htext hposition hstop]
    · rw [hquoted, run_between_quotes text hposition hstop]

end Field

/-! ## Records and tables -/

theorem run_record (hwrite : QuotesReserved write) {texts : List (List Char)} (hne : texts ≠ [])
    {position : Position} (hposition : position = .recordStart ∨ position = .fieldStart)
    (rest : List Char) :
    (record write texts ++ rest).foldlM step ⟨records, fields, position⟩ =
      rest.foldlM step ⟨records ++ [fields ++ texts.map String.ofList], [], .recordStart⟩ := by
  induction texts generalizing fields position with
  | nil => exact absurd rfl hne
  | cons first others ih =>
      cases others with
      | nil =>
          rw [record, List.append_assoc, List.singleton_append,
            run_field hwrite first hposition (.inr rfl)]
          rfl
      | cons next more =>
          have hnext : (record write (next :: more) ++ rest).foldlM step
              ⟨records, fields ++ [String.ofList first], .fieldStart⟩ = _ :=
            ih (List.cons_ne_nil _ _) (.inr rfl)
          rw [record, List.append_assoc, List.cons_append,
            run_field hwrite first hposition (.inl rfl)]
          · rw [List.append_assoc, List.singleton_append] at hnext
            exact hnext
          · exact List.cons_ne_nil _ _

theorem run_table (hwrite : QuotesReserved write) {table : List (List String)}
    (htable : ∀ record ∈ table, record ≠ []) :
    (table.flatMap fun fields => record write (fields.map String.toList)).foldlM step
      ⟨records, [], .recordStart⟩ = some ⟨records ++ table, [], .recordStart⟩ := by
  induction table generalizing records with
  | nil =>
      rw [List.append_nil]
      rfl
  | cons first others ih =>
      obtain ⟨hfirst, hothers⟩ := List.forall_mem_cons.1 htable
      rw [List.flatMap_cons, run_record hwrite (by simpa using hfirst) (.inl rfl), ih hothers]
      simp

end Reader

theorem read?_table {write : List Char → List Char} (hwrite : QuotesReserved write)
    {records : List (List String)} (h : ∀ record ∈ records, record ≠ []) :
    read? (table write records) = some records := by
  rw [read?, table, String.toList_ofList, Reader.run_table hwrite h]
  rfl

end Csv

/-! ## The purchase summary -/

namespace PurchaseSummary

/-- The record of a group: its kind, its label, and its metres and cost with two places.  A cost of
zero is left out. -/
def Records (group : PurchaseGroup) (record : List String) : Prop :=
  ∃ meters cost, record = [group.kind, group.label, meters, cost] ∧
    HasPlaces 2 group.totalLinearMeters meters ∧
    if group.totalCost == 0 then cost = "" else HasPlaces 2 group.totalCost cost

theorem records_csvRecord (group : PurchaseGroup) : Records group (csvRecord group) := by
  refine ⟨_, _, rfl, hasPlaces_fixedPlaces (by decide) _, ?_⟩
  split
  · rfl
  · exact hasPlaces_fixedPlaces (by decide) _

/-- What is read from the table of a purchase summary: its header, and the record of every group,
fabrics first, then linings and rails. -/
theorem read?_csv {write : List Char → List Char} (hwrite : Csv.QuotesReserved write)
    (summary : PurchaseSummary) :
    ∃ records, Csv.read? (summary.csv write) =
        some (["Famille", "Référence", "Total ML", "Total PA"] :: records) ∧
      List.Forall₂ Records (summary.fabrics ++ summary.linings ++ summary.rails) records := by
  refine ⟨summary.groups.map csvRecord, Csv.read?_table hwrite fun record hrecord => ?_, ?_⟩
  · rcases List.mem_cons.1 hrecord with rfl | hrecord
    · exact List.cons_ne_nil _ _
    · obtain ⟨group, -, rfl⟩ := List.mem_map.1 hrecord
      exact List.cons_ne_nil _ _
  · rw [List.forall₂_map_right_iff, ← groups]
    exact List.forall₂_same.2 fun group _ => records_csvRecord group

def velvetSummary : PurchaseSummary where
  fabrics := [⟨"Tissu", "Velours", none, "Velours \"Roi\"; bleu", 2.125, 60, []⟩]
  linings := [⟨"Doublure", "Satin", none, "Satin\r\nécru", 3.456, 0, []⟩]

theorem read?_csv_velvetSummary : Csv.QuotesReserved Csv.field ∧
    Csv.read? (velvetSummary.csv Csv.field) = some [
      ["Famille", "Référence", "Total ML", "Total PA"],
      ["Tissu", "Velours \"Roi\"; bleu", "2.12", "60.00"],
      ["Doublure", "Satin\r\nécru", "3.46", ""]] ∧
    HasPlaces 2 2.125 "2.12" := by
  obtain ⟨records, hread, hrecords⟩ := read?_csv Csv.quotesReserved_field velvetSummary
  have hcomputed : Csv.read? (velvetSummary.csv Csv.field) = some [
      ["Famille", "Référence", "Total ML", "Total PA"],
      ["Tissu", "Velours \"Roi\"; bleu", "2.12", "60.00"],
      ["Doublure", "Satin\r\nécru", "3.46", ""]] := by decide +kernel
  refine ⟨Csv.quotesReserved_field, hcomputed, ?_⟩
  rw [hcomputed] at hread
  obtain rfl := (List.cons.inj (Option.some.inj hread)).2
  obtain _ | ⟨⟨meters, cost, hrecord, hmeters, -⟩, -⟩ := hrecords
  simp only [List.cons.injEq, and_true] at hrecord
  obtain ⟨-, -, rfl, -⟩ := hrecord
  exact hmeters

end PurchaseSummary

end Drapery
