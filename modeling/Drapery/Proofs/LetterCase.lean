import Drapery.Proofs.CaseFolding
import Drapery.Proofs.Prices

/-!
# Names in another letter case

Other expenses and commissions are told by words that are compared up to the
case of A to Z.  A word is recognised in any other letter case as well, unless it
is spelled with a letter of `unseenCases`: a capital with an accent or a long s.
-/

namespace Drapery

open Text

theorem Text.occursIn_iff {word text : List Char} :
    occursIn word text = true ↔ word <:+: text := by
  induction text with
  | nil => rw [occursIn, List.isEmpty_iff, List.infix_nil]
  | cons c rest ih =>
      rw [occursIn, Bool.or_eq_true, List.isPrefixOf_iff_prefix, ih, List.infix_cons_iff]

namespace Product

/-! ## The two kinds up to letter case -/

def NamesOtherExpense (product : String) : Prop :=
  SameButCase (trim product.toList) otherExpenseName.toList

theorem isOtherExpense_iff {row : Row} : isOtherExpense row = true ↔
    NamesOtherExpense (row.text Field.product) ∧ IsSeen (trim (row.text Field.product).toList) := by
  have hfold : otherExpenseName.toList.map caseFold = otherExpenseName.toList.map Char.toLower := by
    decide +kernel
  have hletters : (otherExpenseName.toList.map Char.toLower).all nameLetters.contains = true := by
    decide +kernel
  have hlower := map_toLower_eq_iff (fun c hc => by simpa using List.all_eq_true.1 hletters c hc)
    (trim (row.text Field.product).toList)
  rw [isOtherExpense, sameIgnoringAsciiCase, beq_iff_eq, Row.label, trimmed, String.toList_ofList,
    hlower, NamesOtherExpense, SameButCase, hfold]

def SpellsCommission (category : String) : Prop :=
  ∃ word, word <:+: category.toList ∧ SameButCase word "commission".toList ∧ IsSeen word

theorem isCommissionCategory_iff {category : String} :
    isCommissionCategory category = true ↔ SpellsCommission category := by
  have hfold : "commission".toList.map caseFold = "commission".toList := by decide +kernel
  have hall : "commission".toList.all nameLetters.contains = true := by decide +kernel
  have hletters : ∀ c ∈ "commission".toList, c ∈ nameLetters := fun c hc => by
    simpa using List.all_eq_true.1 hall c hc
  have hlower := map_toLower_eq_iff hletters
  rw [isCommissionCategory, occursIn_iff, List.infix_map_iff]
  simp only [SpellsCommission, SameButCase, hfold, eq_comm (a := "commission".toList), hlower]

theorem isCommission_iff {row : Row} : isCommission row = true ↔
    NamesOtherExpense (row.text Field.product) ∧ IsSeen (trim (row.text Field.product).toList) ∧
      SpellsCommission (row.text Field.expenseCategory) := by
  rw [isCommission, Bool.and_eq_true, isOtherExpense_iff, isCommissionCategory_iff, and_assoc]

theorem spellsCommission_iff {category : String} (hseen : IsSeen category.toList) :
    SpellsCommission category ↔
      "commission".toList.map caseFold <:+: category.toList.map caseFold := by
  rw [SpellsCommission, List.infix_map_iff]
  constructor
  · rintro ⟨word, hword, hcase, -⟩
    exact ⟨word, hword, hcase.symm⟩
  · rintro ⟨word, hword, hcase⟩
    exact ⟨word, hword, hcase.symm, fun c hc => hseen c (hword.subset hc)⟩

/-! ## Texts in another case -/

section

variable {first second : String} (hcase : SameButCase first.toList second.toList)

include hcase

theorem namesOtherExpense_congr : NamesOtherExpense first ↔ NamesOtherExpense second := by
  have htrim : (trim first.toList).map caseFold = (trim second.toList).map caseFold := hcase.trim
  rw [NamesOtherExpense, NamesOtherExpense, SameButCase, SameButCase, htrim]

theorem spellsCommission_congr (hfirst : IsSeen first.toList) (hsecond : IsSeen second.toList) :
    SpellsCommission first ↔ SpellsCommission second := by
  rw [SameButCase] at hcase
  rw [spellsCommission_iff hfirst, spellsCommission_iff hsecond, hcase]

end

end Product

/-! ## Rows with other names -/

def Row.renamed (row : Row) (product category : String) : Row :=
  (row.setText Field.product product).setText Field.expenseCategory category

namespace Product

section

variable {row : Row} {product category : String}

theorem text_product_renamed : (row.renamed product category).text Field.product = product := by
  rw [Row.text, Row.renamed, Row.setText, Row.get?_set, if_neg (by decide), Row.setText,
    Row.get?_set, if_pos rfl]
  rfl

theorem text_expenseCategory_renamed :
    (row.renamed product category).text Field.expenseCategory = category := by
  rw [Row.text, Row.renamed, Row.setText, Row.get?_set, if_pos rfl]
  rfl

variable (category) (hproduct : SameButCase (row.text Field.product).toList product.toList)

include hproduct

theorem isOtherExpense_renamed_iff :
    isOtherExpense (row.renamed product category) = isOtherExpense row ↔
      (NamesOtherExpense (row.text Field.product) →
        (IsSeen (trim product.toList) ↔ IsSeen (trim (row.text Field.product).toList))) := by
  rw [Bool.eq_iff_iff, isOtherExpense_iff, isOtherExpense_iff, text_product_renamed,
    ← namesOtherExpense_congr hproduct, and_congr_right_iff]

theorem isCommission_renamed_iff :
    isCommission (row.renamed product category) = isCommission row ↔
      (NamesOtherExpense (row.text Field.product) →
        (IsSeen (trim product.toList) ∧ SpellsCommission category ↔
          IsSeen (trim (row.text Field.product).toList) ∧
            SpellsCommission (row.text Field.expenseCategory))) := by
  rw [Bool.eq_iff_iff, isCommission_iff, isCommission_iff, text_product_renamed,
    text_expenseCategory_renamed, ← namesOtherExpense_congr hproduct, and_congr_right_iff]

end

end Product

/-! ## The rows that take a share -/

def TakesShare (schema : Schema) (context : Context) (row : Row) : Prop :=
  Product.isTravel (formulaPass schema context row).1.row = false ∧
    Product.isCommission (ruledRow schema context row) = true

section

variable {schema : Schema} {context : Context} {row : Row} {product category : String}

theorem takesShare_iff (hplain : ∀ key ∈ [Field.product, Field.expenseCategory],
    schema.formula? row key = none) :
    TakesShare schema context row ↔ Product.isCommission row = true := by
  have hkeys : ∀ key ∈ [Field.product, Field.expenseCategory],
      key ∉ (schema.formulasInForce row).map (·.1) := by
    intro key hkey hmem
    simpa [hplain key hkey] using (Schema.mem_keys_formulasInForce.1 hmem).2
  have hkind : SameKind (formulaPass schema context row).1.row row :=
    sameKind_of_cells fun key hkey =>
      (agreeOff_formulaPass schema context row).cells key (hkeys key hkey)
  rw [TakesShare, isCommission_ruledRow, hkind.travel, hkind.commission]
  refine ⟨And.right, fun hcommission => ⟨?_, hcommission⟩⟩
  by_contra htravel
  rw [Bool.not_eq_false] at htravel
  rw [Product.isCommission_of_isTravel htravel] at hcommission
  cases hcommission

/-- Product and category in another letter case.  An other expense is told alike exactly
if its name is seen in both cases or in neither, and a commission exactly if name and
category are.  Texts without a letter in an unseen case are always told alike.  A row
that stays a commission or none takes a share of the revenue as it did. -/
theorem takesShare_renamed
    (hproduct : SameButCase (row.text Field.product).toList product.toList)
    (hcategory : SameButCase (row.text Field.expenseCategory).toList category.toList) :
    let other := row.renamed product category
    (Product.isOtherExpense other = Product.isOtherExpense row ↔
      (Product.NamesOtherExpense (row.text Field.product) →
        (IsSeen (trim product.toList) ↔ IsSeen (trim (row.text Field.product).toList)))) ∧
    (Product.isCommission other = Product.isCommission row ↔
      (Product.NamesOtherExpense (row.text Field.product) →
        (IsSeen (trim product.toList) ∧ Product.SpellsCommission category ↔
          IsSeen (trim (row.text Field.product).toList) ∧
            Product.SpellsCommission (row.text Field.expenseCategory)))) ∧
    ((∀ text ∈ [product, category, row.text Field.product, row.text Field.expenseCategory],
        IsSeen text.toList) →
      Product.isOtherExpense other = Product.isOtherExpense row ∧
        Product.isCommission other = Product.isCommission row) ∧
    ∀ schema context, (∀ key ∈ [Field.product, Field.expenseCategory],
        schema.formula? row key = none) →
      (Product.isCommission other = Product.isCommission row ↔
        (TakesShare schema context other ↔ TakesShare schema context row)) ∧
      (TakesShare schema context row →
        (recompute schema context row).1.get? Field.totalPrice =
          some (.number ((recompute schema context row).1.amount Field.percentage *
            context.totalRevenue.getD 0 / 100))) := by
  intro other
  have hother := Product.isOtherExpense_renamed_iff category hproduct
  have hcommission := Product.isCommission_renamed_iff category hproduct
  refine ⟨hother, hcommission, fun hseen => ?_, fun schema context hplain => ⟨?_, fun hshare =>
    totalPrice_of_isCommission hshare.1 hshare.2⟩⟩
  · simp only [List.forall_mem_cons, List.not_mem_nil, false_imp_iff, implies_true, and_true]
      at hseen
    obtain ⟨hseenProduct, hseenCategory, hseenRow, hseenRowCategory⟩ := hseen
    have htrims : IsSeen (trim product.toList) ↔ IsSeen (trim (row.text Field.product).toList) :=
      iff_of_true hseenProduct.trim hseenRow.trim
    have hspells := Product.spellsCommission_congr hcategory hseenRowCategory hseenCategory
    exact ⟨hother.2 fun _ => htrims, hcommission.2 fun _ => and_congr htrims hspells.symm⟩
  · have hplainOther : ∀ key ∈ [Field.product, Field.expenseCategory],
        schema.formula? other key = none := hplain
    rw [takesShare_iff hplain, takesShare_iff hplainOther, Bool.eq_iff_iff]

end

/-! ## A capital with an accent -/

def commissionRow (product category : String) : Row where
  id := "c"
  cells := .ofList [(Field.product, .text product), (Field.expenseCategory, .text category),
    (Field.percentage, .number 10)]

theorem takesShare_renamed_capitals :
    let row := commissionRow "Autre dépense" "Commission"
    let other := row.renamed "AUTRE DéPENSE" "COMMISSION"
    SameButCase (row.text Field.product).toList "AUTRE DéPENSE".toList ∧
      SameButCase (row.text Field.expenseCategory).toList "COMMISSION".toList ∧
      Product.isOtherExpense other = Product.isOtherExpense row ∧
      Product.isCommission other = Product.isCommission row ∧
      (TakesShare { name := "grid", columns := [] } {} other ↔
        TakesShare { name := "grid", columns := [] } {} row) := by
  intro row other
  have hproduct : SameButCase (row.text Field.product).toList "AUTRE DéPENSE".toList := by
    decide +kernel
  have hcategory : SameButCase (row.text Field.expenseCategory).toList "COMMISSION".toList := by
    decide +kernel
  obtain ⟨-, -, hseen, hshare⟩ := takesShare_renamed hproduct hcategory
  have hsame := hseen (by decide +kernel)
  have hplain : ∀ key ∈ [Field.product, Field.expenseCategory],
      ({ name := "grid", columns := [] } : Schema).formula? row key = none := by decide +kernel
  exact ⟨hproduct, hcategory, hsame.1, hsame.2, (hshare _ {} hplain).1.1 hsame.2⟩

/-- With the capital of the accented letter, the product is no other expense, and the row takes no
share of the revenue. -/
theorem capital_accent_unseen :
    SameButCase "Autre dépense".toList "AUTRE DÉPENSE".toList ∧
      Product.isOtherExpense (commissionRow "Autre dépense" "Commission") = true ∧
      Product.isOtherExpense (commissionRow "AUTRE DÉPENSE" "Commission") = false ∧
      Product.isCommission (commissionRow "Autre dépense" "Commission") = true ∧
      Product.isCommission (commissionRow "AUTRE DÉPENSE" "Commission") = false ∧
      (recompute { name := "grid", columns := [] } { totalRevenue := some 1000 }
        (commissionRow "Autre dépense" "Commission")).1.amount Field.totalPrice = 100 ∧
      (recompute { name := "grid", columns := [] } { totalRevenue := some 1000 }
        (commissionRow "AUTRE DÉPENSE" "Commission")).1.amount Field.totalPrice = 0 := by
  refine ⟨?_, ?_, ?_, ?_, ?_, ?_, ?_⟩ <;> decide +kernel

end Drapery
