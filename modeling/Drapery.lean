import Drapery.Project
import Drapery.Purchase.Csv
import Drapery.Row.Json
import Drapery.Schema.Json
import Drapery.Proofs.Printing
import Drapery.Proofs.Nesting
import Drapery.Proofs.ReferenceAgreement
import Drapery.Proofs.FormulaConsistency
import Drapery.Proofs.Cycles
import Drapery.Proofs.LeastOrder
import Drapery.Proofs.PurchaseOrder
import Drapery.Proofs.Reselection
import Drapery.Proofs.Idempotence
import Drapery.Proofs.Prices
import Drapery.Proofs.FailureReport
import Drapery.Proofs.CatalogCost
import Drapery.Proofs.Selection
import Drapery.Proofs.ProjectRevenue
import Drapery.Proofs.SavedRow
import Drapery.Proofs.SeparatedValues
import Drapery.Proofs.ReferenceOutcomes
import Drapery.Proofs.BrokenFormula
import Drapery.Proofs.Convergence
import Drapery.Proofs.BlankValues
import Drapery.Proofs.SafeSchemas
import Drapery.Proofs.Charges
import Drapery.Proofs.TargetRevenue
import Drapery.Proofs.RuleOrder
import Drapery.Proofs.TypedAmounts
import Drapery.Proofs.LetterCase
import Drapery.Proofs.OverriddenFormula
import Drapery.Proofs.NamedCells
