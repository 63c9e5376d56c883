/-!
The keys under which grids store their cells.  Saved quotes use them, so they are fixed.
-/

namespace Drapery.Field

def product : String := "produit"
def zone : String := "zone"
def room : String := "piece"
def width : String := "largeur"
def height : String := "hauteur"
def quantity : String := "quantite"
def fullness : String := "ampleur"
def widthCount : String := "nb_les"

def mechanismType : String := "type_mecanisme"
def mechanismModel : String := "modele_mecanisme"
def mechanismModelId : String := "modele_mecanisme_id"
def mechanismWidth : String := "largeur_mecanisme"
def mechanismDimension : String := "dimension_mecanisme"
def mechanismBuy : String := "pa_mecanisme"
def mechanismSell : String := "pv_mecanisme"

def preparationHours : String := "heures_prepa"
def assemblyHours : String := "heures_confection"
def installationHours : String := "heures_pose"
def preparationSell : String := "pv_prepa"
def assemblySell : String := "pv_confection"
def installationSell : String := "pv_pose"

def subcontractedAssemblyBuy : String := "pa_st_confection"
def subcontractedAssemblySell : String := "pv_st_confection"
def subcontractedInstallationBuy : String := "pa_st_pose"
def subcontractedInstallationSell : String := "pv_st_pose"

def unitPrice : String := "prix_unitaire"
def totalPrice : String := "prix_total"

def travelKind : String := "type_deplacement"
def tripTime : String := "temps_trajet"
def tripCount : String := "nb_trajets"
def onSiteHours : String := "heures_sur_place"
def billedHours : String := "nb_heures"
def technicians : String := "nb_techniciens"
def overnight : String := "decouchage"
def nights : String := "nb_nuits"
def meals : String := "nb_repas"

def expenseCategory : String := "categorie"
def percentage : String := "pourcentage"
def expenseAmount : String := "montant"
def caption : String := "libelle"

end Drapery.Field

namespace Drapery

structure MaterialSlot where
  reference : String
  referenceId : String
  /-- Linear metres that one unit of the row takes. -/
  meters : String
  buy : String
  sell : String
  width : String
  repeatV : String
  repeatH : String
  pattern : String
  /-- Whether the buy cell holds the cost of the whole line and not of one unit of the row. -/
  buysWholeLine : Bool
  deriving DecidableEq, Repr

namespace MaterialSlot

def named (name : String) (buysWholeLine : Bool) : MaterialSlot where
  reference := name
  referenceId := name ++ "_id"
  meters := "ml_" ++ name
  buy := "pa_" ++ name
  sell := "pv_" ++ name
  width := "laize_" ++ name
  repeatV := "raccord_v_" ++ name
  repeatH := "raccord_h_" ++ name
  pattern := "motif_" ++ name
  buysWholeLine := buysWholeLine

def decorative1 : MaterialSlot := named "tissu_deco1" true
def decorative2 : MaterialSlot := named "tissu_deco2" true
def lining : MaterialSlot := named "doublure" false
def interlining : MaterialSlot := named "interdoublure" false
def trim1 : MaterialSlot := named "passementerie1" false
def trim2 : MaterialSlot := named "passementerie2" false

def fabrics : List MaterialSlot := [decorative1, decorative2, lining, interlining]

def all : List MaterialSlot := fabrics ++ [trim1, trim2]

end MaterialSlot

/-- The yardage cells that are typed by hand on products whose yardage no formula knows. -/
def Field.manualYardage : List String := MaterialSlot.fabrics.map (·.meters)

end Drapery
