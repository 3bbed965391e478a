/-!
Contract: catalogs of controls.

Owns: the types of a catalog, from the catalog down to an entry of a foreign guideline, and the
list of all its controls.
-/

set_option autoImplicit false

namespace ComplianceEvidence

namespace Catalog

/-- A requirement of a foreign guideline that a control meets. -/
structure GuidelineEntry where
  requirement : String
  strength : Option UInt8 := none
  remarks : Option String := none
deriving DecidableEq, Repr

/-- What a control means for one foreign guideline. -/
structure Guideline where
  standard : String
  entries : List GuidelineEntry := []
deriving DecidableEq, Repr

def Guideline.ofRequirements (standard : String) (requirements : List String) : Guideline :=
  { standard, entries := requirements.map fun requirement => { requirement } }

structure Control where
  id : String
  title : Option String := none
  objective : Option String := none
  guidelines : List Guideline := []
deriving DecidableEq, Repr

/-- A group of controls, whose title is the category of each of them. -/
structure Family where
  id : Option String := none
  title : String
  description : Option String := none
  controls : List Control := []
deriving DecidableEq, Repr

end Catalog

structure Catalog where
  id : String
  title : Option String := none
  version : Option String := none
  description : Option String := none
  families : List Catalog.Family := []
deriving DecidableEq, Repr

namespace Catalog

/-- Every control with the family that it belongs to, in the order of the catalog. -/
def controls (catalog : Catalog) : List (Family × Control) :=
  catalog.families.flatMap fun family => family.controls.map fun control => (family, control)

end Catalog

end ComplianceEvidence
