import ComplianceEvidence.Catalog.Basic
import ComplianceEvidence.Ordered.Table

/-!
Contract: the catalogs that evidence is resolved against.

Owns: a collection in which each catalog is found under its own id and under no other.
-/

set_option autoImplicit false

namespace ComplianceEvidence

structure Scope where
  catalogs : Ordered.Table Catalog
  keyed : ∀ id catalog, catalogs.find? id = some catalog → catalog.id = id

namespace Scope

def empty : Scope := ⟨.empty, by simp⟩

instance : Inhabited Scope := ⟨empty⟩

def find? (scope : Scope) (id : String) : Option Catalog :=
  scope.catalogs.find? id

def contains (scope : Scope) (id : String) : Bool :=
  (scope.find? id).isSome

/-- A catalog takes the place of one with the same id. -/
def insert (scope : Scope) (catalog : Catalog) : Scope where
  catalogs := scope.catalogs.insert catalog.id catalog
  keyed := by
    intro id found
    rw [Ordered.Table.find?_insert]
    split
    · rename_i equal
      intro same
      cases same
      exact equal.symm
    · exact scope.keyed id found

/-- Inserts a catalog, and gives the one that it takes the place of. -/
def exchange (scope : Scope) (catalog : Catalog) : Option Catalog × Scope :=
  let exchanged := scope.catalogs.exchange catalog.id catalog
  (exchanged.1,
    { catalogs := exchanged.2
      keyed := by
        show ∀ id found, (scope.catalogs.exchange catalog.id catalog).2.find? id = some found → _
        rw [Ordered.Table.exchange_eq]
        exact (scope.insert catalog).keyed })

/-- The scope of a list in which the last catalog with an id counts. -/
def ofList (catalogs : List Catalog) : Scope :=
  catalogs.foldl insert empty

def ids (scope : Scope) : List String := scope.catalogs.keys

def size (scope : Scope) : Nat := scope.catalogs.size

def isEmpty (scope : Scope) : Bool := scope.catalogs.isEmpty

@[simp] theorem find?_empty (id : String) : empty.find? id = none := rfl

theorem find?_insert (scope : Scope) (catalog : Catalog) (id : String) :
    (scope.insert catalog).find? id = if id = catalog.id then some catalog else scope.find? id :=
  scope.catalogs.find?_insert catalog.id id catalog

theorem exchange_eq (scope : Scope) (catalog : Catalog) :
    scope.exchange catalog = (scope.find? catalog.id, scope.insert catalog) := by
  simp only [exchange, Ordered.Table.exchange_eq]
  rfl

theorem id_of_find? {scope : Scope} {id : String} {catalog : Catalog}
    (found : scope.find? id = some catalog) : catalog.id = id :=
  scope.keyed id catalog found

theorem ids_ascending (scope : Scope) : scope.ids.Pairwise (· < ·) :=
  scope.catalogs.keys_ascending

end Scope

end ComplianceEvidence
