import ComplianceEvidence.Catalog.Document
import ComplianceEvidence.Journal.Report
import ComplianceEvidence.Mapping.Scope

/-!
Contract: catalogs loaded from files into a scope.

Owns: the reading of one file and the rules that every catalog has an id and no two have the same.
The first path at fault ends the loading.
-/

set_option autoImplicit false

namespace ComplianceEvidence

def Catalog.ofFile (files : Files) (path : String) : Except Failure Catalog :=
  match files.readText path with
  | .error fault => .error (.file fault)
  | .ok text => (Catalog.ofText text).mapError (.catalogMalformed path)

/-- Reads the catalog in a file, which must be one that a scope can take in. -/
def Scope.readCatalog (scope : Scope) (files : Files) (path : String) :
    Except Failure Catalog := do
  let catalog ← Catalog.ofFile files path
  if catalog.id = "" then .error (.catalogWithoutId path)
  else if scope.contains catalog.id then .error (.catalogRepeated catalog.id path)
  else return catalog

def Scope.loadInto (files : Files) (scope : Scope) : List String → Report Scope
  | [] => return scope
  | path :: rest => do
      let catalog ← Report.ofExcept (scope.readCatalog files path)
      Report.note (.catalogLoaded catalog.id path catalog.controls.length)
      loadInto files (scope.insert catalog) rest

def Scope.load (files : Files) (paths : List String) : Report Scope :=
  Scope.loadInto files .empty paths

end ComplianceEvidence
