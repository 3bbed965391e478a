import ComplianceEvidence.Loading.Catalogs
import ComplianceEvidence.Proofs.Files.Reading
import ComplianceEvidence.Proofs.Journal.Report
import ComplianceEvidence.Proofs.Mapping.Scope

/-!
Contract: a loaded scope has the catalogs of the files, and nothing else.

Owns: which files are catalogs, and look-up in a scope that was loaded. Every catalog is found under
its own id, which is never empty.
-/

set_option autoImplicit false

namespace ComplianceEvidence

open Text.Utf8 (encode)

/-- A path leads to a file whose text is that of a catalog. -/
def Files.Declares (files : Files) (path : String) (catalog : Catalog) : Prop :=
  ∃ text, files.node path = .ok (.file (encode text)) ∧ Catalog.ofText text = .ok catalog

theorem Catalog.ofFile_eq_ok_iff {files : Files} {path : String} {catalog : Catalog} :
    Catalog.ofFile files path = .ok catalog ↔ files.Declares path catalog := by
  unfold Catalog.ofFile Files.Declares
  cases read : files.readText path with
  | error fault =>
      refine iff_of_false nofun ?_
      rintro ⟨text, leads, -⟩
      rw [Files.readText_eq_ok_iff.2 leads] at read
      cases read
  | ok text =>
      have leads := Files.readText_eq_ok_iff.1 read
      rw [Attempt.mapError_eq_ok_iff]
      constructor
      · intro success
        exact ⟨text, leads, success⟩
      · rintro ⟨other, leadsAgain, success⟩
        rw [Files.readText_eq_ok_iff.2 leadsAgain] at read
        obtain rfl := Except.ok.inj read
        exact success

namespace Scope

variable {files : Files} {scope loaded : Scope} {path : String} {paths : List String}
  {catalog : Catalog}

/-- A scope takes in a catalog with an id that it does not know yet. -/
theorem readCatalog_eq_ok_iff :
    scope.readCatalog files path = .ok catalog ↔
      Catalog.ofFile files path = .ok catalog ∧ catalog.id ≠ "" ∧
        scope.find? catalog.id = none := by
  rw [readCatalog, Attempt.bind_eq_ok_iff]
  constructor
  · intro success
    rcases success with ⟨read, fileRead, accepted⟩
    split at accepted
    · cases accepted
    · rename_i hasId
      split at accepted
      · cases accepted
      · rename_i notContained
        obtain rfl := Attempt.pure_eq_ok_iff.1 accepted
        exact ⟨fileRead, hasId, by simpa [contains] using notContained⟩
  · intro fits
    rcases fits with ⟨fileRead, hasId, unknown⟩
    refine ⟨catalog, fileRead, ?_⟩
    rw [if_neg hasId, if_neg (by simp [contains, unknown])]
    rfl

theorem loadInto_cons_eq_ok_iff :
    (loadInto files scope (path :: paths)).outcome = .ok loaded ↔
      ∃ catalog, scope.readCatalog files path = .ok catalog ∧
        (loadInto files (scope.insert catalog) paths).outcome = .ok loaded := by
  rw [loadInto, Report.ofExcept_bind_eq_ok_iff]
  simp only [Report.note_bind_outcome]

/-- What is added to a scope is the catalogs of the files. -/
theorem find?_loadInto (success : (loadInto files scope paths).outcome = .ok loaded)
    {catalogId : String} :
    loaded.find? catalogId = some catalog ↔
      scope.find? catalogId = some catalog ∨
        ∃ path ∈ paths, Catalog.ofFile files path = .ok catalog ∧ catalog.id = catalogId := by
  induction paths generalizing scope with
  | nil =>
      obtain rfl : scope = loaded := Except.ok.inj success
      simp
  | cons head tail inductionHypothesis =>
      obtain ⟨added, accepted, rest⟩ := loadInto_cons_eq_ok_iff.1 success
      obtain ⟨fileRead, -, unknown⟩ := readCatalog_eq_ok_iff.1 accepted
      rw [inductionHypothesis rest, find?_insert_eq_some_iff unknown, or_assoc]
      simp only [List.mem_cons, exists_eq_or_imp, fileRead, Except.ok.injEq]

/-- No catalog without an id gets into a scope. -/
theorem find?_loadInto_empty (success : (loadInto files scope paths).outcome = .ok loaded)
    (absent : scope.find? "" = none) : loaded.find? "" = none := by
  induction paths generalizing scope with
  | nil =>
      obtain rfl : scope = loaded := Except.ok.inj success
      exact absent
  | cons head tail inductionHypothesis =>
      obtain ⟨added, accepted, rest⟩ := loadInto_cons_eq_ok_iff.1 success
      obtain ⟨-, hasId, -⟩ := readCatalog_eq_ok_iff.1 accepted
      refine inductionHypothesis rest ?_
      rw [find?_insert, if_neg (Ne.symm hasId), absent]

variable (success : (load files paths).outcome = .ok loaded)
include success

/-- A loaded scope has the catalogs of the files under their ids. -/
theorem find?_load {catalogId : String} :
    loaded.find? catalogId = some catalog ↔
      ∃ path ∈ paths, files.Declares path catalog ∧ catalog.id = catalogId := by
  rw [find?_loadInto success, find?_empty]
  simp [Catalog.ofFile_eq_ok_iff]

theorem id_ne_empty_of_load {catalogId : String} (found : loaded.find? catalogId = some catalog) :
    catalogId ≠ "" := by
  rintro rfl
  rw [find?_loadInto_empty success (find?_empty "")] at found
  cases found

end Scope

end ComplianceEvidence
