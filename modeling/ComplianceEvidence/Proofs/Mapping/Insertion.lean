import ComplianceEvidence.Proofs.Mapping.Scope
import ComplianceEvidence.Proofs.Text.Encoding

/-!
Contract: a scope tells which catalog was inserted last under each id.

Owns: runs of insertions, what every look-up in a scope has to do with the run behind it, what one
more insertion gives back and changes, and the comparison of the scopes of two runs.

A catalog is put under the id that it has itself, so the id under which it is found and the id that
it reports are never two. A run leaves no other trace than the last catalog under each id.
-/

set_option autoImplicit false

namespace ComplianceEvidence.Scope

open Text.Utf8 (encode)

/-! ## Runs -/

/-- A scope behind more insertions. -/
def insertAll (scope : Scope) (catalogs : List Catalog) : Scope :=
  catalogs.foldl (fun scope catalog => (scope.exchange catalog).2) scope

/-- The last catalog under an id among some that were inserted. -/
def Stands (inserted : List Catalog) (id : String) : Catalog → Prop :=
  IsLast (fun catalog => catalog.id = id) inserted

variable {inserted others : List Catalog} {scope : Scope} {id : String}

theorem insertAll_eq_foldl (scope : Scope) (catalogs : List Catalog) :
    scope.insertAll catalogs = catalogs.foldl insert scope := by
  simp only [insertAll, exchange_eq]

theorem insertAll_empty (inserted : List Catalog) : empty.insertAll inserted = ofList inserted :=
  insertAll_eq_foldl empty inserted

theorem ofList_append (front back : List Catalog) :
    ofList (front ++ back) = (ofList front).insertAll back := by
  rw [insertAll_eq_foldl, ofList, List.foldl_append, ofList]

theorem ofList_eq_iff :
    ofList inserted = ofList others ↔
      ∀ id catalog, Stands inserted id catalog ↔ Stands others id catalog := by
  simp only [Stands, ← find?_ofList_iff_isLast]
  constructor
  · intro same id catalog
    rw [same]
  · exact eq_of_find?

/-! ## Look-ups -/

theorem contains_iff : scope.contains id = true ↔ ∃ catalog, scope.find? id = some catalog := by
  rw [contains, Option.isSome_iff_exists]

theorem mem_ids_iff : id ∈ scope.ids ↔ ∃ catalog, scope.find? id = some catalog :=
  Ordered.Table.mem_keys_iff

/-- Everything that can be asked of a scope, told by the run of insertions behind it. -/
structure Tells (scope : Scope) (inserted : List Catalog) : Prop where
  stored : ∀ entry ∈ scope.catalogs.entries, entry.2.id = entry.1
  found : ∀ id catalog, scope.find? id = some catalog ↔ Stands inserted id catalog
  contains : ∀ id, scope.contains id = true ↔ ∃ catalog ∈ inserted, catalog.id = id
  ids : ∀ id, id ∈ scope.ids ↔ ∃ catalog ∈ inserted, catalog.id = id
  ascending : scope.ids.Pairwise fun left right => encode left < encode right
  size : scope.size = scope.ids.length

theorem tells_ofList (inserted : List Catalog) : Tells (ofList inserted) inserted := by
  have known (id : String) : (∃ catalog, (ofList inserted).find? id = some catalog) ↔
      ∃ catalog ∈ inserted, catalog.id = id := by
    simp only [find?_ofList_iff_isLast]
    exact IsLast.exists_iff
  constructor
  case stored =>
    intro entry member
    exact id_of_find? (Ordered.Table.find?_eq_some_iff_mem.2 member)
  case found =>
    intro id catalog
    exact find?_ofList_iff_isLast
  case contains =>
    intro id
    exact contains_iff.trans (known id)
  case ids =>
    intro id
    exact mem_ids_iff.trans (known id)
  case ascending => exact Text.Utf8.encode_ascending (ofList inserted).ids_ascending
  case size => exact (List.length_map _).symm

/-- After any run of insertions a scope tells the last catalog under each id. One more insertion
gives the catalog that was there under its id, puts its own there, and leaves the other ids alone.
A scope that is collected from a list is what the insertion of its catalogs leaves, in one go or in
two, and two lists are collected to one scope if the same catalogs stand at their ends. -/
theorem inserted_tells (inserted : List Catalog) :
    let scope := empty.insertAll inserted
    scope = ofList inserted ∧ Tells scope inserted ∧
      (∀ catalog : Catalog,
        let replaced := (scope.exchange catalog).1
        let next := (scope.exchange catalog).2
        replaced = scope.find? catalog.id ∧ next.find? catalog.id = some catalog ∧
          (∀ id, id ≠ catalog.id → next.find? id = scope.find? id) ∧
          Tells next (inserted ++ [catalog])) ∧
      (∀ more : List Catalog, ofList (inserted ++ more) = (ofList inserted).insertAll more) ∧
      (∀ others : List Catalog, ofList inserted = ofList others ↔
        ∀ id catalog, Stands inserted id catalog ↔ Stands others id catalog) := by
  intro scope
  have collected : scope = ofList inserted := insertAll_empty inserted
  have tells : Tells scope inserted := collected ▸ tells_ofList inserted
  refine ⟨collected, tells, ?_, ofList_append inserted, fun others => ofList_eq_iff⟩
  intro catalog replaced next
  have exchanged : (replaced, next) = (scope.find? catalog.id, scope.insert catalog) :=
    scope.exchange_eq catalog
  obtain ⟨replacedEq, nextEq⟩ := Prod.mk.inj exchanged
  rw [replacedEq, nextEq]
  refine ⟨rfl, ?_, ?_, ?_⟩
  · rw [find?_insert, if_pos rfl]
  · intro id different
    rw [find?_insert, if_neg different]
  · rw [collected, ← ofList_append_singleton]
    exact tells_ofList (inserted ++ [catalog])

/-- Two catalogs, one of them in two versions with another one inserted in between. -/
def sampleInserted : List Catalog :=
  [{ id := "b", version := some "1" }, { id := "a" }, { id := "b", version := some "2" }]

theorem inserted_sampleInserted :
    let scope := empty.insertAll sampleInserted
    let second : Catalog := { id := "b", version := some "2" }
    let third : Catalog := { id := "b", version := some "3" }
    scope.find? "b" = some second ∧ scope.contains "c" = false ∧ scope.ids = ["a", "b"] ∧
      (scope.exchange third).1 = some second ∧
      (scope.exchange third).2.find? "a" = scope.find? "a" ∧
      ofList sampleInserted = ofList [{ id := "a" }, second] := by
  intro scope second third
  obtain ⟨-, tells, exchanges, -, sameScope⟩ := inserted_tells sampleInserted
  have stands : Stands sampleInserted "b" second := ⟨sampleInserted.take 2, [], rfl, rfl, by simp⟩
  have held : scope.find? "b" = some second := (tells.found "b" second).2 stands
  have absent : ¬ scope.contains "c" = true := by
    rw [tells.contains]
    decide
  obtain ⟨replaced, -, others, -⟩ := exchanges third
  refine ⟨held, Bool.eq_false_iff.2 absent, by decide +kernel, replaced.trans held,
    others "a" (by decide), ?_⟩
  rw [sameScope]
  intro id catalog
  exact IsLast.cons_iff_of_replaced ⟨second, by simp [second], rfl⟩

end ComplianceEvidence.Scope
