import Mathlib.Data.List.Induction
import ComplianceEvidence.Mapping.Scope
import ComplianceEvidence.Proofs.Ordered.Keys

/-!
Contract: a scope has the catalogs that were put into it.

Owns: scopes that are the same because look-up finds the same, an insertion under a new id, and the
scope of a list. Where no two catalogs of the list have the same id, none is lost, and their order
does not matter.
-/

set_option autoImplicit false

namespace ComplianceEvidence.Scope

/-- A catalog whose id is not in scope yet is found beside those that were there. -/
theorem find?_insert_eq_some_iff {scope : Scope} {added catalog : Catalog}
    (unknown : scope.find? added.id = none) {catalogId : String} :
    (scope.insert added).find? catalogId = some catalog ↔
      scope.find? catalogId = some catalog ∨ (added = catalog ∧ catalog.id = catalogId) := by
  rw [find?_insert]
  by_cases same : catalogId = added.id
  · subst same
    rw [if_pos rfl, unknown, Option.some.injEq]
    constructor
    · intro isAdded
      exact .inr ⟨isAdded, congrArg Catalog.id isAdded.symm⟩
    · intro either
      rcases either with found | ⟨isAdded, -⟩
      · cases found
      · exact isAdded
  · have foreign : ¬ (added = catalog ∧ catalog.id = catalogId) := by
      intro both
      exact same (by rw [both.1, both.2])
    rw [if_neg same]
    exact (or_iff_left foreign).symm

theorem eq_of_find? {scope other : Scope}
    (same : ∀ id catalog, scope.find? id = some catalog ↔ other.find? id = some catalog) :
    scope = other := by
  have sameCatalogs : scope.catalogs = other.catalogs := Ordered.Table.eq_of_find? same
  cases scope
  cases other
  cases sameCatalogs
  rfl

/-! ## Scopes of lists -/

section Lists

variable {catalogs : List Catalog} {catalog : Catalog} {id : String}

theorem ofList_append_singleton (catalogs : List Catalog) (catalog : Catalog) :
    ofList (catalogs ++ [catalog]) = (ofList catalogs).insert catalog := by
  simp [ofList]

/-- The catalogs in the scope of a list are a table made of it. -/
theorem catalogs_ofList (catalogs : List Catalog) :
    (ofList catalogs).catalogs =
      Ordered.Table.ofList (catalogs.map fun catalog => (catalog.id, catalog)) := by
  induction catalogs using List.reverseRecOn with
  | nil => rfl
  | append_singleton front final inductionHypothesis =>
      rw [ofList_append_singleton, List.map_append, List.map_singleton,
        Ordered.Table.ofList_append_singleton, ← inductionHypothesis]
      rfl

/-- The scope of a list has the last catalog with an id. -/
theorem find?_ofList_iff_isLast :
    (ofList catalogs).find? id = some catalog ↔
      IsLast (fun catalog => catalog.id = id) catalogs catalog := by
  rw [find?, catalogs_ofList, Ordered.Table.find?_ofList_map_eq_some_iff]
  exact exists_eq_right

theorem find?_ofList_eq_none_iff :
    (ofList catalogs).find? id = none ↔ ∀ catalog ∈ catalogs, catalog.id ≠ id := by
  rw [find?, catalogs_ofList, Ordered.Table.find?_ofList_map_eq_none_iff]

theorem contains_ofList_iff :
    (ofList catalogs).contains id = true ↔ ∃ catalog ∈ catalogs, catalog.id = id := by
  rw [contains, Option.isSome_iff_ne_none, Ne, find?_ofList_eq_none_iff]
  push Not
  rfl

/-- Behind catalogs with ids of their own, another one has an id of its own if none of them is found
under it. -/
theorem distinct_append_singleton_iff :
    ((catalogs ++ [catalog]).map Catalog.id).Nodup ↔
      (catalogs.map Catalog.id).Nodup ∧ (ofList catalogs).find? catalog.id = none := by
  rw [find?_ofList_eq_none_iff, List.map_append, List.nodup_append]
  refine and_congr_right fun _ => ?_
  simp

variable (distinct : (catalogs.map Catalog.id).Nodup)
include distinct

theorem size_ofList : (ofList catalogs).size = catalogs.length := by
  have sameIds :
      (catalogs.map fun catalog => (catalog.id, catalog)).map Prod.fst =
        catalogs.map Catalog.id := by
    rw [List.map_map]
    rfl
  rw [size, catalogs_ofList, Ordered.Table.size_ofList, sameIds, distinct.dedup, List.length_map]

/-- The order of catalogs with ids of their own does not matter. -/
theorem ofList_perm {permuted : List Catalog} (permutation : permuted.Perm catalogs) :
    ofList permuted = ofList catalogs := by
  refine eq_of_find? fun id catalog => ?_
  rw [find?_ofList_iff_isLast, find?_ofList_iff_isLast,
    IsLast.iff_of_perm distinct permutation]

end Lists

end ComplianceEvidence.Scope
