import ComplianceEvidence.Evidence.Record
import ComplianceEvidence.Mapping.Resolution
import ComplianceEvidence.Text.Quoted

/-!
Contract: mappers and the registry that picks one by the name of a policy engine.

Owns: a mapper with its plans, what it makes of evidence, and the registry with its fallback. A
mapper is registered under its own id and under no other.
-/

set_option autoImplicit false

namespace ComplianceEvidence

/-- Plans that serve one policy engine. -/
structure Mapper where
  id : String
  plans : PlanStore

namespace Mapper

/-- The id of a mapper that serves no engine in particular. -/
def basicId : String := "basic"

def withId (id : String) : Mapper := ⟨id, .empty⟩

def basic : Mapper := withId basicId

instance : Inhabited Mapper := ⟨basic⟩

/-- Adds plans for a catalog; the ones there are stay. -/
def addPlans (mapper : Mapper) (catalogId : String) (plans : List Plan) : Mapper :=
  { mapper with plans := mapper.plans.append catalogId plans }

/-- What evidence means for the catalogs in a scope. -/
def resolve (mapper : Mapper) (scope : Scope) (evidence : Evidence) : Resolution :=
  ComplianceEvidence.resolve scope mapper.plans evidence.ruleId
    (Verdict.ofDecision evidence.decision)

def respond (mapper : Mapper) (scope : Scope) (evidence : Evidence) : Response :=
  ⟨(mapper.resolve scope evidence).finding⟩

end Mapper

/-! ## Registry -/

structure Registry where
  mappers : Ordered.Table Mapper
  fallback : Mapper
  keyed : ∀ id mapper, mappers.find? id = some mapper → mapper.id = id

namespace Registry

/-- No mapper but a fallback without plans. -/
def empty : Registry := ⟨.empty, .basic, by simp⟩

instance : Inhabited Registry := ⟨empty⟩

def withFallback (registry : Registry) (mapper : Mapper) : Registry :=
  { registry with fallback := mapper }

/-- A mapper takes the place of one with the same id. -/
def insert (registry : Registry) (mapper : Mapper) : Registry where
  mappers := registry.mappers.insert mapper.id mapper
  fallback := registry.fallback
  keyed := by
    intro id found
    rw [Ordered.Table.find?_insert]
    split
    · rename_i equal
      intro same
      cases same
      exact equal.symm
    · exact registry.keyed id found

/-- Registers a mapper, and gives the one that it takes the place of. -/
def register (registry : Registry) (mapper : Mapper) : Option Mapper × Registry :=
  let exchanged := registry.mappers.exchange mapper.id mapper
  (exchanged.1,
    { registry with
      mappers := exchanged.2
      keyed := by
        show ∀ id found, (registry.mappers.exchange mapper.id mapper).2.find? id = some found → _
        rw [Ordered.Table.exchange_eq]
        exact (registry.insert mapper).keyed })

def find? (registry : Registry) (id : String) : Option Mapper :=
  registry.mappers.find? id

def contains (registry : Registry) (id : String) : Bool :=
  (registry.find? id).isSome

/-- A mapper, and whether it stands in for one that is not registered. -/
structure Selection where
  mapper : Mapper
  isFallback : Bool

/-- The mapper that serves an engine. -/
def select (registry : Registry) (id : String) : Selection :=
  match registry.find? id with
  | some mapper => ⟨mapper, false⟩
  | none => ⟨registry.fallback, true⟩

def ids (registry : Registry) : List String := registry.mappers.keys

def size (registry : Registry) : Nat := registry.mappers.size

def isEmpty (registry : Registry) : Bool := registry.mappers.isEmpty

def debugText (registry : Registry) : String :=
  let named (id : String) : String := "MapperId(" ++ Text.quoted id ++ ")"
  "MapperSet \x7b mappers: [" ++ ", ".intercalate (registry.ids.map named) ++ "], fallback: " ++
    named registry.fallback.id ++ " \x7d"

@[simp] theorem find?_empty (id : String) : empty.find? id = none := rfl

theorem find?_insert (registry : Registry) (mapper : Mapper) (id : String) :
    (registry.insert mapper).find? id =
      if id = mapper.id then some mapper else registry.find? id :=
  registry.mappers.find?_insert mapper.id id mapper

theorem register_eq (registry : Registry) (mapper : Mapper) :
    registry.register mapper = (registry.find? mapper.id, registry.insert mapper) := by
  simp only [register, Ordered.Table.exchange_eq]
  rfl

theorem id_of_find? {registry : Registry} {id : String} {mapper : Mapper}
    (found : registry.find? id = some mapper) : mapper.id = id :=
  registry.keyed id mapper found

theorem ids_ascending (registry : Registry) : registry.ids.Pairwise (· < ·) :=
  registry.mappers.keys_ascending

end Registry

end ComplianceEvidence
