import ComplianceEvidence.Yaml.Reader

/-!
Contract: records read from YAML mappings.

Owns: the fields of a record, the drafts that they fill, and the reading of a mapping into a
record. Fields come in any order and among other entries, whose values are passed over; no field
comes twice.
-/

set_option autoImplicit false

namespace ComplianceEvidence.Yaml

/-- One field of a record, as part of a draft. -/
structure Field (Draft : Type) where
  name : String
  isFilled : Draft → Bool
  read : Path → Node → Draft → Reading Draft

/-- The field that a place of the draft is kept for. -/
def Field.of {α Draft : Type} (name : String) (get : Draft → Option α) (put : α → Draft → Draft)
    (read : Reader α) : Field Draft where
  name := name
  isFilled := fun draft => (get draft).isSome
  read := fun path node draft => (put · draft) <$> read path node

structure Shape (Draft Record : Type) where
  expected : String
  fields : List (Field Draft)
  blank : Draft
  /-- The record of a draft, or the name of a field that it cannot do without. -/
  finish : Draft → Except String Record

/-- The value of a field that a record cannot do without. -/
def required {α : Type} (name : String) : Option α → Except String α
  | some value => .ok value
  | none => .error name

def segment : Node → Segment
  | .scalar _ content _ _ => .member content
  | _ => .unnamed

namespace Shape

variable {Draft Record : Type} (shape : Shape Draft Record)

/-- Reads the value of one entry into a draft. -/
def readEntry (path : Path) (name : String) (key value : Node) (draft : Draft) : Reading Draft :=
  match shape.fields.find? fun field => field.name = name with
  | none => if value.isComplete then .pure draft else .fail .broken
  | some field =>
      if field.isFilled draft then .fail (.unfit (.duplicateField name) none)
      else field.read (segment key :: path) value draft

/-- Reads the entries of a mapping into a draft. -/
def readEntries (path : Path) (isClosed : Bool) (draft : Draft) :
    List (Node × Node) → Reading Draft
  | [] => if isClosed then .pure draft else .fail .broken
  | (key, value) :: rest => do
      let name ← readTextAs "field identifier" path key
      let next ← shape.readEntry path name key value draft
      readEntries path isClosed next rest

/-- The record of a draft that no further entry can add to. -/
def complete (draft : Draft) : Reading Record :=
  match shape.finish draft with
  | .ok record => .pure record
  | .error name => .fail (.unfit (.missingField name) none)

/-- Reads a record from a mapping; a node without content is a mapping without entries. -/
def read : Reader Record := fun path =>
  following fun node =>
    match node with
    | .mapping mark entries isClosed =>
        (do shape.complete (← shape.readEntries path isClosed shape.blank entries)).locate path mark
    | .void mark => (shape.complete shape.blank).locate path mark
    | .scalar mark content style _ =>
        if isEmptyScalar content style then (shape.complete shape.blank).locate path mark
        else .fail (node.wrongType shape.expected path)
    | other => .fail (other.wrongType shape.expected path)

def readDocument (text : String) : Except Fault Record :=
  Yaml.readDocument shape.read text

end Shape

end ComplianceEvidence.Yaml
