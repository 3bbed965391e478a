import ComplianceEvidence.Json.Reader

/-!
Contract: records read from JSON.

Owns: the reading of a record from an object, whose members may come in any order and among other
members, and from a list of its fields in order.

A draft holds the fields read so far. No field may be named twice, under whichever of its names.
In a list, fields may be missing at the end if none of them is required.
-/

set_option autoImplicit false

namespace ComplianceEvidence.Json

structure Shape (Field Draft Record : Type) where
  expected : String
  order : List Field
  named? : String → Option Field
  label : Field → String
  isRequired : Field → Bool
  isFilled : Field → Draft → Bool
  read : Field → Nat → Node → Draft → Except Fault Draft
  blank : Draft
  finish : Draft → Except Field Record

namespace Shape

variable {Field Draft Record : Type} (shape : Shape Field Draft Record)

/-- What stands behind the closing brace, if that is what comes next. -/
def closeObject (text : List Char) : List Char :=
  match skipGap text with
  | '\x7d' :: rest => rest
  | other => other

/-- Reads the members of an object into a draft; the text behind the object comes with it. -/
def readMembers (depth : Nat) (draft : Draft) :
    List (Key × Node) → Ending → Except Fault (Draft × List Char)
  | [], .closed after => .ok (draft, after)
  | [], .broken flaw => .error flaw.read
  | (key, node) :: rest, ending => do
      let name ← key.read
      match shape.named? name with
      | none =>
          node.pass
          readMembers depth draft rest ending
      | some field =>
          if shape.isFilled field draft then
            .error ⟨.duplicateField (shape.label field), before (closeObject key.after)⟩
          else
            let next ← shape.read field depth node draft
            readMembers depth next rest ending

/-- The closing bracket behind the last field. -/
def closeList (text : List Char) : Except Fault Unit :=
  match skipGap text with
  | [] => .error ⟨.endInList, before []⟩
  | ']' :: _ => .ok ()
  | ',' :: rest =>
      match skipGap rest with
      | ']' :: more => .error ⟨.trailingComma, behindFirst (']' :: more)⟩
      | other => .error ⟨.trailingCharacters, behindFirst other⟩
  | other => .error ⟨.trailingCharacters, behindFirst other⟩

/-- The number of fields, as complaints give it. -/
def fieldCount (count : Nat) : String :=
  Number.naturalText count ++ if count = 1 then " element" else " elements"

/-- Reads the items of a list into a draft, one field after the other. -/
def readElements (depth : Nat) (count : Nat) (behind : List Char) (draft : Draft) :
    List Field → List Node → Ending → Except Fault Draft
  | [], _, _ => do
      closeList behind
      return draft
  | field :: fields, node :: nodes, ending => do
      let next ← shape.read field depth node draft
      readElements depth (count + 1) node.after next fields nodes ending
  | field :: fields, [], .closed after =>
      if shape.isRequired field then
        .error ⟨.wrongCount count
          (shape.expected ++ " with " ++ fieldCount shape.order.length), before after⟩
      else readElements depth (count + 1) behind draft fields [] (.closed after)
  | _ :: _, [], .broken flaw => .error flaw.read

/-- The record of a draft, or the complaint about the first field that is missing. -/
def complete (draft : Draft) (after : List Char) : Except Fault Record :=
  match shape.finish draft with
  | .ok record => .ok record
  | .error field => .error ⟨.missingField (shape.label field), before after⟩

/-- Reads a record from a node. -/
def readNode (depth : Nat) : Node → Except Fault Record
  | .object start members ending => do
      let deeper ← descend depth start
      let (draft, after) ← shape.readMembers deeper shape.blank members ending
      shape.complete draft after
  | .list start items ending => do
      let deeper ← descend depth start
      let draft ← shape.readElements deeper 0 (start.drop 1) shape.blank shape.order items ending
      shape.complete draft (Node.list start items ending).after
  | node => .error (node.wrongType shape.expected)

end Shape

end ComplianceEvidence.Json
