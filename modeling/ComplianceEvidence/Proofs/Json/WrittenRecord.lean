import ComplianceEvidence.Json.Record
import ComplianceEvidence.Proofs.Attempt
import ComplianceEvidence.Proofs.Json.WrittenTree

/-!
Contract: readers give back what was written.

Owns: what the readers of texts, lists, optional values, names and records make of the tree of a
written value, and the step from the tree to the whole document.

A record is read from the members that its draft takes, one after the other. Nothing is said about
members that are passed over: a written record has none.
-/

set_option autoImplicit false

namespace ComplianceEvidence.Json

/-! ## Values -/

theorem readString_node (text : String) (rest : List Char) :
    readString ((Value.text text).node rest) = .ok text := by
  simp [readString, readTextAs, Value.node]

/-- A value that is written at all is there when it is read. -/
theorem readOptional_node {α : Type} (read : Node → Except Fault α) {value : Value}
    (present : value ≠ .null) (rest : List Char) :
    readOptional read (value.node rest) = (read (value.node rest)).map some := by
  cases value with
  | null => exact absurd rfl present
  | _ => rfl

/-- A list is read back if each of its items is, whatever stands behind the item. -/
theorem readItems_itemNodes {α : Type} {read : Node → Except Fault α} {toJson : α → Value}
    (reads : ∀ value behind, read ((toJson value).node behind) = .ok value) (values : List α)
    (rest : List Char) :
    readItems read (itemNodes rest (values.map toJson)) (.closed rest) = .ok values := by
  induction values with
  | nil => rfl
  | cons head tail inductionHypothesis =>
      rw [List.map_cons, itemNodes, readItems, reads, inductionHypothesis]
      rfl

theorem descend_of_lt {depth : Nat} (room : 1 < depth) (start : List Char) :
    descend depth start = .ok (depth - 1) :=
  if_neg (Nat.not_le.2 room)

theorem exact_texts (values : List String) : (texts values).Exact := by
  show ExactItems (values.map .text)
  induction values with
  | nil => trivial
  | cons head tail inductionHypothesis => exact ⟨trivial, inductionHypothesis⟩

theorem readStrings_texts {depth : Nat} (room : 1 < depth) (values : List String)
    (rest : List Char) : readStrings depth ((texts values).node rest) = .ok values := by
  rw [texts, Value.node, readStrings, descend_of_lt room]
  exact readItems_itemNodes readString_node values rest

theorem readVariant_node {α : Type} {variants : Variants α} {name : String} {value : α}
    (named : variants.named? name = some value) (depth : Nat) (rest : List Char) :
    readVariant variants depth ((Value.text name).node rest) = .ok value := by
  show variants.read (bodyChars name.toList rest) rest = .ok value
  have known : variants.ofName name = .ok value := by
    rw [Variants.ofName, named]
  simp [Variants.read, known]

theorem Key.read_writtenKey (key : String) (after : List Char) :
    (writtenKey key after).read = .ok key := by
  simp [Key.read, writtenKey, Except.map]

/-! ## Records -/

namespace Shape

variable {Field Draft Record : Type} {shape : Shape Field Draft Record} {depth : Nat}

/-- Some members fill a draft one after the other. Each names a field that is still free. -/
inductive Takes (shape : Shape Field Draft Record) (depth : Nat) :
    Draft → List (String × Value) → Draft → Prop
  | nil (draft : Draft) : Takes shape depth draft [] draft
  | cons (field : Field) {draft next final : Draft} {key : String} {value : Value}
      {members : List (String × Value)} (named : shape.named? key = some field)
      (free : shape.isFilled field draft = false)
      (reads : ∀ behind, shape.read field depth (value.node behind) draft = .ok next)
      (more : Takes shape depth next members final) :
      Takes shape depth draft ((key, value) :: members) final

theorem readMembers_memberNodes {draft final : Draft} {members : List (String × Value)}
    (takes : shape.Takes depth draft members final) (rest : List Char) :
    shape.readMembers depth draft (memberNodes rest members) (.closed rest) =
      .ok (final, rest) := by
  induction takes with
  | nil draft => rfl
  | cons field named free reads more inductionHypothesis =>
      rw [memberNodes, readMembers, Key.read_writtenKey]
      simp only [bind, Except.bind, named, free, Bool.false_eq_true, if_false, reads]
      exact inductionHypothesis

theorem readNode_object (draft : Draft) {record : Record} {members : List (String × Value)}
    (room : 1 < depth) (takes : shape.Takes (depth - 1) shape.blank members draft)
    (finished : shape.finish draft = .ok record) (rest : List Char) :
    shape.readNode depth ((Value.object members).node rest) = .ok record := by
  have complete : shape.complete draft rest = .ok record := by
    rw [Shape.complete, finished]
  rw [Value.node, readNode, descend_of_lt room]
  show (shape.readMembers _ _ _ _ >>= _) = _
  rw [readMembers_memberNodes takes]
  exact complete

end Shape

/-! ## Documents -/

/-- What is read from the tree of a value is read from its written text. -/
theorem readDocument_render {α : Type} {read : Node → Except Fault α} {value : Value} {result : α}
    (exact : value.Exact) (reads : read (value.node []) = .ok result) :
    readDocument read value.render = .ok result := by
  have whole : readWhole read value.chars = .ok result := by
    rw [readWhole, Node.ofText_chars exact]
    simp only [reads, value.after_node]
    rfl
  rw [readDocument, Value.render, String.toList_ofList, whole]
  rfl

end ComplianceEvidence.Json
