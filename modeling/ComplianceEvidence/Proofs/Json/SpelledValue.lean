import ComplianceEvidence.Proofs.Attempt
import ComplianceEvidence.Proofs.Json.SpelledTree
import ComplianceEvidence.Proofs.Json.WrittenRecord

/-!
Contract: what readers make of the tree of a value, whatever the spelling of the value.

Owns: the readers of texts, of optional values and of values of any form, and passing over a value,
each as an equivalence between what is read from a tree and the value that the tree shows.
-/

set_option autoImplicit false

namespace ComplianceEvidence.Json

variable {α : Type} {value : Value} {rest : List Char} {node : Node}

/-! ## Texts -/

theorem readTextAs_eq_ok_iff {expected : String} {check : String → Except String α}
    (shown : value.Shown rest node) {result : α} :
    readTextAs expected check node = .ok result ↔
      ∃ content, value = .text content ∧ check content = .ok result := by
  cases value with
  | text content =>
      obtain ⟨start, body, rfl, read⟩ := shown
      rw [readTextAs, read]
      simp only [String.ofList_toList]
      cases checked : check content with
      | error reason => simp [checked]
      | ok other => simp [checked]
  | null | boolean value =>
      obtain ⟨start, rfl⟩ := shown
      simp [readTextAs]
  | integer value | double value =>
      obtain ⟨start, rfl, -⟩ := shown
      simp [readTextAs]
  | list items | object members =>
      obtain ⟨start, nodes, rfl, -⟩ := shown
      simp [readTextAs]

theorem readString_eq_ok_iff (shown : value.Shown rest node) {content : String} :
    readString node = .ok content ↔ value = .text content := by
  rw [readString, readTextAs_eq_ok_iff shown]
  simp

/-! ## Optional values -/

/-- What a value means where null means that there is none. -/
inductive Optionally (means : Value → α → Prop) : Value → Option α → Prop
  | null : Optionally means .null none
  | present {value : Value} {inside : α} (notNull : value ≠ .null) (meant : means value inside) :
      Optionally means value (some inside)

theorem readOptional_eq_ok_iff {read : Node → Except Fault α} {means : Value → α → Prop}
    (shown : value.Shown rest node)
    (reads : ∀ inside, read node = .ok inside ↔ means value inside) {result : Option α} :
    readOptional read node = .ok result ↔ Optionally means value result := by
  by_cases isNull : value = .null
  · subst isNull
    obtain ⟨start, rfl⟩ := shown
    constructor
    · rintro ⟨⟩
      exact .null
    · intro meant
      cases meant with
      | null => rfl
      | present notNull _ => exact absurd rfl notNull
  · have present : readOptional read node = (read node).map some := by
      cases value with
      | null => exact absurd rfl isNull
      | boolean value =>
          obtain ⟨start, rfl⟩ := shown
          rfl
      | integer value | double value =>
          obtain ⟨start, rfl, -⟩ := shown
          rfl
      | text content | list items | object members =>
          obtain ⟨start, inside, rfl, -⟩ := shown
          rfl
    rw [present, Attempt.map_eq_ok_iff]
    constructor
    · rintro ⟨inside, read, rfl⟩
      exact .present isNull ((reads inside).1 read)
    · intro meant
      cases meant with
      | null => exact absurd rfl isNull
      | present _ meant => exact ⟨_, (reads _).2 meant, rfl⟩

/-! ## Values that are passed over -/

mutual

theorem Value.pass_shown : ∀ (value : Value) {rest : List Char} {node : Node},
    value.Shown rest node → node.pass = .ok ()
  | .null, _, _, ⟨_, rfl⟩ => rfl
  | .boolean _, _, _, ⟨_, rfl⟩ => rfl
  | .integer _, _, _, ⟨_, rfl, _⟩ => rfl
  | .double _, _, _, ⟨_, rfl, _⟩ => rfl
  | .text _, _, _, ⟨_, _, rfl, _⟩ => rfl
  | .list items, rest, _, ⟨_, _, rfl, shown⟩ => passItems_shown items shown rest
  | .object members, rest, _, ⟨_, _, rfl, shown⟩ => passMembers_shown members shown rest

theorem passItems_shown : ∀ (items : List Value) {front : List Char} {nodes : List Node},
    ShownItems front items nodes → ∀ rest, passItems nodes (.closed rest) = .ok ()
  | [], _, _, ⟨rfl, _⟩, _ => rfl
  | head :: tail, _, _, ⟨_, _, _, rfl, _, shown, others⟩, rest => by
      rw [passItems, head.pass_shown shown]
      exact passItems_shown tail others rest

theorem passMembers_shown : ∀ (members : List (String × Value)) {nodes : List (Key × Node)},
    ShownMembers members nodes → ∀ rest, passMembers nodes (.closed rest) = .ok ()
  | [], _, rfl, _ => rfl
  | (_, head) :: tail, _, ⟨_, _, _, _, rfl, _, shown, others⟩, rest => by
      rw [passMembers, head.pass_shown shown]
      exact passMembers_shown tail others rest

end

/-! ## Values of any form -/

mutual

/-- A value that is not nested too deeply is read with its objects as tables. -/
theorem Value.readValue_shown : ∀ (value : Value) {rest : List Char} {node : Node} {depth : Nat},
    value.Shown rest node → value.nesting < depth → node.readValue depth = .ok value.tabled
  | .null, _, _, _, ⟨_, rfl⟩, _ => rfl
  | .boolean _, _, _, _, ⟨_, rfl⟩, _ => rfl
  | .integer _, _, _, _, ⟨_, rfl, read⟩, _ => by
      rw [Node.readValue, read]
      rfl
  | .double _, _, _, _, ⟨_, rfl, read⟩, _ => by
      rw [Node.readValue, read]
      rfl
  | .text _, _, _, _, ⟨_, _, rfl, read⟩, _ => by
      rw [Node.readValue, read, Value.tabled]
      simp [Except.map]
  | .list items, rest, _, depth, ⟨_, _, rfl, shown⟩, room => by
      rw [Value.nesting] at room
      have deeper : nestingOfItems items < depth - 1 := by omega
      rw [Node.readValue, descend_of_lt (by omega)]
      show (readValues (depth - 1) _ _ >>= _) = _
      rw [readValues_shown items shown deeper rest]
      rfl
  | .object members, rest, _, depth, ⟨_, _, rfl, shown⟩, room => by
      rw [Value.nesting] at room
      have deeper : nestingOfMembers members < depth - 1 := by omega
      rw [Node.readValue, descend_of_lt (by omega)]
      show (readEntries (depth - 1) Ordered.Table.empty.entries _ _ >>= _) = _
      rw [readEntries_shown members shown deeper .empty rest]
      rfl

theorem readValues_shown : ∀ (items : List Value) {front : List Char} {nodes : List Node}
    {depth : Nat}, ShownItems front items nodes → nestingOfItems items < depth → ∀ rest,
      readValues depth nodes (.closed rest) = .ok (tabledItems items)
  | [], _, _, _, ⟨rfl, _⟩, _, _ => rfl
  | head :: tail, _, _, depth, ⟨_, _, _, rfl, _, shown, others⟩, room, rest => by
      rw [nestingOfItems, Nat.max_lt] at room
      rw [readValues, head.readValue_shown shown room.1, readValues_shown tail others room.2 rest]
      rfl

theorem readEntries_shown : ∀ (members : List (String × Value)) {nodes : List (Key × Node)}
    {depth : Nat}, ShownMembers members nodes → nestingOfMembers members < depth →
      ∀ (table : Ordered.Table Value) rest,
        readEntries depth table.entries nodes (.closed rest) =
          .ok ((tabledMembers members).foldl
            (fun table entry => table.insert entry.1 entry.2) table).entries
  | [], _, _, rfl, _, _, _ => rfl
  | (name, head) :: tail, _, depth, ⟨_, _, _, _, rfl, named, shown, others⟩, room, table, rest => by
      rw [nestingOfMembers, Nat.max_lt] at room
      rw [readEntries, named]
      show (Node.readValue depth _ >>= _) = _
      rw [head.readValue_shown shown room.1]
      exact readEntries_shown tail others room.2 (table.insert name head.tabled) rest

end

end ComplianceEvidence.Json
