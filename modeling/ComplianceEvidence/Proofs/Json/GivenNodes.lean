import ComplianceEvidence.Proofs.Json.Canonical

/-!
Contract: what the tree of a text gives to the fields of a record that is read from it.

Owns: the nodes that a tree gives to fields; that a finished draft holds what these nodes were read
as, each once; and the agreement of these nodes with the values that a tree shows.

Members that name no field are passed over, and what is passed over need not show a value. So what
holds of every text that is read is told of its tree.
-/

set_option autoImplicit false

namespace ComplianceEvidence.Json.Shape

variable {Field Draft Record : Type}

/-- What a member gives to a field, if it names one. -/
def givenBy (shape : Shape Field Draft Record) (member : Key × Node) : Option (Field × Node) :=
  match member.1.read with
  | .ok name => (shape.named? name).map fun field => (field, member.2)
  | .error _ => none

/-- What a tree gives to the fields of a record: an object by the names of its members, a list by
the order of its items. -/
def givenNodes (shape : Shape Field Draft Record) : Node → List (Field × Node)
  | .object _ members _ => members.filterMap shape.givenBy
  | .list _ items _ => shape.order.zip items
  | _ => []

namespace Reading

variable {shape : Shape Field Draft Record} (reading : shape.Reading)

/-- How the content of a field comes from any node that is read for it. -/
def ReadsAs (comes : (field : Field) → Node → reading.Content field → Prop) : Prop :=
  ∀ {field depth node draft next}, shape.read field depth node draft = .ok next →
    ∃ content, comes field node content ∧ reading.fill field content draft = next

/-- A draft holds what came from the nodes that were given, each field once, and nothing else. -/
structure Collects (comes : (field : Field) → Node → reading.Content field → Prop)
    (given : List (Field × Node)) (draft : Draft) : Prop where
  once : (given.map Prod.fst).Nodup
  free : ∀ field ∉ given.map Prod.fst, reading.slot field draft = none
  held : ∀ pair ∈ given, ∃ content,
    reading.slot pair.1 draft = some content ∧ comes pair.1 pair.2 content

variable {reading} {comes : (field : Field) → Node → reading.Content field → Prop}
  {given : List (Field × Node)} {draft final : Draft} {record : Record}

theorem collects_blank : reading.Collects comes [] shape.blank where
  once := List.nodup_nil
  free field _ := reading.slot_blank field
  held _ member := nomatch member

namespace Collects

variable (collects : reading.Collects comes given draft)
include collects

/-- One field more, from a node that is given to it. -/
theorem snoc {field : Field} {node : Node} {content : reading.Content field}
    (notGiven : field ∉ given.map Prod.fst) (came : comes field node content) :
    reading.Collects comes (given ++ [(field, node)]) (reading.fill field content draft) where
  once := by
    rw [List.map_append]
    exact collects.once.append (List.nodup_singleton field) (by simpa using notGiven)
  free other notAmong := by
    rw [List.map_append, List.mem_append, not_or] at notAmong
    rw [reading.slot_fill_of_ne content draft (by simpa using notAmong.2)]
    exact collects.free other notAmong.1
  held pair member := by
    rcases List.mem_append.1 member with earlier | isNew
    · obtain ⟨held, isHeld, heldCame⟩ := collects.held pair earlier
      refine ⟨held, ?_, heldCame⟩
      rw [reading.slot_fill_of_ne content draft]
      · exact isHeld
      · exact ne_of_mem_of_not_mem (List.mem_map_of_mem earlier) notGiven
    · obtain rfl := List.mem_singleton.1 isNew
      exact ⟨content, reading.slot_fill_self field content draft, came⟩

theorem not_mem_of_slot_eq_none {field : Field} (isFree : reading.slot field draft = none) :
    field ∉ given.map Prod.fst := by
  intro isGiven
  obtain ⟨pair, member, rfl⟩ := List.mem_map.1 isGiven
  obtain ⟨content, isHeld, -⟩ := collects.held pair member
  rw [isFree] at isHeld
  cases isHeld

/-- What is held came from a node. -/
theorem exists_node (field : Field) {content : reading.Content field}
    (isHeld : reading.slot field draft = some content) :
    ∃ node, (field, node) ∈ given ∧ comes field node content := by
  by_cases isGiven : field ∈ given.map Prod.fst
  · obtain ⟨⟨_, node⟩, member, rfl⟩ := List.mem_map.1 isGiven
    obtain ⟨other, otherHeld, came⟩ := collects.held _ member
    obtain rfl := Option.some.inj (otherHeld.symm.trans isHeld)
    exact ⟨node, member, came⟩
  · rw [collects.free field isGiven] at isHeld
    cases isHeld

theorem node_unique {field : Field} {node other : Node} (isGiven : (field, node) ∈ given)
    (otherGiven : (field, other) ∈ given) : node = other :=
  (Prod.mk.inj (List.inj_on_of_nodup_map collects.once isGiven otherGiven rfl)).2

end Collects

section Reads

variable (readsAs : reading.ReadsAs comes)
include readsAs

theorem collects_readMembers {depth : Nat} {members : List (Key × Node)} {ending : Ending}
    {after : List Char} (collects : reading.Collects comes given draft)
    (read : shape.readMembers depth draft members ending = .ok (final, after)) :
    reading.Collects comes (given ++ members.filterMap shape.givenBy) final := by
  induction members generalizing given draft with
  | nil =>
      cases ending with
      | closed behind =>
          cases read
          simpa using collects
      | broken flaw => cases read
  | cons member tail inductionHypothesis =>
      obtain ⟨key, node⟩ := member
      rw [readMembers, Attempt.bind_eq_ok_iff] at read
      obtain ⟨name, named, read⟩ := read
      cases field? : shape.named? name with
      | none =>
          rw [List.filterMap_cons_none (by simp [givenBy, named, field?])]
          simp only [field?, Attempt.bind_eq_ok_iff] at read
          obtain ⟨_, -, readTail⟩ := read
          exact inductionHypothesis collects readTail
      | some field =>
          rw [List.filterMap_cons_some (b := (field, node)) (by simp [givenBy, named, field?]),
            List.append_cons]
          simp only [field?, reading.isFilled_eq] at read
          cases isFree : reading.slot field draft with
          | some content => simp [isFree] at read
          | none =>
              simp only [isFree, Option.isSome_none, Bool.false_eq_true, if_false,
                Attempt.bind_eq_ok_iff] at read
              obtain ⟨next, readField, readTail⟩ := read
              obtain ⟨content, came, rfl⟩ := readsAs readField
              have notGiven := collects.not_mem_of_slot_eq_none isFree
              exact inductionHypothesis (collects.snoc notGiven came) readTail

theorem collects_readElements {depth count : Nat} {behind : List Char} {fields : List Field}
    {nodes : List Node} {ending : Ending} (collects : reading.Collects comes given draft)
    (fieldsOnce : fields.Nodup) (notGiven : ∀ field ∈ fields, field ∉ given.map Prod.fst)
    (read : shape.readElements depth count behind draft fields nodes ending = .ok final) :
    reading.Collects comes (given ++ fields.zip nodes) final := by
  induction fields generalizing given draft count behind nodes with
  | nil =>
      simp only [readElements, Attempt.bind_eq_ok_iff, Attempt.pure_eq_ok_iff] at read
      obtain ⟨_, -, rfl⟩ := read
      simpa using collects
  | cons field later inductionHypothesis =>
      obtain ⟨notLater, laterOnce⟩ := List.nodup_cons.1 fieldsOnce
      obtain ⟨fieldFree, laterFree⟩ := List.forall_mem_cons.1 notGiven
      cases nodes with
      | nil =>
          cases ending with
          | closed after =>
              rw [readElements] at read
              split at read
              · cases read
              · simpa using inductionHypothesis collects laterOnce laterFree read
          | broken flaw => cases read
      | cons node nodes =>
          rw [readElements, Attempt.bind_eq_ok_iff] at read
          obtain ⟨next, readField, readLater⟩ := read
          obtain ⟨content, came, rfl⟩ := readsAs readField
          rw [List.zip_cons_cons, List.append_cons]
          refine inductionHypothesis (collects.snoc fieldFree came) laterOnce ?_ readLater
          intro other isLater
          have different : other ≠ field := ne_of_mem_of_not_mem isLater notLater
          simpa [different] using laterFree other isLater

/-- A record is finished from a draft that holds what came from the nodes given to its fields. -/
theorem collects_readNode {depth : Nat} {node : Node}
    (read : shape.readNode depth node = .ok record) :
    ∃ draft, reading.Collects comes (shape.givenNodes node) draft ∧
      shape.finish draft = .ok record := by
  cases node with
  | object start members ending =>
      simp only [readNode, Attempt.bind_eq_ok_iff, complete_eq_ok_iff] at read
      obtain ⟨_, -, ⟨draft, after⟩, readMembers, finished⟩ := read
      exact ⟨draft, collects_readMembers readsAs collects_blank readMembers, finished⟩
  | list start items ending =>
      simp only [readNode, Attempt.bind_eq_ok_iff, complete_eq_ok_iff] at read
      obtain ⟨_, -, draft, readElements, finished⟩ := read
      have nothingGiven : ∀ field ∈ shape.order, field ∉ ([] : List (Field × Node)).map Prod.fst :=
        fun _ _ => List.not_mem_nil
      exact ⟨draft, collects_readElements readsAs collects_blank reading.order_nodup nothingGiven
        readElements, finished⟩
  | scalar start value after => cases read
  | malformed start flaw => cases read
  | broken flaw => cases read

end Reads

end Reading

/-! ## Nodes that show values -/

/-- The same field is given a value and a node that shows it. -/
def ShowsGiven (pair : Field × Value) (shown : Field × Node) : Prop :=
  pair.1 = shown.1 ∧ ∃ rest, pair.2.Shown rest shown.2

theorem showsGiven_members (shape : Shape Field Draft Record) {members : List (String × Value)}
    {nodes : List (Key × Node)} (shown : ShownMembers members nodes) :
    List.Forall₂ ShowsGiven (shape.naming members) (nodes.filterMap shape.givenBy) := by
  induction members generalizing nodes with
  | nil =>
      obtain rfl : nodes = [] := shown
      exact .nil
  | cons member tail inductionHypothesis =>
      obtain ⟨name, value⟩ := member
      obtain ⟨key, node, others, rest, rfl, named, shownValue, shownTail⟩ := shown
      have later := inductionHypothesis shownTail
      cases field? : shape.named? name with
      | none => simpa [naming, givenBy, named, field?] using later
      | some field =>
          have first : ShowsGiven (field, value) (field, node) := ⟨rfl, rest, shownValue⟩
          simpa [naming, givenBy, named, field?] using ⟨first, later⟩

theorem showsGiven_items {fields : List Field} {front : List Char} {items : List Value}
    {nodes : List Node} (shown : ShownItems front items nodes) :
    List.Forall₂ ShowsGiven (fields.zip items) (fields.zip nodes) := by
  induction fields generalizing front items nodes with
  | nil => exact .nil
  | cons field later inductionHypothesis =>
      cases items with
      | nil =>
          obtain ⟨rfl, -⟩ := shown
          exact .nil
      | cons head tail =>
          obtain ⟨node, others, behind, rfl, -, shownHead, shownTail⟩ := shown
          exact .cons ⟨rfl, behind, shownHead⟩ (inductionHypothesis shownTail)

/-- A tree gives nodes that show the values which the value of the tree gives. -/
theorem showsGiven_givenNodes (shape : Shape Field Draft Record) {value : Value}
    {rest : List Char} {node : Node} (shown : value.Shown rest node)
    {given : List (Field × Value)} (gives : shape.gives? value = some given) :
    List.Forall₂ ShowsGiven given (shape.givenNodes node) := by
  cases value with
  | object members =>
      obtain ⟨start, nodes, rfl, shownMembers⟩ := shown
      cases gives
      exact shape.showsGiven_members shownMembers
  | list items =>
      obtain ⟨start, nodes, rfl, shownItems⟩ := shown
      rw [gives?] at gives
      split at gives
      · cases gives
        exact showsGiven_items shownItems
      · cases gives
  | null | boolean value | integer value | double value | text value => cases gives

/-- What a value tells by being shown is told of what is given as of the nodes. -/
theorem exists_node_iff {given : List (Field × Value)} {nodes : List (Field × Node)}
    (shows : List.Forall₂ ShowsGiven given nodes) {told : Node → Prop} {means : Value → Prop}
    (told_iff : ∀ {value rest node}, value.Shown rest node → (told node ↔ means value))
    (field : Field) :
    (∃ node, (field, node) ∈ nodes ∧ told node) ↔
      ∃ value, (field, value) ∈ given ∧ means value := by
  induction shows with
  | nil => simp
  | @cons pair shownPair _ _ first _ inductionHypothesis =>
      obtain ⟨other, value⟩ := pair
      obtain ⟨_, node⟩ := shownPair
      obtain ⟨rfl, rest, shown⟩ := first
      simp only [List.mem_cons, Prod.mk.injEq, or_and_right, exists_or, inductionHypothesis,
        and_assoc, exists_and_left, exists_eq_left, told_iff shown]

end ComplianceEvidence.Json.Shape
