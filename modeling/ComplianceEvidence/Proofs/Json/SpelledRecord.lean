import ComplianceEvidence.Json.Record
import ComplianceEvidence.Proofs.Json.SpelledValue
import Mathlib.Data.List.Nodup

/-!
Contract: which values are read as records of a shape, whatever their spelling, and as which ones.

Owns: what the members of an object or the items of a list give to the fields of a shape; the laws
that a shape owes so that its fields are read one by one; and the equivalence between reading a
record from a tree and describing the record by the value that the tree shows.

A description asks which values are given to a field and not where they stand, so it does not depend
on the order of the members, on the names that were chosen or on members that name no field.
-/

set_option autoImplicit false

namespace ComplianceEvidence.Json

namespace Shape

variable {Field Draft Record : Type} (shape : Shape Field Draft Record)

/-! ## Values given to fields -/

/-- The members that name a field. -/
def naming (members : List (String × Value)) : List (Field × Value) :=
  members.filterMap fun member => (shape.named? member.1).map fun field => (field, member.2)

/-- What a value gives to the fields of a record: an object by the names of its members, a list by
the order of its items. -/
def gives? : Value → Option (List (Field × Value))
  | .object members => some (shape.naming members)
  | .list items =>
      if items.length ≤ shape.order.length then some (shape.order.zip items) else none
  | _ => none

/-- What members give to fields under their names. Members without such a name give nothing. -/
inductive MembersGive (names : String → Field → Prop) :
    List (String × Value) → List (Field × Value) → Prop where
  | nil : MembersGive names [] []
  | named {key : String} {field : Field} {value : Value} {members : List (String × Value)}
      {given : List (Field × Value)} (isName : names key field)
      (later : MembersGive names members given) :
      MembersGive names ((key, value) :: members) ((field, value) :: given)
  | foreign {key : String} {value : Value} {members : List (String × Value)}
      {given : List (Field × Value)} (noName : ∀ field, ¬ names key field)
      (later : MembersGive names members given) :
      MembersGive names ((key, value) :: members) given

/-- What a value gives to fields: an object under their names, a list in their order. -/
inductive Gives (names : String → Field → Prop) (order : List Field) :
    Value → List (Field × Value) → Prop where
  | object {members : List (String × Value)} {given : List (Field × Value)}
      (gives : MembersGive names members given) : Gives names order (.object members) given
  | list {items : List Value} (fits : items.length ≤ order.length) :
      Gives names order (.list items) (order.zip items)

section Names

variable {names : String → Field → Prop}
  (named_iff : ∀ {key field}, shape.named? key = some field ↔ names key field)
include named_iff

/-- A shape that knows the names of its fields takes what members give under these names. -/
theorem membersGive_iff {members : List (String × Value)} {given : List (Field × Value)} :
    MembersGive names members given ↔ shape.naming members = given := by
  constructor
  · intro gives
    induction gives with
    | nil => rfl
    | named isName _ inductionHypothesis =>
        rw [← inductionHypothesis]
        simp [naming, named_iff.2 isName]
    | @foreign key _ _ _ noName _ inductionHypothesis =>
        have unnamed : shape.named? key = none := by
          apply Option.eq_none_iff_forall_ne_some.2
          intro field named
          exact noName field (named_iff.1 named)
        rw [← inductionHypothesis]
        simp [naming, unnamed]
  · rintro rfl
    induction members with
    | nil => exact .nil
    | cons head tail inductionHypothesis =>
        obtain ⟨key, value⟩ := head
        cases field? : shape.named? key with
        | none =>
            have noName (field : Field) : ¬ names key field := by simp [← named_iff, field?]
            simpa [naming, field?] using MembersGive.foreign noName inductionHypothesis
        | some field =>
            simpa [naming, field?] using
              MembersGive.named (named_iff.1 field?) inductionHypothesis

theorem gives_iff {value : Value} {given : List (Field × Value)} :
    Gives names shape.order value given ↔ shape.gives? value = some given := by
  constructor
  · intro gives
    cases gives with
    | object gives => rw [gives?, (shape.membersGive_iff named_iff).1 gives]
    | list fits => rw [gives?, if_pos fits]
  · intro gives
    cases value with
    | object members => exact .object ((shape.membersGive_iff named_iff).2 (Option.some.inj gives))
    | list items =>
        rw [gives?] at gives
        split at gives
        · rename_i fits
          obtain rfl := Option.some.inj gives
          exact .list fits
        · cases gives
    | null | boolean value | integer value | double value | text value => cases gives

end Names

/-- A field holds what is given to it, if anything is. -/
def Holds {α : Type} (given : List (Field × Value)) (field : Field) (means : Value → α → Prop) :
    Option α → Prop
  | none => ∀ value, (field, value) ∉ given
  | some content => ∃ value, (field, value) ∈ given ∧ means value content

/-- An optional field has the value that is given to it, and none where null is given. -/
inductive Chosen {α : Type} (given : List (Field × Value)) (field : Field)
    (means : Value → α → Prop) : Option α → Prop
  | absent (nothing : ∀ value, (field, value) ∉ given) : Chosen given field means none
  | null (isGiven : (field, .null) ∈ given) : Chosen given field means none
  | present {value : Value} {content : α} (isGiven : (field, value) ∈ given)
      (notNull : value ≠ .null) (meant : means value content) :
      Chosen given field means (some content)

theorem chosen_iff {α : Type} {given : List (Field × Value)} {field : Field}
    {means : Value → α → Prop} {result : Option α} :
    Chosen given field means result ↔
      ∃ slot : Option (Option α), Holds given field (Optionally means) slot ∧
        slot.join = result := by
  constructor
  · intro chosen
    cases chosen with
    | absent nothing => exact ⟨none, nothing, rfl⟩
    | null isGiven => exact ⟨some none, ⟨.null, isGiven, .null⟩, rfl⟩
    | present isGiven notNull meant =>
        exact ⟨some (some _), ⟨_, isGiven, .present notNull meant⟩, rfl⟩
  · rintro ⟨slot, holds, rfl⟩
    cases slot with
    | none => exact .absent holds
    | some content =>
        obtain ⟨value, isGiven, meant⟩ := holds
        cases meant with
        | null => exact .null isGiven
        | present notNull meant => exact .present isGiven notNull meant

theorem Chosen.of_mem_iff {α : Type} {given other : List (Field × Value)} {field : Field}
    {means : Value → α → Prop} {result : Option α} (chosen : Chosen given field means result)
    (same : ∀ pair, pair ∈ given ↔ pair ∈ other) : Chosen other field means result := by
  cases chosen with
  | absent nothing => exact .absent fun value isGiven => nothing value ((same _).2 isGiven)
  | null isGiven => exact .null ((same _).1 isGiven)
  | present isGiven notNull meant => exact .present ((same _).1 isGiven) notNull meant

/-- Something can be chosen if null or a value with a meaning is given, or nothing. -/
theorem exists_chosen_iff {α : Type} {given : List (Field × Value)}
    (once : (given.map Prod.fst).Nodup) {field : Field} {means : Value → α → Prop} :
    (∃ result, Chosen given field means result) ↔
      ∀ value, (field, value) ∈ given → value = .null ∨ ∃ content, means value content := by
  constructor
  · rintro ⟨result, chosen⟩ value isGiven
    have only {other : Value} (otherGiven : (field, other) ∈ given) : value = other :=
      (Prod.mk.inj (List.inj_on_of_nodup_map once isGiven otherGiven rfl)).2
    cases chosen with
    | absent nothing => exact absurd isGiven (nothing value)
    | null nullGiven => exact .inl (only nullGiven)
    | present otherGiven notNull meant => exact .inr ⟨_, only otherGiven ▸ meant⟩
  · intro meaningful
    by_cases given? : ∃ value, (field, value) ∈ given
    · obtain ⟨value, isGiven⟩ := given?
      by_cases isNull : value = .null
      · exact ⟨none, .null (isNull ▸ isGiven)⟩
      · obtain ⟨content, meant⟩ := (meaningful value isGiven).resolve_left isNull
        exact ⟨some content, .present isGiven isNull meant⟩
    · exact ⟨none, .absent fun value isGiven => given? ⟨value, isGiven⟩⟩

/-! ## Laws of a shape -/

/-- How the fields of a shape are read: each for itself, from the value that a tree shows. -/
structure Reading where
  Content : Field → Type
  Means : (field : Field) → Value → Content field → Prop
  slot : (field : Field) → Draft → Option (Content field)
  fill : (field : Field) → Content field → Draft → Draft
  order_nodup : shape.order.Nodup
  slot_blank : ∀ field, slot field shape.blank = none
  isFilled_eq : ∀ field draft, shape.isFilled field draft = (slot field draft).isSome
  slot_fill_self : ∀ field content draft, slot field (fill field content draft) = some content
  slot_fill_of_ne : ∀ {field other} content draft, other ≠ field →
    slot other (fill field content draft) = slot other draft
  eq_of_slots : ∀ {left right}, (∀ field, slot field left = slot field right) → left = right
  isSome_of_finish : ∀ {field draft record}, shape.isRequired field = true →
    shape.finish draft = .ok record → (slot field draft).isSome = true
  read_eq_ok_iff : ∀ {field depth value rest node draft next}, value.Shown rest node →
    value.nesting < depth →
      (shape.read field depth node draft = .ok next ↔
        ∃ content, Means field value content ∧ fill field content draft = next)

theorem complete_eq_ok_iff {draft : Draft} {after : List Char} {record : Record} :
    shape.complete draft after = .ok record ↔ shape.finish draft = .ok record := by
  unfold complete
  cases shape.finish draft with
  | ok other => simp
  | error field => simp

namespace Reading

variable {shape} (reading : shape.Reading)

/-- A draft holds what is given to its fields, to each at most once. -/
structure Describes (given : List (Field × Value)) (draft : Draft) : Prop where
  once : (given.map Prod.fst).Nodup
  holds : ∀ field, Holds given field (reading.Means field) (reading.slot field draft)

/-- A value describes a record by what it gives to the fields. -/
def Described (value : Value) (record : Record) : Prop :=
  ∃ given draft, shape.gives? value = some given ∧ reading.Describes given draft ∧
    shape.finish draft = .ok record

/-! ## Filling a draft -/

/-- A draft is filled with what is given, one field after the other. -/
inductive Fills : Draft → List (Field × Value) → Draft → Prop
  | nil (draft : Draft) : Fills draft [] draft
  | cons {field : Field} {value : Value} {given : List (Field × Value)} {draft final : Draft}
      {content : reading.Content field} (meant : reading.Means field value content)
      (more : Fills (reading.fill field content draft) given final) :
      Fills draft ((field, value) :: given) final

variable {reading} {draft final : Draft} {given : List (Field × Value)}

theorem Fills.slot_of_not_mem (fills : reading.Fills draft given final) {field : Field}
    (notGiven : field ∉ given.map Prod.fst) :
    reading.slot field final = reading.slot field draft := by
  induction fills with
  | nil draft => rfl
  | cons meant more inductionHypothesis =>
      rw [List.map_cons, List.mem_cons, not_or] at notGiven
      rw [inductionHypothesis notGiven.2, reading.slot_fill_of_ne _ _ notGiven.1]

theorem Fills.slot_of_mem (fills : reading.Fills draft given final)
    (once : (given.map Prod.fst).Nodup) {field : Field} {value : Value}
    (member : (field, value) ∈ given) :
    ∃ content, reading.slot field final = some content ∧ reading.Means field value content := by
  induction fills with
  | nil draft => cases member
  | @cons first _ _ draft _ content meant more inductionHypothesis =>
      obtain ⟨notLater, onceLater⟩ := List.nodup_cons.1 once
      rcases List.mem_cons.1 member with same | later
      · obtain ⟨rfl, rfl⟩ := Prod.mk.inj same
        exact ⟨content, by rw [more.slot_of_not_mem notLater, reading.slot_fill_self], meant⟩
      · exact inductionHypothesis onceLater later

theorem fills_of_slots (once : (given.map Prod.fst).Nodup)
    (given_slot : ∀ pair ∈ given, ∃ content,
      reading.slot pair.1 final = some content ∧ reading.Means pair.1 pair.2 content)
    (other_slot : ∀ field ∉ given.map Prod.fst,
      reading.slot field final = reading.slot field draft) :
    reading.Fills draft given final := by
  induction given generalizing draft with
  | nil =>
      have same : final = draft := reading.eq_of_slots fun field => other_slot field (by simp)
      rw [same]
      exact .nil draft
  | cons first later inductionHypothesis =>
      obtain ⟨field, value⟩ := first
      obtain ⟨notLater, onceLater⟩ := List.nodup_cons.1 once
      obtain ⟨content, filled, meant⟩ := given_slot (field, value) List.mem_cons_self
      refine .cons meant (inductionHypothesis onceLater ?_ ?_)
      · intro pair member
        exact given_slot pair (List.mem_cons_of_mem _ member)
      · intro other notGiven
        by_cases same : other = field
        · rw [same, filled, reading.slot_fill_self]
        · rw [reading.slot_fill_of_ne _ _ same]
          apply other_slot
          rw [List.map_cons, List.mem_cons, not_or]
          exact ⟨same, notGiven⟩

theorem fills_blank_iff (once : (given.map Prod.fst).Nodup) :
    reading.Fills shape.blank given final ↔ reading.Describes given final := by
  constructor
  · intro fills
    refine ⟨once, ?_⟩
    intro field
    cases filled : reading.slot field final with
    | none =>
        intro value member
        obtain ⟨content, present, -⟩ := fills.slot_of_mem once member
        rw [present] at filled
        cases filled
    | some content =>
        by_cases isGiven : field ∈ given.map Prod.fst
        · obtain ⟨⟨_, value⟩, member, rfl⟩ := List.mem_map.1 isGiven
          obtain ⟨other, present, meant⟩ := fills.slot_of_mem once member
          obtain rfl := Option.some.inj (present.symm.trans filled)
          exact ⟨value, member, meant⟩
        · rw [fills.slot_of_not_mem isGiven, reading.slot_blank] at filled
          cases filled
  · intro describes
    refine fills_of_slots once ?_ ?_
    · rintro ⟨field, value⟩ member
      have holds := describes.holds field
      cases filled : reading.slot field final with
      | none =>
          rw [filled] at holds
          exact absurd member (holds value)
      | some content =>
          rw [filled] at holds
          obtain ⟨other, otherMember, meant⟩ := holds
          obtain rfl : value = other := by
            exact (Prod.mk.inj (List.inj_on_of_nodup_map once member otherMember rfl)).2
          exact ⟨content, rfl, meant⟩
    · intro field notGiven
      have holds := describes.holds field
      rw [reading.slot_blank]
      cases filled : reading.slot field final with
      | none => rfl
      | some content =>
          rw [filled] at holds
          obtain ⟨value, member, -⟩ := holds
          exact absurd (List.mem_map_of_mem member) notGiven

/-! ## Reading -/

theorem fills_cons_iff {field : Field} {value : Value} :
    reading.Fills draft ((field, value) :: given) final ↔
      ∃ content, reading.Means field value content ∧
        reading.Fills (reading.fill field content draft) given final := by
  constructor
  · intro fills
    cases fills with
    | cons meant more => exact ⟨_, meant, more⟩
  · rintro ⟨content, meant, more⟩
    exact .cons meant more

/-! ## Reading -/

theorem map_fst_zip_eq_take (fields : List Field) (items : List Value) :
    (fields.zip items).map Prod.fst = fields.take items.length := by
  induction fields generalizing items with
  | nil => simp
  | cons field later inductionHypothesis =>
      cases items with
      | nil => rfl
      | cons head tail => simp [inductionHypothesis]

variable (reading)

/-- Members fill a draft if they name fields that are free, and each only once. -/
theorem readMembers_eq_ok_iff {depth : Nat} {members : List (String × Value)}
    {nodes : List (Key × Node)} (shown : ShownMembers members nodes)
    (room : nestingOfMembers members < depth) {after rest : List Char} :
    shape.readMembers depth draft nodes (.closed rest) = .ok (final, after) ↔
      after = rest ∧ ((shape.naming members).map Prod.fst).Nodup ∧
        (∀ field ∈ (shape.naming members).map Prod.fst, reading.slot field draft = none) ∧
        reading.Fills draft (shape.naming members) final := by
  induction members generalizing nodes draft with
  | nil =>
      obtain rfl : nodes = [] := shown
      constructor
      · rintro ⟨⟩
        exact ⟨rfl, List.nodup_nil, by simp [naming], .nil _⟩
      · rintro ⟨rfl, -, -, fills⟩
        cases fills with
        | nil => rfl
  | cons member tail inductionHypothesis =>
      obtain ⟨name, value⟩ := member
      obtain ⟨key, node, others, behind, rfl, named, shownValue, shownOthers⟩ := shown
      rw [nestingOfMembers, Nat.max_lt] at room
      have tailReads := fun next => @inductionHypothesis next others shownOthers room.2
      rw [readMembers, named]
      show (match shape.named? name with | none => _ | some field => _) = _ ↔ _
      cases field? : shape.named? name with
      | none =>
          have skipped : shape.naming ((name, value) :: tail) = shape.naming tail := by
            simp [naming, field?]
          simp only
          rw [value.pass_shown shownValue, skipped]
          exact tailReads draft
      | some field =>
          have kept : shape.naming ((name, value) :: tail) =
              (field, value) :: shape.naming tail := by
            simp [naming, field?]
          simp only
          rw [reading.isFilled_eq, kept, List.map_cons, List.nodup_cons, List.forall_mem_cons]
          cases filled : reading.slot field draft with
          | some content => simp
          | none =>
              simp only [Option.isSome_none, Bool.false_eq_true, if_false, Attempt.bind_eq_ok_iff,
                reading.read_eq_ok_iff shownValue room.1, fills_cons_iff]
              constructor
              · rintro ⟨_, ⟨content, meant, rfl⟩, readTail⟩
                obtain ⟨rfl, once, free, fills⟩ := (tailReads _).1 readTail
                have notLater : field ∉ (shape.naming tail).map Prod.fst := by
                  intro later
                  have blocked := free field later
                  rw [reading.slot_fill_self] at blocked
                  cases blocked
                refine ⟨rfl, ⟨notLater, once⟩, ⟨trivial, ?_⟩, content, meant, fills⟩
                intro other later
                have different : other ≠ field := ne_of_mem_of_not_mem later notLater
                rw [← reading.slot_fill_of_ne content draft different]
                exact free other later
              · rintro ⟨rfl, ⟨notLater, once⟩, ⟨-, free⟩, content, meant, fills⟩
                refine ⟨_, ⟨content, meant, rfl⟩, (tailReads _).2 ⟨rfl, once, ?_, fills⟩⟩
                intro other later
                rw [reading.slot_fill_of_ne _ _ (ne_of_mem_of_not_mem later notLater)]
                exact free other later

/-- Items fill a draft if there are not too many and none of the fields behind them is
required. -/
theorem readElements_eq_ok_iff {depth count : Nat} {front : List Char} {fields : List Field}
    {items : List Value} {nodes : List Node} (shown : ShownItems front items nodes)
    (room : nestingOfItems items < depth) (rest : List Char) :
    shape.readElements depth count front draft fields nodes (.closed rest) = .ok final ↔
      items.length ≤ fields.length ∧
        (∀ field ∈ fields.drop items.length, shape.isRequired field = false) ∧
        reading.Fills draft (fields.zip items) final := by
  induction fields generalizing count front items nodes draft with
  | nil =>
      cases items with
      | nil =>
          obtain ⟨rfl, closed⟩ := shown
          rw [readElements, closed]
          constructor
          · rintro ⟨⟩
            exact ⟨Nat.le_refl 0, by simp, .nil _⟩
          · rintro ⟨-, -, fills⟩
            cases fills with
            | nil => rfl
      | cons head tail =>
          obtain ⟨node, others, behind, rfl, unclosed, -, -⟩ := shown
          cases closed : closeList front with
          | ok done => exact absurd closed unclosed
          | error fault => simp [readElements, closed]
  | cons field later inductionHypothesis =>
      cases items with
      | nil =>
          obtain ⟨rfl, closed⟩ := shown
          have laterReads := @inductionHypothesis draft (count + 1) front [] [] ⟨rfl, closed⟩ room
          simp only [List.zip_nil_right, List.length_nil, List.drop_zero, Nat.zero_le,
            true_and] at laterReads ⊢
          rw [readElements, List.forall_mem_cons]
          cases required : shape.isRequired field with
          | true => simp
          | false => simpa using laterReads
      | cons head tail =>
          obtain ⟨node, others, behind, rfl, -, shownHead, shownTail⟩ := shown
          rw [nestingOfItems, Nat.max_lt] at room
          have laterReads := fun next =>
            @inductionHypothesis next (count + 1) behind tail others shownTail room.2
          simp only [readElements, shownHead.after_eq, Attempt.bind_eq_ok_iff,
            reading.read_eq_ok_iff shownHead room.1, List.zip_cons_cons, fills_cons_iff,
            List.length_cons, List.drop_succ_cons, Nat.add_le_add_iff_right]
          constructor
          · rintro ⟨_, ⟨content, meant, rfl⟩, readTail⟩
            obtain ⟨short, free, fills⟩ := (laterReads _).1 readTail
            exact ⟨short, free, content, meant, fills⟩
          · rintro ⟨short, free, content, meant, fills⟩
            exact ⟨_, ⟨content, meant, rfl⟩, (laterReads _).2 ⟨short, free, fills⟩⟩

/-- A record is read from a tree exactly if the value that the tree shows describes it. -/
theorem readNode_eq_ok_iff {depth : Nat} {value : Value} {rest : List Char} {node : Node}
    (shown : value.Shown rest node) (room : value.nesting < depth) (record : Record) :
    shape.readNode depth node = .ok record ↔ reading.Described value record := by
  cases value with
  | object members =>
      obtain ⟨start, nodes, rfl, shownMembers⟩ := shown
      rw [Value.nesting] at room
      have deeper : nestingOfMembers members < depth - 1 := by omega
      rw [readNode, descend_of_lt (by omega)]
      show (shape.readMembers (depth - 1) shape.blank nodes (.closed rest) >>= _) = _ ↔ _
      rw [Attempt.bind_eq_ok_iff]
      constructor
      · rintro ⟨⟨draft, after⟩, read, finished⟩
        obtain ⟨rfl, once, -, fills⟩ :=
          (reading.readMembers_eq_ok_iff shownMembers deeper).1 read
        exact ⟨_, draft, rfl, (fills_blank_iff once).1 fills, (complete_eq_ok_iff shape).1 finished⟩
      · rintro ⟨_, draft, ⟨⟩, describes, finished⟩
        have fills := (fills_blank_iff describes.once).2 describes
        have free : ∀ field ∈ (shape.naming members).map Prod.fst,
            reading.slot field shape.blank = none := fun field _ => reading.slot_blank field
        exact ⟨(draft, rest),
          (reading.readMembers_eq_ok_iff shownMembers deeper).2 ⟨rfl, describes.once, free, fills⟩,
          (complete_eq_ok_iff shape).2 finished⟩
  | list items =>
      obtain ⟨start, nodes, rfl, shownItems⟩ := shown
      rw [Value.nesting] at room
      have deeper : nestingOfItems items < depth - 1 := by omega
      have taken := map_fst_zip_eq_take shape.order items
      have once : ((shape.order.zip items).map Prod.fst).Nodup := by
        rw [taken]
        exact reading.order_nodup.sublist (List.take_sublist _ _)
      rw [readNode, descend_of_lt (by omega)]
      show (shape.readElements (depth - 1) 0 (start.drop 1) shape.blank shape.order nodes
        (.closed rest) >>= _) = _ ↔ _
      simp only [Attempt.bind_eq_ok_iff,
        reading.readElements_eq_ok_iff shownItems deeper, complete_eq_ok_iff]
      constructor
      · rintro ⟨draft, ⟨short, -, fills⟩, finished⟩
        exact ⟨_, draft, if_pos short, (fills_blank_iff once).1 fills, finished⟩
      · rintro ⟨given, draft, gives, describes, finished⟩
        rw [gives?] at gives
        split at gives
        case isFalse => cases gives
        rename_i short
        obtain rfl := Option.some.inj gives
        refine ⟨draft, ⟨short, ?_, (fills_blank_iff once).2 describes⟩, finished⟩
        intro field behind
        have notTaken : field ∉ (shape.order.zip items).map Prod.fst := by
          intro inTaken
          rw [taken] at inTaken
          exact List.disjoint_take_drop reading.order_nodup (Nat.le_refl _) inTaken behind
        have holds := describes.holds field
        cases required : shape.isRequired field with
        | false => rfl
        | true =>
            obtain ⟨content, filled⟩ :=
              Option.isSome_iff_exists.1 (reading.isSome_of_finish required finished)
            rw [filled] at holds
            obtain ⟨value, member, -⟩ := holds
            exact absurd (List.mem_map_of_mem member) notTaken
  | null | boolean value =>
      obtain ⟨start, rfl⟩ := shown
      simp [readNode, Described, gives?]
  | integer value | double value =>
      obtain ⟨start, rfl, -⟩ := shown
      simp [readNode, Described, gives?]
  | text content =>
      obtain ⟨start, body, rfl, -⟩ := shown
      simp [readNode, Described, gives?]

/-- A record is read from a spelling of a value exactly if the value describes it. -/
theorem readDocument_eq_ok_iff {value : Value} {text : String}
    (spelled : Padded value.Spelled text.toList) (room : value.nesting < nestingLimit)
    (record : Record) :
    readDocument (shape.readNode nestingLimit) text = .ok record ↔
      reading.Described value record := by
  obtain ⟨gap, -, shown⟩ := value.shown_ofText spelled
  rw [Json.readDocument_eq_ok_iff spelled]
  exact reading.readNode_eq_ok_iff shown room record

end Reading

/-! ## Written records -/

/-- The members of a written record: the fields that have a value, in their order. -/
def written (member : Field → Option Value) : List (String × Value) :=
  shape.order.filterMap fun field => (member field).map fun value => (shape.label field, value)

section Written

theorem filterMap_cons_eq_append {α β : Type} (change : α → Option β) (head : α) (tail : List α) :
    (head :: tail).filterMap change = (change head).toList ++ tail.filterMap change := by
  rw [List.filterMap_cons]
  cases change head with
  | none => rfl
  | some value => rfl

theorem optionalMember_eq {α : Type} (key : String) (toJson : α → Value) (value : Option α) :
    optionalMember key toJson value =
      ((value.map toJson).map fun value => (key, value)).toList := by
  cases value with
  | none => rfl
  | some value => rfl

variable {shape} {member : Field → Option Value}

theorem naming_written (labelled : ∀ field, shape.named? (shape.label field) = some field) :
    shape.naming (shape.written member) =
      shape.order.filterMap fun field => (member field).map fun value => (field, value) := by
  rw [naming, written, List.filterMap_filterMap]
  congr 1
  funext field
  cases member field with
  | none => rfl
  | some value => simp [labelled]

theorem forall_written (holds : Value → Prop)
    (all : ∀ field value, member field = some value → holds value) :
    ∀ pair ∈ shape.written member, holds pair.2 := by
  intro pair isWritten
  obtain ⟨field, -, same⟩ := List.mem_filterMap.1 isWritten
  obtain ⟨value, present, rfl⟩ := Option.map_eq_some_iff.1 same
  exact all field value present

theorem map_fst_filterMap_sublist (fields : List Field) :
    ((fields.filterMap fun field => (member field).map fun value => (field, value)).map
      Prod.fst).Sublist fields := by
  induction fields with
  | nil => exact .slnil
  | cons field later inductionHypothesis =>
      cases present : member field with
      | none =>
          rw [List.filterMap_cons_none (by rw [present]; rfl)]
          exact inductionHypothesis.cons field
      | some value =>
          rw [List.filterMap_cons_some (by rw [present]; rfl)]
          exact inductionHypothesis.cons_cons field

theorem join_map_some {α : Type} (value : Option α) : (value.map some).join = value := by
  cases value with
  | none => rfl
  | some content => rfl

/-- What is written for an optional value means the value. -/
theorem rel_optional {α : Type} {means : Value → α → Prop} (toJson : α → Value) (value : Option α)
    (meant : ∀ content, value = some content →
      toJson content ≠ .null ∧ means (toJson content) content) :
    Option.Rel (Optionally means) (value.map toJson) (value.map some) := by
  cases value with
  | none => exact .none
  | some content =>
      obtain ⟨notNull, meant⟩ := meant content rfl
      exact .some (.present notNull meant)

/-- A written record is described by its members if they mean what the draft holds. -/
theorem Reading.described_written (reading : shape.Reading)
    (labelled : ∀ field, shape.named? (shape.label field) = some field)
    (complete : ∀ field, field ∈ shape.order) (draft : Draft) {record : Record}
    (meant : ∀ field, Option.Rel (reading.Means field) (member field) (reading.slot field draft))
    (finished : shape.finish draft = .ok record) :
    reading.Described (.object (shape.written member)) record := by
  have given_iff {field : Field} {value : Value} :
      (field, value) ∈ shape.naming (shape.written member) ↔ member field = some value := by
    rw [naming_written labelled, List.mem_filterMap]
    constructor
    · rintro ⟨other, -, same⟩
      obtain ⟨_, present, pair⟩ := Option.map_eq_some_iff.1 same
      obtain ⟨rfl, rfl⟩ := Prod.mk.inj pair
      exact present
    · intro present
      exact ⟨field, complete field, by rw [present]; rfl⟩
  have ordered : ((shape.naming (shape.written member)).map Prod.fst).Sublist shape.order := by
    rw [naming_written labelled]
    exact map_fst_filterMap_sublist shape.order
  refine ⟨_, draft, rfl, ⟨reading.order_nodup.sublist ordered, ?_⟩, finished⟩
  intro field
  have fieldMeant := meant field
  cases filled : reading.slot field draft with
  | none =>
      rw [filled] at fieldMeant
      intro value isGiven
      rw [given_iff] at isGiven
      rw [isGiven] at fieldMeant
      cases fieldMeant
  | some content =>
      rw [filled] at fieldMeant
      cases present : member field with
      | none =>
          rw [present] at fieldMeant
          cases fieldMeant
      | some value =>
          rw [present] at fieldMeant
          cases fieldMeant with
          | some meant => exact ⟨value, given_iff.2 present, meant⟩

end Written

end Shape

end ComplianceEvidence.Json
