import ComplianceEvidence.Proofs.Json.SpelledRecord
import ComplianceEvidence.Proofs.Ordered.Keys

/-!
Contract: a value that was read is in canonical form, and its written text spells it.

Owns: the form of the values that the reader of values gives, whatever the text was like; what
holds of every record that was read; and the written text of a value without doubles as one of the
spellings of the value.
-/

set_option autoImplicit false

namespace ComplianceEvidence.Json

/-! ## Values that were read -/

/-- A value whose objects are tables and that is nested less deeply than a limit. -/
structure Value.Canonical (limit : Nat) (value : Value) : Prop where
  tabled_eq : value.tabled = value
  nesting_lt : value.nesting < limit

theorem canonical_list {limit : Nat} (room : 1 < limit) {items : List Value}
    (canonical : ∀ item ∈ items, item.Canonical (limit - 1)) :
    (Value.list items).Canonical limit := by
  have parts : tabledItems items = items ∧ nestingOfItems items < limit - 1 := by
    induction items with
    | nil => exact ⟨rfl, Nat.sub_pos_of_lt room⟩
    | cons head tail inductionHypothesis =>
        obtain ⟨headCanonical, tailCanonical⟩ := List.forall_mem_cons.1 canonical
        obtain ⟨tailTabled, tailNested⟩ := inductionHypothesis tailCanonical
        rw [tabledItems, headCanonical.tabled_eq, tailTabled, nestingOfItems, Nat.max_lt]
        exact ⟨rfl, headCanonical.nesting_lt, tailNested⟩
  refine ⟨congrArg Value.list parts.1, ?_⟩
  rw [Value.nesting]
  omega

theorem canonical_object {limit : Nat} (room : 1 < limit) {members : List (String × Value)}
    (ascending : Ordered.Ascending members)
    (canonical : ∀ member ∈ members, member.2.Canonical (limit - 1)) :
    (Value.object members).Canonical limit := by
  have parts : tabledMembers members = members ∧ nestingOfMembers members < limit - 1 := by
    clear ascending
    induction members with
    | nil => exact ⟨rfl, Nat.sub_pos_of_lt room⟩
    | cons head tail inductionHypothesis =>
        obtain ⟨headCanonical, tailCanonical⟩ := List.forall_mem_cons.1 canonical
        obtain ⟨tailTabled, tailNested⟩ := inductionHypothesis tailCanonical
        rw [tabledMembers, headCanonical.tabled_eq, tailTabled, nestingOfMembers, Nat.max_lt]
        exact ⟨rfl, headCanonical.nesting_lt, tailNested⟩
  refine ⟨?_, ?_⟩
  · rw [Value.tabled, parts.1]
    exact congrArg Value.object (Ordered.Table.ofList_entries ⟨members, ascending⟩)
  · rw [Value.nesting]
    omega

theorem canonical_of_flat {limit : Nat} (room : 0 < limit) {value : Value}
    (tabled : value.tabled = value) (flat : value.nesting = 0) : value.Canonical limit :=
  ⟨tabled, flat ▸ room⟩

theorem descend_eq_ok_iff {depth deeper : Nat} {start : List Char} :
    descend depth start = .ok deeper ↔ 1 < depth ∧ deeper = depth - 1 := by
  rw [descend]
  by_cases tooDeep : depth ≤ 1
  · simp [tooDeep]
  · simp [tooDeep, Nat.lt_of_not_le tooDeep, eq_comm]

mutual

/-- Whatever the text was like, the value that is read from it is canonical. -/
theorem Node.canonical_of_readValue : ∀ (node : Node) {depth : Nat} {value : Value}, 0 < depth →
    node.readValue depth = .ok value → value.Canonical depth
  | .scalar _ .null _, _, _, room, rfl => canonical_of_flat room rfl rfl
  | .scalar _ (.boolean _) _, _, _, room, rfl => canonical_of_flat room rfl rfl
  | .scalar start .number _, _, _, room, read => by
      obtain ⟨⟨numeral, rest⟩, -, rfl⟩ := Attempt.map_eq_ok_iff.1 read
      cases numeral with
      | integer value => exact canonical_of_flat room rfl rfl
      | double value => exact canonical_of_flat room rfl rfl
  | .scalar _ (.text body) _, _, _, room, read => by
      obtain ⟨⟨text, rest⟩, -, rfl⟩ := Attempt.map_eq_ok_iff.1 read
      exact canonical_of_flat room rfl rfl
  | .list start items ending, depth, _, _, read => by
      obtain ⟨deeper, descended, values, readItems, rfl⟩ := by
        simpa only [Node.readValue, Attempt.bind_eq_ok_iff, Attempt.pure_eq_ok_iff] using read
      obtain ⟨room, rfl⟩ := descend_eq_ok_iff.1 descended
      exact canonical_list room
        (canonical_of_readValues items (Nat.sub_pos_of_lt room) readItems)
  | .object start members ending, depth, _, _, read => by
      obtain ⟨deeper, descended, entries, readMembers, rfl⟩ := by
        simpa only [Node.readValue, Attempt.bind_eq_ok_iff, Attempt.pure_eq_ok_iff] using read
      obtain ⟨room, rfl⟩ := descend_eq_ok_iff.1 descended
      obtain ⟨ascending, canonical⟩ := canonical_of_readEntries members (Nat.sub_pos_of_lt room)
        readMembers Ordered.ascending_nil (by simp)
      exact canonical_object room ascending canonical
  | .malformed _ _, _, _, _, read => by cases read
  | .broken _, _, _, _, read => by cases read

theorem canonical_of_readValues : ∀ (nodes : List Node) {depth : Nat} {ending : Ending}
    {values : List Value}, 0 < depth → readValues depth nodes ending = .ok values →
      ∀ value ∈ values, value.Canonical depth
  | [], _, .closed _, _, _, rfl => by simp
  | [], _, .broken _, _, _, read => by cases read
  | head :: tail, _, _, _, room, read => by
      obtain ⟨value, readHead, others, readTail, rfl⟩ := by
        simpa only [readValues, Attempt.bind_eq_ok_iff, Attempt.pure_eq_ok_iff] using read
      exact List.forall_mem_cons.2
        ⟨head.canonical_of_readValue room readHead, canonical_of_readValues tail room readTail⟩

theorem canonical_of_readEntries : ∀ (members : List (Key × Node)) {depth : Nat} {ending : Ending}
    {entries result : List (String × Value)}, 0 < depth →
      readEntries depth entries members ending = .ok result → Ordered.Ascending entries →
      (∀ entry ∈ entries, entry.2.Canonical depth) →
        Ordered.Ascending result ∧ ∀ entry ∈ result, entry.2.Canonical depth
  | [], _, .closed _, _, _, _, rfl, ascending, canonical => ⟨ascending, canonical⟩
  | [], _, .broken _, _, _, _, read, _, _ => by cases read
  | (key, head) :: tail, depth, _, entries, _, room, read, ascending, canonical => by
      obtain ⟨name, -, value, readHead, readTail⟩ := by
        simpa only [readEntries, Attempt.bind_eq_ok_iff] using read
      have valueCanonical := head.canonical_of_readValue room readHead
      apply canonical_of_readEntries tail room readTail (ascending.insert name value)
      intro entry member
      rcases Ordered.mem_insert member with rfl | inside
      · exact valueCanonical
      · exact canonical entry inside

end

theorem check_of_readTextAs {α : Type} {expected : String} {check : String → Except String α}
    {node : Node} {value : α} (read : readTextAs expected check node = .ok value) :
    ∃ text, check text = .ok value := by
  unfold readTextAs at read
  split at read
  · split at read
    · cases read
    · rename_i text _ _
      split at read
      · rename_i checked
        cases read
        exact ⟨_, checked⟩
      · cases read
  · cases read

theorem read_of_readOptional {α : Type} {read : Node → Except Fault α} {node : Node} {value : α}
    (found : readOptional read node = .ok (some value)) :
    read node = .ok value ∧ ∀ start after, node ≠ .scalar start .null after := by
  unfold readOptional at found
  split at found
  · cases found
  · rename_i notNull
    obtain ⟨_, read, ⟨⟩⟩ := Attempt.map_eq_ok_iff.1 found
    exact ⟨read, notNull⟩

/-- Only null is read as null. -/
theorem eq_null_of_readValue {depth : Nat} {node : Node} (read : node.readValue depth = .ok .null) :
    ∃ start after, node = .scalar start .null after := by
  cases node with
  | scalar start value after =>
      cases value with
      | null => exact ⟨start, after, rfl⟩
      | boolean value => cases read
      | number =>
          obtain ⟨⟨numeral, rest⟩, -, isNull⟩ := Attempt.map_eq_ok_iff.1 read
          cases numeral <;> cases isNull
      | text body =>
          obtain ⟨_, -, isNull⟩ := Attempt.map_eq_ok_iff.1 read
          cases isNull
  | list start items ending =>
      obtain ⟨_, -, _, -, isNull⟩ := by
        simpa only [Node.readValue, Attempt.bind_eq_ok_iff] using read
      cases isNull
  | object start members ending =>
      obtain ⟨_, -, _, -, isNull⟩ := by
        simpa only [Node.readValue, Attempt.bind_eq_ok_iff] using read
      cases isNull
  | malformed start flaw => cases read
  | broken flaw => cases read

/-! ## Records that were read -/

namespace Shape

variable {Field Draft Record : Type} {shape : Shape Field Draft Record} {holds : Draft → Prop}
  {depth : Nat}

theorem holds_of_readMembers
    (step : ∀ {field node draft next}, holds draft →
      shape.read field depth node draft = .ok next → holds next)
    {draft final : Draft} {members : List (Key × Node)} {ending : Ending} {after : List Char}
    (start : holds draft)
    (read : shape.readMembers depth draft members ending = .ok (final, after)) : holds final := by
  induction members generalizing draft with
  | nil =>
      cases ending with
      | closed rest =>
          cases read
          exact start
      | broken flaw => cases read
  | cons member tail inductionHypothesis =>
      obtain ⟨key, node⟩ := member
      obtain ⟨name, -, read⟩ := Attempt.bind_eq_ok_iff.1 read
      split at read
      · obtain ⟨_, -, read⟩ := Attempt.bind_eq_ok_iff.1 read
        exact inductionHypothesis start read
      · split at read
        · cases read
        · obtain ⟨next, readField, read⟩ := Attempt.bind_eq_ok_iff.1 read
          exact inductionHypothesis (step start readField) read

theorem holds_of_readElements
    (step : ∀ {field node draft next}, holds draft →
      shape.read field depth node draft = .ok next → holds next)
    {draft final : Draft} {fields : List Field} {count : Nat} {front : List Char}
    {nodes : List Node} {ending : Ending} (start : holds draft)
    (read : shape.readElements depth count front draft fields nodes ending = .ok final) :
    holds final := by
  induction fields generalizing draft count front nodes with
  | nil =>
      obtain ⟨_, -, same⟩ := Attempt.bind_eq_ok_iff.1 read
      cases same
      exact start
  | cons field later inductionHypothesis =>
      cases nodes with
      | nil =>
          cases ending with
          | broken flaw => cases read
          | closed rest =>
              rw [readElements] at read
              split at read
              · cases read
              · exact inductionHypothesis start read
      | cons node others =>
          obtain ⟨next, readField, read⟩ := Attempt.bind_eq_ok_iff.1 read
          exact inductionHypothesis (step start readField) read

/-- What holds of the blank draft and is kept by every field holds of the draft of a record. -/
theorem holds_of_readNode {node : Node} {record : Record} (blank : holds shape.blank)
    (step : 1 < depth → ∀ {field node draft next}, holds draft →
      shape.read field (depth - 1) node draft = .ok next → holds next)
    (read : shape.readNode depth node = .ok record) :
    ∃ draft, holds draft ∧ shape.finish draft = .ok record := by
  cases node with
  | object start members ending =>
      obtain ⟨deeper, descended, read⟩ := Attempt.bind_eq_ok_iff.1 read
      obtain ⟨room, rfl⟩ := descend_eq_ok_iff.1 descended
      obtain ⟨⟨draft, after⟩, readMembers, complete⟩ := Attempt.bind_eq_ok_iff.1 read
      exact ⟨draft, holds_of_readMembers (step room) blank readMembers,
        (complete_eq_ok_iff shape).1 complete⟩
  | list start items ending =>
      obtain ⟨deeper, descended, read⟩ := Attempt.bind_eq_ok_iff.1 read
      obtain ⟨room, rfl⟩ := descend_eq_ok_iff.1 descended
      obtain ⟨draft, readElements, complete⟩ := Attempt.bind_eq_ok_iff.1 read
      exact ⟨draft, holds_of_readElements (step room) blank readElements,
        (complete_eq_ok_iff shape).1 complete⟩
  | scalar start value after => cases read
  | malformed start flaw => cases read
  | broken flaw => cases read

end Shape

theorem read_of_readDocument {α : Type} {read : Node → Except Fault α} {text : String} {result : α}
    (success : readDocument read text = .ok result) :
    read (Node.ofText text.toList) = .ok result := by
  obtain ⟨value, found, ended⟩ := Attempt.bind_eq_ok_iff.1 (Attempt.mapError_eq_ok_iff.1 success)
  split at ended
  · cases ended
    exact found
  · cases ended

/-! ## Written values -/

theorem exactMembers_iff {members : List (String × Value)} :
    ExactMembers members ↔ ∀ member ∈ members, member.2.Exact := by
  induction members with
  | nil => simp [ExactMembers]
  | cons head tail inductionHypothesis =>
      rw [ExactMembers, inductionHypothesis, List.forall_mem_cons]

theorem nestingOfMembers_lt {limit : Nat} (room : 0 < limit) {members : List (String × Value)}
    (nested : ∀ member ∈ members, member.2.nesting < limit) : nestingOfMembers members < limit := by
  induction members with
  | nil => exact room
  | cons head tail inductionHypothesis =>
      obtain ⟨headNested, tailNested⟩ := List.forall_mem_cons.1 nested
      rw [nestingOfMembers, Nat.max_lt]
      exact ⟨headNested, inductionHypothesis tailNested⟩

theorem isNumber_wholeText (value : Int) : IsNumber (Number.wholeText value).toList := by
  obtain ⟨head, tail, digits, all, zero⟩ := Number.toDigits_eq_cons value.natAbs
  have whole : IsWhole (Nat.toDigits 10 value.natAbs) := by
    obtain ⟨headDigit, tailDigits⟩ := List.forall_mem_cons.1 all
    rw [digits]
    by_cases isZero : head = '0'
    · rw [isZero, (zero isZero).2]
      exact .zero
    · exact .digits headDigit isZero tailDigits
  have written := wholeText_append value []
  rw [List.append_nil, List.append_nil] at written
  rw [written]
  split
  · exact ⟨['-'], _, [], [], .inr rfl, whole, .none, .none, by simp⟩
  · exact ⟨[], _, [], [], .inl rfl, whole, .none, .none, by simp⟩

theorem padded_of_kind {kind : List Char → Prop} {text : List Char} (isKind : kind text) :
    Padded kind text :=
  ⟨[], text, [], isGap_nil, isKind, isGap_nil, by simp⟩

mutual

/-- The written text of a value without doubles spells the value. -/
theorem Value.spelled_chars : ∀ value : Value, value.Exact → value.Spelled value.chars
  | .null, _ => rfl
  | .boolean true, _ => rfl
  | .boolean false, _ => rfl
  | .integer integer, _ => by
      refine ⟨isNumber_wholeText integer.value, ?_⟩
      have read := readNumber_wholeText integer delimited_nil
      rwa [List.append_nil] at read
  | .text content, _ => isQuoted_textChars content
  | .list items, exact => by
      obtain ⟨inner, spelled, written⟩ := spelled_itemChars items exact
      exact ⟨inner, spelled, congrArg (List.cons '[') written⟩
  | .object members, exact => by
      obtain ⟨inner, spelled, written⟩ := spelled_memberChars members exact
      exact ⟨inner, spelled, congrArg (List.cons '\x7b') written⟩

theorem spelled_itemChars : ∀ items : List Value, ExactItems items →
    ∃ inner, SpelledItems items inner ∧ itemChars items = inner ++ [']']
  | [], _ => ⟨[], isGap_nil, rfl⟩
  | [last], exact => ⟨_, padded_of_kind (last.spelled_chars exact.1), rfl⟩
  | head :: next :: tail, exact => by
      obtain ⟨inner, spelled, written⟩ := spelled_itemChars (next :: tail) exact.2
      refine ⟨_, ⟨_, inner, padded_of_kind (head.spelled_chars exact.1), spelled, rfl⟩, ?_⟩
      simp [itemChars, written]

theorem spelled_memberChars : ∀ members : List (String × Value), ExactMembers members →
    ∃ inner, SpelledMembers members inner ∧ memberChars members = inner ++ ['\x7d']
  | [], _ => ⟨[], isGap_nil, rfl⟩
  | [(key, last)], exact =>
      ⟨_, ⟨_, _, padded_of_kind (isQuoted_textChars key),
        padded_of_kind (last.spelled_chars exact.1), rfl⟩, by simp [memberChars]⟩
  | (key, head) :: next :: tail, exact => by
      obtain ⟨inner, spelled, written⟩ := spelled_memberChars (next :: tail) exact.2
      refine ⟨_, ⟨_, _, inner, padded_of_kind (isQuoted_textChars key),
        padded_of_kind (head.spelled_chars exact.1), spelled, rfl⟩, ?_⟩
      simp [memberChars, written]

end

theorem spelled_render {value : Value} (exact : value.Exact) :
    Padded value.Spelled value.render.toList := by
  rw [Value.render, String.toList_ofList]
  exact padded_of_kind (value.spelled_chars exact)

end ComplianceEvidence.Json
