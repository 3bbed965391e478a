import ComplianceEvidence.Json.Node
import ComplianceEvidence.Proofs.Json.Grammar
import ComplianceEvidence.Proofs.Json.WrittenNumber
import ComplianceEvidence.Proofs.Json.WrittenText

/-!
Contract: the tree of a written value.

Owns: the tree that stands for a value in front of a text, and the proof that it grows from the
written text. A value without doubles and the text behind it determine the tree.

The growth of a value is told for any frames around it, since that is how the items of a list and
the members of an object are met.
-/

set_option autoImplicit false

namespace ComplianceEvidence.Json

/-! ## Trees of values -/

/-- What stands behind an item: the items after it, or the closing bracket. -/
def behindItem (tail : List Value) (rest : List Char) : List Char :=
  match tail with
  | [] => ']' :: rest
  | _ :: _ => ',' :: (itemChars tail ++ rest)

/-- What stands behind a member: the members after it, or the closing brace. -/
def behindMember (tail : List (String × Value)) (rest : List Char) : List Char :=
  match tail with
  | [] => '\x7d' :: rest
  | _ :: _ => ',' :: (memberChars tail ++ rest)

/-- A written key, in front of the colon and what follows. -/
def writtenKey (key : String) (after : List Char) : Key :=
  ⟨bodyChars key.toList after, after⟩

mutual

/-- The tree of a written value in front of a text. -/
def Value.node (rest : List Char) : Value → Node
  | .null => .scalar (Value.null.chars ++ rest) .null rest
  | .boolean value => .scalar ((Value.boolean value).chars ++ rest) (.boolean value) rest
  | .integer value => .scalar ((Value.integer value).chars ++ rest) .number rest
  | .double value => .scalar ((Value.double value).chars ++ rest) .number rest
  | .text value =>
      .scalar ((Value.text value).chars ++ rest) (.text (bodyChars value.toList rest)) rest
  | .list items => .list ('[' :: (itemChars items ++ rest)) (itemNodes rest items) (.closed rest)
  | .object members =>
      .object ('\x7b' :: (memberChars members ++ rest)) (memberNodes rest members) (.closed rest)

def itemNodes (rest : List Char) : List Value → List Node
  | [] => []
  | head :: tail => head.node (behindItem tail rest) :: itemNodes rest tail

def memberNodes (rest : List Char) : List (String × Value) → List (Key × Node)
  | [] => []
  | (key, head) :: tail =>
      (writtenKey key (':' :: (head.chars ++ behindMember tail rest)),
        head.node (behindMember tail rest)) :: memberNodes rest tail

end

mutual

/-- A value in which no number is a double. -/
def Value.Exact : Value → Prop
  | .double _ => False
  | .list items => ExactItems items
  | .object members => ExactMembers members
  | .null | .boolean _ | .integer _ | .text _ => True

def ExactItems : List Value → Prop
  | [] => True
  | head :: tail => head.Exact ∧ ExactItems tail

def ExactMembers : List (String × Value) → Prop
  | [] => True
  | (_, head) :: tail => head.Exact ∧ ExactMembers tail

end

theorem Value.after_node (value : Value) (rest : List Char) : (value.node rest).after = rest := by
  cases value <;> rfl

theorem itemChars_cons (head : Value) (tail : List Value) (rest : List Char) :
    itemChars (head :: tail) ++ rest = head.chars ++ behindItem tail rest := by
  cases tail with
  | nil => simp [itemChars, behindItem]
  | cons next more => simp [itemChars, behindItem]

theorem memberChars_cons (key : String) (head : Value) (tail : List (String × Value))
    (rest : List Char) :
    memberChars ((key, head) :: tail) ++ rest =
      '"' :: bodyChars key.toList (':' :: (head.chars ++ behindMember tail rest)) := by
  rw [← textChars_append]
  cases tail with
  | nil => simp [memberChars, behindMember]
  | cons next more => simp [memberChars, behindMember]

theorem delimited_behindItem (tail : List Value) (rest : List Char) :
    Delimited (behindItem tail rest) := by
  cases tail with
  | nil => exact delimited_cons rest (by decide) (by decide) (by decide) (by decide)
  | cons next more => exact delimited_cons _ (by decide) (by decide) (by decide) (by decide)

theorem delimited_behindMember (tail : List (String × Value)) (rest : List Char) :
    Delimited (behindMember tail rest) := by
  cases tail with
  | nil => exact delimited_cons rest (by decide) (by decide) (by decide) (by decide)
  | cons next more => exact delimited_cons _ (by decide) (by decide) (by decide) (by decide)

/-! ## Tokens -/

theorem skipGap_append {gap : List Char} (allGap : IsGap gap) (text : List Char) :
    skipGap (gap ++ text) = skipGap text :=
  List.dropWhile_append_of_pos allGap

theorem skipGap_cons {head : Char} (notGap : isGap head = false) (tail : List Char) :
    skipGap (head :: tail) = head :: tail :=
  List.dropWhile_cons_of_neg (by simp [notGap])

/-- The first token is cut off behind a gap. -/
theorem tokens_gap_append {gap tail : List Char} {head : Char} {token : Token}
    (allGap : IsGap gap) (notGap : isGap head = false) (first : firstToken head tail = token)
    (shorter : token.after.length ≤ tail.length) :
    tokens (gap ++ head :: tail) = token :: tokens token.after := by
  have skipped : skipGap (gap ++ head :: tail) = head :: tail := by
    rw [skipGap_append allGap, skipGap_cons notGap]
  rw [tokens.eq_def]
  split
  · rename_i empty
    rw [skipped] at empty
    cases empty
  · rename_i other others same
    rw [skipped] at same
    obtain ⟨rfl, rfl⟩ := List.cons.inj same
    have longer : token.after.length < (gap ++ head :: tail).length := by
      rw [List.length_append, List.length_cons]
      omega
    rw [first]
    dsimp only
    rw [dif_pos longer]

/-- The first token is cut off where the text starts with no gap. -/
theorem tokens_eq_cons {head : Char} {tail : List Char} {token : Token}
    (notGap : isGap head = false) (first : firstToken head tail = token)
    (shorter : token.after.length ≤ tail.length) :
    tokens (head :: tail) = token :: tokens token.after :=
  tokens_gap_append isGap_nil notGap first shorter

theorem tokens_mark {mark : Char} {lexeme : Lexeme} (notGap : isGap mark = false)
    (first : ∀ rest, firstToken mark rest = ⟨mark :: rest, lexeme, rest⟩) (rest : List Char) :
    tokens (mark :: rest) = ⟨mark :: rest, lexeme, rest⟩ :: tokens rest :=
  tokens_eq_cons notGap (first rest) (Nat.le_refl _)

theorem length_le_bodyChars (text rest : List Char) :
    rest.length ≤ (bodyChars text rest).length := by
  simp only [bodyChars, List.length_append, List.length_cons]
  omega

theorem tokens_text (text rest : List Char) :
    tokens ('"' :: bodyChars text rest) =
      ⟨'"' :: bodyChars text rest, .scalar (.text (bodyChars text rest)), rest⟩ :: tokens rest := by
  have first : firstToken '"' (bodyChars text rest) =
      ⟨'"' :: bodyChars text rest, .scalar (.text (bodyChars text rest)), rest⟩ := by
    simp [firstToken, tokenOf]
  exact tokens_eq_cons (by decide) first (length_le_bodyChars text rest)

/-- A sign or a digit is none of the characters that something else starts with. -/
theorem ne_of_numeric {head : Char} (numeric : head = '-' ∨ head.isDigit = true) (mark : Char)
    (notSign : mark ≠ '-') (notDigit : mark.isDigit = false) : head ≠ mark := by
  rintro rfl
  rcases numeric with sign | digit
  · exact notSign sign
  · rw [notDigit] at digit
    cases digit

theorem firstToken_number {head : Char} (tail : List Char)
    (numeric : head = '-' ∨ head.isDigit = true) :
    firstToken head tail =
      tokenOf (head :: tail) (.scalar .number) (faultOf (readNumber (head :: tail)))
        (skipNumber (head :: tail)) := by
  have other {mark : Char} (notSign : mark ≠ '-') (notDigit : mark.isDigit = false) :
      head ≠ mark := ne_of_numeric numeric mark notSign notDigit
  unfold firstToken
  rw [if_neg (other (by decide) (by decide)), if_neg (other (by decide) (by decide)),
    if_neg (other (by decide) (by decide)), if_neg (other (by decide) (by decide)),
    if_neg (other (by decide) (by decide)), if_neg (other (by decide) (by decide)),
    if_neg (other (by decide) (by decide)), if_pos (by simpa using numeric)]

theorem isGap_of_numeric {head : Char} (numeric : head = '-' ∨ head.isDigit = true) :
    isGap head = false := by
  have space := ne_of_numeric numeric ' ' (by decide) (by decide)
  have feed := ne_of_numeric numeric '\n' (by decide) (by decide)
  have tab := ne_of_numeric numeric '\t' (by decide) (by decide)
  have back := ne_of_numeric numeric '\r' (by decide) (by decide)
  simp [isGap, space, feed, tab, back]

theorem tokens_number (integer : Integer) {rest : List Char} (delimited : Delimited rest) :
    tokens ((Value.integer integer).chars ++ rest) =
      ⟨(Value.integer integer).chars ++ rest, .scalar .number, rest⟩ :: tokens rest := by
  have read := readNumber_wholeText integer delimited
  have skipped := skipNumber_wholeText integer.value delimited
  obtain ⟨head, tail, split, numeric⟩ := wholeText_eq_cons integer.value
  rw [Value.chars]
  rw [split, List.cons_append] at read skipped ⊢
  apply tokens_eq_cons (isGap_of_numeric numeric)
  · rw [firstToken_number _ numeric, skipped]
    rfl
  · simp

/-! ## Growth -/

/-- Goes on behind one step with the tokens that are left. -/
def resume : Node ⊕ (Stage × List Frame) → List Token → Node
  | .inl node, _ => node
  | .inr (stage, frames), rest => grow stage frames rest

theorem grow_cons (stage : Stage) (frames : List Frame) (token : Token) (rest : List Token) :
    grow stage frames (token :: rest) = resume (step token stage frames) rest := by
  rw [grow]
  cases step token stage frames with
  | inl node => rfl
  | inr next => rfl

/-- The tokens of a value grow its tree, wherever a value is waited for. -/
def Value.Grows (rest : List Char) (value : Value) : Prop :=
  ∃ token later, tokens (value.chars ++ rest) = token :: later ∧ token.lexeme ≠ .closeList ∧
    ∀ read frames,
      resume (startValue token read frames) later =
        resume (place (value.node rest) frames) (tokens rest)

/-- The tokens of some items grow the rest of a list. -/
def ItemsGrow (rest : List Char) (items : List Value) : Prop :=
  ∃ token later, tokens (itemChars items ++ rest) = token :: later ∧ token.lexeme ≠ .closeList ∧
    ∀ read start before frames,
      resume (startValue token read (.list start before :: frames)) later =
        resume
          (place (.list start (before.reverse ++ itemNodes rest items) (.closed rest)) frames)
          (tokens rest)

/-- The tokens of some members grow the rest of an object. -/
def MembersGrow (rest : List Char) (members : List (String × Value)) : Prop :=
  ∃ token later, tokens (memberChars members ++ rest) = token :: later ∧
    token.lexeme ≠ .closeObject ∧
    ∀ read start before frames,
      resume (startKey token start before read frames) later =
        resume
          (place (.object start (before.reverse ++ memberNodes rest members) (.closed rest)) frames)
          (tokens rest)

theorem Value.grows_of_scalar {value : Value} {rest : List Char} {scalar : Scalar}
    (cut : tokens (value.chars ++ rest) =
      ⟨value.chars ++ rest, .scalar scalar, rest⟩ :: tokens rest)
    (tree : value.node rest = .scalar (value.chars ++ rest) scalar rest) : value.Grows rest := by
  refine ⟨_, _, cut, by simp, ?_⟩
  intro read frames
  rw [tree]
  rfl

theorem grow_closeList (start rest : List Char) (items : List Node) (frames : List Frame) :
    grow (.afterItem start items) frames (tokens (']' :: rest)) =
      resume (place (.list start items.reverse (.closed rest)) frames) (tokens rest) := by
  rw [tokens_mark (by decide) (fun _ => rfl), grow_cons]
  rfl

theorem grow_closeObject (start rest : List Char) (members : List (Key × Node))
    (frames : List Frame) :
    grow (.afterMember start members) frames (tokens ('\x7d' :: rest)) =
      resume (place (.object start members.reverse (.closed rest)) frames) (tokens rest) := by
  rw [tokens_mark (by decide) (fun _ => rfl), grow_cons]
  rfl

/-- An item grows, and then the items after it or the closing bracket. -/
theorem itemsGrow_cons {head : Value} {tail : List Value} {rest : List Char}
    (headGrows : head.Grows (behindItem tail rest)) (tailGrows : tail ≠ [] → ItemsGrow rest tail) :
    ItemsGrow rest (head :: tail) := by
  obtain ⟨token, later, cut, notClosed, grows⟩ := headGrows
  refine ⟨token, later, ?_, notClosed, ?_⟩
  · rw [itemChars_cons, cut]
  intro read start before frames
  rw [grows read (.list start before :: frames)]
  show grow (.afterItem start (_ :: before)) frames _ = _
  cases tail with
  | nil =>
      rw [behindItem, grow_closeList, List.reverse_cons]
      rfl
  | cons next more =>
      obtain ⟨nextToken, nextLater, nextCut, nextNotClosed, nextGrows⟩ :=
        tailGrows (List.cons_ne_nil next more)
      have comma : tokens (behindItem (next :: more) rest) =
          ⟨behindItem (next :: more) rest, .comma, itemChars (next :: more) ++ rest⟩ ::
            nextToken :: nextLater := by
        rw [← nextCut]
        exact tokens_mark (by decide) (fun _ => rfl) _
      rw [comma, grow_cons]
      show grow (.item start _) frames (nextToken :: nextLater) = _
      rw [grow_cons, step, nextGrows, List.reverse_cons, List.append_assoc]
      rfl

/-- A member grows, and then the members after it or the closing brace. -/
theorem membersGrow_cons {key : String} {head : Value} {tail : List (String × Value)}
    {rest : List Char} (headGrows : head.Grows (behindMember tail rest))
    (tailGrows : tail ≠ [] → MembersGrow rest tail) : MembersGrow rest ((key, head) :: tail) := by
  obtain ⟨token, later, cut, -, grows⟩ := headGrows
  have keyCut := tokens_text key.toList (':' :: (head.chars ++ behindMember tail rest))
  rw [← memberChars_cons] at keyCut
  refine ⟨_, _, keyCut, by simp, ?_⟩
  intro read start before frames
  show grow (.colon start before (writtenKey key _)) frames (tokens (':' :: _)) = _
  rw [tokens_mark (by decide) (fun _ => rfl), grow_cons, cut]
  show grow .value (.object start before _ :: frames) (token :: later) = _
  rw [grow_cons, step, grows]
  show grow (.afterMember start (_ :: before)) frames _ = _
  cases tail with
  | nil =>
      rw [behindMember, grow_closeObject, List.reverse_cons]
      rfl
  | cons next more =>
      obtain ⟨nextToken, nextLater, nextCut, nextNotClosed, nextGrows⟩ :=
        tailGrows (List.cons_ne_nil next more)
      have comma : tokens (behindMember (next :: more) rest) =
          ⟨behindMember (next :: more) rest, .comma, memberChars (next :: more) ++ rest⟩ ::
            nextToken :: nextLater := by
        rw [← nextCut]
        exact tokens_mark (by decide) (fun _ => rfl) _
      rw [comma, grow_cons]
      show grow (.key start _) frames (nextToken :: nextLater) = _
      rw [grow_cons, step, nextGrows, List.reverse_cons, List.append_assoc]
      rfl

theorem Value.list_grows {items : List Value} {rest : List Char}
    (itemsGrow : items ≠ [] → ItemsGrow rest items) : (Value.list items).Grows rest := by
  have cut : tokens ((Value.list items).chars ++ rest) =
      ⟨'[' :: (itemChars items ++ rest), .openList, itemChars items ++ rest⟩ ::
        tokens (itemChars items ++ rest) := tokens_mark (by decide) (fun _ => rfl) _
  refine ⟨_, _, cut, by simp, ?_⟩
  intro read frames
  show grow (.firstItem _) frames (tokens (itemChars items ++ rest)) = _
  cases items with
  | nil =>
      show grow (.firstItem _) frames (tokens (']' :: rest)) = _
      rw [tokens_mark (by decide) (fun _ => rfl), grow_cons]
      rfl
  | cons head tail =>
      obtain ⟨token, later, firstCut, notClosed, grows⟩ := itemsGrow (List.cons_ne_nil head tail)
      rw [firstCut, grow_cons, step, if_neg notClosed, grows]
      rfl

theorem Value.object_grows {members : List (String × Value)} {rest : List Char}
    (membersGrow : members ≠ [] → MembersGrow rest members) :
    (Value.object members).Grows rest := by
  have cut : tokens ((Value.object members).chars ++ rest) =
      ⟨'\x7b' :: (memberChars members ++ rest), .openObject, memberChars members ++ rest⟩ ::
        tokens (memberChars members ++ rest) := tokens_mark (by decide) (fun _ => rfl) _
  refine ⟨_, _, cut, by simp, ?_⟩
  intro read frames
  show grow (.firstKey _) frames (tokens (memberChars members ++ rest)) = _
  cases members with
  | nil =>
      show grow (.firstKey _) frames (tokens ('\x7d' :: rest)) = _
      rw [tokens_mark (by decide) (fun _ => rfl), grow_cons]
      rfl
  | cons head tail =>
      obtain ⟨token, later, firstCut, notClosed, grows⟩ :=
        membersGrow (List.cons_ne_nil head tail)
      rw [firstCut, grow_cons, step, if_neg notClosed, grows]
      rfl

mutual

/-- The tokens of a written value grow its tree. -/
theorem Value.grows : ∀ value : Value, value.Exact → ∀ rest, Delimited rest → value.Grows rest
  | .null, _, _, _ =>
      Value.grows_of_scalar (tokens_eq_cons (by decide) rfl (Nat.le_add_right _ 3)) rfl
  | .boolean true, _, _, _ =>
      Value.grows_of_scalar (tokens_eq_cons (by decide) rfl (Nat.le_add_right _ 3)) rfl
  | .boolean false, _, _, _ =>
      Value.grows_of_scalar (tokens_eq_cons (by decide) rfl (Nat.le_add_right _ 4)) rfl
  | .integer integer, _, _, delimited => Value.grows_of_scalar (tokens_number integer delimited) rfl
  | .text text, _, rest, _ => by
      apply Value.grows_of_scalar _ rfl
      rw [Value.chars, textChars_append, tokens_text]
  | .list items, exact, rest, _ => Value.list_grows (items_grow items exact rest)
  | .object members, exact, rest, _ => Value.object_grows (members_grow members exact rest)

theorem items_grow : ∀ items : List Value, ExactItems items → ∀ rest, items ≠ [] →
    ItemsGrow rest items
  | [], _, _, notEmpty => absurd rfl notEmpty
  | head :: tail, exact, rest, _ =>
      itemsGrow_cons (head.grows exact.1 _ (delimited_behindItem tail rest))
        (items_grow tail exact.2 rest)

theorem members_grow : ∀ members : List (String × Value), ExactMembers members →
    ∀ rest, members ≠ [] → MembersGrow rest members
  | [], _, _, notEmpty => absurd rfl notEmpty
  | (_, head) :: tail, exact, rest, _ =>
      membersGrow_cons (head.grows exact.1 _ (delimited_behindMember tail rest))
        (members_grow tail exact.2 rest)

end

/-- The text of a value without doubles is the text of its tree. -/
theorem Node.ofText_chars {value : Value} (exact : value.Exact) :
    Node.ofText value.chars = value.node [] := by
  obtain ⟨token, later, cut, -, grows⟩ := value.grows exact [] delimited_nil
  rw [List.append_nil] at cut
  rw [Node.ofText, cut, grow_cons, step, grows]
  rfl

end ComplianceEvidence.Json
