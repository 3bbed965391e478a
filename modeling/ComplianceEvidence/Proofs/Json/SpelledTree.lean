import ComplianceEvidence.Json.Record
import ComplianceEvidence.Proofs.Attempt
import ComplianceEvidence.Proofs.Json.SpelledNumber
import ComplianceEvidence.Proofs.Json.SpelledText
import ComplianceEvidence.Proofs.Json.WrittenTree

/-!
Contract: the tree of a spelled value, whatever its spelling.

Owns: what it means that a tree shows a value in front of a text, and the proof that a spelled value
grows a tree that shows it.

As with written values, the growth is told for any frames around a value. What stands behind an
item or a member is taken as a whole, with the items after it and the closing bracket, so that the
last item needs no case of its own.
-/

set_option autoImplicit false

namespace ComplianceEvidence.Json

/-! ## Trees that show values -/

mutual

/-- A tree that shows a value in front of a text. -/
def Value.Shown (rest : List Char) : Value → Node → Prop
  | .null, node => ∃ start, node = .scalar start .null rest
  | .boolean value, node => ∃ start, node = .scalar start (.boolean value) rest
  | .integer value, node =>
      ∃ start, node = .scalar start .number rest ∧ readNumber start = .ok (.integer value, rest)
  | .double value, node =>
      ∃ start, node = .scalar start .number rest ∧ readNumber start = .ok (.double value, rest)
  | .text content, node =>
      ∃ start body, node = .scalar start (.text body) rest ∧
        readText body = .ok (content.toList, rest)
  | .list items, node =>
      ∃ start nodes, node = .list start nodes (.closed rest) ∧
        ShownItems (start.drop 1) items nodes
  | .object members, node =>
      ∃ start nodes, node = .object start nodes (.closed rest) ∧ ShownMembers members nodes

/-- Trees that show the items of a list from some text on. The list can be closed where its items
end and nowhere before. -/
def ShownItems (front : List Char) : List Value → List Node → Prop
  | [], nodes => nodes = [] ∧ Shape.closeList front = .ok ()
  | head :: tail, nodes =>
      ∃ node others behind, nodes = node :: others ∧ Shape.closeList front ≠ .ok () ∧
        head.Shown behind node ∧ ShownItems behind tail others

def ShownMembers : List (String × Value) → List (Key × Node) → Prop
  | [], nodes => nodes = []
  | (name, head) :: tail, nodes =>
      ∃ key node others behind, nodes = (key, node) :: others ∧ key.read = .ok name ∧
        head.Shown behind node ∧ ShownMembers tail others

end

theorem Value.Shown.after_eq {value : Value} {rest : List Char} {node : Node}
    (shown : value.Shown rest node) : node.after = rest := by
  cases value with
  | null | boolean value =>
      obtain ⟨start, rfl⟩ := shown
      rfl
  | integer value | double value =>
      obtain ⟨start, rfl, -⟩ := shown
      rfl
  | text content | list items | object members =>
      obtain ⟨start, inside, rfl, -⟩ := shown
      rfl

/-! ## Where a list can be closed -/

theorem closeList_bracket {gap : List Char} (allGap : IsGap gap) (rest : List Char) :
    Shape.closeList (gap ++ ']' :: rest) = .ok () := by
  rw [Shape.closeList, skipGap_append allGap]
  rfl

theorem skipGap_of_closeList {text : List Char} (closed : Shape.closeList text = .ok ()) :
    ∃ rest, skipGap text = ']' :: rest := by
  unfold Shape.closeList at closed
  split at closed
  · cases closed
  · rename_i same
    exact ⟨_, same⟩
  · split at closed
    · cases closed
    · cases closed
  · cases closed

theorem closeList_comma {gap : List Char} (allGap : IsGap gap) (rest : List Char) :
    Shape.closeList (gap ++ ',' :: rest) ≠ .ok () := by
  intro closed
  obtain ⟨_, same⟩ := skipGap_of_closeList closed
  rw [skipGap_append allGap, skipGap_cons (by decide)] at same
  exact absurd (List.cons.inj same).1 (by decide)

/-- A value starts neither with a gap nor with the bracket that closes a list. -/
theorem Value.Spelled.eq_cons {value : Value} {text : List Char} (spelled : value.Spelled text) :
    ∃ head tail, text = head :: tail ∧ isGap head = false ∧ head ≠ ']' := by
  have number {numeral : Numeral} (spelled : SpellsNumber numeral text) :
      ∃ head tail, text = head :: tail ∧ isGap head = false ∧ head ≠ ']' := by
    obtain ⟨head, tail, rfl, numeric⟩ := spelled.1.eq_cons
    exact ⟨head, tail, rfl, isGap_of_numeric numeric,
      ne_of_numeric numeric ']' (by decide) (by decide)⟩
  cases value with
  | null =>
      obtain rfl : text = _ := spelled
      exact ⟨'n', _, rfl, by decide, by decide⟩
  | boolean value =>
      cases value with
      | false =>
          obtain rfl : text = _ := spelled
          exact ⟨'f', _, rfl, by decide, by decide⟩
      | true =>
          obtain rfl : text = _ := spelled
          exact ⟨'t', _, rfl, by decide, by decide⟩
  | integer value => exact number spelled
  | double value => exact number spelled
  | text content =>
      obtain ⟨body, -, rfl⟩ := spelled
      exact ⟨'"', _, rfl, by decide, by decide⟩
  | list items =>
      obtain ⟨inner, -, rfl⟩ := spelled
      exact ⟨'[', _, rfl, by decide, by decide⟩
  | object members =>
      obtain ⟨inner, -, rfl⟩ := spelled
      exact ⟨'\x7b', _, rfl, by decide, by decide⟩

theorem closeList_value {value : Value} {gap text : List Char} (allGap : IsGap gap)
    (spelled : value.Spelled text) (rest : List Char) :
    Shape.closeList (gap ++ (text ++ rest)) ≠ .ok () := by
  obtain ⟨head, tail, rfl, notGap, notBracket⟩ := spelled.eq_cons
  intro closed
  obtain ⟨_, same⟩ := skipGap_of_closeList closed
  rw [skipGap_append allGap, List.cons_append, skipGap_cons notGap] at same
  exact notBracket (List.cons.inj same).1

/-! ## Tokens behind gaps -/

theorem delimited_gap_append {gap rest : List Char} (allGap : IsGap gap)
    (delimited : Delimited rest) : Delimited (gap ++ rest) := by
  cases gap with
  | nil => exact delimited
  | cons head tail =>
      have isGap : isGap head = true := allGap head List.mem_cons_self
      simp only [Json.isGap, Bool.or_eq_true, decide_eq_true_eq] at isGap
      rcases isGap with ((rfl | rfl) | rfl) | rfl
      all_goals exact delimited_cons _ (by decide) (by decide) (by decide) (by decide)

theorem tokens_gap_mark {gap : List Char} {mark : Char} {lexeme : Lexeme} (allGap : IsGap gap)
    (notGap : isGap mark = false)
    (first : ∀ rest, firstToken mark rest = ⟨mark :: rest, lexeme, rest⟩) (rest : List Char) :
    tokens (gap ++ mark :: rest) = ⟨mark :: rest, lexeme, rest⟩ :: tokens rest :=
  tokens_gap_append allGap notGap (first rest) (Nat.le_refl _)

theorem tokens_gap_number {numeral : Numeral} {gap text rest : List Char} (allGap : IsGap gap)
    (spelled : SpellsNumber numeral text) (delimited : Delimited rest) :
    tokens (gap ++ (text ++ rest)) = ⟨text ++ rest, .scalar .number, rest⟩ :: tokens rest := by
  have skipped := spelled.1.skipNumber_append delimited
  obtain ⟨head, tail, rfl, numeric⟩ := spelled.1.eq_cons
  rw [List.cons_append] at skipped ⊢
  apply tokens_gap_append allGap (isGap_of_numeric numeric)
  · rw [firstToken_number _ numeric, skipped]
    rfl
  · simp

theorem tokens_gap_text {gap body text : List Char} (allGap : IsGap gap)
    (spells : SpellsText body text) (rest : List Char) :
    tokens (gap ++ '"' :: (body ++ '"' :: rest)) =
      ⟨'"' :: (body ++ '"' :: rest), .scalar (.text (body ++ '"' :: rest)), rest⟩ ::
        tokens rest := by
  apply tokens_gap_append allGap (by decide)
  · simp [firstToken, tokenOf, spells.skipText_append]
  · simp only [List.length_append, List.length_cons]
    omega

theorem tokens_key {name : String} {key : List Char} (padded : Padded (IsQuoted name) key)
    (rest : List Char) :
    ∃ start body gap, IsGap gap ∧ readText body = .ok (name.toList, gap ++ rest) ∧
      tokens (key ++ rest) =
        ⟨start, .scalar (.text body), gap ++ rest⟩ :: tokens (gap ++ rest) := by
  obtain ⟨before, _, after, beforeGap, ⟨body, spells, rfl⟩, afterGap, rfl⟩ := padded
  refine ⟨'"' :: (body ++ '"' :: (after ++ rest)), _, after, afterGap,
    spells.readText_append (after ++ rest), ?_⟩
  rw [← tokens_gap_text beforeGap spells]
  simp

/-! ## Growth -/

/-- The tokens of a spelled value grow a tree that shows it, wherever a value is waited for. -/
def Value.GrowsFrom (value : Value) (text rest : List Char) : Prop :=
  ∃ node token later, value.Shown rest node ∧ token.lexeme ≠ .closeList ∧
    (∀ gap, IsGap gap → tokens (gap ++ (text ++ rest)) = token :: later) ∧
    ∀ read frames,
      resume (startValue token read frames) later = resume (place node frames) (tokens rest)

/-- The tokens from the first of some items on grow the rest of a list. -/
def ItemsGrowFrom (items : List Value) (text rest : List Char) : Prop :=
  ∃ nodes token later, (∀ front, Shape.closeList front ≠ .ok () → ShownItems front items nodes) ∧
    token.lexeme ≠ .closeList ∧ tokens text = token :: later ∧
    ∀ read start before frames,
      resume (startValue token read (.list start before :: frames)) later =
        resume (place (.list start (before.reverse ++ nodes) (.closed rest)) frames) (tokens rest)

/-- The tokens behind an item grow the rest of a list. -/
def ItemsClose (items : List Value) (behind rest : List Char) : Prop :=
  ∃ nodes, ShownItems behind items nodes ∧
    ∀ start before frames,
      grow (.afterItem start before) frames (tokens behind) =
        resume (place (.list start (before.reverse ++ nodes) (.closed rest)) frames) (tokens rest)

/-- The tokens from the first of some keys on grow the rest of an object. -/
def MembersGrowFrom (members : List (String × Value)) (text rest : List Char) : Prop :=
  ∃ nodes token later, ShownMembers members nodes ∧ token.lexeme ≠ .closeObject ∧
    tokens text = token :: later ∧
    ∀ read start before frames,
      resume (startKey token start before read frames) later =
        resume (place (.object start (before.reverse ++ nodes) (.closed rest)) frames)
          (tokens rest)

/-- The tokens behind a member grow the rest of an object. -/
def MembersClose (members : List (String × Value)) (behind rest : List Char) : Prop :=
  ∃ nodes, ShownMembers members nodes ∧
    ∀ start before frames,
      grow (.afterMember start before) frames (tokens behind) =
        resume (place (.object start (before.reverse ++ nodes) (.closed rest)) frames)
          (tokens rest)

theorem Value.growsFrom_of_scalar {value : Value} {text rest : List Char} (scalar : Scalar)
    (cut : ∀ gap, IsGap gap → tokens (gap ++ (text ++ rest)) =
      ⟨text ++ rest, .scalar scalar, rest⟩ :: tokens rest)
    (shown : value.Shown rest (.scalar (text ++ rest) scalar rest)) : value.GrowsFrom text rest :=
  ⟨_, _, _, shown, by simp, cut, fun _ _ => rfl⟩

theorem Value.growsFrom_number {value : Value} {numeral : Numeral} {text rest : List Char}
    (spelled : SpellsNumber numeral text) (delimited : Delimited rest)
    (shown : ∀ start, readNumber start = .ok (numeral, rest) →
      value.Shown rest (.scalar start .number rest)) : value.GrowsFrom text rest := by
  apply Value.growsFrom_of_scalar .number
  · intro gap allGap
    exact tokens_gap_number allGap spelled delimited
  · exact shown _ (spelled.readNumber_append delimited)

theorem Value.text_growsFrom {content : String} {text : List Char} (quoted : IsQuoted content text)
    (rest : List Char) : (Value.text content).GrowsFrom text rest := by
  obtain ⟨body, spells, rfl⟩ := quoted
  have shape : '"' :: (body ++ ['"']) ++ rest = '"' :: (body ++ '"' :: rest) := by simp
  apply Value.growsFrom_of_scalar (.text (body ++ '"' :: rest))
  · intro gap allGap
    rw [shape]
    exact tokens_gap_text allGap spells rest
  · exact ⟨_, _, rfl, spells.readText_append rest⟩

/-! ### Lists -/

theorem itemsClose_nil {gap : List Char} (allGap : IsGap gap) (rest : List Char) :
    ItemsClose [] (gap ++ ']' :: rest) rest := by
  refine ⟨[], ⟨rfl, closeList_bracket allGap rest⟩, ?_⟩
  intro start before frames
  rw [tokens_gap_mark allGap (by decide) (fun _ => rfl), grow_cons, List.append_nil]
  rfl

theorem itemsClose_of_growFrom {items : List Value} {gap text rest : List Char}
    (allGap : IsGap gap) (grows : ItemsGrowFrom items text rest) :
    ItemsClose items (gap ++ ',' :: text) rest := by
  obtain ⟨nodes, token, later, shown, -, cut, grows⟩ := grows
  refine ⟨nodes, shown _ (closeList_comma allGap text), ?_⟩
  intro start before frames
  rw [tokens_gap_mark allGap (by decide) (fun _ => rfl), grow_cons]
  show grow (.item start before) frames (tokens text) = _
  rw [cut, grow_cons, step, grows]

theorem itemsGrowFrom_cons {head : Value} {tail : List Value} {gap text behind rest : List Char}
    (allGap : IsGap gap) (headGrows : head.GrowsFrom text behind)
    (tailCloses : ItemsClose tail behind rest) :
    ItemsGrowFrom (head :: tail) (gap ++ (text ++ behind)) rest := by
  obtain ⟨node, token, later, headShown, notClosed, cut, headGrows⟩ := headGrows
  obtain ⟨nodes, tailShown, tailGrows⟩ := tailCloses
  refine ⟨node :: nodes, token, later, ?_, notClosed, cut gap allGap, ?_⟩
  · intro front unclosed
    exact ⟨node, nodes, behind, rfl, unclosed, headShown, tailShown⟩
  intro read start before frames
  rw [headGrows]
  show grow (.afterItem start (node :: before)) frames (tokens behind) = _
  rw [tailGrows, List.reverse_cons, List.append_assoc]
  rfl

/-! ### Objects -/

theorem membersClose_nil {gap : List Char} (allGap : IsGap gap) (rest : List Char) :
    MembersClose [] (gap ++ '\x7d' :: rest) rest := by
  refine ⟨[], rfl, ?_⟩
  intro start before frames
  rw [tokens_gap_mark allGap (by decide) (fun _ => rfl), grow_cons, List.append_nil]
  rfl

theorem membersClose_of_growFrom {members : List (String × Value)} {gap text rest : List Char}
    (allGap : IsGap gap) (grows : MembersGrowFrom members text rest) :
    MembersClose members (gap ++ ',' :: text) rest := by
  obtain ⟨nodes, token, later, shown, -, cut, grows⟩ := grows
  refine ⟨nodes, shown, ?_⟩
  intro start before frames
  rw [tokens_gap_mark allGap (by decide) (fun _ => rfl), grow_cons]
  show grow (.key start before) frames (tokens text) = _
  rw [cut, grow_cons, step, grows]

theorem membersGrowFrom_cons {name : String} {head : Value} {tail : List (String × Value)}
    {key gap text behind rest : List Char} (padded : Padded (IsQuoted name) key)
    (allGap : IsGap gap) (headGrows : head.GrowsFrom text behind)
    (tailCloses : MembersClose tail behind rest) :
    MembersGrowFrom ((name, head) :: tail) (key ++ ':' :: (gap ++ (text ++ behind))) rest := by
  obtain ⟨start, body, after, afterGap, read, keyCut⟩ :=
    tokens_key padded (':' :: (gap ++ (text ++ behind)))
  obtain ⟨node, token, later, headShown, -, cut, headGrows⟩ := headGrows
  obtain ⟨nodes, tailShown, tailGrows⟩ := tailCloses
  let quoted : Key := ⟨body, after ++ ':' :: (gap ++ (text ++ behind))⟩
  have named : quoted.read = .ok name := by
    rw [Key.read, read]
    exact congrArg Except.ok String.ofList_toList
  refine ⟨(quoted, node) :: nodes, _, _,
    ⟨quoted, node, nodes, behind, rfl, named, headShown, tailShown⟩, by simp, keyCut, ?_⟩
  intro asked start earlier frames
  show grow (.colon start earlier quoted) frames (tokens (after ++ ':' :: _)) = _
  rw [tokens_gap_mark afterGap (by decide) (fun _ => rfl), grow_cons, cut gap allGap]
  show grow .value (.object start earlier quoted :: frames) (token :: later) = _
  rw [grow_cons, step, headGrows]
  show grow (.afterMember start ((quoted, node) :: earlier)) frames (tokens behind) = _
  rw [tailGrows, List.reverse_cons, List.append_assoc]
  rfl

/-! ### Values -/

theorem Value.list_growsFrom {items : List Value} {inner rest : List Char}
    (empty : items = [] → IsGap inner)
    (filled : items ≠ [] → ItemsGrowFrom items (inner ++ ']' :: rest) rest)
    (unclosed : items ≠ [] → Shape.closeList (inner ++ ']' :: rest) ≠ .ok ()) :
    (Value.list items).GrowsFrom ('[' :: (inner ++ [']'])) rest := by
  have opened : '[' :: (inner ++ [']']) ++ rest = '[' :: (inner ++ ']' :: rest) := by simp
  have cut (gap : List Char) (allGap : IsGap gap) :
      tokens (gap ++ ('[' :: (inner ++ [']']) ++ rest)) =
        ⟨'[' :: (inner ++ ']' :: rest), .openList, inner ++ ']' :: rest⟩ ::
          tokens (inner ++ ']' :: rest) := by
    rw [opened]
    exact tokens_gap_mark allGap (by decide) (fun _ => rfl) _
  cases items with
  | nil =>
      have allGap := empty rfl
      refine ⟨.list ('[' :: (inner ++ ']' :: rest)) [] (.closed rest), _, _,
        ⟨_, [], rfl, rfl, closeList_bracket allGap rest⟩, by simp, cut, ?_⟩
      intro read frames
      show grow (.firstItem _) frames (tokens (inner ++ ']' :: rest)) = _
      rw [tokens_gap_mark allGap (by decide) (fun _ => rfl), grow_cons]
      rfl
  | cons head tail =>
      obtain ⟨nodes, token, later, shown, notClosed, firstCut, grows⟩ :=
        filled (List.cons_ne_nil head tail)
      refine ⟨.list ('[' :: (inner ++ ']' :: rest)) nodes (.closed rest), _, _,
        ⟨_, nodes, rfl, shown _ (unclosed (List.cons_ne_nil head tail))⟩, by simp, cut, ?_⟩
      intro read frames
      show grow (.firstItem _) frames (tokens (inner ++ ']' :: rest)) = _
      rw [firstCut, grow_cons, step, if_neg notClosed, grows]
      rfl

theorem Value.object_growsFrom {members : List (String × Value)} {inner rest : List Char}
    (empty : members = [] → IsGap inner)
    (filled : members ≠ [] → MembersGrowFrom members (inner ++ '\x7d' :: rest) rest) :
    (Value.object members).GrowsFrom ('\x7b' :: (inner ++ ['\x7d'])) rest := by
  have opened : '\x7b' :: (inner ++ ['\x7d']) ++ rest = '\x7b' :: (inner ++ '\x7d' :: rest) := by
    simp
  have cut (gap : List Char) (allGap : IsGap gap) :
      tokens (gap ++ ('\x7b' :: (inner ++ ['\x7d']) ++ rest)) =
        ⟨'\x7b' :: (inner ++ '\x7d' :: rest), .openObject, inner ++ '\x7d' :: rest⟩ ::
          tokens (inner ++ '\x7d' :: rest) := by
    rw [opened]
    exact tokens_gap_mark allGap (by decide) (fun _ => rfl) _
  cases members with
  | nil =>
      have allGap := empty rfl
      refine ⟨.object ('\x7b' :: (inner ++ '\x7d' :: rest)) [] (.closed rest), _, _,
        ⟨_, [], rfl, rfl⟩, by simp, cut, ?_⟩
      intro read frames
      show grow (.firstKey _) frames (tokens (inner ++ '\x7d' :: rest)) = _
      rw [tokens_gap_mark allGap (by decide) (fun _ => rfl), grow_cons]
      rfl
  | cons head tail =>
      obtain ⟨nodes, token, later, shown, notClosed, firstCut, grows⟩ :=
        filled (List.cons_ne_nil head tail)
      refine ⟨.object ('\x7b' :: (inner ++ '\x7d' :: rest)) nodes (.closed rest), _, _,
        ⟨_, nodes, rfl, shown⟩, by simp, cut, ?_⟩
      intro read frames
      show grow (.firstKey _) frames (tokens (inner ++ '\x7d' :: rest)) = _
      rw [firstCut, grow_cons, step, if_neg notClosed, grows]
      rfl

/-- The text of some items goes on with the first of them. -/
theorem closeList_items {items : List Value} {inner : List Char} (notEmpty : items ≠ [])
    (spelled : SpelledItems items inner) (rest : List Char) :
    Shape.closeList (inner ++ rest) ≠ .ok () := by
  have first : ∃ (head : Value) (padded others : List Char),
      Padded head.Spelled padded ∧ inner = padded ++ others := by
    obtain ⟨head, tail, rfl⟩ := List.exists_cons_of_ne_nil notEmpty
    cases tail with
    | nil => exact ⟨head, inner, [], spelled, (List.append_nil inner).symm⟩
    | cons next more =>
        obtain ⟨padded, others, headPadded, -, rfl⟩ := spelled
        exact ⟨head, padded, _, headPadded, rfl⟩
  obtain ⟨head, _, others, ⟨before, body, after, beforeGap, spelledBody, -, rfl⟩, rfl⟩ := first
  simpa using closeList_value beforeGap spelledBody (after ++ (others ++ rest))

mutual

/-- The tokens of a spelled value grow a tree that shows it. -/
theorem Value.growsFrom : ∀ (value : Value) {text : List Char}, value.Spelled text →
    ∀ rest, Delimited rest → value.GrowsFrom text rest
  | .null, _, rfl, rest, _ =>
      Value.growsFrom_of_scalar .null
        (fun _ allGap => tokens_gap_append allGap (by decide) rfl (Nat.le_add_right _ 3)) ⟨_, rfl⟩
  | .boolean true, _, rfl, rest, _ =>
      Value.growsFrom_of_scalar (.boolean true)
        (fun _ allGap => tokens_gap_append allGap (by decide) rfl (Nat.le_add_right _ 3)) ⟨_, rfl⟩
  | .boolean false, _, rfl, rest, _ =>
      Value.growsFrom_of_scalar (.boolean false)
        (fun _ allGap => tokens_gap_append allGap (by decide) rfl (Nat.le_add_right _ 4)) ⟨_, rfl⟩
  | .integer _, _, spelled, _, delimited =>
      Value.growsFrom_number spelled delimited fun start read => ⟨start, rfl, read⟩
  | .double _, _, spelled, _, delimited =>
      Value.growsFrom_number spelled delimited fun start read => ⟨start, rfl, read⟩
  | .text _, _, quoted, rest, _ => Value.text_growsFrom quoted rest
  | .list items, _, ⟨_, spelled, rfl⟩, rest, _ =>
      Value.list_growsFrom (fun none => by subst none; exact spelled)
        (fun notEmpty => items_growFrom items spelled notEmpty rest)
        (fun notEmpty => closeList_items notEmpty spelled _)
  | .object members, _, ⟨_, spelled, rfl⟩, rest, _ =>
      Value.object_growsFrom (fun none => by subst none; exact spelled)
        (fun notEmpty => members_growFrom members spelled notEmpty rest)

theorem items_growFrom : ∀ (items : List Value) {inner : List Char}, SpelledItems items inner →
    items ≠ [] → ∀ rest, ItemsGrowFrom items (inner ++ ']' :: rest) rest
  | [], _, _, notEmpty, _ => absurd rfl notEmpty
  | [last], _, ⟨before, body, after, beforeGap, spelled, afterGap, rfl⟩, _, rest => by
      have delimited : Delimited (after ++ ']' :: rest) :=
        delimited_gap_append afterGap
          (delimited_cons rest (by decide) (by decide) (by decide) (by decide))
      rw [List.append_assoc, List.append_assoc]
      exact itemsGrowFrom_cons beforeGap (last.growsFrom spelled _ delimited)
        (itemsClose_nil afterGap rest)
  | head :: next :: tail, _,
      ⟨_, others, ⟨before, body, after, beforeGap, spelled, afterGap, rfl⟩, more, rfl⟩, _,
      rest => by
      have delimited : Delimited (after ++ ',' :: (others ++ ']' :: rest)) :=
        delimited_gap_append afterGap
          (delimited_cons _ (by decide) (by decide) (by decide) (by decide))
      have tailGrows := items_growFrom (next :: tail) more (List.cons_ne_nil next tail) rest
      rw [List.append_assoc, List.append_assoc, List.append_assoc, List.cons_append]
      exact itemsGrowFrom_cons beforeGap (head.growsFrom spelled _ delimited)
        (itemsClose_of_growFrom afterGap tailGrows)

theorem members_growFrom : ∀ (members : List (String × Value)) {inner : List Char},
    SpelledMembers members inner → members ≠ [] → ∀ rest,
      MembersGrowFrom members (inner ++ '\x7d' :: rest) rest
  | [], _, _, notEmpty, _ => absurd rfl notEmpty
  | [(_, last)], _,
      ⟨_, _, key, ⟨before, body, after, beforeGap, spelled, afterGap, rfl⟩, rfl⟩, _, rest => by
      have delimited : Delimited (after ++ '\x7d' :: rest) :=
        delimited_gap_append afterGap
          (delimited_cons rest (by decide) (by decide) (by decide) (by decide))
      rw [List.append_assoc, List.cons_append, List.append_assoc, List.append_assoc]
      exact membersGrowFrom_cons key beforeGap (last.growsFrom spelled _ delimited)
        (membersClose_nil afterGap rest)
  | (_, head) :: next :: tail, _,
      ⟨_, _, others, key, ⟨before, body, after, beforeGap, spelled, afterGap, rfl⟩, more, rfl⟩, _,
      rest => by
      have delimited : Delimited (after ++ ',' :: (others ++ '\x7d' :: rest)) :=
        delimited_gap_append afterGap
          (delimited_cons _ (by decide) (by decide) (by decide) (by decide))
      have tailGrows := members_growFrom (next :: tail) more (List.cons_ne_nil next tail) rest
      rw [List.append_assoc, List.cons_append, List.append_assoc, List.append_assoc,
        List.append_assoc, List.cons_append]
      exact membersGrowFrom_cons key beforeGap (head.growsFrom spelled _ delimited)
        (membersClose_of_growFrom afterGap tailGrows)

end

/-- The tree of a document shows the value of the document, in front of a gap. -/
theorem Value.shown_ofText {value : Value} {text : List Char}
    (padded : Padded value.Spelled text) :
    ∃ gap, IsGap gap ∧ value.Shown gap (Node.ofText text) := by
  obtain ⟨before, body, after, beforeGap, spelled, afterGap, rfl⟩ := padded
  have delimited : Delimited after := by
    rw [← List.append_nil after]
    exact delimited_gap_append afterGap delimited_nil
  obtain ⟨node, token, later, shown, -, cut, grows⟩ := value.growsFrom spelled after delimited
  refine ⟨after, afterGap, ?_⟩
  rw [Node.ofText, List.append_assoc, cut before beforeGap, grow_cons, step, grows]
  exact shown

/-- What is read from a document is what is read from its tree. -/
theorem readDocument_eq_ok_iff {α : Type} {read : Node → Except Fault α} {value : Value}
    {text : String} (padded : Padded value.Spelled text.toList) (result : α) :
    readDocument read text = .ok result ↔ read (Node.ofText text.toList) = .ok result := by
  obtain ⟨gap, allGap, shown⟩ := value.shown_ofText padded
  have ended : skipGap (Node.ofText text.toList).after = [] := by
    rw [shown.after_eq, ← List.append_nil gap, skipGap_append allGap]
    rfl
  rw [readDocument, readWhole, Attempt.mapError_eq_ok_iff]
  simp only [ended]
  cases read (Node.ofText text.toList) with
  | error fault => simp [bind, Except.bind]
  | ok other => simp [bind, Except.bind, pure, Except.pure]

end ComplianceEvidence.Json
