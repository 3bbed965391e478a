import ComplianceEvidence.Json.Token

/-!
Contract: the tree of a JSON text, as far as the text can be read.

Owns: the tree type and the machine that grows it from tokens. Where the text breaks off or
breaks a rule, the tree holds the flaw in the place of the value or of the closing bracket, so a
reader that walks the tree in the order of the text meets its own complaint or the flaw, whichever
comes first.
-/

set_option autoImplicit false

namespace ComplianceEvidence.Json

/-- A key: its text from behind the opening quote, and what follows the closing one. -/
structure Key where
  body : List Char
  after : List Char
deriving DecidableEq, Repr

/-- How the items of a list or the members of an object end. -/
inductive Ending where
  | closed (after : List Char)
  | broken (flaw : Flaw)
deriving DecidableEq, Repr

/-- A value of a text. A malformed one starts like a value; behind `broken` there is none. -/
inductive Node where
  | scalar (start : List Char) (value : Scalar) (after : List Char)
  | list (start : List Char) (items : List Node) (ending : Ending)
  | object (start : List Char) (members : List (Key × Node)) (ending : Ending)
  | malformed (start : List Char) (flaw : Flaw)
  | broken (flaw : Flaw)
deriving Repr

/-- The text behind a value; none behind a value that has no end. -/
def Node.after : Node → List Char
  | .scalar _ _ after => after
  | .list _ _ (.closed after) => after
  | .object _ _ (.closed after) => after
  | _ => []

/-! ## Growing a tree -/

/-- A list or an object that waits for a value: what came before, the last first. -/
inductive Frame where
  | list (start : List Char) (items : List Node)
  | object (start : List Char) (members : List (Key × Node)) (key : Key)
deriving Repr

/-- What the next token may be. -/
inductive Stage where
  | value
  | firstItem (start : List Char)
  | item (start : List Char) (items : List Node)
  | afterItem (start : List Char) (items : List Node)
  | firstKey (start : List Char)
  | key (start : List Char) (members : List (Key × Node))
  | colon (start : List Char) (members : List (Key × Node)) (key : Key)
  | afterMember (start : List Char) (members : List (Key × Node))
deriving Repr

/-- Closes what waits for a value around a value that is broken off. -/
def collapse (flaw : Flaw) : Node → List Frame → Node
  | node, [] => node
  | node, .list start items :: frames =>
      collapse flaw (.list start (node :: items).reverse (.broken flaw)) frames
  | node, .object start members key :: frames =>
      collapse flaw (.object start ((key, node) :: members).reverse (.broken flaw)) frames

/-- The stage behind a complete value, or the complete tree. -/
def place (node : Node) : List Frame → Node ⊕ (Stage × List Frame)
  | [] => .inl node
  | .list start items :: frames => .inr (.afterItem start (node :: items), frames)
  | .object start members key :: frames =>
      .inr (.afterMember start ((key, node) :: members), frames)

/-- A token where a value must stand; `read` is what a reader of the value makes of a token that
starts none. -/
def startValue (token : Token) (read : Cause) (frames : List Frame) :
    Node ⊕ (Stage × List Frame) :=
  match token.lexeme with
  | .scalar value => place (.scalar token.start value token.after) frames
  | .openList => .inr (.firstItem token.start, frames)
  | .openObject => .inr (.firstKey token.start, frames)
  | .broken flaw => .inl (collapse flaw (.malformed token.start flaw) frames)
  | _ =>
      let flaw : Flaw :=
        ⟨⟨read, behindFirst token.start⟩, ⟨.expectedValue, behindFirst token.start⟩⟩
      .inl (collapse flaw (.broken flaw) frames)

def breakList (start : List Char) (items : List Node) (flaw : Flaw) (frames : List Frame) :
    Node ⊕ (Stage × List Frame) :=
  .inl (collapse flaw (.list start items.reverse (.broken flaw)) frames)

def breakObject (start : List Char) (members : List (Key × Node)) (flaw : Flaw)
    (frames : List Frame) : Node ⊕ (Stage × List Frame) :=
  .inl (collapse flaw (.object start members.reverse (.broken flaw)) frames)

def startKey (token : Token) (start : List Char) (members : List (Key × Node)) (read : Cause)
    (frames : List Frame) : Node ⊕ (Stage × List Frame) :=
  match token.lexeme with
  | .scalar (.text body) => .inr (.colon start members ⟨body, token.after⟩, frames)
  | lexeme =>
      let flaw : Flaw :=
        match lexeme, token.start with
        | .broken flaw, '"' :: _ => flaw
        | _, _ => ⟨⟨read, behindFirst token.start⟩, ⟨.keyIsNoText, behindFirst token.start⟩⟩
      breakObject start members flaw frames

def step (token : Token) : Stage → List Frame → Node ⊕ (Stage × List Frame)
  | .value, frames => startValue token .expectedValue frames
  | .firstItem start, frames =>
      if token.lexeme = .closeList then place (.list start [] (.closed token.after)) frames
      else startValue token .expectedValue (.list start [] :: frames)
  | .item start items, frames =>
      startValue token (if token.lexeme = .closeList then .trailingComma else .expectedValue)
        (.list start items :: frames)
  | .afterItem start items, frames =>
      if token.lexeme = .closeList then
        place (.list start items.reverse (.closed token.after)) frames
      else if token.lexeme = .comma then .inr (.item start items, frames)
      else
        breakList start items (.same .expectedItemOrEnd (behindFirst token.start)) frames
  | .firstKey start, frames =>
      if token.lexeme = .closeObject then place (.object start [] (.closed token.after)) frames
      else startKey token start [] .keyIsNoText frames
  | .key start members, frames =>
      startKey token start members
        (if token.lexeme = .closeObject then .trailingComma else .keyIsNoText) frames
  | .colon start members key, frames =>
      if token.lexeme = .colon then .inr (.value, .object start members key :: frames)
      else
        let flaw : Flaw := .same .expectedColon (behindFirst token.start)
        .inl (collapse flaw (.broken flaw) (.object start members key :: frames))
  | .afterMember start members, frames =>
      if token.lexeme = .closeObject then
        place (.object start members.reverse (.closed token.after)) frames
      else if token.lexeme = .comma then .inr (.key start members, frames)
      else
        breakObject start members (.same .expectedMemberOrEnd (behindFirst token.start)) frames

def breakOff : Stage → List Frame → Node
  | .value, frames =>
      let flaw : Flaw := .same .endInValue (before [])
      collapse flaw (.broken flaw) frames
  | .firstItem start, frames =>
      let flaw : Flaw := .same .endInList (before [])
      collapse flaw (.list start [] (.broken flaw)) frames
  | .item start items, frames =>
      let flaw : Flaw := .same .endInValue (before [])
      collapse flaw (.broken flaw) (.list start items :: frames)
  | .afterItem start items, frames =>
      let flaw : Flaw := .same .endInList (before [])
      collapse flaw (.list start items.reverse (.broken flaw)) frames
  | .firstKey start, frames =>
      let flaw : Flaw := .same .endInObject (before [])
      collapse flaw (.object start [] (.broken flaw)) frames
  | .key start members, frames =>
      let flaw : Flaw := ⟨⟨.endInValue, before []⟩, ⟨.endInObject, before []⟩⟩
      collapse flaw (.object start members.reverse (.broken flaw)) frames
  | .colon start members key, frames =>
      let flaw : Flaw := .same .endInObject (before [])
      collapse flaw (.broken flaw) (.object start members key :: frames)
  | .afterMember start members, frames =>
      let flaw : Flaw := .same .endInObject (before [])
      collapse flaw (.object start members.reverse (.broken flaw)) frames

/-- Grows a tree from a stage, token by token, until it is complete or broken off. -/
def grow : Stage → List Frame → List Token → Node
  | stage, frames, [] => breakOff stage frames
  | stage, frames, token :: rest =>
      match step token stage frames with
      | .inl node => node
      | .inr (next, waiting) => grow next waiting rest

def Node.ofText (text : List Char) : Node :=
  grow .value [] (tokens text)

end ComplianceEvidence.Json
