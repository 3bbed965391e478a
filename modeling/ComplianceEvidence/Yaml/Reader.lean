import ComplianceEvidence.Yaml.Fault

/-!
Contract: values read from the tree of a YAML document.

Owns: readers for texts, octets, optional values and lists, and the rule that a text is one
document.

A reader is told the path to its node, and counts the aliases that were followed. There may be a
hundred times as many as the document has events, which ends the unfolding of nested aliases.
-/

set_option autoImplicit false

namespace ComplianceEvidence.Yaml

/-- A reader's result for one document, with the number of aliases followed before and after. -/
def Reading (α : Type) : Type := Document → Nat → Except Fault (α × Nat)

namespace Reading

variable {α β : Type}

def pure (value : α) : Reading α := fun _ followed => .ok (value, followed)

def fail (fault : Fault) : Reading α := fun _ _ => .error fault

def bind (reading : Reading α) (next : α → Reading β) : Reading β := fun document followed =>
  match reading document followed with
  | .error fault => .error fault
  | .ok (value, after) => next value document after

instance : Monad Reading where
  pure := pure
  bind := bind

/-- Gives a fault without a place this one. -/
def locate (path : Path) (mark : Mark) (reading : Reading α) : Reading α := fun document followed =>
  (reading document followed).mapError (Fault.located ⟨path, mark⟩)

end Reading

abbrev Reader (α : Type) := Path → Node → Reading α

/-- The number of aliases that may be followed for each event. -/
def aliasesPerEvent : Nat := 100

/-- Reads the node itself or the one that it is an alias of. -/
def following {α : Type} (read : Node → Reading α) : Node → Reading α
  | .alias _ anchor => fun document followed =>
      if document.eventCount * aliasesPerEvent < followed + 1 then .error .tooManyAliases
      else read (document.target anchor) document (followed + 1)
  | node => read node

/-! ## Values of the wrong form -/

def scalarCause (expected content : String) (style : Style) (tag : Option String) : Cause :=
  match tag, tag.bind Demand.ofTag? with
  | _, some demand =>
      match demand.found? content with
      | some found => .wrongType found expected
      | none => .wrongValue (.text content) demand.description
  | some name, none =>
      if name.toList.head? = some '!' && style = .plain then
        .wrongType (Found.ofPlain content) expected
      else .wrongType (.text content) expected
  | none, none =>
      if style = .plain then .wrongType (Found.ofPlain content) expected
      else .wrongType (.text content) expected

def Node.wrongType (expected : String) (path : Path) : Node → Fault
  | .void mark => .unfit (.wrongType .null expected) (some ⟨path, mark⟩)
  | .scalar mark content style tag =>
      .unfit (scalarCause expected content style tag) (some ⟨path, mark⟩)
  | .sequence mark _ _ => .unfit (.wrongType .sequence expected) (some ⟨path, mark⟩)
  | .mapping mark _ _ => .unfit (.wrongType .mapping expected) (some ⟨path, mark⟩)
  | .alias _ _ => .broken
  | .broken => .broken

/-- A scalar with neither content nor quotes, which stands for a collection without parts. -/
def isEmptyScalar (content : String) (style : Style) : Bool :=
  content.isEmpty && style = .plain

/-! ## Readers -/

/-- The content of a scalar, whatever it looks like. -/
def readTextAs (expected : String) : Reader String := fun path =>
  following fun node =>
    match node with
    | .scalar _ content _ _ => .pure content
    | other => .fail (other.wrongType expected path)

def readText : Reader String := readTextAs "a string"

def readPath : Reader String := readTextAs "path string"

/-- A scalar whose digits are a number of one octet. -/
def readOctet : Reader UInt8 := fun path =>
  following fun node =>
    match node with
    | .scalar mark content style tag =>
        let isNumber :=
          style = .plain || (style = .literal && tag.bind Demand.ofTag? = some .integer)
        match if isNumber then (natural? content.toList).filter fun value => value < Number.wordLimit
            else none with
        | some value =>
            if value < 256 then .pure (UInt8.ofNat value)
            else .fail (.unfit (.wrongValue (.integer value) "u8") (some ⟨path, mark⟩))
        | none => .fail (node.wrongType "u8" path)
    | other => .fail (other.wrongType "u8" path)

/-- A plain scalar may say that there is no value. -/
def isAbsent (content : String) : Option String → Except Cause Bool
  | none => .ok (content.isEmpty || isNullText content)
  | some tag =>
      if Demand.ofTag? tag = some .null then
        if isNullText content then .ok true
        else .error (.wrongValue (.text content) Demand.null.description)
      else .ok false

def readOptional {α : Type} (read : Reader α) : Reader (Option α) := fun path =>
  following fun node =>
    match node with
    | .void _ => .pure none
    | .scalar _ content .plain tag =>
        match isAbsent content tag with
        | .error cause => .fail (.unfit cause none)
        | .ok true => .pure none
        | .ok false => some <$> read path node
    | .broken => .fail .broken
    | other => some <$> read path other

/-- The items of a sequence, the first of which has a given index. -/
def readItems {α : Type} (read : Reader α) (path : Path) (isClosed : Bool) :
    Nat → List Node → Reading (List α)
  | _, [] => if isClosed then .pure [] else .fail .broken
  | index, head :: tail => do
      let value ← read (.item index :: path) head
      let values ← readItems read path isClosed (index + 1) tail
      return value :: values

def readList {α : Type} (read : Reader α) : Reader (List α) := fun path =>
  following fun node =>
    match node with
    | .sequence mark items isClosed => (readItems read path isClosed 0 items).locate path mark
    | .void _ => .pure []
    | .scalar _ content style _ =>
        if isEmptyScalar content style then .pure []
        else .fail (node.wrongType "a sequence" path)
    | other => .fail (other.wrongType "a sequence" path)

/-! ## Documents -/

def readDocument {α : Type} (read : Reader α) (text : String) : Except Fault α :=
  let document := Document.ofText text
  match read [] document.root document 0 with
  | .error fault => .error fault
  | .ok (value, _) =>
      match document.ending with
      | .nothing => .ok value
      | .anotherDocument => .error .severalDocuments
      | .broken => .error .broken

end ComplianceEvidence.Yaml
