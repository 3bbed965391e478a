import ComplianceEvidence.Json.Node
import ComplianceEvidence.Ordered.Entries

/-!
Contract: values read from the tree of a JSON text.

Owns: readers for texts, lists of texts, optional values, values of any form and names of a closed
set; passing over a value; and the rule that a document is one value with gaps around it.

A reader takes the nesting that is left to it. Every list or object that is read, not passed over,
uses up one level.
-/

set_option autoImplicit false

namespace ComplianceEvidence.Json

def nestingLimit : Nat := 128

/-- One level deeper, or the fault at the bracket that goes too deep. -/
def descend (depth : Nat) (start : List Char) : Except Fault Nat :=
  if depth ≤ 1 then .error ⟨.nestedTooDeeply, behindFirst start⟩ else .ok (depth - 1)

/-! ## Values of the wrong form -/

def Scalar.wrongType (expected : String) (start after : List Char) : Scalar → Fault
  | .null => ⟨.wrongType .null expected, before after⟩
  | .boolean value => ⟨.wrongType (.boolean value) expected, before after⟩
  | .number =>
      match readNumber start with
      | .ok (numeral, _) => ⟨.wrongType numeral.found expected, before after⟩
      | .error fault => fault
  | .text body =>
      match readText body with
      | .ok (content, _) => ⟨.wrongType (.text (String.ofList content)) expected, before after⟩
      | .error fault => fault

def Node.wrongType (expected : String) : Node → Fault
  | .scalar start value after => value.wrongType expected start after
  | .list start _ _ => ⟨.wrongType .list expected, before start⟩
  | .object start _ _ => ⟨.wrongType .object expected, before start⟩
  | .malformed _ flaw => flaw.read
  | .broken flaw => flaw.read

def Token.wrongType (expected : String) (token : Token) : Fault :=
  match token.lexeme with
  | .scalar value => value.wrongType expected token.start token.after
  | .openList => ⟨.wrongType .list expected, before token.start⟩
  | .openObject => ⟨.wrongType .object expected, before token.start⟩
  | .broken flaw => flaw.read
  | _ => ⟨.expectedValue, behindFirst token.start⟩

/-! ## Readers -/

/-- A text on which a further rule is checked at its end. -/
def readTextAs {α : Type} (expected : String) (check : String → Except String α) :
    Node → Except Fault α
  | .scalar _ (.text body) after =>
      match readText body with
      | .error fault => .error fault
      | .ok (text, _) =>
          match check (String.ofList text) with
          | .ok value => .ok value
          | .error reason => .error ⟨.rejected reason, before after⟩
  | node => .error (node.wrongType expected)

def readString (node : Node) : Except Fault String :=
  readTextAs "a string" .ok node

def readOptional {α : Type} (read : Node → Except Fault α) : Node → Except Fault (Option α)
  | .scalar _ .null _ => .ok none
  | node => (read node).map some

/-- Every item of a list, and the closing bracket. -/
def readItems {α : Type} (read : Node → Except Fault α) :
    List Node → Ending → Except Fault (List α)
  | [], .closed _ => .ok []
  | [], .broken flaw => .error flaw.read
  | head :: tail, ending => do
      let value ← read head
      let values ← readItems read tail ending
      return value :: values

def readStrings (depth : Nat) : Node → Except Fault (List String)
  | .list start items ending => do
      let _ ← descend depth start
      readItems readString items ending
  | node => .error (node.wrongType "a sequence")

def Key.read (key : Key) : Except Fault String :=
  (readText key.body).map fun (text, _) => String.ofList text

mutual

/-- Checks the form of a value and asks for nothing else. -/
def Node.pass : Node → Except Fault Unit
  | .scalar _ _ _ => .ok ()
  | .list _ items ending => passItems items ending
  | .object _ members ending => passMembers members ending
  | .malformed _ flaw => .error flaw.passed
  | .broken flaw => .error flaw.passed

def passItems : List Node → Ending → Except Fault Unit
  | [], .closed _ => .ok ()
  | [], .broken flaw => .error flaw.passed
  | head :: tail, ending => do
      head.pass
      passItems tail ending

def passMembers : List (Key × Node) → Ending → Except Fault Unit
  | [], .closed _ => .ok ()
  | [], .broken flaw => .error flaw.passed
  | (_, head) :: tail, ending => do
      head.pass
      passMembers tail ending

end

mutual

/-- A value of any form. The members of an object are sorted by key, and the last of several
members with one key is kept. -/
def Node.readValue (depth : Nat) : Node → Except Fault Value
  | .scalar _ .null _ => .ok .null
  | .scalar _ (.boolean value) _ => .ok (.boolean value)
  | .scalar start .number _ => (readNumber start).map fun (numeral, _) => numeral.toValue
  | .scalar _ (.text body) _ => (readText body).map fun (text, _) => .text (String.ofList text)
  | .list start items ending => do
      let deeper ← descend depth start
      let values ← readValues deeper items ending
      return .list values
  | .object start members ending => do
      let deeper ← descend depth start
      let entries ← readEntries deeper [] members ending
      return .object entries
  | .malformed _ flaw => .error flaw.read
  | .broken flaw => .error flaw.read

def readValues (depth : Nat) : List Node → Ending → Except Fault (List Value)
  | [], .closed _ => .ok []
  | [], .broken flaw => .error flaw.read
  | head :: tail, ending => do
      let value ← head.readValue depth
      let values ← readValues depth tail ending
      return value :: values

def readEntries (depth : Nat) (entries : List (String × Value)) :
    List (Key × Node) → Ending → Except Fault (List (String × Value))
  | [], .closed _ => .ok entries
  | [], .broken flaw => .error flaw.read
  | (key, head) :: tail, ending => do
      let name ← key.read
      let value ← head.readValue depth
      readEntries depth (Ordered.insert name value entries) tail ending

end

/-! ## Names of a closed set -/

/-- The names of a closed set; `known` lists them for the complaint about any other. -/
structure Variants (α : Type) where
  known : List String
  named? : String → Option α

def Variants.ofName {α : Type} (variants : Variants α) (name : String) : Except Cause α :=
  match variants.named? name with
  | some value => .ok value
  | none => .error (.unknownVariant name variants.known)

def Variants.read {α : Type} (variants : Variants α) (body after : List Char) :
    Except Fault α :=
  match readText body with
  | .error fault => .error fault
  | .ok (text, _) =>
      (variants.ofName (String.ofList text)).mapError fun cause => ⟨cause, before after⟩

/-- The complaint about a text that should go on with a key. -/
def missingVariant (text : List Char) : Fault :=
  match skipGap text with
  | [] => ⟨.endInValue, before []⟩
  | head :: tail => (firstToken head tail).wrongType "variant identifier"

/-- The null behind a name, and the brace that must follow at once. -/
def closeVariant (node : Node) : Except Fault Unit :=
  match node with
  | .scalar _ .null after =>
      match skipGap after with
      | '\x7d' :: _ => .ok ()
      | [] => .error ⟨.endInObject, before []⟩
      | other => .error ⟨.expectedValue, before other⟩
  | _ => .error (node.wrongType "unit")

/-- A name of a closed set: its text, or an object with the name as its key and null behind it. -/
def readVariant {α : Type} (variants : Variants α) (depth : Nat) : Node → Except Fault α
  | .scalar start value after =>
      match value with
      | .text body => variants.read body after
      | _ => .error ⟨.expectedValue, behindFirst start⟩
  | .list start _ _ => .error ⟨.expectedValue, behindFirst start⟩
  | .object start members _ => do
      let _ ← descend depth start
      match members with
      | [] => .error (missingVariant (start.drop 1))
      | (key, node) :: _ =>
          let value ← variants.read key.body key.after
          closeVariant node
          return value
  | .malformed start flaw =>
      match start with
      | '"' :: _ => .error flaw.read
      | _ => .error ⟨.expectedValue, behindFirst start⟩
  | .broken flaw => .error flaw.read

/-- The kind of a value, for complaints about it. -/
def Value.found : Value → Found
  | .null => .null
  | .boolean value => .boolean value
  | .integer value => .integer value.value
  | .double value => .double value
  | .text value => .text value
  | .list _ => .list
  | .object _ => .object

/-- A name of a closed set in a value that has no place in a text any more. -/
def Variants.ofValue {α : Type} (variants : Variants α) : Value → Except Cause α
  | .text name => variants.ofName name
  | .object [(name, .null)] => variants.ofName name
  | .object [(name, other)] => do
      let _ ← variants.ofName name
      .error (.wrongType other.found "unit")
  | .object members => .error (.wrongValue (Value.object members).found "map with a single key")
  | other => .error (.wrongType other.found "string or map")

/-! ## Documents -/

/-- The value at the start of a text, with nothing but gaps behind it. -/
def readWhole {α : Type} (read : Node → Except Fault α) (text : List Char) :
    Except Fault α := do
  let node := Node.ofText text
  let value ← read node
  match skipGap node.after with
  | [] => return value
  | rest => .error ⟨.trailingCharacters, behindFirst rest⟩

/-- The value of a document, or the complaint about its first fault. -/
def readDocument {α : Type} (read : Node → Except Fault α) (text : String) :
    Except Complaint α :=
  (readWhole read text.toList).mapError (Fault.locate text.toList)

end ComplianceEvidence.Json
