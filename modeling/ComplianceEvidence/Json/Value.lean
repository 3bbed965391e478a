import ComplianceEvidence.Number.Layout

/-!
Contract: JSON values and their compact text.

Owns: the value type, the writer without blanks, and the escapes inside a written text.

An object keeps its members in the order given. The writer puts no character below U+0020 into its
output.
-/

set_option autoImplicit false

namespace ComplianceEvidence.Json

/-- A whole number in the range of a signed or an unsigned word of 64 bits. -/
structure Integer where
  value : Int
  least_le : -(Number.signedLimit : Int) ≤ value
  lt_limit : value < (Number.wordLimit : Int)
deriving DecidableEq, Repr

def Integer.ofInt? (value : Int) : Option Integer :=
  if least : -(Number.signedLimit : Int) ≤ value then
    if limit : value < (Number.wordLimit : Int) then some ⟨value, least, limit⟩ else none
  else none

inductive Value where
  | null
  | boolean (value : Bool)
  | integer (value : Integer)
  | double (value : Binary64)
  | text (value : String)
  | list (items : List Value)
  | object (members : List (String × Value))
deriving Repr

instance : Inhabited Value := ⟨.null⟩

/-! ## Written text -/

def hexDigit (value : Nat) : Char :=
  Nat.digitChar value

/-- How one character stands between the quotes. -/
def escaped (character : Char) : List Char :=
  if character = '"' then ['\\', '"']
  else if character = '\\' then ['\\', '\\']
  else if character = '\n' then ['\\', 'n']
  else if character = '\r' then ['\\', 'r']
  else if character = '\t' then ['\\', 't']
  else if character.toNat = 0x08 then ['\\', 'b']
  else if character.toNat = 0x0C then ['\\', 'f']
  else if character.toNat < 0x20 then
    ['\\', 'u', '0', '0', hexDigit (character.toNat / 16), hexDigit (character.toNat % 16)]
  else [character]

def textChars (text : String) : List Char :=
  '"' :: text.toList.flatMap escaped ++ ['"']

mutual

def Value.chars : Value → List Char
  | .null => ['n', 'u', 'l', 'l']
  | .boolean true => ['t', 'r', 'u', 'e']
  | .boolean false => ['f', 'a', 'l', 's', 'e']
  | .integer value => (Number.wholeText value.value).toList
  | .double value => (Number.doubleText Number.compact value).toList
  | .text value => textChars value
  | .list items => '[' :: itemChars items
  | .object members => '\x7b' :: memberChars members

/-- The items of a list and its closing bracket. -/
def itemChars : List Value → List Char
  | [] => [']']
  | [last] => last.chars ++ [']']
  | head :: tail => head.chars ++ ',' :: itemChars tail

/-- The members of an object and its closing brace. -/
def memberChars : List (String × Value) → List Char
  | [] => ['\x7d']
  | [(key, last)] => textChars key ++ ':' :: (last.chars ++ ['\x7d'])
  | (key, head) :: tail => textChars key ++ ':' :: (head.chars ++ ',' :: memberChars tail)

end

def Value.render (value : Value) : String :=
  String.ofList value.chars

/-! ## Objects with optional members -/

/-- A member that is left out when there is no value for it. -/
def optionalMember {α : Type} (key : String) (toJson : α → Value) :
    Option α → List (String × Value)
  | none => []
  | some value => [(key, toJson value)]

def optionalText (key : String) (value : Option String) : List (String × Value) :=
  optionalMember key .text value

def texts (values : List String) : Value :=
  .list (values.map .text)

def natural (value : Nat) : Value :=
  match Integer.ofInt? value with
  | some integer => .integer integer
  | none => .double (Binary64.ofNat value)

end ComplianceEvidence.Json
