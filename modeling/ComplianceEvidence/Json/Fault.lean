import ComplianceEvidence.Number.Layout
import ComplianceEvidence.Text.Quoted

/-!
Contract: why and where a JSON text cannot be read.

Owns: the causes with their wording, and the line and column of a place in a text.

A place is the text that remains there, less a few bytes that were looked at; columns count bytes.
-/

set_option autoImplicit false

namespace ComplianceEvidence.Json

/-- The kind of value that stands where another one is expected. -/
inductive Found where
  | null
  | boolean (value : Bool)
  | integer (value : Int)
  | double (value : Binary64)
  | text (value : String)
  | list
  | object
deriving DecidableEq, Repr

def Found.description : Found → String
  | .null => "null"
  | .boolean value => "boolean `" ++ (if value then "true" else "false") ++ "`"
  | .integer value => "integer `" ++ Number.wholeText value ++ "`"
  | .double value => "floating point `" ++ Number.doubleText Number.compact value ++ "`"
  | .text value => "string " ++ Text.quoted value
  | .list => "sequence"
  | .object => "map"

inductive Cause where
  | endInList
  | endInObject
  | endInText
  | endInValue
  | expectedColon
  | expectedItemOrEnd
  | expectedMemberOrEnd
  | expectedWord
  | expectedValue
  | badEscape
  | badNumber
  | numberTooLarge
  | controlCharacter
  | keyIsNoText
  | loneSurrogate
  | surrogateCutShort
  | trailingComma
  | trailingCharacters
  | nestedTooDeeply
  | wrongType (found : Found) (expected : String)
  | wrongValue (found : Found) (expected : String)
  | wrongCount (count : Nat) (expected : String)
  | missingField (name : String)
  | duplicateField (name : String)
  | unknownVariant (name : String) (known : List String)
  | rejected (reason : String)
deriving DecidableEq, Repr

def Cause.message : Cause → String
  | .endInList => "EOF while parsing a list"
  | .endInObject => "EOF while parsing an object"
  | .endInText => "EOF while parsing a string"
  | .endInValue => "EOF while parsing a value"
  | .expectedColon => "expected `:`"
  | .expectedItemOrEnd => "expected `,` or `]`"
  | .expectedMemberOrEnd => "expected `,` or `\x7d`"
  | .expectedWord => "expected ident"
  | .expectedValue => "expected value"
  | .badEscape => "invalid escape"
  | .badNumber => "invalid number"
  | .numberTooLarge => "number out of range"
  | .controlCharacter =>
      "control character (\\u0000-\\u001F) found while parsing a string"
  | .keyIsNoText => "key must be a string"
  | .loneSurrogate => "lone leading surrogate in hex escape"
  | .surrogateCutShort => "unexpected end of hex escape"
  | .trailingComma => "trailing comma"
  | .trailingCharacters => "trailing characters"
  | .nestedTooDeeply => "recursion limit exceeded"
  | .wrongType found expected => "invalid type: " ++ found.description ++ ", expected " ++ expected
  | .wrongValue found expected =>
      "invalid value: " ++ found.description ++ ", expected " ++ expected
  | .wrongCount count expected =>
      "invalid length " ++ Number.naturalText count ++ ", expected " ++ expected
  | .missingField name => "missing field `" ++ name ++ "`"
  | .duplicateField name => "duplicate field `" ++ name ++ "`"
  | .unknownVariant name known =>
      "unknown variant `" ++ name ++ "`, expected one of " ++
        ", ".intercalate (known.map fun variant => "`" ++ variant ++ "`")
  | .rejected reason => reason

/-- A place in a text: what remains there, and how many bytes of that were looked at. -/
structure Place where
  rest : List Char
  lookedAt : Nat
deriving DecidableEq, Repr

def before (rest : List Char) : Place := ⟨rest, 0⟩

def behindFirst (rest : List Char) : Place := ⟨rest, 1⟩

structure Fault where
  cause : Cause
  place : Place
deriving DecidableEq, Repr

/-- A line, counted from one, and the number of bytes read on it. -/
structure Position where
  line : Nat
  column : Nat
deriving DecidableEq, Repr

namespace Position

def start : Position := ⟨1, 0⟩

def advance (position : Position) (character : Char) : Position :=
  if character = '\n' then ⟨position.line + 1, 0⟩
  else ⟨position.line, position.column + character.utf8Size⟩

/-- The position some bytes further, which may end inside a character. -/
def advanceBytes (position : Position) : Nat → List Char → Position
  | _, [] => position
  | bytes, head :: tail =>
      if bytes = 0 then position
      else if head.utf8Size ≤ bytes then
        advanceBytes (position.advance head) (bytes - head.utf8Size) tail
      else ⟨position.line, position.column + bytes⟩

/-- Where a place lies in the text that it is a place of. -/
def of (text : List Char) (place : Place) : Position :=
  let consumed := text.take (text.length - place.rest.length)
  (consumed.foldl advance start).advanceBytes place.lookedAt place.rest

end Position

structure Complaint where
  cause : Cause
  position : Position
deriving DecidableEq, Repr

def Complaint.message (complaint : Complaint) : String :=
  complaint.cause.message ++ " at line " ++ Number.naturalText complaint.position.line ++
    " column " ++ Number.naturalText complaint.position.column

def Fault.locate (text : List Char) (fault : Fault) : Complaint :=
  ⟨fault.cause, Position.of text fault.place⟩

end ComplianceEvidence.Json
