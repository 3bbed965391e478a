import ComplianceEvidence.Yaml.Meaning

/-!
Contract: why a YAML text is not the value that was asked for.

Owns: the causes with their wording, and the place of a cause: the path from the root of the
document and the mark of the node there.

What breaks the rules of the language itself is told by one and the same words.
-/

set_option autoImplicit false

namespace ComplianceEvidence.Yaml

inductive Cause where
  | wrongType (found : Found) (expected : String)
  | wrongValue (found : Found) (expected : String)
  | missingField (name : String)
  | duplicateField (name : String)
deriving DecidableEq, Repr

def Cause.message : Cause → String
  | .wrongType found expected => "invalid type: " ++ found.description ++ ", expected " ++ expected
  | .wrongValue found expected =>
      "invalid value: " ++ found.description ++ ", expected " ++ expected
  | .missingField name => "missing field `" ++ name ++ "`"
  | .duplicateField name => "duplicate field `" ++ name ++ "`"

/-! ## Paths -/

inductive Segment where
  | item (index : Nat)
  | member (key : String)
  /-- The value of a key that is no scalar. -/
  | unnamed
deriving DecidableEq, Repr

/-- The way from the root to a node, the last segment first. -/
abbrev Path := List Segment

/-- The point between a path and a name; there is none behind the root. -/
def separator (path : Path) : String :=
  if path.isEmpty then "" else "."

def Path.text : Path → String
  | [] => ""
  | .item index :: outer => Path.text outer ++ "[" ++ Number.naturalText index ++ "]"
  | .member key :: outer => Path.text outer ++ separator outer ++ key
  | .unnamed :: outer => Path.text outer ++ separator outer ++ "?"

structure Place where
  path : Path
  mark : Mark
deriving DecidableEq, Repr

/-- A mark as line and column, counted from one; the start of a text is not told. -/
def markText (mark : Mark) : String :=
  if mark.line = 0 && mark.column = 0 then ""
  else
    " at line " ++ Number.naturalText (mark.line + 1) ++ " column " ++
      Number.naturalText (mark.column + 1)

def pathText (path : Path) : String :=
  if path.isEmpty then "" else path.text ++ ": "

/-! ## Faults -/

inductive Fault where
  /-- The text breaks the rules of the language, or an alias has no anchor. -/
  | broken
  | severalDocuments
  /-- Aliases were followed too often for the size of the document. -/
  | tooManyAliases
  | unfit (cause : Cause) (place : Option Place)
deriving DecidableEq, Repr

namespace Fault

def message : Fault → String
  | broken => "<yaml syntax error>"
  | severalDocuments =>
      "deserializing from YAML containing more than one document is not supported"
  | tooManyAliases => "repetition limit exceeded"
  | unfit cause none => cause.message
  | unfit cause (some place) => pathText place.path ++ cause.message ++ markText place.mark

/-- The fault at a place, unless it has a place already. -/
def located (place : Place) : Fault → Fault
  | unfit cause none => unfit cause (some place)
  | fault => fault

end Fault

end ComplianceEvidence.Yaml
