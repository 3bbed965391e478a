import ComplianceEvidence.Yaml.Source

/-!
Contract: the tokens of a YAML text.

Owns: the token type and the styles of a scalar.
-/

set_option autoImplicit false

namespace ComplianceEvidence.Yaml

inductive Style where
  | plain
  | singleQuoted
  | doubleQuoted
  | literal
  | folded
deriving DecidableEq, Repr

inductive Lexeme where
  | streamStart
  | streamEnd
  | versionDirective (major minor : Nat)
  | tagDirective (handle meaning : List Char)
  | documentStart
  | documentEnd
  | blockSequenceStart
  | blockMappingStart
  | blockEnd
  | flowSequenceStart
  | flowSequenceEnd
  | flowMappingStart
  | flowMappingEnd
  | blockEntry
  | flowEntry
  | key
  | value
  | alias (name : List Char)
  | anchor (name : List Char)
  | tag (handle suffix : List Char)
  | scalar (content : List Char) (style : Style)
deriving DecidableEq, Repr

/-- A token with the places before and behind it. -/
structure Token where
  lexeme : Lexeme
  start : Mark
  stop : Mark
deriving DecidableEq, Repr

end ComplianceEvidence.Yaml
