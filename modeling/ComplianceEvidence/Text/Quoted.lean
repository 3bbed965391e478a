import ComplianceEvidence.Text.Unprintable

/-!
Contract: a text between double quotes, as diagnostics show it.

Owns: the escapes of a quoted text. A quote, a backslash and the usual controls have short
escapes; a character without a shape is written as `\u` with its number in braces.
-/

set_option autoImplicit false

namespace ComplianceEvidence.Text

def hexDigits (number : Nat) : List Char :=
  Nat.toDigits 16 number

/-- How one character stands in a quoted text. -/
def quotedCharacter (character : Char) : List Char :=
  if character = '"' then ['\\', '"']
  else if character = '\\' then ['\\', '\\']
  else if character = '\n' then ['\\', 'n']
  else if character = '\r' then ['\\', 'r']
  else if character = '\t' then ['\\', 't']
  else if character.toNat = 0 then ['\\', '0']
  else if isUnprintable character then
    ['\\', 'u', '\x7b'] ++ hexDigits character.toNat ++ ['\x7d']
  else [character]

def quoted (text : String) : String :=
  String.ofList ('"' :: text.toList.flatMap quotedCharacter ++ ['"'])

def quotedList (texts : List String) : String :=
  "[" ++ ", ".intercalate (texts.map quoted) ++ "]"

theorem quoted_toList (text : String) :
    (quoted text).toList = '"' :: text.toList.flatMap quotedCharacter ++ ['"'] := by
  simp [quoted]

end ComplianceEvidence.Text
