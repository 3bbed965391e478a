import ComplianceEvidence.Yaml.Token

/-!
Contract: the tags and directives of a YAML text, read behind their first character.

Owns: handles, tag names with escaped octets, and the two directives. An escaped octet stands for
the character with its number, which tells tags apart as well as the text it is part of would. What
stands in a name from an escaped zero octet on does not count.
-/

set_option autoImplicit false

namespace ComplianceEvidence.Yaml

/-- The punctuation of tag names; some of it stands only between angle brackets. -/
def isNamePunctuation (isVerbatim : Bool) (character : Char) : Bool :=
  [';', '/', '?', ':', '@', '&', '=', '+', '$', '.', '!', '~', '*', '\x27', '(', ')'].contains
      character ||
    (isVerbatim && [',', '[', ']'].contains character)

def hexNibble? (character : Char) : Option Nat :=
  if character.isDigit then some (character.toNat - '0'.toNat)
  else if 'a' ≤ character && character ≤ 'f' then some (character.toNat - 'a'.toNat + 10)
  else if 'A' ≤ character && character ≤ 'F' then some (character.toNat - 'A'.toNat + 10)
  else none

/-- The number of octets in the character that an octet begins. -/
def octetCount? (octet : Nat) : Option Nat :=
  if octet < 0x80 then some 1
  else if octet / 0x20 = 6 then some 2
  else if octet / 0x10 = 14 then some 3
  else if octet / 8 = 30 then some 4
  else none

/-- Reads the name of a tag; `missing` octets of an escaped character are to come. -/
def readTagName (isVerbatim : Bool) (mark : Mark) (reversed : List Char) (missing : Nat) :
    List Char → Option (List Char × Cursor)
  | '%' :: high :: low :: tail => do
      let upper ← hexNibble? high
      let lower ← hexNibble? low
      let octet := upper * 16 + lower
      let next := ((mark.next '%').next high).next low
      if missing = 0 then
        let count ← octetCount? octet
        readTagName isVerbatim next (Char.ofNat octet :: reversed) (count - 1) tail
      else if octet / 0x40 = 2 then
        readTagName isVerbatim next (Char.ofNat octet :: reversed) (missing - 1) tail
      else none
  | head :: tail =>
      if missing ≠ 0 || head = '%' then none
      else if isWordCharacter head || isNamePunctuation isVerbatim head then
        readTagName isVerbatim (mark.next head) (head :: reversed) 0 tail
      else some (reversed.reverse, ⟨head :: tail, mark⟩)
  | [] => if missing ≠ 0 then none else some (reversed.reverse, ⟨[], mark⟩)

/-- The part of a name that counts. -/
def beforeZero (name : List Char) : List Char :=
  name.takeWhile fun character => character ≠ '\x00'

/-- Reads the name of a tag, of which something must be written. -/
def readNonemptyTagName (isVerbatim : Bool) (cursor : Cursor) :
    Option (List Char × Cursor) := do
  let (name, after) ← readTagName isVerbatim cursor.mark [] 0 cursor.rest
  if name.isEmpty then none else some (beforeZero name, after)

/-- An exclamation mark, letters, and a second exclamation mark if there is one. -/
def readHandle (cursor : Cursor) : Option (List Char × Cursor) :=
  match cursor.rest with
  | '!' :: _ =>
      let (letters, afterLetters) := cursor.skip.takeWhile isWordCharacter
      match afterLetters.rest with
      | '!' :: _ => some ('!' :: letters ++ ['!'], afterLetters.skip)
      | _ => some ('!' :: letters, afterLetters)
  | _ => none

/-- A handle that ends in an exclamation mark of its own. -/
def isClosedHandle (handle : List Char) : Bool :=
  1 < handle.length && handle.getLast? = some '!'

/-- What must follow a tag. -/
def endsTag (inFlow : Bool) (text : List Char) : Bool :=
  match text with
  | ',' :: _ => inFlow
  | _ => atGap text

/-- Reads a tag from its exclamation mark: its handle, which is empty for a tag in angle brackets
and for the tag `!`, and the rest of it. -/
def readTag (inFlow : Bool) (cursor : Cursor) : Option (List Char × List Char × Cursor) := do
  let (handle, suffix, after) ←
    match cursor.rest with
    | '!' :: '<' :: _ => do
        let (name, afterName) ← readNonemptyTagName true cursor.skip.skip
        match afterName.rest with
        | '>' :: _ => some (([] : List Char), name, afterName.skip)
        | _ => none
    | _ => do
        let (handle, afterHandle) ← readHandle cursor
        if isClosedHandle handle then
          let (name, afterName) ← readNonemptyTagName false afterHandle
          some (handle, name, afterName)
        else
          let (written, afterName) ←
            readTagName false afterHandle.mark (handle.drop 1).reverse 0 afterHandle.rest
          let name := beforeZero written
          if name.isEmpty then some ([], ['!'], afterName) else some (['!'], name, afterName)
  if endsTag inFlow after.rest then some (handle, suffix, after) else none

/-- A number of at most nine digits. -/
def readVersionNumber (cursor : Cursor) : Option (Nat × Cursor) :=
  let (digits, after) := cursor.takeWhile Char.isDigit
  if digits.isEmpty || 9 < digits.length then none
  else some (digits.foldl (fun value digit => value * 10 + (digit.toNat - '0'.toNat)) 0, after)

/-- What stands behind the name of the directive for the version. -/
def readVersion (cursor : Cursor) : Option (Lexeme × Cursor) := do
  let (major, afterMajor) ← readVersionNumber (cursor.dropWhile isBlank)
  match afterMajor.rest with
  | '.' :: _ =>
      let (minor, afterMinor) ← readVersionNumber afterMajor.skip
      some (.versionDirective major minor, afterMinor)
  | _ => none

/-- What stands behind the name of the directive for a handle. -/
def readHandleMeaning (cursor : Cursor) : Option (Lexeme × Cursor) := do
  let (handle, afterHandle) ← readHandle (cursor.dropWhile isBlank)
  if !isClosedHandle handle && handle ≠ ['!'] then none
  else if !(afterHandle.rest.head?).any isBlank then none
  else
    let (meaning, afterMeaning) ← readNonemptyTagName true (afterHandle.dropWhile isBlank)
    if atGap afterMeaning.rest then some (.tagDirective handle meaning, afterMeaning) else none

/-- Reads a directive from its percent sign to the end of its line, which is `after`; the token
ends before that. -/
def readDirective (cursor : Cursor) : Option (Lexeme × Cursor) := do
  let (name, afterName) := cursor.skip.takeWhile isWordCharacter
  if name.isEmpty || !atGap afterName.rest then none
  else if name = ['Y', 'A', 'M', 'L'] then readVersion afterName
  else if name = ['T', 'A', 'G'] then readHandleMeaning afterName
  else none

end ComplianceEvidence.Yaml
