import ComplianceEvidence.Json.Value
import ComplianceEvidence.Json.Fault

/-!
Contract: the quoted texts of a JSON text, read from behind the opening quote.

Owns: the text between the quotes with its escapes resolved, and the end of a quoted text whose
contents are not asked for. Only the former asks that surrogates come in pairs.
-/

set_option autoImplicit false

namespace ComplianceEvidence.Json

def hexValue? (character : Char) : Option Nat :=
  if '0' ≤ character && character ≤ '9' then some (character.toNat - '0'.toNat)
  else if 'a' ≤ character && character ≤ 'f' then some (character.toNat - 'a'.toNat + 10)
  else if 'A' ≤ character && character ≤ 'F' then some (character.toNat - 'A'.toNat + 10)
  else none

def hexQuad? (first second third fourth : Char) : Option Nat := do
  let high ← hexValue? first
  let upper ← hexValue? second
  let lower ← hexValue? third
  let low ← hexValue? fourth
  return high * 4096 + upper * 256 + lower * 16 + low

def isHighSurrogate (unit : Nat) : Bool :=
  0xD800 ≤ unit && unit ≤ 0xDBFF

def isLowSurrogate (unit : Nat) : Bool :=
  0xDC00 ≤ unit && unit ≤ 0xDFFF

def surrogatePair (high low : Nat) : Char :=
  Char.ofNat (0x10000 + (high - 0xD800) * 1024 + (low - 0xDC00))

/-- The character that a letter behind a backslash stands for. -/
def simpleEscape? : Char → Option Char
  | '"' => some '"'
  | '\\' => some '\\'
  | '/' => some '/'
  | 'b' => some '\x08'
  | 'f' => some '\x0C'
  | 'n' => some '\n'
  | 'r' => some '\r'
  | 't' => some '\t'
  | _ => none

def byteCount (text : List Char) : Nat :=
  text.foldl (fun count character => count + character.utf8Size) 0

/-- The fault of a numbered escape whose digits are missing or wrong. -/
def hexFault (digits : List Char) : Fault :=
  if byteCount digits < 4 then ⟨.endInText, before []⟩
  else ⟨.badEscape, ⟨digits, 4⟩⟩

def prepend (character : Char) (read : Except Fault (List Char × List Char)) :
    Except Fault (List Char × List Char) :=
  read.map fun (text, rest) => (character :: text, rest)

/-- The text up to the closing quote, and what follows that. -/
def readText : List Char → Except Fault (List Char × List Char)
  | [] => .error ⟨.endInText, before []⟩
  | '"' :: rest => .ok ([], rest)
  | '\\' :: [] => .error ⟨.endInText, before []⟩
  | '\\' :: 'u' :: first :: second :: third :: fourth :: rest =>
      match hexQuad? first second third fourth with
      | none => .error (hexFault (first :: second :: third :: fourth :: rest))
      | some unit =>
          if isLowSurrogate unit then .error ⟨.loneSurrogate, before rest⟩
          else if isHighSurrogate unit then
            match rest with
            | '\\' :: 'u' :: fifth :: sixth :: seventh :: eighth :: more =>
                match hexQuad? fifth sixth seventh eighth with
                | none => .error (hexFault (fifth :: sixth :: seventh :: eighth :: more))
                | some low =>
                    if isLowSurrogate low then prepend (surrogatePair unit low) (readText more)
                    else .error ⟨.loneSurrogate, before more⟩
            | '\\' :: 'u' :: digits => .error (hexFault digits)
            | [] => .error ⟨.endInText, before []⟩
            | ['\\'] => .error ⟨.endInText, before []⟩
            | '\\' :: more => .error ⟨.surrogateCutShort, behindFirst more⟩
            | _ => .error ⟨.surrogateCutShort, behindFirst rest⟩
          else prepend (Char.ofNat unit) (readText rest)
  | '\\' :: 'u' :: digits => .error (hexFault digits)
  | '\\' :: letter :: rest =>
      match simpleEscape? letter with
      | some character => prepend character (readText rest)
      | none => .error ⟨.badEscape, behindFirst (letter :: rest)⟩
  | character :: rest =>
      if character.toNat < 0x20 then
        .error ⟨.controlCharacter, behindFirst (character :: rest)⟩
      else prepend character (readText rest)

/-- What follows the closing quote, with escapes checked for their form only. -/
def skipText : List Char → Except Fault (List Char)
  | [] => .error ⟨.endInText, before []⟩
  | '"' :: rest => .ok rest
  | '\\' :: [] => .error ⟨.endInText, before []⟩
  | '\\' :: 'u' :: first :: second :: third :: fourth :: rest =>
      match hexQuad? first second third fourth with
      | none => .error (hexFault (first :: second :: third :: fourth :: rest))
      | some _ => skipText rest
  | '\\' :: 'u' :: digits => .error (hexFault digits)
  | '\\' :: letter :: rest =>
      match simpleEscape? letter with
      | some _ => skipText rest
      | none => .error ⟨.badEscape, behindFirst (letter :: rest)⟩
  | character :: rest =>
      if character.toNat < 0x20 then .error ⟨.controlCharacter, before (character :: rest)⟩
      else skipText rest

end ComplianceEvidence.Json
