/-!
Contract: text with the controls of a terminal in it, and what is left of it elsewhere.

Owns: the marks that style a text, and the reading of control sequences. A sequence begins with an
escape character and hides what belongs to it up to its end; a cancelling character ends any
sequence.

A line break, a tab, a form feed or a carriage return inside a short sequence acts at once. The
text behind it is shown, and the sequence goes on at the next control character.
-/

set_option autoImplicit false

namespace ComplianceEvidence.Text.Terminal

/-! ## Styles -/

inductive Style where
  | plain
  | strong
  | heading
deriving DecidableEq, Repr

namespace Style

def opening : Style → String
  | plain => ""
  | strong => "\x1b[1m"
  | heading => "\x1b[1m\x1b[4m"

def closing : Style → String
  | plain => ""
  | _ => "\x1b[0m"

end Style

structure Span where
  style : Style
  text : String
deriving DecidableEq, Repr

def plain (text : String) : List Span := [⟨.plain, text⟩]

def strong (text : String) : List Span := [⟨.strong, text⟩]

def heading (text : String) : List Span := [⟨.heading, text⟩]

def width (spans : List Span) : Nat :=
  spans.foldl (fun total span => total + span.text.length) 0

def marked (spans : List Span) : String :=
  String.join <| spans.map fun span =>
    span.style.opening ++ span.text ++ span.style.closing

/-! ## Characters -/

def isBetween (first last : Nat) (character : Char) : Bool :=
  first ≤ character.toNat && character.toNat ≤ last

/-- The controls that only move the place of writing; the vertical tab is none of them. -/
def isMove (character : Char) : Bool :=
  character = '\t' || character = '\n' || character = '\x0c' || character = '\r'

/-- The characters that text is made of: the moves, and all but the other controls of ASCII. -/
def isShown (character : Char) : Bool :=
  isMove character || (0x20 ≤ character.toNat && character.toNat ≠ 0x7F)

def isEscape (character : Char) : Bool := character = '\x1b'

def isCancel (character : Char) : Bool := character = '\x18' || character = '\x1a'

/-- The byte 9C ends a string, also as a part of a longer character. -/
def hasTerminator (character : Char) : Bool :=
  (String.utf8EncodeChar character).contains 0x9C

/-! ## Control sequences -/

/-- What the next character belongs to. -/
inductive Place where
  | text
  | escape
  | designation
  | control
  | command
  | device
  | deviceParameters
  | deviceSelection
  | string
deriving DecidableEq, Repr

namespace Place

def afterEscape (character : Char) : Place :=
  if character = '[' then control
  else if character = ']' then command
  else if character = 'P' then device
  else if character = 'X' || character = '^' || character = '_' then string
  else if isBetween 0x20 0x2F character then designation
  else if isBetween 0x30 0x7E character then text
  else escape

/-- The place behind a character that neither escapes nor cancels. -/
def afterOther (place : Place) (character : Char) : Place :=
  match place with
  | text => text
  | escape => afterEscape character
  | designation => if isBetween 0x30 0x7E character then text else designation
  | control => if isBetween 0x40 0x7E character then text else control
  | command => if character = '\x07' then text else command
  | device =>
      if isBetween 0x20 0x2F character then deviceSelection
      else if character = ':' || isBetween 0x40 0x7E character then string
      else if isBetween 0x30 0x3F character then deviceParameters
      else device
  | deviceParameters =>
      if isBetween 0x20 0x2F character then deviceSelection
      else if character = ':' || isBetween 0x3C 0x7E character then string
      else deviceParameters
  | deviceSelection => if isBetween 0x30 0x7E character then string else deviceSelection
  | string => if hasTerminator character then text else string

def next (place : Place) (character : Char) : Place :=
  if isCancel character then text
  else if isEscape character then escape
  else place.afterOther character

/-- In the short sequences moves are shown, in strings they are part of the string. -/
def shows (place : Place) (character : Char) : Bool :=
  match place with
  | text => isShown character
  | escape | designation | control => isMove character
  | _ => false

end Place

/-! ## Reading -/

/-- A reader of text; behind a character that was shown it goes on showing. -/
structure Reader where
  place : Place := .text
  isShowing : Bool := false
deriving DecidableEq, Repr

namespace Reader

def shows (reader : Reader) (character : Char) : Bool :=
  (reader.isShowing && isShown character) || reader.place.shows character

/-- A character above ASCII that is shown ends the sequence around it. -/
def next (reader : Reader) (character : Char) : Reader :=
  if reader.isShowing && isShown character then
    if character.toNat < 0x80 then reader else ⟨.text, true⟩
  else ⟨reader.place.next character, reader.place.shows character⟩

def shown (reader : Reader) : List Char → List Char
  | [] => []
  | head :: tail =>
      if reader.shows head then head :: (reader.next head).shown tail
      else (reader.next head).shown tail

end Reader

/-- What a text shows where there is no terminal. -/
def shown (text : String) : String :=
  String.ofList (({} : Reader).shown text.toList)

end ComplianceEvidence.Text.Terminal
