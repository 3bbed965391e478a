/-!
Contract: the characters of a YAML text and places among them.

Owns: the characters that may occur, the classes that the rules of the language speak of, marks of
places, and the cursor that walks over a text.

A text is checked in blocks before its tokens are looked for, so a character that may not occur
hides the whole block it stands in.
-/

set_option autoImplicit false

namespace ComplianceEvidence.Yaml

/-! ## Characters -/

def isAllowed (character : Char) : Bool :=
  let code := character.toNat
  code = 0x09 || code = 0x0A || code = 0x0D || (0x20 ≤ code && code ≤ 0x7E) || code = 0x85 ||
    (0xA0 ≤ code && code ≤ 0xFFFD) || 0x10000 ≤ code

def byteOrderMark : Char := '\ufeff'

def isBreak (character : Char) : Bool :=
  character = '\n' || character = '\r' || character = '\x85' || character = '\u2028' ||
    character = '\u2029'

def isBlank (character : Char) : Bool :=
  character = ' ' || character = '\t'

def isWordCharacter (character : Char) : Bool :=
  character.isAlphanum || character = '_' || character = '-'

/-- The text ends here or starts with a line break. -/
def atBreak : List Char → Bool
  | [] => true
  | head :: _ => isBreak head

/-- The text ends here or starts with a blank or a line break. -/
def atGap : List Char → Bool
  | [] => true
  | head :: _ => isBlank head || isBreak head

/-- Three dashes or three points that stand alone. -/
def isDocumentIndicator : List Char → Bool
  | '-' :: '-' :: '-' :: rest => atGap rest
  | '.' :: '.' :: '.' :: rest => atGap rest
  | _ => false

/-! ## Places -/

/-- A place: the number of bytes, of lines and of characters on its line before it. -/
structure Mark where
  index : Nat
  line : Nat
  column : Nat
deriving DecidableEq, Repr

namespace Mark

def start : Mark := ⟨0, 0, 0⟩

/-- Behind one more character of the line. -/
def next (mark : Mark) (character : Char) : Mark :=
  ⟨mark.index + character.utf8Size, mark.line, mark.column + 1⟩

/-- Behind a line break of some bytes. -/
def nextLine (mark : Mark) (bytes : Nat) : Mark :=
  ⟨mark.index + bytes, mark.line + 1, 0⟩

end Mark

/-- What remains of a text, and the place where it starts. -/
structure Cursor where
  rest : List Char
  mark : Mark
deriving DecidableEq, Repr

namespace Cursor

/-- Behind the first character, which is no line break. -/
def skip (cursor : Cursor) : Cursor :=
  match cursor.rest with
  | head :: tail => ⟨tail, cursor.mark.next head⟩
  | [] => cursor

def skipMany (count : Nat) (cursor : Cursor) : Cursor :=
  count.repeat skip cursor

/-- What a line break at the start of a text reads as, and the cursor behind it. -/
def takeBreak (cursor : Cursor) : List Char × Cursor :=
  match cursor.rest with
  | '\r' :: '\n' :: rest => (['\n'], ⟨rest, cursor.mark.nextLine 2⟩)
  | head :: rest =>
      if isBreak head then
        ([if head = '\u2028' || head = '\u2029' then head else '\n'],
          ⟨rest, cursor.mark.nextLine head.utf8Size⟩)
      else ([], cursor)
  | [] => ([], cursor)

/-- The characters of the line that satisfy a test, and the cursor behind them. -/
def takeWhile (test : Char → Bool) (cursor : Cursor) : List Char × Cursor :=
  let taken := cursor.rest.takeWhile test
  (taken, ⟨cursor.rest.drop taken.length, taken.foldl Mark.next cursor.mark⟩)

def dropWhile (test : Char → Bool) (cursor : Cursor) : Cursor :=
  (cursor.takeWhile test).2

end Cursor

/-! ## Blocks -/

def blockSize : Nat := 16384

/-- A text as far as it can be read, and whether a character that may not occur follows. -/
structure Source where
  text : List Char
  isCut : Bool
deriving DecidableEq, Repr

/-- Walks over a text in blocks. `kept` are the characters of earlier blocks and `block` those of
this one, the last first; `used` counts the bytes of this one. -/
def cutBlocks (kept block : List Char) (used : Nat) : List Char → Source
  | [] => ⟨(block ++ kept).reverse, false⟩
  | head :: tail =>
      if blockSize < used + head.utf8Size then
        if isAllowed head then cutBlocks (block ++ kept) [head] head.utf8Size tail
        else ⟨(block ++ kept).reverse, true⟩
      else if isAllowed head then cutBlocks kept (head :: block) (used + head.utf8Size) tail
      else ⟨kept.reverse, true⟩

/-- The characters of a text up to the first block that holds one that may not occur. -/
def Source.of (text : List Char) : Source :=
  cutBlocks [] [] 0 text

end ComplianceEvidence.Yaml
