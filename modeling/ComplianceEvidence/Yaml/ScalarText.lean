import ComplianceEvidence.Yaml.Token

/-!
Contract: the scalars of a YAML text, read from their first character.

Owns: plain, quoted and block scalars with line folding, escapes and indentation. Reading fails
where the rules of the language are broken; what exactly is wrong is not told.
-/

set_option autoImplicit false

namespace ComplianceEvidence.Yaml

/-! ## Folding -/

/-- Blanks and line breaks that were read and count only if more of the scalar follows. -/
inductive Pending where
  | none
  | blanks (last : List Char)
  | breaks (first others : List Char)
deriving DecidableEq, Repr

namespace Pending

def addBlank (character : Char) : Pending → Pending
  | none => blanks [character]
  | blanks last => blanks (character :: last)
  | breaks first others => breaks first others

def addBreak (lineBreak : List Char) : Pending → Pending
  | breaks first others => breaks first (others ++ lineBreak)
  | _ => breaks lineBreak []

def hasBreaks : Pending → Bool
  | breaks _ _ => true
  | _ => false

def isNone : Pending → Bool
  | none => true
  | _ => false

/-- What is pending as part of the scalar: one line break folds into a space, and of several the
first is dropped. -/
def text : Pending → List Char
  | none => []
  | blanks last => last.reverse
  | breaks first others =>
      if first = ['\n'] then if others = [] then [' '] else others
      else first ++ others

end Pending

/-- A scalar that was read, the last character first, and the cursor behind it. -/
structure ReadScalar where
  reversed : List Char
  cursor : Cursor
  /-- Line breaks follow the scalar and were passed over. -/
  endsLine : Bool

/-- Where a line break reads as itself and where it reads as a line feed. -/
def readBreak (character : Char) : List Char :=
  if character = '\u2028' || character = '\u2029' then [character] else ['\n']

/-! ## Plain scalars -/

/-- A colon inside a flow collection that may stand neither in a plain scalar nor behind one. -/
def isStrayColon (inFlow : Bool) (text : List Char) : Bool :=
  match text with
  | ':' :: next :: _ => inFlow && [',', '?', '[', ']', '\x7b', '\x7d'].contains next
  | _ => false

/-- The characters that end a plain scalar. -/
def endsPlain (inFlow : Bool) (head : Char) (tail : List Char) : Bool :=
  (head = ':' && atGap tail) || (inFlow && [',', '[', ']', '\x7b', '\x7d'].contains head)

/-- Reads on in a plain scalar. `isFirst` tells that nothing of it was read. -/
def readPlain (inFlow : Bool) (indent : Int) (mark : Mark) (reversed : List Char)
    (pending : Pending) (isFirst : Bool) : List Char → Option ReadScalar
  | [] => some ⟨reversed, ⟨[], mark⟩, pending.hasBreaks⟩
  | '\r' :: '\n' :: tail =>
      readPlain inFlow indent (mark.nextLine 2) reversed (pending.addBreak ['\n']) isFirst tail
  | head :: tail =>
      let stopped : Option ReadScalar :=
        some ⟨reversed, ⟨head :: tail, mark⟩, pending.hasBreaks⟩
      if isBlank head then
        if head = '\t' && pending.hasBreaks && (mark.column : Int) < indent then none
        else readPlain inFlow indent (mark.next head) reversed (pending.addBlank head) isFirst tail
      else if isBreak head then
        readPlain inFlow indent (mark.nextLine head.utf8Size) reversed
          (pending.addBreak (readBreak head)) isFirst tail
      else if !pending.isNone && !inFlow && (mark.column : Int) < indent then stopped
      else if mark.column = 0 && isDocumentIndicator (head :: tail) then stopped
      else if head = '#' && (isFirst || !pending.isNone) then stopped
      else if isStrayColon inFlow (head :: tail) then none
      else if endsPlain inFlow head tail then stopped
      else
        readPlain inFlow indent (mark.next head) (head :: (pending.text.reverse ++ reversed)) .none
          false tail

/-! ## Quoted scalars -/

def hexDigit? (character : Char) : Option Nat :=
  if '0' ≤ character && character ≤ '9' then some (character.toNat - '0'.toNat)
  else if 'a' ≤ character && character ≤ 'f' then some (character.toNat - 'a'.toNat + 10)
  else if 'A' ≤ character && character ≤ 'F' then some (character.toNat - 'A'.toNat + 10)
  else none

/-- The character that a letter behind a backslash stands for. -/
def simpleEscape? : Char → Option Char
  | '0' => some '\x00'
  | 'a' => some '\x07'
  | 'b' => some '\x08'
  | 't' => some '\t'
  | '\t' => some '\t'
  | 'n' => some '\n'
  | 'v' => some '\x0b'
  | 'f' => some '\x0c'
  | 'r' => some '\r'
  | 'e' => some '\x1b'
  | ' ' => some ' '
  | '"' => some '"'
  | '/' => some '/'
  | '\\' => some '\\'
  | 'N' => some '\x85'
  | '_' => some '\xa0'
  | 'L' => some '\u2028'
  | 'P' => some '\u2029'
  | _ => none

/-- The number of digits that a letter behind a backslash announces. -/
def escapeLength? : Char → Option Nat
  | 'x' => some 2
  | 'u' => some 4
  | 'U' => some 8
  | _ => none

/-- The character with a number, unless it is a surrogate or none at all. -/
def character? (number : Nat) : Option Char :=
  if (0xD800 ≤ number && number ≤ 0xDFFF) || 0x10FFFF < number then none
  else some (Char.ofNat number)

/-- Where a reader stands in an escape. -/
inductive Escape where
  | outside
  | begun
  | digits (missing value : Nat)
deriving DecidableEq, Repr

/-- Reads on between double quotes. -/
def readDoubleQuoted (mark : Mark) (reversed : List Char) (pending : Pending) (escape : Escape) :
    List Char → Option ReadScalar
  | [] => none
  | '\r' :: '\n' :: tail =>
      match escape with
      | .outside =>
          readDoubleQuoted (mark.nextLine 2) reversed (pending.addBreak ['\n']) .outside tail
      | .begun => readDoubleQuoted (mark.nextLine 2) reversed (.breaks [] []) .outside tail
      | .digits _ _ => none
  | head :: tail =>
      match escape with
      | .outside =>
          if isBlank head then
            readDoubleQuoted (mark.next head) reversed (pending.addBlank head) .outside tail
          else if isBreak head then
            readDoubleQuoted (mark.nextLine head.utf8Size) reversed
              (pending.addBreak (readBreak head)) .outside tail
          else if mark.column = 0 && isDocumentIndicator (head :: tail) then none
          else
            let flushed := pending.text.reverse ++ reversed
            if head = '"' then some ⟨flushed, ⟨tail, mark.next head⟩, false⟩
            else if head = '\\' then readDoubleQuoted (mark.next head) flushed .none .begun tail
            else readDoubleQuoted (mark.next head) (head :: flushed) .none .outside tail
      | .begun =>
          if isBreak head then
            readDoubleQuoted (mark.nextLine head.utf8Size) reversed (.breaks [] []) .outside tail
          else
            match simpleEscape? head, escapeLength? head with
            | some character, _ =>
                readDoubleQuoted (mark.next head) (character :: reversed) .none .outside tail
            | none, some count =>
                readDoubleQuoted (mark.next head) reversed .none (.digits count 0) tail
            | none, none => none
      | .digits missing value =>
          match hexDigit? head with
          | none => none
          | some digit =>
              let next := value * 16 + digit
              if 1 < missing then
                readDoubleQuoted (mark.next head) reversed .none (.digits (missing - 1) next) tail
              else
                match character? next with
                | none => none
                | some character =>
                    readDoubleQuoted (mark.next head) (character :: reversed) .none .outside tail

/-- Reads on between single quotes; a quote inside is written twice. -/
def readSingleQuoted (mark : Mark) (reversed : List Char) (pending : Pending) :
    List Char → Option ReadScalar
  | [] => none
  | '\r' :: '\n' :: tail =>
      readSingleQuoted (mark.nextLine 2) reversed (pending.addBreak ['\n']) tail
  | '\x27' :: '\x27' :: tail =>
      readSingleQuoted ((mark.next '\x27').next '\x27')
        ('\x27' :: (pending.text.reverse ++ reversed)) .none tail
  | head :: tail =>
      if isBlank head then readSingleQuoted (mark.next head) reversed (pending.addBlank head) tail
      else if isBreak head then
        readSingleQuoted (mark.nextLine head.utf8Size) reversed
          (pending.addBreak (readBreak head)) tail
      else if mark.column = 0 && isDocumentIndicator (head :: tail) then none
      else
        let flushed := pending.text.reverse ++ reversed
        if head = '\x27' then some ⟨flushed, ⟨tail, mark.next head⟩, false⟩
        else readSingleQuoted (mark.next head) (head :: flushed) .none tail

/-! ## Block scalars -/

/-- What becomes of the line breaks at the end. -/
inductive Chomping where
  | strip
  | clip
  | keep
deriving DecidableEq, Repr

def chomping? : Char → Option Chomping
  | '+' => some .keep
  | '-' => some .strip
  | _ => none

/-- The signs behind the indicator: how to chomp, and the indentation if it is given. -/
def readBlockSigns (cursor : Cursor) : Option (Chomping × Nat × Cursor) :=
  match cursor.rest with
  | [] => some (.clip, 0, cursor)
  | first :: rest =>
      match chomping? first with
      | some chomping =>
          match rest with
          | second :: _ =>
              if second = '0' then none
              else if second.isDigit then
                some (chomping, second.toNat - '0'.toNat, cursor.skip.skip)
              else some (chomping, 0, cursor.skip)
          | [] => some (chomping, 0, cursor.skip)
      | none =>
          if first = '0' then none
          else if first.isDigit then
            match (rest.head?).bind chomping? with
            | some chomping => some (chomping, first.toNat - '0'.toNat, cursor.skip.skip)
            | none => some (.clip, first.toNat - '0'.toNat, cursor.skip)
          else some (.clip, 0, cursor)

/-- Blanks, a comment and the line break. -/
def finishLine (cursor : Cursor) : Option Cursor :=
  let afterBlanks := cursor.dropWhile isBlank
  let afterComment :=
    match afterBlanks.rest with
    | '#' :: _ => afterBlanks.dropWhile fun character => !isBreak character
    | _ => afterBlanks
  if atBreak afterComment.rest then some afterComment.takeBreak.2 else none

/-- Indentation and empty lines, up to a line with content. -/
structure Leading where
  breaks : List Char
  widest : Nat
  cursor : Cursor

/-- Passes over indentation and empty lines; with no indentation given, any number of spaces
counts as indentation. -/
def readLeading (indent : Nat) (mark : Mark) (breaks : List Char) (widest : Nat) :
    List Char → Option Leading
  | [] => some ⟨breaks, max widest mark.column, ⟨[], mark⟩⟩
  | '\r' :: '\n' :: tail =>
      readLeading indent (mark.nextLine 2) (breaks ++ ['\n']) (max widest mark.column) tail
  | head :: tail =>
      let isIndentation := indent = 0 || mark.column < indent
      if head = ' ' && isIndentation then readLeading indent (mark.next head) breaks widest tail
      else if head = '\t' && isIndentation then none
      else if isBreak head then
        readLeading indent (mark.nextLine head.utf8Size) (breaks ++ readBreak head)
          (max widest mark.column) tail
      else some ⟨breaks, max widest mark.column, ⟨head :: tail, mark⟩⟩

/-- The state between two lines of a block scalar. -/
structure BlockLines where
  reversed : List Char
  /-- The line break behind the last line. -/
  lineBreak : List Char
  /-- The line breaks of the empty lines behind it. -/
  empty : List Char
  /-- The last line starts with a blank. -/
  isIndented : Bool
  cursor : Cursor

/-- One line of content, and the empty lines behind it. -/
def BlockLines.next (isLiteral : Bool) (indent : Nat) (lines : BlockLines) : Option BlockLines := do
  let startsBlank := (lines.cursor.rest.head?).any isBlank
  let folds := !isLiteral && lines.lineBreak = ['\n'] && !lines.isIndented && !startsBlank
  let joint :=
    if folds then if lines.empty = [] then [' '] else lines.empty
    else lines.lineBreak ++ lines.empty
  let (content, afterContent) := lines.cursor.takeWhile fun character => !isBreak character
  let (lineBreak, afterBreak) := afterContent.takeBreak
  let leading ← readLeading indent afterBreak.mark [] 0 afterBreak.rest
  return {
    reversed := content.reverse ++ (joint.reverse ++ lines.reversed)
    lineBreak := lineBreak
    empty := leading.breaks
    isIndented := startsBlank
    cursor := leading.cursor }

/-- All lines at the indentation, as many as there may be. -/
def readBlockLines (isLiteral : Bool) (indent : Nat) :
    Nat → BlockLines → Option BlockLines
  | 0, lines => some lines
  | room + 1, lines =>
      if lines.cursor.mark.column = indent && !lines.cursor.rest.isEmpty then do
        let next ← lines.next isLiteral indent
        readBlockLines isLiteral indent room next
      else some lines

/-- Reads a block scalar from behind its indicator, inside a block at an indentation. -/
def readBlock (isLiteral : Bool) (parent : Int) (cursor : Cursor) : Option ReadScalar := do
  let (chomping, given, afterSigns) ← readBlockSigns cursor
  let start ← finishLine afterSigns
  let stated := if given = 0 then 0 else given + parent.toNat
  let leading ← readLeading stated start.mark [] 0 start.rest
  let indent := if stated = 0 then max (max leading.widest (parent + 1).toNat) 1 else stated
  let lines ← readBlockLines isLiteral indent (leading.cursor.rest.length + 1)
    ⟨[], [], leading.breaks, false, leading.cursor⟩
  let tail :=
    match chomping with
    | .strip => []
    | .clip => lines.lineBreak
    | .keep => lines.lineBreak ++ lines.empty
  return ⟨tail.reverse ++ lines.reversed, lines.cursor, false⟩

end ComplianceEvidence.Yaml
