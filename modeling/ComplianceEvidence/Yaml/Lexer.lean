import ComplianceEvidence.Yaml.ScalarText
import ComplianceEvidence.Yaml.Tag

/-!
Contract: a YAML text cut into tokens, as many at a time as are needed.

Owns: the indentation that opens and closes block collections, and the keys that are known as such
only when their colon is found.

A token is handed out only when no colon can put a key before it any more, so a fault in the text
behind a token may come before the token itself.
-/

set_option autoImplicit false

namespace ComplianceEvidence.Yaml

/-- The start of a token that may turn out to be a key. -/
structure Candidate where
  /-- There is no other way to read the token. -/
  isRequired : Bool
  /-- The number of tokens before it. -/
  position : Nat
  mark : Mark
deriving DecidableEq, Repr

structure Lexer where
  cursor : Cursor
  /-- A character that may not occur follows the text. -/
  isCut : Bool
  /-- Tokens that were found and not handed out. -/
  queue : List Token
  taken : Nat
  indent : Int
  outerIndents : List Int
  mayStartKey : Bool
  /-- The candidate of the block and of each open flow collection, innermost first. -/
  candidates : List (Option Candidate)
  hasStarted : Bool
  /-- The first token of the queue may be handed out. -/
  isReady : Bool
deriving Repr

namespace Lexer

def start (source : Source) : Lexer :=
  { cursor := ⟨source.text, .start⟩
    isCut := source.isCut
    queue := []
    taken := 0
    indent := -1
    outerIndents := []
    mayStartKey := true
    candidates := [none]
    hasStarted := false
    isReady := false }

def inFlow (lexer : Lexer) : Bool :=
  1 < lexer.candidates.length

def push (lexer : Lexer) (lexeme : Lexeme) (start stop : Mark) : Lexer :=
  { lexer with queue := lexer.queue ++ [⟨lexeme, start, stop⟩] }

/-- Puts a token without extent in front of the token at a position. -/
def insertAt (lexer : Lexer) (position : Nat) (lexeme : Lexeme) (mark : Mark) : Lexer :=
  let place := position - lexer.taken
  { lexer with
    queue := lexer.queue.take place ++ ⟨lexeme, mark, mark⟩ :: lexer.queue.drop place }

/-- A token of one or more characters at the cursor. -/
def pushIndicator (lexer : Lexer) (lexeme : Lexeme) (length : Nat) : Lexer :=
  let stop := lexer.cursor.skipMany length
  { lexer.push lexeme lexer.cursor.mark stop.mark with cursor := stop }

/-! ## Keys -/

/-- A key stands on one line and is at most 1024 bytes long. -/
def isStale (mark : Mark) (candidate : Candidate) : Bool :=
  candidate.mark.line < mark.line || candidate.mark.index + 1024 < mark.index

/-- Gives up candidates that can be no keys any more. -/
def dropStale (lexer : Lexer) : Option Lexer :=
  let isLost (candidate : Option Candidate) : Bool :=
    candidate.any (isStale lexer.cursor.mark)
  let isFault (candidate : Option Candidate) : Bool :=
    candidate.any fun present => isStale lexer.cursor.mark present && present.isRequired
  if lexer.candidates.any isFault then none
  else
    some { lexer with
      candidates := lexer.candidates.map fun candidate =>
        if isLost candidate then none else candidate }

def dropCandidate (lexer : Lexer) : Option Lexer :=
  match lexer.candidates with
  | some candidate :: outer =>
      if candidate.isRequired then none else some { lexer with candidates := none :: outer }
  | _ => some lexer

/-- Marks the next token as one that may be a key. -/
def saveCandidate (lexer : Lexer) : Option Lexer :=
  if lexer.mayStartKey then do
    let candidate : Candidate :=
      { isRequired := !lexer.inFlow && lexer.indent = lexer.cursor.mark.column
        position := lexer.taken + lexer.queue.length
        mark := lexer.cursor.mark }
    let cleared ← lexer.dropCandidate
    some { cleared with candidates := some candidate :: cleared.candidates.drop 1 }
  else some lexer

/-! ## Indentation -/

/-- Opens a block collection if the column is deeper than the present one; its token goes to a
position or to the end of the queue. -/
def openBlock (lexer : Lexer) (column : Nat) (position : Option Nat) (lexeme : Lexeme)
    (mark : Mark) : Lexer :=
  if lexer.inFlow || (column : Int) ≤ lexer.indent then lexer
  else
    let deeper :=
      { lexer with indent := column, outerIndents := lexer.indent :: lexer.outerIndents }
    match position with
    | some place => deeper.insertAt place lexeme mark
    | none => deeper.push lexeme mark mark

/-- The ends of the block collections that are deeper than a column. -/
def blockEnds (column : Int) (mark : Mark) : Int → List Int → List Token → List Token × Int × List Int
  | indent, [], ends => (ends, indent, [])
  | indent, outer :: others, ends =>
      if column < indent then blockEnds column mark outer others (⟨.blockEnd, mark, mark⟩ :: ends)
      else (ends, indent, outer :: others)

def closeBlocks (lexer : Lexer) (column : Int) : Lexer :=
  if lexer.inFlow then lexer
  else
    let (ends, indent, outer) :=
      blockEnds column lexer.cursor.mark lexer.indent lexer.outerIndents []
    { lexer with queue := lexer.queue ++ ends, indent := indent, outerIndents := outer }

/-! ## Gaps -/

/-- Passes over blanks, comments and line breaks. In a block, a new line may start with a key; a
tab is no blank where a key may start. A byte order mark is a blank where a line starts, and it
takes up a column like any other. -/
def skipGap (inFlow : Bool) (mayStartKey inComment : Bool) (mark : Mark) :
    List Char → Cursor × Bool
  | [] => (⟨[], mark⟩, mayStartKey)
  | '\r' :: '\n' :: tail =>
      skipGap inFlow (mayStartKey || !inFlow) false (mark.nextLine 2) tail
  | head :: tail =>
      if isBreak head then
        skipGap inFlow (mayStartKey || !inFlow) false (mark.nextLine head.utf8Size) tail
      else if inComment then skipGap inFlow mayStartKey true (mark.next head) tail
      else if head = '#' then skipGap inFlow mayStartKey true (mark.next head) tail
      else if head = ' ' || (head = '\t' && (inFlow || !mayStartKey)) ||
          (head = byteOrderMark && mark.column = 0) then
        skipGap inFlow mayStartKey false (mark.next head) tail
      else (⟨head :: tail, mark⟩, mayStartKey)

/-! ## Tokens -/

def fetchStreamEnd (lexer : Lexer) : Option Lexer := do
  let mark := lexer.cursor.mark
  let last : Mark := if mark.column = 0 then mark else ⟨mark.index, mark.line + 1, 0⟩
  let closed := { lexer with cursor := ⟨lexer.cursor.rest, last⟩ }.closeBlocks (-1)
  let cleared ← closed.dropCandidate
  some { cleared.push .streamEnd last last with mayStartKey := false }

def fetchDirective (lexer : Lexer) : Option Lexer := do
  let cleared ← (lexer.closeBlocks (-1)).dropCandidate
  let (lexeme, stop) ← readDirective cleared.cursor
  let after ← finishLine stop
  some { cleared.push lexeme cleared.cursor.mark stop.mark with
    cursor := after, mayStartKey := false }

def fetchDocumentIndicator (lexer : Lexer) (lexeme : Lexeme) : Option Lexer := do
  let cleared ← (lexer.closeBlocks (-1)).dropCandidate
  some ({ cleared with mayStartKey := false }.pushIndicator lexeme 3)

def fetchFlowStart (lexer : Lexer) (lexeme : Lexeme) : Option Lexer := do
  let saved ← lexer.saveCandidate
  some ({ saved with candidates := none :: saved.candidates, mayStartKey := true }.pushIndicator
    lexeme 1)

def fetchFlowEnd (lexer : Lexer) (lexeme : Lexeme) : Option Lexer := do
  let cleared ← lexer.dropCandidate
  let candidates := if cleared.inFlow then cleared.candidates.drop 1 else cleared.candidates
  some ({ cleared with candidates := candidates, mayStartKey := false }.pushIndicator lexeme 1)

def fetchFlowEntry (lexer : Lexer) : Option Lexer := do
  let cleared ← lexer.dropCandidate
  some ({ cleared with mayStartKey := true }.pushIndicator .flowEntry 1)

def fetchBlockEntry (lexer : Lexer) : Option Lexer := do
  if !lexer.inFlow && !lexer.mayStartKey then none
  else
    let mark := lexer.cursor.mark
    let cleared ← (lexer.openBlock mark.column none .blockSequenceStart mark).dropCandidate
    some ({ cleared with mayStartKey := true }.pushIndicator .blockEntry 1)

def fetchKey (lexer : Lexer) : Option Lexer := do
  if !lexer.inFlow && !lexer.mayStartKey then none
  else
    let mark := lexer.cursor.mark
    let cleared ← (lexer.openBlock mark.column none .blockMappingStart mark).dropCandidate
    some ({ cleared with mayStartKey := !cleared.inFlow }.pushIndicator .key 1)

def fetchValue (lexer : Lexer) : Option Lexer :=
  match lexer.candidates with
  | some candidate :: outer =>
      let keyed := lexer.insertAt candidate.position .key candidate.mark
      let opened :=
        keyed.openBlock candidate.mark.column (some candidate.position) .blockMappingStart
          candidate.mark
      some ({ opened with candidates := none :: outer, mayStartKey := false }.pushIndicator
        .value 1)
  | _ =>
      if !lexer.inFlow && !lexer.mayStartKey then none
      else
        let mark := lexer.cursor.mark
        let opened := lexer.openBlock mark.column none .blockMappingStart mark
        some ({ opened with mayStartKey := !opened.inFlow }.pushIndicator .value 1)

/-- The characters that may follow an anchor or an alias. -/
def endsAnchor (text : List Char) : Bool :=
  atGap text ||
    (text.head?).any fun head => ['?', ':', ',', ']', '\x7d', '%', '@', '\x60'].contains head

def fetchAnchor (lexer : Lexer) (lexeme : List Char → Lexeme) : Option Lexer := do
  let saved ← lexer.saveCandidate
  let (name, stop) := saved.cursor.skip.takeWhile isWordCharacter
  if name.isEmpty || !endsAnchor stop.rest then none
  else
    some { saved.push (lexeme name) saved.cursor.mark stop.mark with
      cursor := stop, mayStartKey := false }

def fetchTag (lexer : Lexer) : Option Lexer := do
  let saved ← lexer.saveCandidate
  let (handle, suffix, stop) ← readTag saved.inFlow saved.cursor
  some { saved.push (.tag handle suffix) saved.cursor.mark stop.mark with
    cursor := stop, mayStartKey := false }

def pushScalar (lexer : Lexer) (style : Style) (read : ReadScalar) (mayStartKey : Bool) : Lexer :=
  let mark := lexer.cursor.mark
  { lexer.push (.scalar read.reversed.reverse style) mark read.cursor.mark with
    cursor := read.cursor, mayStartKey := mayStartKey }

def fetchBlockScalar (lexer : Lexer) (style : Style) : Option Lexer := do
  let cleared ← lexer.dropCandidate
  let read ← readBlock (style = .literal) cleared.indent cleared.cursor.skip
  some (cleared.pushScalar style read true)

def fetchQuotedScalar (lexer : Lexer) (style : Style) : Option Lexer := do
  let saved ← lexer.saveCandidate
  let inside := saved.cursor.skip
  let read ←
    if style = .singleQuoted then readSingleQuoted inside.mark [] .none inside.rest
    else readDoubleQuoted inside.mark [] .none .outside inside.rest
  some (saved.pushScalar style read false)

def fetchPlainScalar (lexer : Lexer) : Option Lexer := do
  let saved ← lexer.saveCandidate
  let read ←
    readPlain saved.inFlow (saved.indent + 1) saved.cursor.mark [] .none true saved.cursor.rest
  some (saved.pushScalar .plain read read.endsLine)

/-- The characters that start no plain scalar, unless what follows them makes it one. -/
def isIndicator (character : Char) : Bool :=
  ['-', '?', ':', ',', '[', ']', '\x7b', '\x7d', '#', '&', '*', '!', '|', '>', '\x27', '"', '%',
    '@', '\x60'].contains character

def startsPlain (inFlow : Bool) (head : Char) (tail : List Char) : Bool :=
  !(isBlank head || isBreak head || isIndicator head) ||
    (head = '-' && !(tail.head?).any isBlank) ||
      (!inFlow && (head = '?' || head = ':') && !atGap tail)

def fetchAt (lexer : Lexer) (head : Char) (tail : List Char) : Option Lexer :=
  let column := lexer.cursor.mark.column
  if column = 0 && head = '%' then lexer.fetchDirective
  else if column = 0 && isDocumentIndicator (head :: tail) then
    lexer.fetchDocumentIndicator (if head = '-' then .documentStart else .documentEnd)
  else if head = '[' then lexer.fetchFlowStart .flowSequenceStart
  else if head = '\x7b' then lexer.fetchFlowStart .flowMappingStart
  else if head = ']' then lexer.fetchFlowEnd .flowSequenceEnd
  else if head = '\x7d' then lexer.fetchFlowEnd .flowMappingEnd
  else if head = ',' then lexer.fetchFlowEntry
  else if head = '-' && atGap tail then lexer.fetchBlockEntry
  else if head = '?' && (lexer.inFlow || atGap tail) then lexer.fetchKey
  else if head = ':' && (lexer.inFlow || atGap tail) then lexer.fetchValue
  else if head = '*' then lexer.fetchAnchor .alias
  else if head = '&' then lexer.fetchAnchor .anchor
  else if head = '!' then lexer.fetchTag
  else if head = '|' && !lexer.inFlow then lexer.fetchBlockScalar .literal
  else if head = '>' && !lexer.inFlow then lexer.fetchBlockScalar .folded
  else if head = '\x27' then lexer.fetchQuotedScalar .singleQuoted
  else if head = '"' then lexer.fetchQuotedScalar .doubleQuoted
  else if startsPlain lexer.inFlow head tail then lexer.fetchPlainScalar
  else none

/-- A character that may not occur stands within reach. -/
def reachesCut (lexer : Lexer) (reach : Nat) : Bool :=
  lexer.isCut && (lexer.cursor.rest.drop (reach - 1)).isEmpty

def fetch (lexer : Lexer) : Option Lexer := do
  if lexer.reachesCut 1 then none
  else if !lexer.hasStarted then
    some { lexer.push .streamStart lexer.cursor.mark lexer.cursor.mark with hasStarted := true }
  else
    let (cursor, mayStartKey) :=
      skipGap lexer.inFlow lexer.mayStartKey false lexer.cursor.mark lexer.cursor.rest
    let moved ← { lexer with cursor := cursor, mayStartKey := mayStartKey }.dropStale
    let closed := moved.closeBlocks moved.cursor.mark.column
    if closed.reachesCut 4 then none
    else
      match closed.cursor.rest with
      | [] => closed.fetchStreamEnd
      | head :: tail =>
          let fetched ← closed.fetchAt head tail
          if fetched.reachesCut 1 then none else some fetched

/-- A colon may yet put a key before the first token. -/
def isUndecided (lexer : Lexer) : Bool :=
  lexer.candidates.any fun candidate => candidate.any fun present => present.position = lexer.taken

/-- Finds tokens until the first one may be handed out, with as many steps as there may be. -/
def prepare : Nat → Lexer → Option Lexer
  | 0, _ => none
  | room + 1, lexer =>
      if lexer.queue.isEmpty then do
        let fetched ← lexer.fetch
        prepare room fetched
      else do
        let current ← lexer.dropStale
        if current.isUndecided then
          let fetched ← current.fetch
          prepare room fetched
        else some { current with isReady := true }

def peek (lexer : Lexer) : Option (Token × Lexer) := do
  let ready ← if lexer.isReady then some lexer else lexer.prepare (lexer.cursor.rest.length + 8)
  let token ← ready.queue.head?
  some (token, ready)

def advance (lexer : Lexer) : Lexer :=
  { lexer with queue := lexer.queue.drop 1, taken := lexer.taken + 1, isReady := false }

end Lexer

end ComplianceEvidence.Yaml
