import ComplianceEvidence.Yaml.Lexer

/-!
Contract: the events of a YAML text.

Owns: the grammar of documents, nodes, block collections and flow collections. Reading goes on
from event to event and asks for no more tokens than the next event needs.
-/

set_option autoImplicit false

namespace ComplianceEvidence.Yaml

inductive Event where
  | streamStart
  | streamEnd
  | documentStart
  | documentEnd
  | alias (name : List Char)
  | scalar (anchor tag : Option (List Char)) (content : List Char) (style : Style)
  | sequenceStart (anchor : Option (List Char))
  | sequenceEnd
  | mappingStart (anchor : Option (List Char))
  | mappingEnd
deriving DecidableEq, Repr

/-- What the grammar allows next. -/
inductive Stage where
  | stream
  | firstDocument
  | document
  | documentContent
  | documentEnd
  | blockNode
  | blockSequenceFirst
  | blockSequenceEntry
  | indentlessEntry
  | blockMappingFirstKey
  | blockMappingKey
  | blockMappingValue
  | flowSequenceFirst
  | flowSequenceEntry
  | pairKey
  | pairValue
  | pairEnd
  | flowMappingFirstKey
  | flowMappingKey
  | flowMappingValue
  | flowMappingEmptyValue
  | finished
deriving DecidableEq, Repr

structure Grammar where
  lexer : Lexer
  stage : Stage
  /-- The stages to go back to when a node is complete, innermost first. -/
  outer : List Stage
  /-- The handles of the document and what they stand for. -/
  handles : List (List Char × List Char)
deriving Repr

/-- An event, the place where it starts, and the state behind it. -/
abbrev Step := Event × Mark × Grammar

namespace Grammar

def start (source : Source) : Grammar :=
  ⟨Lexer.start source, .stream, [], []⟩

def peek (grammar : Grammar) : Option (Token × Grammar) :=
  (grammar.lexer.peek).map fun (token, lexer) => (token, { grammar with lexer := lexer })

def advance (grammar : Grammar) : Grammar :=
  { grammar with lexer := grammar.lexer.advance }

def enter (grammar : Grammar) (stage : Stage) : Grammar :=
  { grammar with stage := stage }

/-- Goes to a stage to come back from. -/
def call (grammar : Grammar) (back : Stage) : Grammar :=
  { grammar with outer := back :: grammar.outer }

def back (grammar : Grammar) : Grammar :=
  match grammar.outer with
  | stage :: outer => { grammar with stage := stage, outer := outer }
  | [] => { grammar with stage := .finished }

def emptyScalar (grammar : Grammar) (mark : Mark) : Step :=
  (.scalar none none [] .plain, mark, grammar)

/-! ## Nodes -/

/-- The anchor and the tag in front of a node, in any order. -/
structure Properties where
  anchor : Option (List Char)
  tag : Option (List Char × List Char)
  start : Mark

def properties (grammar : Grammar) : Option (Properties × Grammar) := do
  let (first, seen) ← grammar.peek
  match first.lexeme with
  | .anchor name => do
      let (second, afterFirst) ← seen.advance.peek
      match second.lexeme with
      | .tag handle suffix =>
          some (⟨some name, some (handle, suffix), first.start⟩, afterFirst.advance)
      | _ => some (⟨some name, none, first.start⟩, afterFirst)
  | .tag handle suffix => do
      let (second, afterFirst) ← seen.advance.peek
      match second.lexeme with
      | .anchor name =>
          some (⟨some name, some (handle, suffix), first.start⟩, afterFirst.advance)
      | _ => some (⟨none, some (handle, suffix), first.start⟩, afterFirst)
  | _ => some (⟨none, none, first.start⟩, seen)

/-- The full name of a tag; its handle must be known. -/
def resolveTag (grammar : Grammar) : Option (List Char × List Char) → Option (Option (List Char))
  | none => some none
  | some ([], suffix) => some (some suffix)
  | some (handle, suffix) =>
      (grammar.handles.lookup handle).map fun meaning => some (meaning ++ suffix)

def node (grammar : Grammar) (inBlock mayBeIndentless : Bool) : Option Step := do
  let (first, seen) ← grammar.peek
  match first.lexeme with
  | .alias name => some (.alias name, first.start, seen.advance.back)
  | _ =>
      let (properties, afterProperties) ← seen.properties
      let tag ← afterProperties.resolveTag properties.tag
      let (token, ready) ← afterProperties.peek
      match token.lexeme with
      | .blockEntry =>
          if mayBeIndentless then
            some (.sequenceStart properties.anchor, properties.start,
              ready.enter .indentlessEntry)
          else contentless properties tag ready
      | .scalar content style =>
          some (.scalar properties.anchor tag content style, properties.start, ready.advance.back)
      | .flowSequenceStart =>
          some (.sequenceStart properties.anchor, properties.start,
            ready.enter .flowSequenceFirst)
      | .flowMappingStart =>
          some (.mappingStart properties.anchor, properties.start,
            ready.enter .flowMappingFirstKey)
      | .blockSequenceStart =>
          if inBlock then
            some (.sequenceStart properties.anchor, properties.start,
              ready.enter .blockSequenceFirst)
          else contentless properties tag ready
      | .blockMappingStart =>
          if inBlock then
            some (.mappingStart properties.anchor, properties.start,
              ready.enter .blockMappingFirstKey)
          else contentless properties tag ready
      | _ => contentless properties tag ready
where
  /-- An anchor or a tag makes a node of nothing. -/
  contentless (properties : Properties) (tag : Option (List Char)) (ready : Grammar) :
      Option Step :=
    if properties.anchor.isSome || tag.isSome then
      some (.scalar properties.anchor tag [] .plain, properties.start, ready.back)
    else none

/-! ## Documents -/

/-- The handles that every document knows. -/
def standardHandles : List (List Char × List Char) :=
  [(['!'], ['!']), (['!', '!'], "tag:yaml.org,2002:".toList)]

/-- Reads the directives of a document, as many as there may be. -/
def directives (hasVersion : Bool) : Nat → Grammar → Option Grammar
  | 0, _ => none
  | room + 1, grammar => do
      let (token, seen) ← grammar.peek
      match token.lexeme with
      | .versionDirective major minor =>
          if hasVersion || major ≠ 1 || (minor ≠ 1 && minor ≠ 2) then none
          else directives true room seen.advance
      | .tagDirective handle meaning =>
          if (seen.handles.lookup handle).isSome then none
          else
            directives hasVersion room
              { seen.advance with handles := seen.handles ++ [(handle, meaning)] }
      | _ =>
          let known := seen.handles
          let added := standardHandles.filter fun entry => (known.lookup entry.1).isNone
          some { seen with handles := known ++ added }

def room (grammar : Grammar) : Nat :=
  grammar.lexer.cursor.rest.length + grammar.lexer.queue.length + 2

/-- Passes over ends of documents, as many as there may be. -/
def skipDocumentEnds : Nat → Grammar → Option Grammar
  | 0, _ => none
  | room + 1, grammar => do
      let (token, seen) ← grammar.peek
      if token.lexeme = .documentEnd then skipDocumentEnds room seen.advance else some seen

def isDirective : Lexeme → Bool
  | .versionDirective _ _ => true
  | .tagDirective _ _ => true
  | _ => false

/-- A document whose start must be told apart from the end of the text. -/
def documentFrom (grammar : Grammar) (isFirst : Bool) : Option Step := do
  let begun ← if isFirst then some grammar else grammar.skipDocumentEnds grammar.room
  let (token, seen) ← begun.peek
  if token.lexeme = .streamEnd then
    some (.streamEnd, token.start, seen.advance.enter .finished)
  else if isFirst && !isDirective token.lexeme && token.lexeme ≠ .documentStart then
    let ready ← seen.directives false 1
    some (.documentStart, token.start, (ready.call .documentEnd).enter .blockNode)
  else
    let ready ← seen.directives false seen.room
    let (indicator, last) ← ready.peek
    if indicator.lexeme = .documentStart then
      some (.documentStart, token.start, (last.advance.call .documentEnd).enter .documentContent)
    else none

def documentContent (grammar : Grammar) : Option Step := do
  let (token, seen) ← grammar.peek
  if isDirective token.lexeme || [.documentStart, .documentEnd, .streamEnd].contains token.lexeme
  then some (seen.back.emptyScalar token.start)
  else seen.node true false

def documentEnd (grammar : Grammar) : Option Step := do
  let (token, seen) ← grammar.peek
  let after := if token.lexeme = .documentEnd then seen.advance else seen
  some (.documentEnd, token.start, { after with handles := [], stage := .document })

/-! ## Block collections -/

def blockSequenceEntry (grammar : Grammar) : Option Step := do
  let (token, seen) ← grammar.peek
  match token.lexeme with
  | .blockEntry => do
      let (next, ready) ← seen.advance.peek
      if [.blockEntry, .blockEnd].contains next.lexeme then
        some ((ready.enter .blockSequenceEntry).emptyScalar token.stop)
      else (ready.call .blockSequenceEntry).node true false
  | .blockEnd => some (.sequenceEnd, token.start, seen.advance.back)
  | _ => none

def indentlessEntry (grammar : Grammar) : Option Step := do
  let (token, seen) ← grammar.peek
  match token.lexeme with
  | .blockEntry => do
      let (next, ready) ← seen.advance.peek
      if [.blockEntry, .key, .value, .blockEnd].contains next.lexeme then
        some ((ready.enter .indentlessEntry).emptyScalar token.stop)
      else (ready.call .indentlessEntry).node true false
  | _ => some (.sequenceEnd, token.start, seen.back)

def blockMappingKey (grammar : Grammar) : Option Step := do
  let (token, seen) ← grammar.peek
  match token.lexeme with
  | .key => do
      let (next, ready) ← seen.advance.peek
      if [.key, .value, .blockEnd].contains next.lexeme then
        some ((ready.enter .blockMappingValue).emptyScalar token.stop)
      else (ready.call .blockMappingValue).node true true
  | .blockEnd => some (.mappingEnd, token.start, seen.advance.back)
  | _ => none

def blockMappingValue (grammar : Grammar) : Option Step := do
  let (token, seen) ← grammar.peek
  match token.lexeme with
  | .value => do
      let (next, ready) ← seen.advance.peek
      if [.key, .value, .blockEnd].contains next.lexeme then
        some ((ready.enter .blockMappingKey).emptyScalar token.stop)
      else (ready.call .blockMappingKey).node true true
  | _ => some ((seen.enter .blockMappingKey).emptyScalar token.start)

/-! ## Flow collections -/

/-- The token behind the comma that a further entry needs; the end of the collection needs none. -/
def flowSeparator (grammar : Grammar) (isFirst : Bool) (close : Lexeme) :
    Option (Token × Grammar) := do
  let (token, seen) ← grammar.peek
  if token.lexeme = close || isFirst then some (token, seen)
  else if token.lexeme = .flowEntry then seen.advance.peek
  else none

def flowSequenceEntry (grammar : Grammar) (isFirst : Bool) : Option Step := do
  let (token, seen) ← grammar.flowSeparator isFirst .flowSequenceEnd
  match token.lexeme with
  | .flowSequenceEnd => some (.sequenceEnd, token.start, seen.advance.back)
  | .key => some (.mappingStart none, token.start, seen.advance.enter .pairKey)
  | _ => (seen.call .flowSequenceEntry).node false false

def pairKey (grammar : Grammar) : Option Step := do
  let (token, seen) ← grammar.peek
  if [.value, .flowEntry, .flowSequenceEnd].contains token.lexeme then
    some ((seen.advance.enter .pairValue).emptyScalar token.stop)
  else (seen.call .pairValue).node false false

def pairValue (grammar : Grammar) : Option Step := do
  let (token, seen) ← grammar.peek
  if token.lexeme = .value then
    let (next, ready) ← seen.advance.peek
    if [.flowEntry, .flowSequenceEnd].contains next.lexeme then
      some ((ready.enter .pairEnd).emptyScalar next.start)
    else (ready.call .pairEnd).node false false
  else some ((seen.enter .pairEnd).emptyScalar token.start)

def pairEnd (grammar : Grammar) : Option Step := do
  let (token, seen) ← grammar.peek
  some (.mappingEnd, token.start, seen.enter .flowSequenceEntry)

def flowMappingKey (grammar : Grammar) (isFirst : Bool) : Option Step := do
  let (token, seen) ← grammar.flowSeparator isFirst .flowMappingEnd
  match token.lexeme with
  | .flowMappingEnd => some (.mappingEnd, token.start, seen.advance.back)
  | .key => do
      let (next, ready) ← seen.advance.peek
      if [.value, .flowEntry, .flowMappingEnd].contains next.lexeme then
        some ((ready.enter .flowMappingValue).emptyScalar next.start)
      else (ready.call .flowMappingValue).node false false
  | _ => (seen.call .flowMappingEmptyValue).node false false

def flowMappingValue (grammar : Grammar) : Option Step := do
  let (token, seen) ← grammar.peek
  if token.lexeme = .value then
    let (next, ready) ← seen.advance.peek
    if [.flowEntry, .flowMappingEnd].contains next.lexeme then
      some ((ready.enter .flowMappingKey).emptyScalar next.start)
    else (ready.call .flowMappingKey).node false false
  else some ((seen.enter .flowMappingKey).emptyScalar token.start)

def flowMappingEmptyValue (grammar : Grammar) : Option Step := do
  let (token, seen) ← grammar.peek
  some ((seen.enter .flowMappingKey).emptyScalar token.start)

/-! ## Steps -/

def opened (grammar : Grammar) : Option Grammar := do
  let (_, seen) ← grammar.peek
  some seen.advance

/-- The next event; none where the text breaks the grammar. -/
def step (grammar : Grammar) : Option Step :=
  match grammar.stage with
  | .stream => do
      let (token, seen) ← grammar.peek
      some (.streamStart, token.start, seen.advance.enter .firstDocument)
  | .firstDocument => grammar.documentFrom true
  | .document => grammar.documentFrom false
  | .documentContent => grammar.documentContent
  | .documentEnd => grammar.documentEnd
  | .blockNode => grammar.node true false
  | .blockSequenceFirst => do (← grammar.opened).blockSequenceEntry
  | .blockSequenceEntry => grammar.blockSequenceEntry
  | .indentlessEntry => grammar.indentlessEntry
  | .blockMappingFirstKey => do (← grammar.opened).blockMappingKey
  | .blockMappingKey => grammar.blockMappingKey
  | .blockMappingValue => grammar.blockMappingValue
  | .flowSequenceFirst => do (← grammar.opened).flowSequenceEntry true
  | .flowSequenceEntry => grammar.flowSequenceEntry false
  | .pairKey => grammar.pairKey
  | .pairValue => grammar.pairValue
  | .pairEnd => grammar.pairEnd
  | .flowMappingFirstKey => do (← grammar.opened).flowMappingKey true
  | .flowMappingKey => grammar.flowMappingKey false
  | .flowMappingValue => grammar.flowMappingValue
  | .flowMappingEmptyValue => grammar.flowMappingEmptyValue
  | .finished => none

end Grammar

end ComplianceEvidence.Yaml
