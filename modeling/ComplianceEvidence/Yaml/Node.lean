import ComplianceEvidence.Yaml.Event

/-!
Contract: the tree of the first document of a YAML text, as far as the text can be read.

Owns: nodes, the anchors that aliases point at, the assembly of a tree from events, and how a
document ends. Nodes that the text breaks off are kept and known to be incomplete.

An anchor is numbered by the different names before it, so a name that is defined again takes the
next number without using it up. An alias means the last node that got the number of its anchor.
-/

set_option autoImplicit false

namespace ComplianceEvidence.Yaml

inductive Node where
  /-- A document without content. -/
  | void (mark : Mark)
  | scalar (mark : Mark) (content : String) (style : Style) (tag : Option String)
  | alias (mark : Mark) (anchor : Nat)
  | sequence (mark : Mark) (items : List Node) (isClosed : Bool)
  | mapping (mark : Mark) (entries : List (Node × Node)) (isClosed : Bool)
  /-- The text cannot be read where a node should be. -/
  | broken
deriving Repr

instance : Inhabited Node := ⟨.broken⟩

mutual

/-- Nothing is missing in a node. -/
def Node.isComplete : Node → Bool
  | .void _ => true
  | .scalar _ _ _ _ => true
  | .alias _ _ => true
  | .sequence _ items isClosed => areComplete items && isClosed
  | .mapping _ entries isClosed => areCompletePairs entries && isClosed
  | .broken => false

def areComplete : List Node → Bool
  | [] => true
  | head :: tail => head.isComplete && areComplete tail

def areCompletePairs : List (Node × Node) → Bool
  | [] => true
  | (key, value) :: tail => key.isComplete && value.isComplete && areCompletePairs tail

end

/-- What follows the first document of a text. -/
inductive Ending where
  | nothing
  | anotherDocument
  /-- The text cannot be read to the end of the document. -/
  | broken
deriving DecidableEq, Repr

structure Document where
  root : Node
  /-- The nodes with anchors, by the number of their event. -/
  anchored : List (Nat × Node)
  /-- The number of the event that an anchor stands at; the first entry for an anchor counts. -/
  places : List (Nat × Nat)
  eventCount : Nat
  ending : Ending

def Document.target (document : Document) (anchor : Nat) : Node :=
  ((document.places.lookup anchor).bind fun number => document.anchored.lookup number).getD .broken

/-! ## Assembly -/

/-- A collection that is not closed yet, its parts in reverse. -/
inductive OpenNode where
  | sequence (mark : Mark) (items : List Node)
  | mapping (mark : Mark) (entries : List (Node × Node)) (key : Option Node)

/-- A collection that is not closed yet, and the number of its event if it has an anchor. -/
structure Frame where
  node : OpenNode
  place : Option Nat

structure Assembly where
  /-- The collections around the next node, innermost first. -/
  frames : List Frame := []
  root : Option Node := none
  /-- The numbers of the anchors in force. -/
  anchors : List (List Char × Nat) := []
  places : List (Nat × Nat) := []
  anchored : List (Nat × Node) := []
  eventCount : Nat := 0

namespace Assembly

/-- Notes an anchor at the next event; the event's number comes with it. -/
def define (assembly : Assembly) : Option (List Char) → Option Nat × Assembly
  | none => (none, assembly)
  | some name =>
      let anchor := assembly.anchors.length
      let others := assembly.anchors.filter fun entry => entry.1 ≠ name
      (some assembly.eventCount,
        { assembly with
          anchors := (name, anchor) :: others
          places := (anchor, assembly.eventCount) :: assembly.places })

/-- Notes a finished node under the number of its event, if it has an anchor. -/
def keep (assembly : Assembly) (place : Option Nat) (node : Node) : Assembly :=
  match place with
  | none => assembly
  | some number => { assembly with anchored := (number, node) :: assembly.anchored }

/-- The innermost collection with one more part. -/
def OpenNode.add (node : Node) : OpenNode → OpenNode
  | .sequence mark items => .sequence mark (node :: items)
  | .mapping mark entries none => .mapping mark entries (some node)
  | .mapping mark entries (some key) => .mapping mark ((key, node) :: entries) none

def place (assembly : Assembly) (node : Node) : Assembly :=
  match assembly.frames with
  | [] => { assembly with root := some node }
  | frame :: outer =>
      { assembly with frames := { frame with node := OpenNode.add node frame.node } :: outer }

/-- A collection as it is when its end is found, or where the text breaks off. -/
def OpenNode.close (isClosed : Bool) : OpenNode → Node
  | .sequence mark items => .sequence mark items.reverse isClosed
  | .mapping mark entries none => .mapping mark entries.reverse isClosed
  | .mapping mark entries (some key) => .mapping mark ((key, .broken) :: entries).reverse isClosed

def count (assembly : Assembly) : Assembly :=
  { assembly with eventCount := assembly.eventCount + 1 }

def push (assembly : Assembly) (anchor : Option (List Char)) (node : OpenNode) : Assembly :=
  let (place, noted) := assembly.define anchor
  { noted.count with frames := ⟨node, place⟩ :: noted.frames }

def pop (assembly : Assembly) (isClosed : Bool) : Assembly :=
  match assembly.frames with
  | [] => assembly
  | frame :: outer =>
      let node := OpenNode.close isClosed frame.node
      ({ assembly with frames := outer }.keep frame.place node).place node

/-- Adds an event of a document's content; an alias must have an anchor before it. -/
def add (assembly : Assembly) (event : Event) (mark : Mark) : Option Assembly :=
  match event with
  | .scalar anchor tag content style =>
      let (place, noted) := assembly.define anchor
      let node := Node.scalar mark (String.ofList content) style (tag.map String.ofList)
      some ((noted.count.keep place node).place node)
  | .alias name =>
      (assembly.anchors.lookup name).map fun anchor => assembly.count.place (.alias mark anchor)
  | .sequenceStart anchor => some (assembly.push anchor (.sequence mark []))
  | .mappingStart anchor => some (assembly.push anchor (.mapping mark [] none))
  | .sequenceEnd => some (assembly.count.pop true)
  | .mappingEnd => some (assembly.count.pop true)
  | _ => some assembly

/-- Closes all collections where the text breaks off. -/
def cutOff (assembly : Assembly) : Assembly :=
  assembly.frames.length.repeat (fun current => current.pop false) assembly

def document (assembly : Assembly) (ending : Ending) : Document :=
  { root := assembly.root.getD .broken
    anchored := assembly.anchored
    places := assembly.places
    eventCount := assembly.eventCount
    ending := ending }

end Assembly

/-! ## Documents -/

/-- What follows a document that was read to its end. -/
def endingOf (grammar : Grammar) : Ending :=
  match grammar.step with
  | some (.streamEnd, _) => .nothing
  | _ => .anotherDocument

/-- Reads the events of the first document, as many as there may be. -/
def readEvents : Nat → Grammar → Assembly → Document
  | 0, _, assembly => assembly.cutOff.document .broken
  | room + 1, grammar, assembly =>
      match grammar.step with
      | none => assembly.cutOff.document .broken
      | some (.streamEnd, mark, _) =>
          (assembly.count.place (.void mark)).document .nothing
      | some (.documentEnd, _, next) => assembly.document (endingOf next)
      | some (event, mark, next) =>
          match assembly.add event mark with
          | none => assembly.cutOff.document .broken
          | some added => readEvents room next added

/-- The first document of a text. A character makes a few events at most. -/
def Document.ofText (text : String) : Document :=
  let source := Source.of text.toList
  readEvents (16 * source.text.length + 64) (Grammar.start source) {}

end ComplianceEvidence.Yaml
