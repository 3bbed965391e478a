import ComplianceEvidence.Ordered.Entries

/-!
Contract: a tree of files and what its paths lead to.

Owns: files, directories and symbolic links, the reasons why a path leads nowhere, the resolution of
a path, and putting a file where a path leads. Links on the way are followed, up to a limit. A path
that starts with a slash starts at the root; every other one starts at a directory of its own.
-/

set_option autoImplicit false

namespace ComplianceEvidence.Files

inductive Node where
  | file (content : List UInt8)
  | directory (entries : List (String × Node))
  | link (target : String)
deriving Repr

instance : Inhabited Node := ⟨.directory []⟩

inductive Fault where
  | absent
  | notADirectory
  | isADirectory
  | tooManyLinks
  | nameTooLong
  | nameWithNul
  | notUtf8
deriving DecidableEq, Repr

def Fault.message : Fault → String
  | absent => "No such file or directory (os error 2)"
  | notADirectory => "Not a directory (os error 20)"
  | isADirectory => "Is a directory (os error 21)"
  | tooManyLinks => "Too many levels of symbolic links (os error 40)"
  | nameTooLong => "File name too long (os error 36)"
  | nameWithNul => "file name contained an unexpected NUL byte"
  | notUtf8 => "stream did not contain valid UTF-8"

/-! ## Paths -/

def components (path : String) : List String :=
  (path.toList.splitOn '/').map String.ofList

def isAbsolute (path : String) : Bool :=
  path.toList.head? = some '/'

/-- The number of bytes that a path may not have, and the number that a name may have. -/
def pathLimit : Nat := 4096

def nameLimit : Nat := 255

/-- The number of links that may be followed on the way. -/
def linkLimit : Nat := 40

/-- A node, and the way to it from the root: names with the directories they stand in, the last
first. -/
structure Place where
  node : Node
  way : List (String × Node)
deriving Repr

namespace Place

def enter (place : Place) (name : String) (next : Node) : Place :=
  ⟨next, (name, place.node) :: place.way⟩

/-- The directory around a place; around the root there is the root. -/
def parent (place : Place) : Place :=
  match place.way with
  | (_, directory) :: way => ⟨directory, way⟩
  | [] => place

def names (place : Place) : List String :=
  (place.way.map Prod.fst).reverse

/-- The place that names lead to, as far as there are entries with these names. -/
def follow (place : Place) : List String → Place
  | [] => place
  | name :: rest =>
      match place.node with
      | .directory entries =>
          match entries.lookup name with
          | some next => (place.enter name next).follow rest
          | none => place
      | _ => place

end Place

/-- Where a path leads: a place, and the names of what is not there. -/
structure Arrival where
  place : Place
  missing : List String
deriving Repr

/-- Goes down the parts of a path in a tree with a root. -/
def descend (root : Node) (links : Nat) (place : Place) (path : List String) :
    Except Fault Arrival :=
  match path with
  | [] => .ok ⟨place, []⟩
  | name :: rest =>
      match place.node with
      | .directory entries =>
          if name = "" || name = "." then descend root links place rest
          else if name = ".." then descend root links place.parent rest
          else if nameLimit < name.utf8ByteSize then .error .nameTooLong
          else
            match entries.lookup name with
            | none => .ok ⟨place, name :: rest⟩
            | some (.link target) =>
                match links with
                | 0 => .error .tooManyLinks
                | fewer + 1 =>
                    descend root fewer (if isAbsolute target then ⟨root, []⟩ else place)
                      (components target ++ rest)
            | some next => descend root links (place.enter name next) rest
      | _ => .error .notADirectory
termination_by (links, path.length)

/-- A tree of files, with the names that lead to the directory where relative paths start. -/
structure Tree where
  root : Node
  location : List String
deriving Repr

namespace Tree

def start (tree : Tree) (path : String) : Place :=
  let root : Place := ⟨tree.root, []⟩
  if isAbsolute path then root else root.follow tree.location

def arrive (tree : Tree) (path : String) : Except Fault Arrival :=
  if path.toList.contains '\x00' then .error .nameWithNul
  else if path = "" then .error .absent
  else if pathLimit ≤ path.utf8ByteSize then .error .nameTooLong
  else descend tree.root linkLimit (tree.start path) (components path)

def resolve (tree : Tree) (path : String) : Except Fault Node := do
  let arrival ← tree.arrive path
  if arrival.missing = [] then return arrival.place.node else .error .absent

end Tree

/-! ## Construction -/

/-- Replaces the entry with a name, or adds it at the end. -/
def putEntry (name : String) (change : Option Node → Node) :
    List (String × Node) → List (String × Node)
  | [] => [(name, change none)]
  | (current, node) :: rest =>
      if current = name then (name, change (some node)) :: rest
      else (current, node) :: putEntry name change rest

/-- The tree with a node behind some names; directories on the way are made. -/
def Node.put (node : Node) : List String → Option Node → Node
  | [], _ => node
  | name :: rest, present =>
      let entries :=
        match present with
        | some (.directory entries) => entries
        | _ => []
      .directory (putEntry name (Node.put node rest) entries)

def Node.isDirectory : Node → Bool
  | .directory _ => true
  | _ => false

/-- The tree with a node where a path leads. What the path misses is made, except for a directory
that is there already: it stays as it is. -/
def Tree.put (tree : Tree) (path : String) (node : Node) : Tree :=
  match tree.arrive path with
  | .error _ => tree
  | .ok arrival =>
      let missing := arrival.missing.filter fun name => name ≠ "" && name ≠ "."
      if missing = [] && arrival.place.node.isDirectory then tree
      else { tree with root := node.put (arrival.place.names ++ missing) (some tree.root) }

end ComplianceEvidence.Files
