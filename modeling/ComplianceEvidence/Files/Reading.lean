import ComplianceEvidence.Files.Tree
import ComplianceEvidence.Text.Utf8

/-!
Contract: reading files, and walking over the files below a directory.

Owns: what the program can ask of the files around it, the order of a walk, and the extension of a
file name.

A walk goes into every directory at the place of its name; names ascend by code points. Links below
the directory are passed over.
-/

set_option autoImplicit false

namespace ComplianceEvidence

/-- What paths lead to, links on the way followed. -/
structure Files where
  node : String → Except Files.Fault Files.Node

namespace Files

def ofTree (tree : Tree) : Files := ⟨tree.resolve⟩

def exists? (files : Files) (path : String) : Bool :=
  (files.node path).toOption.isSome

def isDirectory (files : Files) (path : String) : Bool :=
  match files.node path with
  | .ok node => node.isDirectory
  | .error _ => false

def Node.bytes : Node → Except Fault (List UInt8)
  | .file content => .ok content
  | .directory _ => .error .isADirectory
  | .link _ => .error .absent

def textOf (content : List UInt8) : Except Fault String :=
  match Text.Utf8.decode content with
  | .ok text => .ok (String.ofList text)
  | .error _ => .error .notUtf8

def readText (files : Files) (path : String) : Except Fault String := do
  let node ← files.node path
  textOf (← node.bytes)

/-! ## Walks -/

/-- A file below a directory, with the names on the way to it. -/
structure Listed where
  names : List String
  content : List UInt8
deriving DecidableEq, Repr

def Listed.below (name : String) (file : Listed) : Listed :=
  { file with names := name :: file.names }

mutual

/-- The files at or below a node, in the order of a walk. -/
def Node.files : Node → List Listed
  | .file content => [⟨[], content⟩]
  | .link _ => []
  | .directory entries =>
      (entryFiles entries).flatMap fun (name, files) => files.map (Listed.below name)

/-- The files of each entry, by ascending names. -/
def entryFiles : List (String × Node) → List (String × List Listed)
  | [] => []
  | (name, node) :: rest => Ordered.insert name node.files (entryFiles rest)

end

/-- The extension of a file name: what stands behind its last point, unless nothing stands before
the point. -/
def extension? (name : String) : Option String :=
  let reversed := name.toList.reverse
  let last := reversed.takeWhile fun character => character ≠ '.'
  match reversed.drop last.length with
  | '.' :: before => if before.isEmpty then none else some (String.ofList last.reverse)
  | _ => none

def Listed.fileName (file : Listed) : String :=
  file.names.getLast?.getD ""

def joined (directory name : String) : String :=
  if directory.toList.getLast? = some '/' then directory ++ name else directory ++ "/" ++ name

def Listed.path (file : Listed) (directory : String) : String :=
  file.names.foldl joined directory

example : extension? "a.b.yaml" = some "yaml" := by decide +kernel
example : extension? ".yaml" = none := by decide +kernel
example : extension? "..yaml" = some "yaml" := by decide +kernel

end Files

end ComplianceEvidence
