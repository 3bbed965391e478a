import ComplianceEvidence.CommandLine.Run

/-!
Contract: the program.

Owns: looking at the files that a command names, reading the standard input, and printing. What is
looked at is taken as it is at the start of a run.
-/

set_option autoImplicit false

namespace ComplianceEvidence.Main

open CommandLine (Command World)

/-- The reason behind a failure of the file system. Its number may stand below zero. -/
def faultOf : IO.Error → Files.Fault
  | .inappropriateType _ _ _ => .notADirectory
  | .invalidArgument _ number _ =>
      if number = 40 || number = 0 - 40 then .tooManyLinks else .nameTooLong
  | _ => .absent

/-- The node with a path and all that is below it. Links are followed at the path itself only. -/
partial def nodeAt (path : String) (followsLink : Bool) : IO Files.Node := do
  let place := (← IO.currentDir) / path
  let information ← if followsLink then place.metadata else place.symlinkMetadata
  match information.type with
  | .dir =>
      let entries ← place.readDir
      let nodes ← entries.toList.mapM fun entry => do
        return (entry.fileName, ← nodeAt (Files.joined path entry.fileName) false)
      return .directory nodes
  | .file => return .file (← IO.FS.readBinFile place).toList
  | _ => return .link path

def look (path : String) : IO (Except Files.Fault Files.Node) := do
  if path = "" then return .error .absent
  if path.toList.contains '\x00' then return .error .nameWithNul
  try
    return .ok (← nodeAt path true)
  catch failure => return .error (faultOf failure)

def gather (paths : List String) : IO Files := do
  let nodes ← paths.mapM fun path => do return (path, ← look path)
  return ⟨fun path => (nodes.lookup path).getD (.error .absent)⟩

/-- The files that a command needs. The configuration tells of the others. -/
def filesFor (command : Command) : IO Files := do
  let first ← gather [CommandLine.configurationPath command]
  gather (CommandLine.pathsOf first command)

partial def readRest (stream : IO.FS.Stream) (read : ByteArray) : IO ByteArray := do
  let block ← stream.read 65536
  if block.isEmpty then return read else readRest stream (read ++ block)

def standardInputFor (command : Command) : IO (List UInt8) := do
  if CommandLine.readsStandardInput command then
    return (← readRest (← IO.getStdin) .empty).toList
  else return []

/-- The variables of the environment that a run depends on. -/
def readSettings : IO (String → Option String) := do
  let values ← CommandLine.variableNames.mapM fun name => do return (name, ← IO.getEnv name)
  return fun name => (values.lookup name).join

/-- The surroundings of a run; without a command there is nothing to look at. -/
def surroundings (arguments : List String) : IO World := do
  let setting ← readSettings
  let ambient := setting CommandLine.variableName
  let isStyled := CommandLine.showsStyles (← (← IO.getStdout).isTty) setting
  match CommandLine.parse ambient arguments with
  | .error _ => return ⟨⟨fun _ => .error .absent⟩, [], ambient, isStyled, []⟩
  | .ok command =>
      let files ← filesFor command
      return ⟨files, ← standardInputFor command, ambient, isStyled, []⟩

end ComplianceEvidence.Main

def main (arguments : List String) : IO UInt32 := do
  let world ← ComplianceEvidence.Main.surroundings arguments
  let ending := ComplianceEvidence.CommandLine.run world arguments
  (← IO.getStdout).putStr ending.output
  (← IO.getStderr).putStr
    (ComplianceEvidence.CommandLine.shownJournal world arguments ending ++ ending.errors)
  return ending.code.toUInt32
