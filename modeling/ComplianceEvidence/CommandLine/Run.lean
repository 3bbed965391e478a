import ComplianceEvidence.CommandLine.Help
import ComplianceEvidence.CommandLine.Summary

/-!
Contract: a run of the program, from its command line to what it prints.

Owns: the loading that both commands begin with, the opening of the evidence, the wording of
failures, and the exit codes.
-/

set_option autoImplicit false

namespace ComplianceEvidence.CommandLine

open Journal (Event)

/-! ## Failures -/

inductive Trouble where
  | configuration (failure : Failure)
  | service (failure : Failure)
  | opening (input : String) (fault : Files.Fault)
  | reading (fault : Files.Fault)
deriving DecidableEq, Repr

namespace Trouble

def headline : Trouble → String
  | configuration _ => "Failed to load configuration"
  | service _ => "Failed to load catalogs and plans"
  | opening input _ => "Failed to open " ++ input
  | reading _ => "Failed to read evidence input"

def failureCauses : Failure → List String
  | .file fault => [(Failure.file fault).message, fault.message]
  | failure => [failure.message]

/-- The causes, each one because of the next. -/
def causes : Trouble → List String
  | configuration failure => failureCauses failure
  | service failure => failureCauses failure
  | opening _ fault => [fault.message]
  | reading fault => [fault.message]

def chain (trouble : Trouble) : String :=
  ": ".intercalate (trouble.headline :: trouble.causes)

/-- Causes with their numbers, which start from zero. -/
def numbered (causes : List String) : String :=
  "\n".intercalate <| causes.zipIdx.map fun (cause, number) =>
    "    " ++ Number.naturalText number ++ ": " ++ indented 7 cause

def causeText : List String → String
  | [cause] => "    " ++ indented 4 cause
  | causes => numbered causes

def text (trouble : Trouble) : String :=
  "Error: " ++ trouble.headline ++ "\n\nCaused by:\n" ++ causeText trouble.causes ++ "\n"

end Trouble

/-! ## Work -/

structure Work (α : Type) where
  events : List Event
  outcome : Except Trouble α

/-- Work that is told in another way when it fails. -/
def Work.of {α : Type} (trouble : Failure → Trouble) (report : Report α) : Work α :=
  ⟨report.events, report.outcome.mapError trouble⟩

def Work.bind {α β : Type} (work : Work α) (next : α → Work β) : Work β :=
  match work.outcome with
  | .error trouble => ⟨work.events, .error trouble⟩
  | .ok value => ⟨work.events ++ (next value).events, (next value).outcome⟩

def loadService (files : Files) (command : Command) : Work Service :=
  (Work.of .configuration
      (Configuration.load files command.configuration command.catalogs)).bind fun configuration =>
    (⟨[.configurationLoaded configuration.catalogs.length configuration.plugins.length],
        .ok configuration⟩ : Work Configuration).bind fun configuration =>
      Work.of .service (Service.load files configuration)

/-- The node that holds evidence; the standard input is a file of its own. -/
def openInput (files : Files) (standard : List UInt8) (input : String) :
    Except Trouble Files.Node :=
  if input = standardInput then .ok (.file standard)
  else (files.node input).mapError (.opening input)

def readInput (node : Files.Node) : Except Trouble (List UInt8) :=
  node.bytes.mapError .reading

/-! ## Runs -/

/-- What a run finds around it. -/
structure World where
  files : Files
  standardInput : List UInt8
  ambient : Option String
  isStyled : Bool
  /-- The latencies of the records in order. -/
  latencies : List Latency

/-- What a run leaves behind. -/
structure Ending where
  code : Nat
  output : String
  errors : String
  events : List Event

def configurationPath (command : Command) : String :=
  command.configuration.getD Configuration.defaultPath

def readsStandardInput (command : Command) : Bool :=
  command.verb = .enrich && command.input = standardInput

/-- The paths that a command looks at, as far as the configuration can be read. -/
def pathsOf (files : Files) (command : Command) : List String :=
  let configured :=
    match (Configuration.load files command.configuration command.catalogs).outcome with
    | .ok configuration =>
        configuration.catalogs ++ configuration.plugins.map Plugin.directory
    | .error _ => []
  configurationPath command :: (configured ++ [command.input])

def failed (trouble : Trouble) (events : List Event) : Ending :=
  ⟨1, "", trouble.text, events⟩

def enrichInput (world : World) (command : Command) (service : Service) :
    Except Trouble Stream.Result := do
  let node ← openInput world.files world.standardInput command.input
  let bytes ← readInput node
  return Stream.enrich service world.latencies bytes

/-- Runs a command with the service that was loaded for it. -/
def perform (world : World) (command : Command) (service : Service) (events : List Event) :
    Ending :=
  match command.verb with
  | .check => ⟨0, summary service, "", events⟩
  | .enrich =>
      match enrichInput world command service with
      | .error trouble => failed trouble events
      | .ok result =>
          { code := 0
            output := result.output
            errors :=
              result.errors ++ account result.service.counters ++
                rejectionAccount result.rejections.length
            events := events ++ result.events }

def runCommand (world : World) (command : Command) : Ending :=
  let work := loadService world.files command
  match work.outcome with
  | .error trouble => failed trouble work.events
  | .ok service =>
      perform world command service
        (work.events ++ [.serviceReady service.scope.size service.registry.size])

def refuse (world : World) : Refusal → Ending
  | .helpAsked topic => ⟨0, helpText world.isStyled world.ambient topic, "", []⟩
  | .versionAsked topic => ⟨0, versionText topic, "", []⟩
  | .commandMissing => ⟨2, "", helpText world.isStyled world.ambient .program, []⟩
  | refusal => ⟨2, "", refusalText refusal, []⟩

def run (world : World) (arguments : List String) : Ending :=
  match parse world.ambient arguments with
  | .error refusal => refuse world refusal
  | .ok command => runCommand world command

/-- The journal of a run, which is shown to those who ask for it. -/
def shownJournal (world : World) (arguments : List String) (ending : Ending) : String :=
  match parse world.ambient arguments with
  | .ok command =>
      if command.isVerbose then String.join (ending.events.map Event.line) else ""
  | .error _ => ""

end ComplianceEvidence.CommandLine
