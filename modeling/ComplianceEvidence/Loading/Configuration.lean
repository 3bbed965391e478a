import ComplianceEvidence.Journal.Report
import ComplianceEvidence.Json.Value
import ComplianceEvidence.Yaml.Record

/-!
Contract: the configuration, which names the catalogs and the directories with plans.

Owns: its YAML and JSON forms, and where it comes from: a given file, the usual file if there is
one, or nothing at all. Catalogs given besides it replace the configured ones.
-/

set_option autoImplicit false

namespace ComplianceEvidence

/-- A policy engine and the directory with the plans for it. -/
structure Plugin where
  id : String
  /-- The empty path disables the plugin. -/
  directory : String := ""
deriving DecidableEq, Repr

structure Configuration where
  catalogs : List String := []
  plugins : List Plugin := []
deriving DecidableEq, Repr

def Plugin.isEnabled (plugin : Plugin) : Bool :=
  plugin.directory ≠ ""

/-! ## Documents -/

open Yaml (Shape readList readPath readText required)

structure Plugin.Draft where
  id : Option String := none
  directory : Option String := none

def Plugin.shape : Shape Draft Plugin where
  expected := "struct PluginConfig"
  fields :=
    [.of "id" Draft.id (fun value draft => { draft with id := some value }) readText,
      .of "evaluations-dir" Draft.directory
        (fun value draft => { draft with directory := some value }) readPath]
  blank := {}
  finish := fun draft => do
    let id ← required "id" draft.id
    return { id, directory := draft.directory.getD "" }

structure Configuration.Draft where
  catalogs : Option (List String) := none
  plugins : Option (List Plugin) := none

def Configuration.shape : Shape Draft Configuration where
  expected := "struct CompassConfig"
  fields :=
    [.of "catalogs" Draft.catalogs
        (fun value draft => { draft with catalogs := some value }) (readList readPath),
      .of "plugins" Draft.plugins
        (fun value draft => { draft with plugins := some value }) (readList Plugin.shape.read)]
  blank := {}
  finish := fun draft => .ok ⟨draft.catalogs.getD [], draft.plugins.getD []⟩

namespace Configuration

def ofText (text : String) : Except Yaml.Fault Configuration :=
  shape.readDocument text

open Json (Value)

def pluginToJson (plugin : Plugin) : Value :=
  .object [("id", .text plugin.id), ("evaluations-dir", .text plugin.directory)]

def toJson (configuration : Configuration) : Value :=
  .object
    [("catalogs", Json.texts configuration.catalogs),
      ("plugins", .list (configuration.plugins.map pluginToJson))]

/-! ## Loading -/

def defaultPath : String := "compass.yaml"

def ofFile (files : Files) (path : String) : Except Failure Configuration :=
  match files.readText path with
  | .error fault => .error (.file fault)
  | .ok text => (ofText text).mapError (.configurationMalformed path)

/-- The configuration as it is found; a path that is given must exist. -/
def find (files : Files) (path : Option String) : Report Configuration :=
  match path with
  | some given =>
      if files.exists? given then .ofExcept (ofFile files given)
      else .fail (.configurationAbsent given)
  | none =>
      if files.exists? defaultPath then .ofExcept (ofFile files defaultPath)
      else do
        Report.note .defaultsUsed
        return {}

/-- The configuration with the catalogs that are given besides it, if any are. -/
def withCatalogs (configuration : Configuration) (catalogs : List String) : Configuration :=
  if catalogs.isEmpty then configuration else { configuration with catalogs := catalogs }

def load (files : Files) (path : Option String) (catalogs : List String) :
    Report Configuration := do
  let configuration ← find files path
  return configuration.withCatalogs catalogs

end Configuration

end ComplianceEvidence
