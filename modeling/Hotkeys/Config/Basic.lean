import Hotkeys.Backend.Kind
import Hotkeys.Config.Binding

/-!
# The configuration

Every field of a configuration has a default, so a document may leave out any of them. The
identifiers of configured hotkeys must lie below those that scripts are given.
-/

namespace Hotkeys

namespace Backend.Kind

/-- A kind is written as its name. -/
def json (k : Kind) : Json := .string k.name

/-- Reads the name of a kind. -/
def read : Json.Reader Kind := Json.readVariant (all.map fun k => (k.name, k))

end Backend.Kind

namespace Config

/-- The part of a configuration that is about scripts. -/
structure Script where
  /-- The script that is loaded at the start. -/
  path : Option String := none
  /-- Where the identifiers of scripts begin. -/
  idBase : HotkeyId := 1000
  deriving DecidableEq, Repr, Inhabited

namespace Script

/-- The path is written as `null` if there is none. -/
def json (s : Script) : Json :=
  .object [("path", .ofOption .string s.path), ("script_id_base", .word s.idBase)]

/-- The fields of the part about scripts. -/
def record : Json.Record Script where
  title := "struct ScriptConfig"
  start := {}
  fields := [
    { name := "path",
      read := fun cs => (Json.readOption (Json.readText "path string") cs).map fun (path, rest) =>
        (fun s => { s with path }, rest) },
    { name := "script_id_base",
      read := fun cs => (Json.readWord cs).map fun (idBase, rest) =>
        (fun s => { s with idBase }, rest) }]

end Script

/-- The filter of the log where none is configured, or none that can be understood. -/
def defaultLogFilter : String := "hotbind=debug,warn"

/-- The part of a configuration that is about the log. -/
structure Logging where
  filter : String := defaultLogFilter
  deriving DecidableEq, Repr, Inhabited

namespace Logging

/-- The part about the log as a document. -/
def json (l : Logging) : Json := .object [("filter", .string l.filter)]

/-- The fields of the part about the log. -/
def record : Json.Record Logging where
  title := "struct LoggingConfig"
  start := {}
  fields := [
    { name := "filter",
      read := fun cs => (Json.readText "a string" cs).map fun (filter, rest) =>
        (fun _ => { filter }, rest) }]

end Logging

end Config

/-- A configuration of the program. Every field has a default, so a text may leave any of them out.
-/
structure Config where
  backend : Backend.Kind := .auto
  /-- Whether the bridge aborts on errors of the program that uses it. The default is that of a debug
  build; a release build would have `false` here. -/
  strict : Bool := true
  script : Config.Script := {}
  logging : Config.Logging := {}
  hotkeys : Bindings := {}
  deriving DecidableEq, Repr, Inhabited

namespace Config

/-- The document of a configuration, with all fields in their order. -/
def json (c : Config) : Json :=
  .object [("backend", c.backend.json), ("strict", .bool c.strict), ("script", c.script.json),
    ("logging", c.logging.json), ("hotkeys", c.hotkeys.json)]

/-- The fields of a configuration. -/
def record : Json.Record Config where
  title := "struct AppConfig"
  start := {}
  fields := [
    { name := "backend",
      read := fun cs => (Backend.Kind.read cs).map fun (backend, rest) =>
        (fun c => { c with backend }, rest) },
    { name := "strict",
      read := fun cs => (Json.readBool cs).map fun (strict, rest) =>
        (fun c => { c with strict }, rest) },
    { name := "script",
      read := fun cs => (Script.record.read cs).map fun (script, rest) =>
        (fun c => { c with script }, rest) },
    { name := "logging",
      read := fun cs => (Logging.record.read cs).map fun (logging, rest) =>
        (fun c => { c with logging }, rest) },
    { name := "hotkeys",
      read := fun cs => (Bindings.record.read cs).map fun (hotkeys, rest) =>
        (fun c => { c with hotkeys }, rest) }]

/-- Reads a configuration from a text that holds nothing else. -/
def parse (s : String) : Except Json.Problem Config := Json.readWhole record.read s

/-- Why a configuration cannot be used, as a text. -/
def validate (c : Config) : Except String Unit :=
  match c.hotkeys.validate with
  | .error e => .error e.message
  | .ok () =>
    match c.hotkeys.list.find? fun b => c.script.idBase ≤ b.id with
    | some b => .error
      s!"binding id {b.id} collides with script id range starting at {c.script.idBase}"
    | none => .ok ()

/-- The configuration with another choice of strictness. -/
def setStrict (c : Config) (strict : Bool) : Config := { c with strict }

end Config

end Hotkeys
