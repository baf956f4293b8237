import Hotkeys.Config.Basic
import Hotkeys.Files.Basic
import Hotkeys.Files.Walk

/-!
# Configurations in files

A configuration is kept as a JSON document. Where there is no file the configuration is the default
one. What is read is validated, and what is written is not.
-/

namespace Hotkeys.Config

/-- Why a configuration cannot be loaded or saved. -/
inductive Problem
  | io (fault : Files.Fault)
  | json (p : Json.Problem)
  /-- There is no place for configurations. -/
  | path (reason : String)
  | invalid (reason : String)
  deriving DecidableEq, Repr

/-- The text of a problem with a configuration. -/
def Problem.message : Problem → String
  | io fault => s!"IO error: {fault.message}"
  | json p => s!"JSON error: {p.message}"
  | path reason => s!"Path error: {reason}"
  | invalid reason => s!"Invalid config: {reason}"

/-- The folder of the configuration, inside the folder where the user's configurations are. -/
def folder (home : Files.Path) : Files.Path := home.child "hotbind"

/-- Where the configuration of a user is kept. -/
def defaultPath (home : Files.Path) : Files.Path := (folder home).child "config.json"

/-- The configuration itself if it is valid. -/
def validated (c : Config) : Except Problem Config :=
  (c.validate.mapError .invalid).map fun () => c

/-- The valid configuration that a text stands for. -/
def ofText (s : String) : Except Problem Config :=
  ((parse s).mapError .json).bind validated

/-- Loads a configuration from a file. If there is no file, it is the default one. -/
def load (t : Files.Tree Files.Content) (p : Files.Path) : Except Problem Config :=
  if t.contains p then
    ((t.read p).mapError .io).bind fun content =>
      match content.text? with
      | some s => ofText s
      | none => .error (.io .notText)
  else .ok {}

/-- Writes the configuration. The folder that the file lies in is made if it is missing, and stays
even if the file cannot be written. -/
def save (t : Files.Tree Files.Content) (p : Files.Path) (c : Config) :
    Except Problem Unit × Files.Tree Files.Content :=
  let (result, t) := t.place p (.text c.json.prettyText)
  (result.mapError .io, t)

/-- Deletes the file if there is one. -/
def delete (t : Files.Tree Files.Content) (p : Files.Path) :
    Except Problem (Files.Tree Files.Content) :=
  if t.contains p then (t.remove p).mapError .io else .ok t

end Hotkeys.Config
