import Hotkeys.Cli

/-!
# The program

The files that the program can use are read, the program is started on them, and it ends when its
input ends.
-/

namespace Hotkeys.Cli

/-- What there is at a path, if there is anything. -/
def nodeAt (path : String) : IO (Option FileTree) := do
  match ← (IO.FS.readBinFile path).toBaseIO with
  | .ok bytes => return some (.file (.ofBytes bytes.toList))
  | .error (.noFileOrDirectory _ _ _) => return none
  | .error (.inappropriateType _ 21 _) => return some .empty
  | .error (.inappropriateType _ _ _) => return none
  | .error e => throw e

/-- Adds what there is at a path, with the folders that it lies in. -/
def addPath (files : FileTree) (path : String) : IO FileTree := do
  let p := Files.Path.ofText path
  if p.check.toBool then
    match ← nodeAt path with
    | none => return files
    | some (.file content) => return (files.place p content).2
    | some (.folder _) => return (files.makeFolder p).2
  else return files

/-- Writes a line of the log. -/
def printLine (line : Log.Line) : IO Unit :=
  let level := spaces (5 - line.level.name.length) ++ line.level.name
  IO.println s!"{level} {line.target}: {line.text}"

/-- Writes what is left of an output, `shown` lines of whose log have been written before. -/
def finish (o : Output) (shown : Nat) : IO UInt32 := do
  (o.log.drop shown).forM printLine
  IO.print o.text
  IO.eprint o.errors
  return UInt32.ofNat o.exit

/-- Waits until there is no more input. -/
partial def waitForEnd (input : IO.FS.Stream) : IO Unit := do
  unless (← input.getLine).isEmpty do waitForEnd input

/-- Runs the program on the files of the machine. -/
def runProgram (args : List String) : IO UInt32 := do
  let home := configHome? (← IO.getEnv "XDG_CONFIG_HOME") (← IO.getEnv "HOME")
  let files ← match Request.read {} args with
    | .run o => do
      let path := match o.config, home with
        | some path, _ => path
        | none, some home => (Config.defaultPath home).text
        | none, none => ""
      let files ← addPath .empty path
      match loadConfig files home o with
      | .ok c => c.script.path.elim (pure files) (addPath files)
      | .error _ => pure files
    | _ => pure .empty
  match start files home args with
  | .ended o => finish o 0
  | .waiting w =>
    let shown := kept w.filter w.log
    shown.forM printLine
    IO.print w.text
    waitForEnd (← IO.getStdin)
    finish { w.stop with text := "" } shown.length

end Hotkeys.Cli

def main (args : List String) : IO UInt32 := Hotkeys.Cli.runProgram args
