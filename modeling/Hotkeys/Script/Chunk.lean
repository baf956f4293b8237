import Hotkeys.Script.Evaluator.Statement
import Hotkeys.Script.Exception
import Hotkeys.Script.Origin
import Hotkeys.Script.Reader.Statement

/-!
# Running the text of a script

Nothing of a script runs if it cannot be read. What begins like a compiled script is always refused.
-/

namespace Hotkeys.Script

/-- The character that compiled scripts begin with. -/
def compiledMark : Char := '\x1b'

/-- What compiled scripts have behind their first character. -/
def signature : List UInt8 := Text.encode "Lua".toList

/-- What is wrong with a compiled script behind its first character: it has a signature, a version
and a format, and then some bytes that no text can hold. -/
def compiledFlaw (content : List UInt8) : String :=
  if content.length < signature.length then "truncated chunk"
  else if !signature.isPrefixOf content then "not a binary chunk"
  else match content.drop signature.length with
    | [] => "truncated chunk"
    | version :: rest =>
      if version != 0x54 then "version mismatch"
      else match rest with
        | [] => "truncated chunk"
        | format :: rest =>
          if format != 0 then "format mismatch"
          else if rest.length < 6 then "truncated chunk"
          else "corrupted chunk"

/-- Why a text is refused that is no script but begins like a compiled one. -/
def compiled? (o : Origin) (cs : List Char) : Option String :=
  match cs with
  | [] => none
  | c :: rest =>
    if c == compiledMark then
      some s!"{o.name}: bad binary format ({compiledFlaw (Text.encode rest)})"
    else none

/-- What a host is told about a script that cannot be read. -/
def Refusal.problem (o : Origin) : Refusal → Problem
  | .flaw f => .exception (.malformed (o.complaint f.line f.message))
  | .tooDeep => .exception (.runtime "C stack overflow")

/-- Reads a script. -/
def readText (o : Origin) (s : String) : Except Problem Block :=
  match compiled? o s.toList with
  | some reason => .error (.exception (.malformed reason))
  | none => (Block.ofText s).mapError (Refusal.problem o)

namespace Interpreter

variable {φ : Type}

/-- The exception that a raised value is for a host. A text ends at its first NUL character. -/
def raised (i : Interpreter φ) : Value (Callable φ) → Exception
  | .failure e => e
  | v => .runtime (String.ofList ((i.textOf v).toList.takeWhile (· != '\x00')))

/-- Runs something to its end. -/
def perform {α : Type} (i : Interpreter φ) (env : Conditions) (r : Run φ α) :
    Except Exception α × Interpreter φ :=
  match (r.run env).run.run i with
  | (.ok a, i) => (.ok a, i)
  | (.error v, i) => (.error (i.raised v), i)

/-- Runs a script. -/
def run (i : Interpreter φ) (env : Conditions) (o : Origin) (text : String) :
    Except Problem Unit × Interpreter φ :=
  match readText o text with
  | .error p => (.error p, i)
  | .ok b =>
    let (r, i) := i.perform env
      ((Evaluator.level Evaluator.mostLevels).block { title := o.title } b)
    (match r with
      | .ok _ => .ok ()
      | .error e => .error (.exception e true), i)

/-- Calls a function of a script; the result tells whether it succeeds. -/
def invoke (i : Interpreter φ) (env : Conditions) (f : Callable φ)
    (args : List (Value (Callable φ))) : Bool × Interpreter φ :=
  let (r, i) := i.perform env
    ((Evaluator.level Evaluator.mostLevels).call [none] (.function f) args)
  (r.toBool, i)

end Interpreter

end Hotkeys.Script
