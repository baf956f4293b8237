import Hotkeys.Config.Basic
import Hotkeys.Log.Directive
import Hotkeys.Log.Line

/-!
# Log filters

A filter is a list of directives with commas between them. Of the directives that fit a line the
most specific one decides: the one with the longest target, then one that asks for a field. Lines
that no directive fits are not shown.
-/

namespace Hotkeys.Log

namespace Directive

/-- Whether the directive is about a line: its target begins with the name that is asked for, and it
has the field that is asked for. -/
def fits (l : Line) (d : Directive) : Bool :=
  d.isAboutLines && (d.target.getD []).isPrefixOf l.target.toList &&
    d.field.all fun f => l.fields.contains f.name

/-- How much a directive says about the target. -/
def weight (d : Directive) : Nat := d.target.elim 0 fun name => name.length + 1

/-- Whether a directive decides rather than an earlier one, where both fit. -/
def overrules (d earlier : Directive) : Bool :=
  earlier.weight < d.weight || (earlier.weight == d.weight &&
    match earlier.field, d.field with
    | none, _ => true
    | some _, none => false
    | some f, some g => decide (f.name ≤ g.name))

end Directive

/-- A filter of the log, made of its directives. -/
abbrev Filter := List Directive

namespace Filter

/-- Reads the directives between the commas of a text. Pieces with nothing in them do not count. -/
def read? (s : String) : Option Filter :=
  ((s.toList.splitOn ',').filter fun piece => !piece.isEmpty).mapM Directive.read?

/-- The directive that decides about a line. Of two equal ones the later counts. -/
def deciding (f : Filter) (l : Line) : Option Directive :=
  (f.filter (Directive.fits l)).foldl (fun best d =>
    match best with
    | none => some d
    | some earlier => if d.overrules earlier then some d else some earlier) none

/-- Whether a line gets into the log. The most special directive for it decides. -/
def allows (f : Filter) (l : Line) : Bool :=
  (f.deciding l).any fun d => l.level.rank ≤ d.rank

/-- The filter of a text; one that cannot be understood is replaced by the default filter. -/
def ofText (s : String) : Filter :=
  (read? s).getD ((read? Config.defaultLogFilter).getD [])

end Filter

end Hotkeys.Log
