import Hotkeys.Text.Quoted

/-!
# What can be wrong with a JSON text

A text may end too early, may be malformed, or may be well-formed and hold something else than is
wanted. The first problem from left to right is the one that is reported.
-/

namespace Hotkeys.Json

/-- What was being read when the text ended. -/
inductive Place
  | list
  | object
  | string
  | value
  deriving DecidableEq, Repr

/-- How a text departs from the grammar. -/
inductive Flaw
  | expectedColon
  | expectedListCommaOrEnd
  | expectedObjectCommaOrEnd
  | expectedIdent
  | expectedValue
  | invalidEscape
  | invalidNumber
  | numberOutOfRange
  | controlCharacter
  | keyMustBeString
  | loneSurrogate
  | trailingComma
  | trailingCharacters
  | endOfHexEscape
  deriving DecidableEq, Repr

/-- What stands where something else was wanted. -/
inductive Found
  | null
  | boolean (b : Bool)
  | integer (n : Int)
  | float (text : String)
  | string (s : String)
  | sequence
  | map
  deriving DecidableEq, Repr

/-- How well-formed text fails to be what is wanted. -/
inductive Misfit
  | type (found : Found) (expected : String)
  | value (found : Found) (expected : String)
  | length (n : Nat) (expected : String)
  | missingField (name : String)
  | duplicateField (name : String)
  | unknownVariant (name : String) (known : List String)
  /-- The text of a value is refused by the type that it is meant for. -/
  | refused (reason : String)
  deriving DecidableEq, Repr

/-- Why a text is not read: it has ended too soon, it is no JSON, or it is JSON of something else.
-/
inductive Problem
  | ended (inside : Place)
  | malformed (flaw : Flaw)
  | misfit (m : Misfit)
  deriving DecidableEq, Repr

/-- The message for a text that has ended inside something. -/
def Place.message : Place → String
  | list => "EOF while parsing a list"
  | object => "EOF while parsing an object"
  | string => "EOF while parsing a string"
  | value => "EOF while parsing a value"

/-- The message for a text that is no JSON. -/
def Flaw.message : Flaw → String
  | expectedColon => "expected `:`"
  | expectedListCommaOrEnd => "expected `,` or `]`"
  | expectedObjectCommaOrEnd => "expected `,` or `\x7d`"
  | expectedIdent => "expected ident"
  | expectedValue => "expected value"
  | invalidEscape => "invalid escape"
  | invalidNumber => "invalid number"
  | numberOutOfRange => "number out of range"
  | controlCharacter => "control character (\\u0000-\\u001F) found while parsing a string"
  | keyMustBeString => "key must be a string"
  | loneSurrogate => "lone leading surrogate in hex escape"
  | trailingComma => "trailing comma"
  | trailingCharacters => "trailing characters"
  | endOfHexEscape => "unexpected end of hex escape"

/-- How a message calls what has been found in place of something else. -/
def Found.message : Found → String
  | null => "null"
  | boolean b => s!"boolean `{b}`"
  | integer n => s!"integer `{n}`"
  | float text => s!"floating point `{text}`"
  | string s => "string " ++ Text.quoted s
  | sequence => "sequence"
  | map => "map"

/-- The known variants as a message lists them. -/
def listVariants (known : List String) : String :=
  match known with
  | [one] => s!"expected `{one}`"
  | [one, other] => s!"expected `{one}` or `{other}`"
  | _ => "expected one of " ++ ", ".intercalate (known.map fun name => s!"`{name}`")

/-- The message for JSON that is not what is wanted. -/
def Misfit.message : Misfit → String
  | type found expected => s!"invalid type: {found.message}, expected {expected}"
  | value found expected => s!"invalid value: {found.message}, expected {expected}"
  | length n expected => s!"invalid length {n}, expected {expected}"
  | missingField name => s!"missing field `{name}`"
  | duplicateField name => s!"duplicate field `{name}`"
  | unknownVariant name known => s!"unknown variant `{name}`, {listVariants known}"
  | refused reason => reason

/-- The message, without a position in the text. -/
def Problem.message : Problem → String
  | ended inside => inside.message
  | malformed flaw => flaw.message
  | misfit m => m.message

end Hotkeys.Json
