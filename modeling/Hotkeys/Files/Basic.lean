import Hotkeys.Text.Utf8

/-!
# What files hold, and why a file cannot be used
-/

namespace Hotkeys.Files

/-- What a file holds: a text, or bytes that are none. -/
inductive Content
  | text (s : String)
  /-- Bytes that are no text. -/
  | binary (bytes : List UInt8)
  deriving DecidableEq, Repr

namespace Content

/-- The content with the given bytes. -/
def ofBytes (bytes : List UInt8) : Content :=
  match Text.decode bytes with
  | .ok s => text s
  | .error _ => binary bytes

/-- The text of a file that holds one. -/
def text? : Content → Option String
  | text s => some s
  | binary _ => none

end Content

/-- Why a file cannot be used. -/
inductive Fault
  | notFound
  | alreadyExists
  | notDirectory
  | isDirectory
  /-- A name, or a path as a whole, takes too many bytes. -/
  | nameTooLong
  /-- A name has a NUL character, which no name can have. -/
  | nulInName
  /-- The bytes of the file are no text. -/
  | notText
  | other (text : String)
  deriving DecidableEq, Repr

/-- The text of a fault, with the system's number for it where it has one. -/
def Fault.message : Fault → String
  | notFound => "No such file or directory (os error 2)"
  | alreadyExists => "File exists (os error 17)"
  | notDirectory => "Not a directory (os error 20)"
  | isDirectory => "Is a directory (os error 21)"
  | nameTooLong => "File name too long (os error 36)"
  | nulInName => "file name contained an unexpected NUL byte"
  | notText => "stream did not contain valid UTF-8"
  | other text => text

end Hotkeys.Files
