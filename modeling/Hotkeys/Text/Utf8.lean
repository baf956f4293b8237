import Hotkeys.Text.Number

/-!
# Text as bytes

The length of a text in UTF-8, and reading it. Only the shortest form of a character is accepted,
and no surrogate. Where bytes are no text, the fault tells where the first bad sequence begins and
how long it is.
-/

namespace Hotkeys.Text

/-- The number of bytes that a text takes. -/
def byteCount : List Char → Nat
  | [] => 0
  | c :: rest => c.utf8Size + byteCount rest

/-- Where bytes stop being UTF-8. -/
inductive Utf8Fault
  /-- Bytes that cannot stand where they stand. -/
  | invalid (index length : Nat)
  /-- The bytes end inside a character. -/
  | incomplete (index : Nat)
  deriving DecidableEq, Repr

/-- The message for bytes that are not UTF-8. -/
def Utf8Fault.message : Utf8Fault → String
  | invalid index length => s!"invalid utf-8 sequence of {length} bytes from index {index}"
  | incomplete index => s!"incomplete utf-8 byte sequence from index {index}"

/-- A byte that continues a character. -/
def isContinuation (b : UInt8) : Bool := 0x80 ≤ b && b ≤ 0xBF

/-- The second bytes that may follow the first byte of a character of three bytes. -/
def isSecondOfThree (a b : UInt8) : Bool :=
  isContinuation b && (a != 0xE0 || 0xA0 ≤ b) && (a != 0xED || b ≤ 0x9F)

/-- The second bytes that may follow the first byte of a character of four bytes. -/
def isSecondOfFour (a b : UInt8) : Bool :=
  isContinuation b && (a != 0xF0 || 0x90 ≤ b) && (a != 0xF4 || b ≤ 0x8F)

/-- The six bits that a continuation byte adds. -/
def tailBits (b : UInt8) : Nat := b.toNat % 64

/-- Reads the bytes that begin at an index. -/
def decodeFrom (index : Nat) : List UInt8 → Except Utf8Fault (List Char)
  | [] => .ok []
  | a :: rest =>
    if a < 0x80 then (decodeFrom (index + 1) rest).map (Char.ofNat a.toNat :: ·)
    else if a < 0xC2 then .error (.invalid index 1)
    else if a < 0xE0 then
      match rest with
      | [] => .error (.incomplete index)
      | b :: rest =>
        if ¬ isContinuation b then .error (.invalid index 1)
        else (decodeFrom (index + 2) rest).map (Char.ofNat (a.toNat % 32 * 64 + tailBits b) :: ·)
    else if a < 0xF0 then
      match rest with
      | [] => .error (.incomplete index)
      | [b] => .error (if isSecondOfThree a b then .incomplete index else .invalid index 1)
      | b :: c :: rest =>
        if ¬ isSecondOfThree a b then .error (.invalid index 1)
        else if ¬ isContinuation c then .error (.invalid index 2)
        else (decodeFrom (index + 3) rest).map
          (Char.ofNat (a.toNat % 16 * 4096 + tailBits b * 64 + tailBits c) :: ·)
    else if a < 0xF5 then
      match rest with
      | [] => .error (.incomplete index)
      | [b] => .error (if isSecondOfFour a b then .incomplete index else .invalid index 1)
      | [b, c] =>
        .error (if ¬ isSecondOfFour a b then .invalid index 1
          else if isContinuation c then .incomplete index else .invalid index 2)
      | b :: c :: d :: rest =>
        if ¬ isSecondOfFour a b then .error (.invalid index 1)
        else if ¬ isContinuation c then .error (.invalid index 2)
        else if ¬ isContinuation d then .error (.invalid index 3)
        else (decodeFrom (index + 4) rest).map
          (Char.ofNat
            (a.toNat % 8 * 262144 + tailBits b * 4096 + tailBits c * 64 + tailBits d) :: ·)
    else .error (.invalid index 1)

/-- The text that bytes stand for. -/
def decode (bytes : List UInt8) : Except Utf8Fault String :=
  (decodeFrom 0 bytes).map String.ofList

def encodeChar (c : Char) : List UInt8 := (String.singleton c).toUTF8.toList

/-- The bytes of a text. -/
def encode (cs : List Char) : List UInt8 := cs.flatMap encodeChar

/-- The characters in front of an index that the bytes are known to be good up to. -/
def goodPart (index : Nat) (bytes : List UInt8) : List Char :=
  (decodeFrom 0 (bytes.take index)).toOption.getD []

/-- Reads bytes with a replacement character in place of each bad sequence. -/
def mend : Nat → List UInt8 → List Char
  | 0, _ => []
  | fuel + 1, bytes =>
    match decodeFrom 0 bytes with
    | .ok cs => cs
    | .error (.invalid index length) =>
      goodPart index bytes ++ '\ufffd' :: mend fuel (bytes.drop (index + length))
    | .error (.incomplete index) => goodPart index bytes ++ ['\ufffd']

/-- Bytes as text, whatever they are. -/
def mended (bytes : List UInt8) : String := String.ofList (mend (bytes.length + 1) bytes)

end Hotkeys.Text
