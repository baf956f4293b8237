/-!
# Blanks, letter case and positions in texts

Texts are lists of characters where they are looked into. A character is blank if it has the Unicode
property White_Space; trimming takes blanks off both ends of a text and leaves those inside alone.
Names of keys and modifiers are ASCII words, so a text is lower-cased only to be compared with such
words. A message that ends in ` at line L column C` tells a position besides what it says.
-/

namespace Hotkeys.Text

/-! ## Blanks -/

/-- The Unicode property White_Space. -/
def isBlank (c : Char) : Bool :=
  let n := c.toNat
  (0x09 ≤ n && n ≤ 0x0D) || n == 0x20 || n == 0x85 || n == 0xA0 || n == 0x1680 ||
    (0x2000 ≤ n && n ≤ 0x200A) || n == 0x2028 || n == 0x2029 || n == 0x202F || n == 0x205F ||
    n == 0x3000

/-- A text without the blanks at its front. -/
def trimStart (cs : List Char) : List Char := cs.dropWhile isBlank

/-- A text without the blanks at its end. -/
def trimEnd (cs : List Char) : List Char := (cs.reverse.dropWhile isBlank).reverse

/-- A text without the blanks at both ends. -/
def trim (cs : List Char) : List Char := trimEnd (trimStart cs)

/-! ## Letter case -/

/-- The characters whose Unicode lower case is ASCII are `A` to `Z` and the Kelvin sign. The lower
case of any other character holds a character beyond ASCII, or is the character itself, so leaving
it alone changes no comparison with an ASCII word. -/
def lowerChar (c : Char) : Char :=
  if c == '\u212a' then 'k' else c.toLower

/-- The lower case of a text, for comparison with ASCII words only. -/
def lower (cs : List Char) : List Char := cs.map lowerChar

/-! ## Positions -/

/-- Takes a 64-bit number off the front of a text whose characters are in reverse order. -/
def dropNumberBack? (cs : List Char) : Option (List Char) :=
  let digits := (cs.takeWhile Char.isDigit).reverse
  let n := digits.foldl (fun n c => 10 * n + (c.toNat - 48)) 0
  if digits.isEmpty || UInt64.size ≤ n then none else some (cs.dropWhile Char.isDigit)

/-- Takes words off the front of a text whose characters are in reverse order. -/
def dropWordsBack? (words : String) (cs : List Char) : Option (List Char) :=
  let back := words.toList.reverse
  if back.isPrefixOf cs then some (cs.drop back.length) else none

/-- The message without a position at its end. -/
def dropPosition (message : String) : String :=
  let rest := (dropNumberBack? message.toList.reverse).bind (dropWordsBack? " column ")
    |>.bind dropNumberBack? |>.bind (dropWordsBack? " at line ")
  rest.elim message fun cs => String.ofList cs.reverse

end Hotkeys.Text
