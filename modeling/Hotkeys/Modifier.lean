import Hotkeys.Text.Basic

/-!
# Modifier keys and sets of them

The four modifiers have a canonical order, which is the order of their constructors. A set of
modifiers is one flag per modifier; as a number it is the sum of their masks.
-/

namespace Hotkeys

/-- A key that is held while another one is pressed. -/
inductive Modifier
  | command
  | control
  | option
  | shift
  deriving DecidableEq, Repr

namespace Modifier

/-- All modifiers in canonical order. -/
def all : List Modifier := [command, control, option, shift]

/-- The short name, used wherever a combination is written out. -/
def name : Modifier → String
  | command => "cmd"
  | control => "ctrl"
  | option => "opt"
  | shift => "shift"

/-- The bit that stands for the modifier in a mask. -/
def mask : Modifier → UInt32
  | command => 0x100
  | control => 0x1000
  | option => 0x800
  | shift => 0x200

/-- All names of all modifiers. -/
def names : List (String × Modifier) :=
  [("command", command), ("cmd", command), ("control", control), ("ctrl", control),
    ("option", option), ("opt", option), ("alt", option), ("shift", shift)]

/-- The modifier of a name; blanks around the name and the case of its letters do not count. -/
def named? (cs : List Char) : Option Modifier :=
  names.lookup (String.ofList (Text.lower (Text.trim cs)))

end Modifier

/-- A set of modifiers. -/
structure ModifierSet where
  command : Bool := false
  control : Bool := false
  option : Bool := false
  shift : Bool := false
  deriving DecidableEq, Repr, Inhabited

namespace ModifierSet

def empty : ModifierSet := {}

/-- Whether a modifier is in the set. -/
def contains (s : ModifierSet) : Modifier → Bool
  | .command => s.command
  | .control => s.control
  | .option => s.option
  | .shift => s.shift

/-- The set with one more modifier. -/
def insert (s : ModifierSet) : Modifier → ModifierSet
  | .command => { s with command := true }
  | .control => { s with control := true }
  | .option => { s with option := true }
  | .shift => { s with shift := true }

/-- The set of the modifiers of a list. -/
def ofList (ms : List Modifier) : ModifierSet := ms.foldl insert empty

/-- The members in canonical order. -/
def toList (s : ModifierSet) : List Modifier := Modifier.all.filter s.contains

def isEmpty (s : ModifierSet) : Bool := s.toList.isEmpty

/-- The mask of the set. -/
def bits (s : ModifierSet) : UInt32 := s.toList.foldl (fun acc m => acc ||| m.mask) 0

/-- The mask of all modifiers together. -/
def knownBits : UInt32 := Modifier.all.foldl (fun acc m => acc ||| m.mask) 0

/-- The set of a mask; none if the mask has a bit of no modifier. -/
def ofBits? (bits : UInt32) : Option ModifierSet :=
  if bits &&& ~~~knownBits != 0 then none
  else some (ofList (Modifier.all.filter fun m => bits &&& m.mask != 0))

@[simp] theorem contains_empty (m : Modifier) : empty.contains m = false := by
  cases m <;> rfl

@[simp] theorem contains_insert (s : ModifierSet) (m n : Modifier) :
    (s.insert m).contains n = (decide (n = m) || s.contains n) := by
  cases m <;> cases n <;> simp [insert, contains]

theorem mem_toList {s : ModifierSet} {m : Modifier} : m ∈ s.toList ↔ s.contains m = true := by
  cases m <;> simp [toList, Modifier.all]

/-- Sets of modifiers are equal if they have the same members. -/
theorem ext_contains {s t : ModifierSet} (h : ∀ m, s.contains m = t.contains m) : s = t := by
  cases s; cases t
  have hc := h .command; have hk := h .control; have ho := h .option; have hs := h .shift
  simp_all [contains]

theorem contains_foldl_insert (ms : List Modifier) (s : ModifierSet) (m : Modifier) :
    (ms.foldl insert s).contains m = (decide (m ∈ ms) || s.contains m) := by
  induction ms generalizing s with
  | nil => simp
  | cons first rest ih =>
    rw [List.foldl_cons, ih, contains_insert, Bool.or_left_comm, ← Bool.or_assoc]
    simp

theorem contains_ofList (ms : List Modifier) (m : Modifier) :
    (ofList ms).contains m = decide (m ∈ ms) := by
  simp [ofList, contains_foldl_insert]

/-- A set is made from its list. -/
theorem ofList_toList (s : ModifierSet) : ofList s.toList = s := by
  refine ext_contains fun m => ?_
  rw [contains_ofList, Bool.eq_iff_iff, decide_eq_true_iff, mem_toList]

end ModifierSet

end Hotkeys
