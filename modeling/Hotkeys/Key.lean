import Hotkeys.Text.Basic

/-!
# Keys by name

A key is known by its code. Most codes below `0x80` have a name, and some names have an alias.
-/

namespace Hotkeys

/-- The code of a key. -/
abbrev KeyCode := UInt32

namespace KeyCode

/-- The largest code that a key can have. -/
def max : KeyCode := 0x7F

/-- The names of keys. -/
def names : List (String × KeyCode) :=
  [("a", 0x00), ("s", 0x01), ("d", 0x02), ("f", 0x03), ("h", 0x04), ("g", 0x05), ("z", 0x06),
    ("x", 0x07), ("c", 0x08), ("v", 0x09), ("b", 0x0B), ("q", 0x0C), ("w", 0x0D), ("e", 0x0E),
    ("r", 0x0F), ("y", 0x10), ("t", 0x11), ("1", 0x12), ("2", 0x13), ("3", 0x14), ("4", 0x15),
    ("6", 0x16), ("5", 0x17), ("=", 0x18), ("9", 0x19), ("7", 0x1A), ("-", 0x1B), ("8", 0x1C),
    ("0", 0x1D), ("]", 0x1E), ("o", 0x1F), ("u", 0x20), ("[", 0x21), ("i", 0x22), ("p", 0x23),
    ("return", 0x24), ("l", 0x25), ("j", 0x26), ("'", 0x27), ("k", 0x28), (";", 0x29),
    ("\\", 0x2A), (",", 0x2B), ("/", 0x2C), ("n", 0x2D), ("m", 0x2E), (".", 0x2F), ("tab", 0x30),
    ("space", 0x31), ("`", 0x32), ("delete", 0x33), ("escape", 0x35), ("f17", 0x40),
    ("pad.", 0x41), ("pad*", 0x43), ("pad+", 0x45), ("padclear", 0x47), ("pad/", 0x4B),
    ("padenter", 0x4C), ("pad-", 0x4E), ("f18", 0x4F), ("f19", 0x50), ("pad=", 0x51),
    ("pad0", 0x52), ("pad1", 0x53), ("pad2", 0x54), ("pad3", 0x55), ("pad4", 0x56),
    ("pad5", 0x57), ("pad6", 0x58), ("pad7", 0x59), ("f20", 0x5A), ("pad8", 0x5B),
    ("pad9", 0x5C), ("f5", 0x60), ("f6", 0x61), ("f7", 0x62), ("f3", 0x63), ("f8", 0x64),
    ("f9", 0x65), ("f11", 0x67), ("f13", 0x69), ("f16", 0x6A), ("f14", 0x6B), ("f10", 0x6D),
    ("f12", 0x6F), ("f15", 0x71), ("help", 0x72), ("home", 0x73), ("pageup", 0x74),
    ("forwarddelete", 0x75), ("f4", 0x76), ("end", 0x77), ("f2", 0x78), ("pagedown", 0x79),
    ("f1", 0x7A), ("left", 0x7B), ("right", 0x7C), ("down", 0x7D), ("up", 0x7E)]

/-- Other words for some of the names. -/
def aliases : List (String × String) :=
  [("enter", "return"), ("esc", "escape"), ("backspace", "delete"), ("minus", "-"),
    ("equal", "="), ("comma", ","), ("period", "."), ("slash", "/"), ("backslash", "\\"),
    ("semicolon", ";"), ("quote", "'"), ("grave", "`"), ("leftbracket", "["),
    ("rightbracket", "]"), ("arrowleft", "left"), ("arrowright", "right"), ("arrowup", "up"),
    ("arrowdown", "down")]

/-- The code of a word that is a name or an alias, spelled as in the tables. -/
def ofWord? (word : String) : Option KeyCode :=
  names.lookup ((aliases.lookup word).getD word)

/-- The code of a key by name; blanks around the name and the case of its letters do not count. -/
def named? (cs : List Char) : Option KeyCode :=
  ofWord? (String.ofList (Text.lower (Text.trim cs)))

/-- The name of a key. -/
def name? (code : KeyCode) : Option String :=
  (names.find? fun entry => entry.2 == code).map (·.1)

end KeyCode

end Hotkeys
