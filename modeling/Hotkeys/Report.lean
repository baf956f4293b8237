import Hotkeys.Config.Store
import Hotkeys.Phase
import Hotkeys.Script.Exception

/-!
# Failures as they are reported

Every failure has a code. The code decides what the user is told, what the user can do about it and
whether the program can go on.
-/

namespace Hotkeys

/-- Whatever a part of the program can fail with. -/
inductive Failure
  | hotkey (e : Error)
  | config (p : Config.Problem)
  | script (p : Script.Problem)
  | state (b : Phase.Breach)
  | internal (text : String)

/-- The code of a report, by which programs tell failures apart. -/
inductive Code
  | hotkeyRegistrationFailed
  | hotkeyUnregistrationFailed
  | hotkeyInvalidKey
  | hotkeyDuplicateIdentifier
  | hotkeyUnknownIdentifier
  | hotkeyAlreadyBound
  | hotkeyBackendUnavailable
  | hotkeySlotAllocationFailed
  | scriptLoadFailed
  | scriptRuntimeError
  | configLoadFailed
  | configInvalid
  | inconsistentState
  | internalError
  deriving DecidableEq, Repr, Inhabited

namespace Code

/-- All codes, in the order of their declaration. -/
def all : List Code :=
  [hotkeyRegistrationFailed, hotkeyUnregistrationFailed, hotkeyInvalidKey,
    hotkeyDuplicateIdentifier, hotkeyUnknownIdentifier, hotkeyAlreadyBound,
    hotkeyBackendUnavailable, hotkeySlotAllocationFailed, scriptLoadFailed, scriptRuntimeError,
    configLoadFailed, configInvalid, inconsistentState, internalError]

/-- The code as documents write it. -/
def name : Code → String
  | hotkeyRegistrationFailed => "HOTKEY_REGISTRATION_FAILED"
  | hotkeyUnregistrationFailed => "HOTKEY_UNREGISTRATION_FAILED"
  | hotkeyInvalidKey => "HOTKEY_INVALID_KEY"
  | hotkeyDuplicateIdentifier => "HOTKEY_DUPLICATE_IDENTIFIER"
  | hotkeyUnknownIdentifier => "HOTKEY_UNKNOWN_IDENTIFIER"
  | hotkeyAlreadyBound => "HOTKEY_ALREADY_BOUND"
  | hotkeyBackendUnavailable => "HOTKEY_BACKEND_UNAVAILABLE"
  | hotkeySlotAllocationFailed => "HOTKEY_SLOT_ALLOCATION_FAILED"
  | scriptLoadFailed => "SCRIPT_LOAD_FAILED"
  | scriptRuntimeError => "SCRIPT_RUNTIME_ERROR"
  | configLoadFailed => "CONFIG_LOAD_FAILED"
  | configInvalid => "CONFIG_INVALID"
  | inconsistentState => "INCONSISTENT_STATE"
  | internalError => "INTERNAL_ERROR"

/-- The code as the log writes it. -/
def title : Code → String
  | hotkeyRegistrationFailed => "HotkeyRegistrationFailed"
  | hotkeyUnregistrationFailed => "HotkeyUnregistrationFailed"
  | hotkeyInvalidKey => "HotkeyInvalidKey"
  | hotkeyDuplicateIdentifier => "HotkeyDuplicateIdentifier"
  | hotkeyUnknownIdentifier => "HotkeyUnknownIdentifier"
  | hotkeyAlreadyBound => "HotkeyAlreadyBound"
  | hotkeyBackendUnavailable => "HotkeyBackendUnavailable"
  | hotkeySlotAllocationFailed => "HotkeySlotAllocationFailed"
  | scriptLoadFailed => "ScriptLoadFailed"
  | scriptRuntimeError => "ScriptRuntimeError"
  | configLoadFailed => "ConfigLoadFailed"
  | configInvalid => "ConfigInvalid"
  | inconsistentState => "InconsistentState"
  | internalError => "InternalError"

def variants : List (String × Code) := all.map fun c => (c.name, c)

/-- Reads the name of a code. -/
def read : Json.Reader Code := Json.readVariant variants

/-- What the user is told. -/
def message : Code → String
  | hotkeyRegistrationFailed => "无法注册热键，该组合可能已被其他程序占用"
  | hotkeyUnregistrationFailed => "注销热键失败"
  | hotkeyInvalidKey => "热键格式无效"
  | hotkeyDuplicateIdentifier => "热键标识符重复"
  | hotkeyUnknownIdentifier => "热键未注册"
  | hotkeyAlreadyBound => "热键已绑定处理函数"
  | hotkeyBackendUnavailable => "热键后端不可用"
  | hotkeySlotAllocationFailed => "无法保存热键处理函数"
  | scriptLoadFailed => "无法读取脚本文件"
  | scriptRuntimeError => "脚本执行出错"
  | configLoadFailed => "无法读取配置文件"
  | configInvalid => "配置文件格式错误"
  | inconsistentState => "热键状态不一致"
  | internalError => "内部错误"

/-- What the user can do about it. -/
def hint? : Code → Option String
  | hotkeyRegistrationFailed => some "请换一个按键组合，或关闭占用该组合的程序"
  | hotkeyInvalidKey => some "使用 `cmd+shift+a` 这样的格式，修饰键为 cmd、ctrl、opt、shift"
  | hotkeyBackendUnavailable => some "请在配置中把 backend 设置为 portable 或 simulated"
  | configInvalid => some "请检查配置文件的 JSON 格式"
  | _ => none

/-- Whether the program can go on. -/
def isRecoverable : Code → Bool
  | inconsistentState | internalError | configInvalid => false
  | _ => true

end Code

/-- What is reported about a failure. -/
structure Report where
  code : Code
  message : String
  detail : Option String := none
  hint : Option String := none
  recoverable : Bool := true
  deriving DecidableEq, Repr, Inhabited

namespace Report

/-- The document of a report. -/
def json (r : Report) : Json :=
  .object [("code", .string r.code.name), ("message", .string r.message),
    ("detail", .ofOption .string r.detail), ("recovery_hint", .ofOption .string r.hint),
    ("recoverable", .bool r.recoverable)]

/-- The report as it is shown, with the hint on a line of its own. -/
def text (r : Report) : String :=
  r.message ++ r.detail.elim "" (fun detail => s!" ({detail})") ++
    r.hint.elim "" (fun hint => s!"\n建议: {hint}")

/-- The fields of a report. Only the code, the message and whether one can go on are required. -/
def record : Json.Record Report where
  title := "struct ErrorContext"
  start := default
  fields := [
    { name := "code", required := true, positional := true,
      read := fun cs => (Code.read cs).map fun (code, rest) => (fun r => { r with code }, rest) },
    { name := "message", required := true, positional := true,
      read := fun cs => (Json.readText "a string" cs).map fun (message, rest) =>
        (fun r => { r with message }, rest) },
    { name := "detail", positional := true,
      read := fun cs => (Json.readOption Json.readText cs).map fun (detail, rest) =>
        (fun r => { r with detail }, rest) },
    { name := "recovery_hint", positional := true,
      read := fun cs => (Json.readOption Json.readText cs).map fun (hint, rest) =>
        (fun r => { r with hint }, rest) },
    { name := "recoverable", required := true, positional := true,
      read := fun cs => (Json.readBool cs).map fun (recoverable, rest) =>
        (fun r => { r with recoverable }, rest) }]

end Report

namespace Failure

/-- A breach of the phases is an error of the library. -/
def ofBreach (b : Phase.Breach) : Failure := hotkey b.error

/-- The text of a failure, with the part of the program that it comes from. -/
def message : Failure → String
  | hotkey e => s!"Hotkey error: {e.message}"
  | config p => s!"Config error: {p.message}"
  | script p => s!"Script error: {p.message}"
  | state b => s!"State error: {b.message}"
  | internal text => s!"Internal error: {text}"

/-- The code for an error of the library. -/
def codeOfError : Error → Code
  | .registration _ _ => .hotkeyRegistrationFailed
  | .unregistration _ _ => .hotkeyUnregistrationFailed
  | .invalidKey _ | .invalidModifier _ => .hotkeyInvalidKey
  | .duplicateIdentifier _ => .hotkeyDuplicateIdentifier
  | .unknownIdentifier _ => .hotkeyUnknownIdentifier
  | .alreadyBound _ => .hotkeyAlreadyBound
  | .slotAllocation _ _ => .hotkeySlotAllocationFailed
  | .backend _ => .hotkeyBackendUnavailable
  | .doubleRelease _ | .inconsistentState _ => .inconsistentState

/-- The code for a failure. -/
def code : Failure → Code
  | hotkey e => codeOfError e
  | script (.unreadable _ _) => .scriptLoadFailed
  | script (.hotkey e) => codeOfError e
  | script _ => .scriptRuntimeError
  | config (.json _) | config (.invalid _) => .configInvalid
  | config _ => .configLoadFailed
  | state _ => .inconsistentState
  | internal _ => .internalError

/-- What the user is told; an internal failure is told with its text. -/
def userMessage : Failure → String
  | internal text => s!"{Code.internalError.message}: {text}"
  | f => f.code.message

def hint? (f : Failure) : Option String := f.code.hint?

def isRecoverable (f : Failure) : Bool := f.code.isRecoverable

/-- Whether the program that uses the hotkeys is at fault. -/
def isProgrammingError : Failure → Bool
  | hotkey e | script (.hotkey e) => e.isProgrammingError
  | state _ => true
  | _ => false

/-- The report about a failure. -/
def report (f : Failure) : Report where
  code := f.code
  message := f.userMessage
  detail := some f.message
  hint := f.hint?
  recoverable := f.isRecoverable

end Failure

end Hotkeys
