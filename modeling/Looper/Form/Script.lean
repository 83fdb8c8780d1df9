import Looper.Form.Action
import Looper.Kernel.Event
import Looper.Script.Error
import Looper.Script.Statement

/-!
# Document forms of scripts

A statement is a table with its keyword and its operands; the closing statements
of blocks have no operands.
-/

namespace Looper

instance : ToDocument ScriptError where
  toDocument error := .table
    [("error", "ScriptError"), ("line", error.line), ("message", error.message)]

instance {α : Type} [ToDocument α] : ToDocument (Except ScriptError α) where
  toDocument
    | .ok value => toDocument value
    | .error error => toDocument error

instance : ToDocument KernelKind := ⟨fun kind => kind.label⟩

instance : ToDocument KernelEvent where
  toDocument event := .table
    [("id", event.id), ("kind", event.kind), ("args", event.args.toList),
     ("return_code", event.returnCode), ("request_id", event.requestId)]

namespace LabelKind

def label : LabelKind → String
  | plain => "plain"
  | sustain => "sustain"
  | endSustain => "end_sustain"
  | click => "click"
  | endClick => "end_click"
  | reentry => "reentry"

def ofLabel (name : String) : LabelKind :=
  ([sustain, endSustain, click, endClick, reentry].find? fun kind => kind.label == name).getD plain

theorem ofLabel_label (kind : LabelKind) : ofLabel kind.label = kind := by
  cases kind <;> rfl

end LabelKind

instance : ToDocument LabelKind := ⟨fun kind => kind.label⟩

instance : ToDocument Comparison where
  toDocument
    | .eq => "=="
    | .ne => "!="
    | .lt => "<"
    | .gt => ">"
    | .le => "<="
    | .ge => ">="

def CallTarget.entry : CallTarget → String × Document
  | proc start => ("proc", start)
  | script name => ("script", name)

def WaitKind.entries : WaitKind → Entries
  | last => [("wait", "last")]
  | thread => [("wait", "thread")]
  | block => [("wait", "block")]
  | msec time => [("wait", "msec"), ("expr", time)]
  | function symbol => [("wait", "function"), ("symbol", symbol)]

namespace Statement

def keyword : Statement → String
  | label .. => "Label"
  | jump _ => "Jump"
  | call .. => "Call"
  | warp _ => "Warp"
  | proc .. => "Proc"
  | endProc => "Endproc"
  | declare .. => "Variable"
  | assign .. => "Set"
  | use .. => "Use"
  | branch .. => "If"
  | otherwise _ => "Else"
  | endBranch => "Endif"
  | repeatLoop .. => "Repeat"
  | trackLoop .. => "For"
  | next _ => "Next"
  | wait _ => "Wait"
  | request .. => "Kernel"
  | finish => "End"
  | invoke _ => "Invoke"

def operands : Statement → Entries
  | label name kind => [("name", name), ("kind", kind)]
  | jump index => [("label", index)]
  | call target args => [("args", args), target.entry]
  | warp start => [("proc", start)]
  | proc name close => [("name", name), ("end", close)]
  | declare everywhere name value =>
      [("global", everywhere), ("name", name), ("value", value)]
  | assign name value | use name value => [("name", name), ("value", value)]
  | branch condition unmet =>
      [("left", condition.left), ("op", condition.compare.map Prod.fst),
       ("right", condition.compare.map Prod.snd), ("otherwise", unmet)]
  | otherwise close => [("end", close)]
  | repeatLoop count close => [("count", count), ("next", close)]
  | trackLoop tracks close => [("tracks", tracks), ("next", close)]
  | next start => [("start", start)]
  | wait kind => kind.entries
  | request kind args => [("kind", kind), ("args", args)]
  | invoke invocation =>
      [("symbol", invocation.symbol), ("name", invocation.name), ("target", invocation.target),
       ("level", invocation.level), ("args", invocation.args)]
  | endProc | endBranch | finish => []

end Statement

instance : ToDocument Statement where
  toDocument statement := .table (("s", toDocument statement.keyword) :: statement.operands)

instance : ToDocument SpecialLabels where
  toDocument labels := .table
    [("sustain", labels.sustain), ("end_sustain", labels.endSustain), ("click", labels.click),
     ("end_click", labels.endClick), ("reentry", labels.reentry)]

instance : ToDocument Script where
  toDocument script := .table
    [("id", script.id), ("name", script.name), ("statements", script.statements),
     ("lines", script.lines), ("sustainable", script.traits.sustainable),
     ("continuous", script.traits.continuous), ("focus_lockable", script.traits.focusLockable),
     ("sustain_msec", script.sustainMsec), ("multiclick", script.multiclick),
     ("click_msec", script.clickMsec), ("labels", script.labels)]

end Looper
