import Looper.Document.Form
import Looper.Midi
import Looper.Symbol

/-!
# Document forms of actions and symbols

A target is a table with the kind of thing that it is, and a symbol's definition
has the same fields as the target of its actions.
-/

namespace Looper

instance : ToDocument TriggerKind := ⟨fun kind => kind.label⟩

instance : ToDocument SymbolLevel where
  toDocument
    | .core => "Core"
    | .ui => "Ui"

instance : ToDocument ResetScope where
  toDocument
    | .track => "Track"
    | .everything => "Global"

instance : ToDocument ActivationKind where
  toDocument
    | .preset => "Preset"
    | .setup => "Setup"
    | .bindings => "Bindings"

instance : ToDocument Target where
  toDocument
    | .unresolved => "unresolved"
    | .sample => "sample"
    | .function traits => .table
        [("kind", "function"), ("sustainable", traits.sustainable),
         ("focus_lockable", traits.focusLockable), ("reset", traits.reset)]
    | .parameter traits => .table
        [("kind", "parameter"), ("global", traits.isGlobal),
         ("focus_lockable", traits.focusLockable)]
    | .script id traits => .table
        [("kind", "script"), ("id", id), ("continuous", traits.continuous),
         ("sustainable", traits.sustainable), ("focus_lockable", traits.focusLockable)]
    | .activation kind => .table [("kind", "activation"), ("what", kind)]

instance : ToDocument Scope where
  toDocument
    | .active => "active"
    | .track track => .table [("track", track)]
    | .group name => .table [("group", name)]

instance : ToDocument Action where
  toDocument action := .table
    [("symbol", action.symbol), ("name", action.name), ("target", action.target),
     ("level", action.level), ("value", action.value),
     ("template_value", action.templateValue), ("scope", action.scope), ("args", action.args),
     ("trigger", action.trigger), ("trigger_id", action.triggerId),
     ("trigger_value", action.triggerValue), ("trigger_offset", action.triggerOffset),
     ("sustain", action.sustain), ("sustain_end", action.sustainEnd),
     ("sustain_id", action.sustainId), ("correlation_id", action.correlationId),
     ("no_quantize", action.noQuantize), ("no_latency", action.noLatency),
     ("no_sync", action.noSync), ("request_id", action.requestId),
     ("interpreter", action.author), ("track", action.track), ("event", action.event),
     ("kernel_event", action.kernelEvent)]

instance : ToDocument Behavior where
  toDocument
    | .function => "Function"
    | .parameter => "Parameter"
    | .script => "Script"
    | .sample => "Sample"
    | .activation => "Activation"

namespace SymbolEntry

def sample? (symbol : SymbolEntry) : Option Nat :=
  match symbol.definition with
  | some (.sample index) => some index
  | _ => none

def toDocument (id : SymbolId) (symbol : SymbolEntry) : Document := .table
  [("id", id), ("name", symbol.name), ("behavior", symbol.definition.map Definition.behavior),
   ("level", symbol.level), ("resolved", symbol.isResolved), ("target", symbol.target),
   ("sample", symbol.sample?)]

end SymbolEntry

instance : ToDocument Midi.Event where
  toDocument
    | .noteOn channel note velocity => .table
        [("type", "note_on"), ("channel", channel), ("note", note), ("velocity", velocity)]
    | .noteOff channel note => .table
        [("type", "note_off"), ("channel", channel), ("note", note)]
    | .control channel controller value => .table
        [("type", "control"), ("channel", channel), ("controller", controller),
         ("value", value)]
    | .program channel program => .table
        [("type", "program"), ("channel", channel), ("program", program)]
    | .pitch channel value => .table
        [("type", "pitch"), ("channel", channel), ("value", value)]
    | .aftertouch channel pressure => .table
        [("type", "aftertouch"), ("channel", channel), ("pressure", pressure)]
    | .polyAftertouch channel note pressure => .table
        [("type", "poly_aftertouch"), ("channel", channel), ("note", note),
         ("pressure", pressure)]

def Midi.Event.ofDocument? (document : Document) : Option Midi.Event :=
  let channel := document.byteAt "channel"
  let note := document.byteAt "note"
  match document.textAt "type" with
  | "note_on" => some (.noteOn channel note (document.byteAt "velocity"))
  | "note_off" => some (.noteOff channel note)
  | "control" =>
      some (.control channel (document.byteAt "controller") (document.byteAt "value"))
  | "program" => some (.program channel (document.byteAt "program"))
  | "pitch" => some (.pitch channel (document.wholeAt "value"))
  | "aftertouch" => some (.aftertouch channel (document.byteAt "pressure"))
  | "poly_aftertouch" => some (.polyAftertouch channel note (document.byteAt "pressure"))
  | _ => none

def SymbolLevel.ofDocument (document : Document) : SymbolLevel :=
  if document.textAt "level" = "ui" then .ui else .core

def ActivationKind.ofDocument (document : Document) : ActivationKind :=
  match document.textAt "what" with
  | "preset" => .preset
  | "setup" => .setup
  | _ => .bindings

def ResetScope.ofDocument? (document : Document) : Option ResetScope :=
  match document.textAt "reset" with
  | "track" => some .track
  | "global" => some .everything
  | _ => none

def FunctionTraits.ofDocument (document : Document) : FunctionTraits where
  sustainable := document.flagAt "sustainable"
  focusLockable := document.flagAt "focus_lockable"
  reset := ResetScope.ofDocument? document

def ParameterTraits.ofDocument (document : Document) : ParameterTraits where
  isGlobal := document.flagAt "global"
  focusLockable := document.flagAt "focus_lockable"

def ScriptTraits.ofDocument (document : Document) : ScriptTraits where
  sustainable := document.flagAt "sustainable"
  continuous := document.flagAt "continuous"
  focusLockable := document.flagAt "focus_lockable"

def Target.ofDocument? (document : Document) : Option Target :=
  match document.textAt "kind" with
  | "unresolved" | "none" => some .unresolved
  | "function" => some (.function (.ofDocument document))
  | "parameter" => some (.parameter (.ofDocument document))
  | "script" => some (.script (document.countAt "id") (.ofDocument document))
  | "sample" => some .sample
  | "activation" => some (.activation (.ofDocument document))
  | _ => none

/-- Read a function, which may be given by the name of a usual one. -/
def Definition.functionOfDocument (document : Document) : Definition :=
  match document.textAt "preset" with
  | "sustainable" => .sustainable
  | "track_reset" => .resetting .track
  | "global_reset" => .resetting .everything
  | "ui" => .interface
  | _ => .function (.ofDocument document) (.ofDocument document)

/-- Read what is attached to a symbol, if anything. -/
def Definition.ofDocument? (document : Document) : Option (Option Definition) :=
  match document.textAt "kind" with
  | "none" => some none
  | "function" => some (some (functionOfDocument document))
  | "parameter" => some (some (.parameter (.ofDocument document) (.ofDocument document)))
  | "script" => some (some (.script (document.countAt "id") (.ofDocument document)))
  | "sample" => some (some (.sample (document.countAt "index")))
  | "activation" => some (some (.activation (.ofDocument document)))
  | _ => none

/-- Make the symbol that a document gives, with what is attached to it. -/
def SymbolTable.add? (table : SymbolTable) (document : Document) :
    Option (Logged (SymbolId × SymbolTable)) :=
  let name := document.textAt "name"
  (Definition.ofDocument? document).map fun definition =>
    match definition with
    | some definition => table.define name definition
    | none => pure (table.intern name)

namespace Action

/-- Put what a document gives on an action; it fails for an unknown kind of trigger. -/
def fill? (action : Action) (document : Document) : Option Action := do
  let trigger ←
    match document.textAt? "trigger" with
    | some name => TriggerKind.ofLabel? name
    | none => some action.trigger
  let action := ((document.field "value").whole?.map action.withValue).getD action
  let action := ((document.textAt? "args").map action.withArgs).getD action
  return { action with
    trigger
    scope := Scope.parse (document.textAt "scope")
    triggerId := document.countAt "trigger_id"
    triggerValue := document.wholeAt "trigger_value"
    triggerOffset := document.wholeAt "trigger_offset"
    sustain := document.flagAt "sustain"
    sustainEnd := document.flagAt "sustain_end"
    sustainId := document.countAt "sustain_id"
    requestId := document.countAt "request_id"
    author := document.countAt? "interpreter"
    track := document.countAt? "track" }

def forSymbol? (symbols : SymbolTable) (name : String) : Option Action := do
  let id ← symbols.idOf? name
  let symbol ← symbols.get? id
  return { symbol := id, name := symbol.name, target := symbol.target, level := symbol.level }

end Action

end Looper
