import Looper.Id
import Looper.Log
import Looper.Text.Clip

/-!
# Kernel events

The real-time side asks the control side for what only that side may do: files,
prompts, messages, rebuilding bindings.  A request travels in an envelope with
three argument slots and comes back with a return code.
-/

namespace Looper

/-- What is asked for. -/
inductive KernelKind where
  | none
  | saveLoop
  | saveCapture
  | loadLoop
  | diff
  | prompt
  | echo
  | message
  | alert
  | timeBoundary
  | scriptFinished
  | activateBindings
  deriving DecidableEq, Repr

namespace KernelKind

def all : List KernelKind :=
  [none, saveLoop, saveCapture, loadLoop, diff, prompt, echo, message, alert,
   timeBoundary, scriptFinished, activateBindings]

def label : KernelKind → String
  | none => "None"
  | saveLoop => "SaveLoop"
  | saveCapture => "SaveCapture"
  | loadLoop => "LoadLoop"
  | diff => "Diff"
  | prompt => "Prompt"
  | echo => "Echo"
  | message => "Message"
  | alert => "Alert"
  | timeBoundary => "TimeBoundary"
  | scriptFinished => "ScriptFinished"
  | activateBindings => "ActivateBindings"

/-- The kind with a given name; any other name means no kind. -/
def ofLabel (name : String) : KernelKind :=
  (all.find? fun kind => kind.label == name).getD none

/-- Whether the sender waits for a return code. -/
def expectsReply : KernelKind → Bool
  | prompt => true
  | _ => false

end KernelKind

/-- An envelope and what is in it. -/
structure KernelEvent where
  /-- Which envelope it is; envelopes are numbered as they are made. -/
  envelope : Nat := 0
  id : KernelEventId := 0
  kind : KernelKind := .none
  args : Vector String 3 := Vector.replicate 3 ""
  /-- The answer to a prompt. -/
  returnCode : Int := 0
  /-- The number of the trigger that caused the request. -/
  requestId : Nat := 0
  deriving DecidableEq, Repr

namespace KernelEvent

def maxArg : Nat := 1024

def blank (envelope : Nat) : KernelEvent := { envelope }

instance : Inhabited KernelEvent := ⟨blank 0⟩

def clear (event : KernelEvent) : KernelEvent :=
  { event with
    id := 0
    kind := .none
    args := Vector.replicate 3 ""
    returnCode := 0
    requestId := 0 }

@[simp] theorem clear_eq_blank (event : KernelEvent) :
    event.clear = blank event.envelope := rfl

/-- The argument in a slot; slots beyond the third are always empty. -/
def arg (event : KernelEvent) (slot : Nat) : String :=
  if h : slot < 3 then event.args[slot] else ""

/-- Fill an argument slot, clipping the text to the room there is. -/
def setArg (event : KernelEvent) (slot : Nat) (text : String) : KernelEvent :=
  if h : slot < 3 then { event with args := event.args.set slot (Text.clip maxArg text) }
  else event

/-- Fill argument slots with some texts, from a given slot on. -/
def setArgs (event : KernelEvent) (slot : Nat) : List String → KernelEvent
  | [] => event
  | text :: rest => (event.setArg slot text).setArgs (slot + 1) rest

@[simp] theorem envelope_setArg (event : KernelEvent) (slot : Nat) (text : String) :
    (event.setArg slot text).envelope = event.envelope := by
  unfold setArg
  split <;> rfl

@[simp] theorem envelope_setArgs (event : KernelEvent) (slot : Nat) (args : List String) :
    (event.setArgs slot args).envelope = event.envelope := by
  induction args generalizing event slot with
  | nil => rfl
  | cons text rest ih => simp [setArgs, ih]

/-- Handle a request by logging it; prompts are answered with zero. -/
def logOnly (event : KernelEvent) : Logged KernelEvent :=
  match event.kind with
  | .echo | .message => do
      Log.info .kernel (event.arg 0)
      return event
  | .alert => do
      Log.warn .kernel (event.arg 0)
      return event
  | .prompt => do
      Log.info .kernel s!"prompt: {event.arg 0}"
      return { event with returnCode := 0 }
  | .scriptFinished => do
      Log.debug .kernel s!"script finished, request {event.requestId}"
      return event
  | kind => do
      Log.debug .kernel
        s!"unhandled {kind.label} ({event.arg 0} {event.arg 1} {event.arg 2})"
      return event

end KernelEvent

end Looper
