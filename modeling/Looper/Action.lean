import Looper.Id
import Looper.Text.Blank
import Looper.Text.Clip
import Looper.Trigger

/-!
# Actions

An action is what a trigger, a caller or a script statement asks for, with its
target already looked up.  The actions of bindings are templates that are used
again each time their trigger fires: `Action.refresh` clears what an earlier use
left behind.
-/

namespace Looper

/-- How much of the engine a function resets. -/
inductive ResetScope where
  | track
  | everything
  deriving DecidableEq, Repr

/-- Where a symbol is implemented: in the loop engine or in the user interface. -/
inductive SymbolLevel where
  | core
  | ui
  deriving DecidableEq, Repr

/-- The configuration object that an activation selects. -/
inductive ActivationKind where
  | preset
  | setup
  | bindings
  deriving DecidableEq, Repr

/-- What dispatching needs to know about a function. -/
structure FunctionTraits where
  /-- Holds its effect open until the trigger is released. -/
  sustainable : Bool := false
  focusLockable : Bool := false
  reset : Option ResetScope := none
  deriving DecidableEq, Repr

/-- What dispatching needs to know about a parameter. -/
structure ParameterTraits where
  /-- Belongs to no track and is set once. -/
  isGlobal : Bool := false
  focusLockable : Bool := false
  deriving DecidableEq, Repr

/-- The properties that a script's directives declare. -/
structure ScriptTraits where
  sustainable : Bool := false
  continuous : Bool := false
  focusLockable : Bool := false
  deriving DecidableEq, Repr

/-- What an action does, looked up once when it is made. -/
inductive Target where
  /-- The name had no definition when the action was made. -/
  | unresolved
  | function (traits : FunctionTraits)
  | parameter (traits : ParameterTraits)
  | script (id : ScriptId) (traits : ScriptTraits)
  | sample
  | activation (kind : ActivationKind)
  deriving DecidableEq, Repr

namespace Target

/-- Controller values below the threshold are ignored, and zero releases. -/
def isGated : Target → Bool
  | function _ => true
  | _ => false

/-- Every controller value is passed on as the action's value. -/
def isPassedThrough : Target → Bool
  | parameter _ => true
  | script _ traits => traits.continuous
  | _ => false

/-- Only the controller value 127 fires the action. -/
def isSelectOnly (target : Target) : Bool :=
  !target.isGated && !target.isPassedThrough

/-- Whether the action also reaches tracks with focus lock. -/
def isFocusLockable : Target → Bool
  | function traits => traits.focusLockable
  | parameter traits => traits.focusLockable
  | script _ traits => traits.focusLockable
  | _ => false

/-- Whether the action can be held. -/
def isSustainable : Target → Bool
  | function traits => traits.sustainable
  | script _ traits => traits.sustainable
  | _ => false

def isResolved : Target → Bool
  | unresolved => false
  | _ => true

def resetScope : Target → Option ResetScope
  | function traits => traits.reset
  | _ => none

end Target

/-- Where an action is delivered. -/
inductive Scope where
  /-- The active track, and focus-locked tracks for targets that honour the lock. -/
  | active
  | track (track : TrackId)
  | group (name : String)
  deriving DecidableEq, Repr

/--
Read a scope.  Blank means the active track, digits are a track number counted
from one, and anything else names a group.  A number that is zero or does not
fit a 32-bit word means the active track.
-/
def Scope.parse (s : String) : Scope :=
  let text := Text.trim s.toList
  if text.isEmpty then .active
  else if text.all Text.isDigit then
    match Text.nat32? text with
    | some (n + 1) => .track n
    | _ => .active
  else .group (String.ofList text)

/-- A resolved action. -/
structure Action where
  symbol : SymbolId
  name : String
  target : Target
  level : SymbolLevel := .core
  value : Int := 0
  /-- The value that each fresh use starts from. -/
  templateValue : Int := 0
  scope : Scope := .active
  args : String := ""
  trigger : TriggerKind := .host
  /-- Matches up the press and the release of one trigger; zero for none. -/
  triggerId : Nat := 0
  /-- The velocity or controller value of the event that fired. -/
  triggerValue : Int := 0
  /-- The frame of the event within its block. -/
  triggerOffset : Int := 0
  sustain : Bool := false
  sustainEnd : Bool := false
  sustainId : Nat := 0
  noQuantize : Bool := false
  noLatency : Bool := false
  noSync : Bool := false
  /-- A caller's number, which a finished script reports back. -/
  requestId : Nat := 0
  /-- The script instance that issued the action. -/
  author : Option InstanceId := none
  /-- The track that the action is delivered to; none for global actions. -/
  track : Option TrackId := none
  /-- The engine event scheduled for the action. -/
  event : Option EventId := none
  /-- The kernel event sent for the action. -/
  kernelEvent : Option KernelEventId := none
  deriving DecidableEq, Repr

namespace Action

/-- The longest argument text that an action carries, in bytes. -/
def maxArgs : Nat := 128

/-- Set the value, also as the one that each fresh use starts from. -/
def withValue (action : Action) (value : Int) : Action :=
  { action with value, templateValue := value }

/-- Set the argument text, clipped to the room there is. -/
def withArgs (action : Action) (args : String) : Action :=
  { action with args := Text.clip maxArgs args }

/-- Clear everything that an earlier use left behind. -/
def refresh (action : Action) : Action :=
  { action with
    sustainEnd := false
    event := none
    kernelEvent := none
    author := none
    track := none
    triggerOffset := 0
    triggerValue := 0
    value := action.templateValue }

/-- The id that matches up transitions: the sustain id if there is one. -/
def correlationId (action : Action) : Nat :=
  if action.sustainId ≠ 0 then action.sustainId else action.triggerId

@[simp] theorem refresh_refresh (action : Action) : action.refresh.refresh = action.refresh := rfl

end Action

end Looper
