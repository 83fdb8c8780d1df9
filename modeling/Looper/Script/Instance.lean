import Looper.Engine
import Looper.Script.Frame
import Looper.Script.Variables

/-!
# Script instances

An instance is one launch of a script.  It remembers the trigger that launched
it, where it is in its script, its stack of frames, its variables, and the
parameters it has changed for as long as it lives.  Label blocks are entered
from outside, by notification: the instance goes on at the label and later
returns to where it was.

The timers wrap around as 32-bit words do, for a script may ask for a time that long.
What is merely counted has no bound: clicks and long presses, and the numbers of
instances, symbols, requests and blocks.  A session would have to last for weeks, with a
click or a block each millisecond, before one of these counts came to the end of a word.
-/

namespace Looper

/-- A parameter value to be put back when the script ends. -/
structure SavedParameter where
  track : Option TrackId
  name : String
  value : Int
  deriving DecidableEq, Repr

/-- One launch of a script. -/
structure ScriptInstance where
  id : InstanceId
  /-- The script that was launched; its labels are the ones that are notified. -/
  script : Script
  /-- The script that is running, which is another one within a call of it. -/
  current : Script
  /-- The statement to run next. -/
  pc : Option Nat := none
  /-- What there is to come back to, the innermost first. -/
  stack : List Frame := []
  track : Option TrackId := none
  trigger : TriggerKind := .host
  triggerId : Nat := 0
  triggerValue : Int := 0
  triggerOffset : Int := 0
  bindingArgs : String := ""
  requestId : Nat := 0
  sustaining : Bool := false
  sustainElapsed : Nat := 0
  sustainCount : Nat := 0
  clicking : Bool := false
  clickElapsed : Nat := 0
  clickCount : Nat := 0
  /-- The last engine event that has not finished. -/
  lastEvent : Option EventId := none
  /-- The last kernel event that has not been completed. -/
  lastKernelEvent : Option KernelEventId := none
  returnCode : Int := 0
  locals : Variables := []
  uses : List SavedParameter := []
  deriving DecidableEq, Repr

namespace ScriptInstance

def new (id : InstanceId) (script : Script) : ScriptInstance :=
  { id, script, current := script }

def reset (self : ScriptInstance) (id : InstanceId) (script : Script) : ScriptInstance :=
  { self with
    id
    script
    current := script
    pc := none
    stack := []
    track := none
    trigger := .host
    triggerId := 0
    triggerValue := 0
    triggerOffset := 0
    bindingArgs := ""
    requestId := 0
    sustaining := false
    sustainElapsed := 0
    sustainCount := 0
    clicking := false
    clickElapsed := 0
    clickCount := 0
    lastEvent := none
    lastKernelEvent := none
    returnCode := 0
    locals := []
    uses := [] }

/-- Start at the first statement, with the trigger of the action that launched the script. -/
def start (self : ScriptInstance) (action : Action) : ScriptInstance :=
  { self with
    track := action.track
    trigger := action.trigger
    triggerId := action.triggerId
    triggerValue := action.triggerValue
    triggerOffset := action.triggerOffset
    bindingArgs := action.args
    requestId := action.requestId
    sustaining := self.script.traits.sustainable && action.sustainId != 0
    clicking := self.script.multiclick && action.triggerId != 0
    clickCount := 1
    pc := some 0 }

def isWaiting (self : ScriptInstance) : Bool :=
  match self.stack with
  | .wait wait :: _ => !wait.isSatisfied
  | _ => false

/-- Whether there is nothing left to run, and no timer that could enter a label. -/
def isFinished (self : ScriptInstance) : Bool :=
  self.pc.isNone && self.stack.isEmpty && !self.sustaining && !self.clicking

/-- Go on at a label of the launched script, and remember where to return. -/
def notify (self : ScriptInstance) (label : Nat) : ScriptInstance :=
  { self with
    stack := .label self.current self.pc :: self.stack
    current := self.script
    pc := some (label + 1) }

/-- Notify the label for a purpose, and tell whether there is one. -/
def notifyKind (self : ScriptInstance) (kind : LabelKind) : Bool × ScriptInstance :=
  match self.script.labels.get? kind with
  | some label => (true, self.notify label)
  | none => (false, self)

def restoreUses {ε : Type} [Engine ε] (self : ScriptInstance) (engine : ε) :
    ScriptInstance × ε :=
  ({ self with uses := [] },
    self.uses.foldl
      (fun engine saved => Engine.setParameter engine saved.track saved.name saved.value) engine)

/-- Abandon the script, and put back the parameters it saved. -/
def stop {ε : Type} [Engine ε] (self : ScriptInstance) (engine : ε) : ScriptInstance × ε :=
  { self with stack := [], pc := none, sustaining := false, clicking := false }.restoreUses
    engine

def mapWaits (self : ScriptInstance) (change : Wait → Wait) : ScriptInstance :=
  { self with stack := self.stack.map (Frame.mapWait change) }

def finishEvent (self : ScriptInstance) (event : EventId) : ScriptInstance :=
  let self := self.mapWaits (Wait.finishEvent event)
  if self.lastEvent = some event then { self with lastEvent := none } else self

/-- A kernel event was completed; its return code counts if this instance sent it. -/
def finishKernel (self : ScriptInstance) (event : KernelEventId) (returnCode : Int) :
    ScriptInstance :=
  let isLast := self.lastKernelEvent == some event
  let isAwaited := self.stack.any fun frame => frame.awaitedKernel? == some event
  let self := self.mapWaits (Wait.finishKernel event)
  let self := if isLast || isAwaited then { self with returnCode } else self
  if isLast then { self with lastKernelEvent := none } else self

def finishFunction (self : ScriptInstance) (symbol : SymbolId) : ScriptInstance :=
  self.mapWaits (Wait.finishFunction symbol)

/-- A block began. -/
def releaseBlock (self : ScriptInstance) (block : Nat) : ScriptInstance :=
  self.mapWaits (Wait.releaseBlock block)

/--
Let time pass for a trigger that is held.  Each time the hold time has passed,
it is counted and the sustain label notified.
-/
def advanceSustain (self : ScriptInstance) (msec holdTime : Nat) : Bool × ScriptInstance :=
  if !self.sustaining then (false, self)
  else
    let threshold := max (self.script.sustainMsec.getD holdTime) 1
    let elapsed := (self.sustainElapsed + msec) % Text.wordSize
    if elapsed < threshold then (false, { self with sustainElapsed := elapsed })
    else
      { self with sustainElapsed := 0, sustainCount := self.sustainCount + 1 }.notifyKind
        .sustain

def endSustain (self : ScriptInstance) : Bool × ScriptInstance :=
  { self with sustaining := false, sustainElapsed := 0 }.notifyKind .endSustain

/-- The trigger was pressed again within the click window, which starts anew. -/
def click (self : ScriptInstance) : Bool × ScriptInstance :=
  { self with clickCount := self.clickCount + 1, clickElapsed := 0 }.notifyKind .click

/-- Let time pass for the click window, which closes once more time than it has is over. -/
def advanceClick (self : ScriptInstance) (msec window : Nat) : Bool × ScriptInstance :=
  if !self.clicking then (false, self)
  else
    let elapsed := (self.clickElapsed + msec) % Text.wordSize
    if elapsed ≤ self.script.clickMsec.getD window then
      (false, { self with clickElapsed := elapsed })
    else { self with clickElapsed := elapsed, clicking := false }.notifyKind .endClick

/-- The argument text of the innermost call, or of the binding outside of calls. -/
def args (self : ScriptInstance) : String :=
  (self.stack.findSome? Frame.args?).getD self.bindingArgs

/--
Leave the script level, taking frames off a stack: go on after an interrupted
place or a call into another script, or end if there is neither.
-/
def unwind (self : ScriptInstance) : List Frame → ScriptInstance
  | [] => { self with stack := [], pc := none }
  | .label script resume :: rest =>
      { self with stack := rest, current := script, pc := resume }
  | .call (some caller) returnTo _ :: rest =>
      { self with stack := rest, current := caller, pc := some returnTo }
  | .loop _ (.tracks _ saved) :: rest => { self with track := saved }.unwind rest
  | _ :: rest => self.unwind rest

def endLevel (self : ScriptInstance) : ScriptInstance :=
  self.unwind self.stack

theorem length_unwind_le (self : ScriptInstance) (frames : List Frame) :
    (self.unwind frames).stack.length ≤ frames.length - 1 := by
  induction frames generalizing self with
  | nil => simp [unwind]
  | cons frame rest ih =>
      have shorter (other : ScriptInstance) :
          (other.unwind rest).stack.length ≤ rest.length :=
        Nat.le_trans (ih other) (Nat.sub_le _ _)
      unfold unwind
      split <;> simp_all

theorem length_endLevel_lt (self : ScriptInstance) (opened : self.stack ≠ []) :
    self.endLevel.stack.length < self.stack.length := by
  have shorter := length_unwind_le self self.stack
  have some_frames := List.length_pos_iff.2 opened
  unfold endLevel
  omega

end ScriptInstance

end Looper
