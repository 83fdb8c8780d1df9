import Looper.Binding.Compile
import Looper.Midi

/-!
# The trigger desk

The desk holds the installed tables.  For each key transition and each MIDI
message it decides whether the bound action fires.  The entry that answers is
refreshed first, so that what an earlier use left on it is never seen; whatever
dispatching then does to the action is stored back in its slot.
-/

namespace Looper

/-- The tables of the desk. -/
inductive Board where
  | keyboard
  | note
  | program
  | control
  deriving DecidableEq, Repr

/-- The place of one entry on the desk. -/
structure Slot where
  board : Board
  index : Nat
  position : Nat
  deriving DecidableEq, Repr

/-- An action that fires, and the slot it came from. -/
structure Firing where
  slot : Slot
  action : Action
  deriving DecidableEq, Repr

/-- The installed tables and the value from which a controller counts as pressed. -/
structure Desk where
  keyboard : BindingTable := .empty
  midi : MidiTables := {}
  threshold : Nat

namespace Desk

/-- A threshold of zero means 127, the largest there is. -/
def normalizeThreshold (threshold : Nat) : Nat :=
  if threshold = 0 then 127 else min threshold 127

def new (threshold : Nat) : Desk :=
  { threshold := normalizeThreshold threshold }

def setThreshold (desk : Desk) (threshold : Nat) : Desk :=
  { desk with threshold := normalizeThreshold threshold }

def table (desk : Desk) : Board → BindingTable
  | .keyboard => desk.keyboard
  | .note => desk.midi.note
  | .program => desk.midi.program
  | .control => desk.midi.control

def modifyTable (desk : Desk) (board : Board) (change : BindingTable → BindingTable) : Desk :=
  match board with
  | .keyboard => { desk with keyboard := change desk.keyboard }
  | .note => { desk with midi := { desk.midi with note := change desk.midi.note } }
  | .program => { desk with midi := { desk.midi with program := change desk.midi.program } }
  | .control => { desk with midi := { desk.midi with control := change desk.midi.control } }

def store (desk : Desk) (slot : Slot) (action : Action) : Desk :=
  desk.modifyTable slot.board fun table =>
    table.modifyEntry slot.index slot.position fun entry => { entry with action }

/-- What an event makes of a refreshed template: the action to be kept, and whether it fires. -/
structure Response where
  action : Action
  fires : Bool

/-- Let the entry that answers to a qualifier respond to an event. -/
def consult (desk : Desk) (board : Board) (index qualifier : Nat) (wild : Bool)
    (respond : Action → Response) : Desk × Option Firing :=
  let found := (desk.table board).position? index qualifier wild
  let entry := (desk.table board).lookup? index qualifier wild
  match found, entry with
  | some position, some entry =>
      let slot : Slot := ⟨board, index, position⟩
      let response := respond entry.action.refresh
      (desk.store slot response.action,
        if response.fires then some ⟨slot, response.action⟩ else none)
  | _, _ => (desk, none)

def press (value : Int) (action : Action) : Response :=
  ⟨{ action with triggerValue := value }, true⟩

/-- The trigger came up: only an action that sustains has anything to end. -/
def release (action : Action) : Response :=
  if action.sustain then ⟨{ action with sustainEnd := true }, true⟩ else ⟨action, false⟩

/--
A controller moved.  A continuous target takes every value; a function is
pressed from the threshold up and released by zero; anything else is selected
by 127.
-/
def turn (threshold value : Nat) (action : Action) : Response :=
  let action := { action with triggerValue := Int.ofNat value }
  if action.target.isPassedThrough then ⟨{ action with value := Int.ofNat value }, true⟩
  else if action.target.isGated then
    if value = 0 then release action else ⟨action, threshold ≤ value⟩
  else ⟨action, value == 127⟩

def keyEvent (desk : Desk) (qualifier : Nat) (down : Bool) : Desk × Option Firing :=
  desk.consult .keyboard (Chord.bucket qualifier) qualifier false
    (if down then press 127 else release)

/-- Let the entry for a MIDI number respond, on the channel of the message or on any channel. -/
def consultMidi (desk : Desk) (board : Board) (channel number : UInt8)
    (respond : Action → Response) : Desk × Option Firing :=
  desk.consult board number.toNat ((channel.toNat + 1) % 256) true respond

def midiEvent (desk : Desk) (event : Midi.Event) : Logged (Desk × Option Firing) :=
  match event with
  | .noteOn channel note velocity =>
      pure (desk.consultMidi .note channel note (press (Int.ofNat velocity.toNat)))
  | .noteOff channel note => pure (desk.consultMidi .note channel note release)
  | .program channel number =>
      pure (desk.consultMidi .program channel number (press (Int.ofNat number.toNat)))
  | .control channel controller value =>
      pure (desk.consultMidi .control channel controller (turn desk.threshold value.toNat))
  | .pitch channel value => do
      Log.debug .triggers
        s!"ignoring pitch bend {value} on channel {(channel.toNat + 1) % 256}"
      return (desk, none)
  | .aftertouch .. | .polyAftertouch .. => pure (desk, none)

end Desk

end Looper
