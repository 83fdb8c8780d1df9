import Looper.Key

/-!
# Triggers

A trigger is what the user presses, turns or sends.  Each kind of trigger that
goes through a binding table has a range of ids of its own, so that the press
and the release of one physical trigger can be matched up.
-/

namespace Looper

/-- The kind of stimulus that a binding responds to. -/
inductive TriggerKind where
  | key
  | note
  | program
  | control
  | host
  | ui
  | pitch
  | script
  | osc
  deriving DecidableEq, Repr

namespace TriggerKind

def all : List TriggerKind :=
  [key, note, program, control, host, ui, pitch, script, osc]

/-- The kind's name in configuration files and log records. -/
def label : TriggerKind → String
  | key => "key"
  | note => "note"
  | program => "program"
  | control => "control"
  | host => "host"
  | ui => "ui"
  | pitch => "pitch"
  | script => "script"
  | osc => "osc"

/-- The kind with a given name, exactly as written. -/
def ofLabel? (name : String) : Option TriggerKind :=
  all.find? fun kind => kind.label == name

theorem ofLabel?_label (kind : TriggerKind) : ofLabel? kind.label = some kind := by
  cases kind <;> rfl

/-- Whether triggers of this kind are looked up in a binding table. -/
def isTableDriven : TriggerKind → Bool
  | key | note | program | control => true
  | _ => false

/-- Whether triggers of this kind arrive as MIDI messages. -/
def isMidi : TriggerKind → Bool
  | note | program | control | pitch => true
  | _ => false

def idBase : TriggerKind → Nat
  | key => 0x01000000
  | note => 0x02000000
  | control => 0x03000000
  | program => 0x04000000
  | _ => 0

/-- Where the ids of a kind that can be held down start; other kinds never sustain. -/
def sustainBase : TriggerKind → Option Nat
  | key => some key.idBase
  | note => some note.idBase
  | control => some control.idBase
  | _ => none

/--
The id of a trigger: for keys from the qualifier, for MIDI from the channel and
the low seven bits of the number.  Zero means that the kind has no identity.
-/
def triggerId (kind : TriggerKind) (value channel : Nat) : Nat :=
  match kind with
  | key => (key.idBase + value) % Text.wordSize
  | note | control | program => kind.idBase + channel * 128 + value % 128
  | _ => 0

/-- The key code or MIDI number that a trigger id was made from. -/
def triggerNumber (kind : TriggerKind) (id : Nat) : Nat :=
  if id = 0 then 0
  else
    match kind with
    | key => (id + Text.wordSize - key.idBase) % Chord.codeCount
    | note | control | program => id % 128
    | _ => 0

end TriggerKind

/-- How a trigger acts while it is held. -/
inductive TriggerMode where
  | momentary
  | toggle
  | once
  deriving DecidableEq, Repr

namespace TriggerMode

def label : TriggerMode → String
  | momentary => "momentary"
  | toggle => "toggle"
  | once => "once"

/-- The mode with a given name, exactly as written. -/
def ofLabel? (name : String) : Option TriggerMode :=
  [momentary, toggle, once].find? fun mode => mode.label == name

end TriggerMode

end Looper
