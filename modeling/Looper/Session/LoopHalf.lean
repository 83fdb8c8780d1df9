import Looper.Session.State

/-!
# The loop half

The loop half looks triggers up on its desk and dispatches the actions that
fire.  At the end of each block it puts new tables in place and maintains the
running scripts.  It never compiles anything and never waits.
-/

namespace Looper

namespace LoopHalf

/-- Put the tables of an update in place; the result carries the ones they replace. -/
def apply (half : LoopHalf) (update : TableUpdate) : TableUpdate × LoopHalf :=
  let old : TableUpdate :=
    { keyboard := update.keyboard.map fun _ => half.desk.keyboard
      midi := update.midi.map fun _ => half.desk.midi
      scripts := update.scripts.map fun _ => half.roster.shared.library }
  let desk :=
    { half.desk with
      keyboard := update.keyboard.getD half.desk.keyboard
      midi := update.midi.getD half.desk.midi }
  let desk := (update.threshold.map desk.setThreshold).getD desk
  let roster := (update.scripts.map fun library => (half.roster.install library).2).getD half.roster
  (old, { desk, roster })

end LoopHalf

namespace Session

/-- Send replaced tables back, unless there are none. -/
def retire (session : Session) (old : TableUpdate) : Logged Session :=
  if old.isEmpty then pure session
  else
    match session.wires.retired.post old with
    | .ok retired => pure { session with wires := { session.wires with retired } }
    | .error refusal => do
        Log.warn .bindings s!"retired tables not returned: {refusal.message}"
        return session

def applyAll : List TableUpdate → Session → Logged Session
  | [], session => pure session
  | update :: rest, session => do
      let (old, loop) := session.loop.apply update
      let session ← { session with loop }.retire old
      applyAll rest session

/-- Put every update that has arrived in place. -/
def applyUpdates (session : Session) : Logged Session :=
  let (updates, empty) := session.wires.updates.drain
  applyAll updates { session with wires := { session.wires with updates := empty } }

variable {ε : Type}

def rig (session : Session) (engine : ε) : Rig ε where
  engine := engine
  kernel := session.wires.kernel
  interface := session.wires.interface

def withRig (session : Session) (roster : Roster) (rig : Rig ε) : Session :=
  { session with
    loop := { session.loop with roster }
    wires := { session.wires with kernel := rig.kernel, interface := rig.interface } }

variable [Engine ε]

/-- Dispatch an action from a host, the user interface or a message. -/
def perform (session : Session) (action : Action) (engine : ε) :
    Logged (Action × Session × ε) := do
  let (action, roster, rig) ←
    Dispatch.perform ScriptHost.roster action (session.loop.roster, session.rig engine)
  return (action, session.withRig roster rig, rig.engine)

/-- Dispatch an action that fires on the desk, and store it back in its slot. -/
def fire (session : Session) (firing : Option Firing) (engine : ε) : Logged (Session × ε) :=
  match firing with
  | none => pure (session, engine)
  | some firing => do
      let (action, session, engine) ← session.perform firing.action engine
      let desk := session.loop.desk.store firing.slot action
      return ({ session with loop := { session.loop with desk } }, engine)

def keyEvent (session : Session) (qualifier : Nat) (down : Bool) (engine : ε) :
    Logged (Session × ε) :=
  let (desk, firing) := session.loop.desk.keyEvent qualifier down
  { session with loop := { session.loop with desk } }.fire firing engine

def midiEvent (session : Session) (event : Midi.Event) (engine : ε) :
    Logged (Session × ε) := do
  let (desk, firing) ← session.loop.desk.midiEvent event
  { session with loop := { session.loop with desk } }.fire firing engine

def bytesLabel (bytes : List UInt8) : String :=
  let written := bytes.map fun byte => String.ofList (Text.hexByte byte.toNat)
  "[" ++ ", ".intercalate written ++ "]"

def midiBytes (session : Session) (bytes : List UInt8) (engine : ε) : Logged (Session × ε) :=
  match Midi.Event.ofBytes? bytes with
  | some event => session.midiEvent event engine
  | none => do
      Log.debug .midi s!"ignoring MIDI message {bytesLabel bytes}"
      return (session, engine)

/-- A block ends: put updates in place, then maintain the scripts. -/
def processBlock (session : Session) (frames rate : Nat) (engine : ε) :
    Logged (Session × ε) := do
  let session ← session.applyUpdates
  let (roster, rig) ← session.loop.roster.maintain frames rate (session.rig engine)
  return (session.withRig roster rig, rig.engine)

/-- Stop the scripts on a track, or all scripts. -/
def cancelScripts (session : Session) (track : Option TrackId) (engine : ε) :
    Logged (Session × ε) := do
  let (roster, rig) ← session.loop.roster.cancelScripts none track (session.rig engine)
  return (session.withRig roster rig, rig.engine)

omit [Engine ε]

def finishEvent (session : Session) (event : EventId) : Session :=
  { session with loop := { session.loop with roster := session.loop.roster.finishEvent event } }

def finishFunction (session : Session) (symbol : SymbolId) : Session :=
  { session with
    loop := { session.loop with roster := session.loop.roster.finishFunction symbol } }

end Session

end Looper
