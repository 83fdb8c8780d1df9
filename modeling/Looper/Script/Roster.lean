import Looper.Script.Run

/-!
# The roster of running scripts

The roster holds the script instances that are running, in the order of their
launch, and some idle ones to be used again.  A script action starts an instance
or reaches one that is running for the same script and track.  Once per block
the instances are told of completed requests, time passes for held triggers and
click windows, waiting instances go on, and finished ones leave.

What running scripts ask of each other is carried out when no instance is in the
middle of a run, in rounds: requests made in one round belong to the next.
-/

namespace Looper

/-- How scripts are timed, and how many idle instances are kept. -/
structure ScriptConfig where
  longPressMsec : Nat := 500
  doubleClickMsec : Nat := 1000
  /-- The most idle instances that are kept for use. -/
  maxActive : Nat := 16
  deriving DecidableEq, Repr

/-- The running scripts and what they share. -/
structure Roster where
  config : ScriptConfig
  shared : ScriptShared
  /-- Running instances in the order of launch. -/
  active : List ScriptInstance := []
  /-- Instances that are ready for another launch, the next one first. -/
  idle : List ScriptInstance
  /-- The id of the last launch. -/
  lastId : InstanceId := 0
  deriving DecidableEq, Repr

namespace Roster

/-- The most rounds in which requests of scripts to each other are carried out. -/
def maxRounds : Nat := 8

def new (config : ScriptConfig) (library : ScriptLibrary) : Roster :=
  { config
    shared := { library }
    idle := List.replicate config.maxActive (.new 0 {}) }

def install (roster : Roster) (library : ScriptLibrary) : ScriptLibrary × Roster :=
  (roster.shared.library, { roster with shared := { roster.shared with library } })

def mapActive (roster : Roster) (change : ScriptInstance → ScriptInstance) : Roster :=
  { roster with active := roster.active.map change }

def finishEvent (roster : Roster) (event : EventId) : Roster :=
  roster.mapActive fun self => self.finishEvent event

def finishFunction (roster : Roster) (symbol : SymbolId) : Roster :=
  roster.mapActive fun self => self.finishFunction symbol

variable {ε : Type} [Engine ε]

/-! ## Running instances -/

/-- Run an instance that is not on the list of the running ones just now. -/
def runInstance (fresh : Bool) (self : ScriptInstance) (shared : ScriptShared) (rig : Rig ε) :
    Logged (Run ε) :=
  Run.go fresh { self, shared, rig }

/-- Put an instance in place of the running one at a position, and run it. -/
def runAt (roster : Roster) (position : Nat) (self : ScriptInstance) (rig : Rig ε) :
    Logged (Roster × Rig ε) := do
  let run ← runInstance false self roster.shared rig
  return ({ roster with
    shared := run.shared
    active := roster.active.set position run.self }, run.rig)

/-- Put an instance in place of the running one at a position, and run it if it was notified. -/
def runIfNotified (roster : Roster) (position : Nat) (notified : Bool × ScriptInstance)
    (rig : Rig ε) : Logged (Roster × Rig ε) :=
  if notified.1 then roster.runAt position notified.2 rig
  else pure ({ roster with active := roster.active.set position notified.2 }, rig)

/-! ## Launching and routing -/

def trackLabel (track : Option TrackId) : String :=
  (track.map fun track => toString (trackNumber track)).getD "global"

/-- Launch a script: use an idle instance if there is one, and run it at once. -/
def launch (roster : Roster) (script : Script) (action : Action) (rig : Rig ε) :
    Logged (Roster × Rig ε) := do
  let id := roster.lastId + 1
  let (self, idle) :=
    match roster.idle with
    | self :: idle => (self.reset id script, idle)
    | [] => (ScriptInstance.new id script, [])
  let self := self.start action
  Log.debug .scripts
    s!"started {script.name} {instanceLabel id} on {trackLabel action.track}"
  let run ← runInstance false self roster.shared rig
  return ({ roster with
    shared := run.shared
    active := roster.active ++ [run.self]
    idle
    lastId := id }, run.rig)

def runsOn (script : Script) (track : Option TrackId) (self : ScriptInstance) : Bool :=
  !self.isFinished && self.script.id == script.id && self.track == track

def isHeldBy (script : Script) (action : Action) (self : ScriptInstance) : Bool :=
  runsOn script action.track self && self.sustaining && self.triggerId == action.triggerId

/-- Release the first instance that is held by the action's trigger. -/
def release (roster : Roster) (script : Script) (action : Action) (rig : Rig ε) :
    Logged (Roster × Rig ε) :=
  let held := roster.active.findIdx? (isHeldBy script action)
  match held, held.bind (roster.active[·]?) with
  | some position, some self => roster.runIfNotified position self.endSustain rig
  | _, _ => do
      Log.debug .scripts s!"{script.name}: release with nothing sustaining"
      return (roster, rig)

/--
Press a script: an instance that runs it on the track is clicked if the same
trigger did it, or else entered again if it has a label for that.  Otherwise a
new instance is launched.
-/
def press (roster : Roster) (script : Script) (action : Action) (rig : Rig ε) :
    Logged (Roster × Rig ε) :=
  let running := roster.active.findIdx? (runsOn script action.track)
  match running, running.bind (roster.active[·]?) with
  | some position, some self =>
      if self.clicking && self.triggerId == action.triggerId then
        roster.runIfNotified position self.click rig
      else
        match self.script.labels.reentry with
        | some label => roster.runAt position (self.notify label) rig
        | none => roster.launch script action rig
  | _, _ => roster.launch script action rig

/-- Carry out a script action. -/
def route (roster : Roster) (action : Action) (rig : Rig ε) : Logged (Roster × Rig ε) :=
  match action.target with
  | .script id traits =>
      match roster.shared.library.get? id with
      | none => do
          Log.warn .scripts s!"no script loaded for {action.name}"
          return (roster, rig)
      | some script =>
          if action.sustainEnd then roster.release script action rig
          else if traits.continuous then roster.launch script action rig
          else roster.press script action rig
  | _ => pure (roster, rig)

/-! ## Stopping -/

def isCancelled (author : Option InstanceId) (track : Option TrackId)
    (self : ScriptInstance) : Bool :=
  author != some self.id && (track.isNone || self.track == track)

def cancelOne (author : Option InstanceId) (track : Option TrackId) (self : ScriptInstance)
    (engine : ε) : Logged (ScriptInstance × ε) := do
  if isCancelled author track self then
    Log.debug .scripts s!"cancelling {self.script.name} {instanceLabel self.id}"
    return self.stop engine
  return (self, engine)

/-- Stop the instances that a cancellation concerns. -/
def cancelIn (author : Option InstanceId) (track : Option TrackId) :
    List ScriptInstance → ε → Logged (List ScriptInstance × ε)
  | [], engine => pure ([], engine)
  | self :: rest, engine => do
      let (self, engine) ← cancelOne author track self engine
      let (rest, engine) ← cancelIn author track rest engine
      return (self :: rest, engine)

/-- Stop the instances on a track, or all instances, except the author. -/
def stopOthers (roster : Roster) (author : Option InstanceId) (track : Option TrackId)
    (rig : Rig ε) : Logged (Roster × Rig ε) := do
  let (active, engine) ← cancelIn author track roster.active rig.engine
  return ({ roster with active }, { rig with engine })

/-! ## Requests of scripts to each other -/

def carryOut (roster : Roster) (request : ScriptRequest) (rig : Rig ε) :
    Logged (Roster × Rig ε) :=
  match request with
  | .launch action => roster.route action rig
  | .cancel author track => roster.stopOthers author track rig

def carryOutAll (roster : Roster) (rig : Rig ε) :
    List ScriptRequest → Logged (Roster × Rig ε)
  | [] => pure (roster, rig)
  | request :: rest => do
      let (roster, rig) ← roster.carryOut request rig
      roster.carryOutAll rig rest

def withRequests (roster : Roster) (requests : List ScriptRequest) : Roster :=
  { roster with shared := { roster.shared with requests } }

/-- Carry out requests for a number of rounds, and drop those that are then left. -/
def settle (roster : Roster) (rig : Rig ε) : Nat → Logged (Roster × Rig ε)
  | 0 => do
      if !roster.shared.requests.isEmpty then
        let count := roster.shared.requests.length
        Log.warn .scripts
          s!"dropping {count} script requests, scripts keep triggering each other"
      return (roster.withRequests [], rig)
  | rounds + 1 => do
      if roster.shared.requests.isEmpty then
        return (roster, rig)
      let (roster, rig) ←
        (roster.withRequests []).carryOutAll rig roster.shared.requests
      roster.settle rig rounds

/-! ## Script actions from outside -/

/-- Carry out a script action and whatever the scripts then ask of each other. -/
def runScript (roster : Roster) (action : Action) (rig : Rig ε) :
    Logged (Roster × Rig ε) := do
  let (roster, rig) ← roster.route action rig
  roster.settle rig maxRounds

/-- Stop the scripts on a track, or all scripts, except the author. -/
def cancelScripts (roster : Roster) (author : Option InstanceId) (track : Option TrackId)
    (rig : Rig ε) : Logged (Roster × Rig ε) := do
  let (roster, rig) ← roster.stopOthers author track rig
  roster.settle rig maxRounds

/-! ## Once per block -/

/-- Tell every instance of the requests that were completed, and take the envelopes back. -/
def deliverCompletions (roster : Roster) (kernel : KernelChannel) :
    List KernelEvent → Roster × KernelChannel
  | [] => (roster, kernel)
  | event :: rest =>
      let roster := roster.mapActive fun self => self.finishKernel event.id event.returnCode
      roster.deliverCompletions (kernel.recycle event) rest

/-- Let an instance run on, and let time pass for it. -/
def tick (config : ScriptConfig) (msec : Nat) (run : Run ε) : Logged (Run ε) := do
  let run ← run.go true
  let (held, self) := run.self.advanceSustain msec config.longPressMsec
  let run := run.withSelf self
  let run ← if held then run.go false else pure run
  let (closed, self) := run.self.advanceClick msec config.doubleClickMsec
  let run := run.withSelf self
  if closed then run.go false else pure run

/-- Let instances run on one after another. -/
def tickAll (config : ScriptConfig) (msec : Nat) :
    List ScriptInstance → ScriptShared → Rig ε →
      Logged (List ScriptInstance × ScriptShared × Rig ε)
  | [], shared, rig => pure ([], shared, rig)
  | self :: rest, shared, rig => do
      let run ← tick config msec { self, shared, rig }
      let (rest, shared, rig) ← tickAll config msec rest run.shared run.rig
      return (run.self :: rest, shared, rig)

/-- See a finished instance off: report it, and put back the parameters it saved. -/
def seeOff (self : ScriptInstance) (rig : Rig ε) : Logged (ScriptInstance × Rig ε) := do
  let engine := Engine.scriptFinished rig.engine self.id
  let kernel ←
    if self.requestId ≠ 0 then do
      let (_, kernel) ← rig.kernel.request .scriptFinished [self.script.name] self.requestId
      pure kernel
    else pure rig.kernel
  let (self, engine) := self.restoreUses engine
  Log.debug .scripts s!"finished {self.script.name} {instanceLabel self.id}"
  return (self, { rig with engine, kernel })

/-- Let finished instances leave, in the order of launch; some of them are kept as idle. -/
def reclaimFrom (maxIdle : Nat) :
    List ScriptInstance → List ScriptInstance → Rig ε →
      Logged (List ScriptInstance × List ScriptInstance × Rig ε)
  | [], idle, rig => pure ([], idle, rig)
  | self :: rest, idle, rig => do
      if self.isFinished then
        let (self, rig) ← seeOff self rig
        reclaimFrom maxIdle rest (if idle.length < maxIdle then self :: idle else idle) rig
      else
        let (kept, idle, rig) ← reclaimFrom maxIdle rest idle rig
        return (self :: kept, idle, rig)

def reclaim (roster : Roster) (rig : Rig ε) : Logged (Roster × Rig ε) := do
  let (active, idle, rig) ←
    reclaimFrom roster.config.maxActive roster.active roster.idle rig
  return ({ roster with active, idle }, rig)

/-- The milliseconds that a block lasts; at least one. -/
def blockMsec (frames rate : Nat) : Nat :=
  if rate = 0 then 1 else max (frames * 1000 / rate) 1 % Text.wordSize

/-- Maintain the scripts at the end of a block. -/
def maintain (roster : Roster) (frames rate : Nat) (rig : Rig ε) :
    Logged (Roster × Rig ε) := do
  let (completions, completed) := rig.kernel.completed.drain
  let (roster, kernel) :=
    roster.deliverCompletions { rig.kernel with completed } completions
  let (active, shared, rig) ←
    tickAll roster.config (blockMsec frames rate) roster.active roster.shared
      { rig with kernel }
  let (roster, rig) ← { roster with active, shared }.settle rig maxRounds
  let (roster, rig) ← roster.reclaim rig
  return ({ roster with
    shared := { roster.shared with block := roster.shared.block + 1 } }, rig)

def stopAll (roster : Roster) (rig : Rig ε) : Logged (Roster × Rig ε) :=
  let stopped := roster.active.foldl
    (fun (done : List ScriptInstance × ε) self =>
      let (self, engine) := self.stop done.2
      (done.1 ++ [self], engine)) ([], rig.engine)
  { roster with active := stopped.1 }.reclaim { rig with engine := stopped.2 }

end Roster

/-- The roster takes the script actions that are dispatched. -/
def ScriptHost.roster {ε : Type} [Engine ε] : ScriptHost Roster ε where
  run action state := state.1.runScript action state.2
  cancel author track state := state.1.cancelScripts author track state.2

end Looper
