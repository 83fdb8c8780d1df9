import Looper.Dispatch.TrackSet
import Looper.Engine
import Looper.Kernel.Channel
import Looper.Log

/-!
# Dispatching actions

Every resolved action goes through `Dispatch.perform`, whether it comes from a
binding table, from a caller or from a running script.  It reaches the tracks of
its scope, one delivery each in ascending order.  Events that the engine or the
kernel channel return are left on the action; when there are several
deliveries, the action itself takes the first and the others get copies of it as
it was before.
-/

namespace Looper

/-- What an action may touch while it is dispatched. -/
structure Rig (ε : Type) where
  engine : ε
  kernel : KernelChannel
  /-- Actions on their way to the user interface. -/
  interface : Mailbox Action
  deriving DecidableEq, Repr

/-- Where actions for scripts go; `η` is the state of whoever takes them. -/
structure ScriptHost (η ε : Type) where
  /-- Start, notify or release a script on the action's track. -/
  run : Action → η × Rig ε → Logged (η × Rig ε)
  /-- Stop the scripts on a track, or all scripts, except the author. -/
  cancel : Option InstanceId → Option TrackId → η × Rig ε → Logged (η × Rig ε)

namespace Dispatch

variable {ε η σ : Type}

/-- The tracks below a limit that have a property, added to a set. -/
def insertWhere (set : TrackSet) (count : Nat) (wanted : TrackId → Bool) : TrackSet :=
  set.insertAll ((List.range count).filter wanted)

/--
The tracks that an action applies to: a given track, a group, or the active
track together with the focus-locked ones if the target honours the lock.
-/
def destinations [Engine ε] (action : Action) (engine : ε) : Logged TrackSet :=
  let count := min (Engine.trackCount engine) trackLimit
  match action.scope with
  | .track track =>
      if track < count then pure (TrackSet.single track)
      else do
        Log.warn .dispatch s!"{action.name}: track {trackNumber track} out of range"
        return .empty
  | .group name =>
      match Engine.groupOrdinal engine name with
      | some group =>
          pure (insertWhere .empty count fun track =>
            Engine.trackGroup engine track == some group)
      | none => do
          Log.warn .dispatch s!"{action.name}: unknown group {name}"
          return .empty
  | .active =>
      let set := TrackSet.single (Engine.activeTrack engine)
      if action.target.isFocusLockable then
        pure (insertWhere set count (Engine.isFocusLocked engine))
      else pure set

def deliverCopies (deliver : Action → σ → Logged (Action × σ)) (action : Action) :
    List TrackId → σ → Logged σ
  | [], state => pure state
  | track :: rest, state => do
      let (_, state) ← deliver { action with track := some track } state
      deliverCopies deliver action rest state

/-- Deliver an action to each track of a list: itself to the first, copies to the others. -/
def fanOut (deliver : Action → σ → Logged (Action × σ)) (action : Action)
    (tracks : List TrackId) (state : σ) : Logged (Action × σ) :=
  match tracks with
  | [] => pure (action, state)
  | first :: rest => do
      let (sent, state) ← deliver { action with track := some first } state
      let state ← deliverCopies deliver action rest state
      return (sent, state)

/-- Apply an action to its track, or to no track, and keep the event scheduled for it. -/
def invoke [Engine ε] (action : Action) (state : η × Rig ε) : Action × η × Rig ε :=
  let (event, engine) := Engine.invoke state.2.engine action.track action
  ({ action with event }, state.1, { state.2 with engine })

/-- Deliver an action to the engine, first stopping the scripts that it resets. -/
def deliverToEngine [Engine ε] (host : ScriptHost η ε) (action : Action) (state : η × Rig ε) :
    Logged (Action × η × Rig ε) := do
  let state ←
    match action.target.resetScope with
    | some .track => host.cancel action.author action.track state
    | some .everything => host.cancel action.author none state
    | none => pure state
  return invoke action state

def deliverToScripts (host : ScriptHost η ε) (action : Action) (state : η × Rig ε) :
    Logged (Action × η × Rig ε) := do
  let state ← host.run action state
  return (action, state)

def sendUp (action : Action) (state : η × Rig ε) : Logged (η × Rig ε) :=
  match state.2.interface.post action with
  | .ok interface => pure (state.1, { state.2 with interface })
  | .error _ => do
      Log.warn .dispatch s!"UI action {action.name} dropped"
      return state

/-- Ask the control side to activate the binding set that an action names. -/
def requestActivation (action : Action) (state : η × Rig ε) :
    Logged (Action × η × Rig ε) := do
  let (kernelEvent, kernel) ←
    state.2.kernel.request .activateBindings [action.name] action.requestId
  return ({ action with kernelEvent }, state.1, { state.2 with kernel })

def performOnTracks [Engine ε] (host : ScriptHost η ε) (action : Action)
    (state : η × Rig ε) : Logged (Action × η × Rig ε) := do
  let tracks ← destinations action state.2.engine
  if tracks.isEmpty then
    Log.debug .dispatch s!"{action.name} has no destination"
  fanOut (deliverToEngine host) action tracks.toList state

/-- Perform a resolved action. -/
def perform [Engine ε] (host : ScriptHost η ε) (action : Action) (state : η × Rig ε) :
    Logged (Action × η × Rig ε) := do
  if !action.target.isResolved then
    Log.warn .dispatch s!"ignoring unresolved action {action.name}"
    return (action, state)
  if action.level = .ui then
    return (action, ← sendUp action state)
  match action.target with
  | .parameter traits =>
      if traits.isGlobal then return invoke { action with track := none } state
      performOnTracks host action state
  | .function _ | .sample => performOnTracks host action state
  | .script .. =>
      let tracks ← destinations action state.2.engine
      fanOut (deliverToScripts host) action tracks.toList state
  | .activation .bindings => requestActivation action state
  | .activation _ =>
      let (event, engine) := Engine.invoke state.2.engine none action
      return ({ action with event }, state.1, { state.2 with engine })
  | .unresolved => return (action, state)

end Dispatch

end Looper
