import Looper.Engine

/-!
# An engine that records its calls

The recorder answers from fixed lists, hands out event numbers from one counter
and keeps every call it receives, in order.  It stands in for a loop engine
where only the calls matter.
-/

namespace Looper

/-- A call that the recorder received. -/
inductive EngineCall where
  | invoke (track : Option TrackId) (action : Action) (event : Option EventId)
  | set (track : Option TrackId) (name : String) (value : Int)
  | wait (track : TrackId) (msec : Nat) (event : Option EventId)
  | finished (id : InstanceId)
  deriving DecidableEq, Repr

/-- A stored parameter value. -/
structure StoredParameter where
  track : Option TrackId
  name : String
  value : Int
  deriving DecidableEq, Repr

/-- What the recorder answers, and what it has heard. -/
structure Recorder where
  tracks : Nat := 4
  active : TrackId := 0
  groups : List (Option Nat) := []
  focus : List Bool := []
  parameters : List StoredParameter := []
  /-- Names of the actions that are answered with a new event. -/
  deferred : List String := []
  /-- Whether waits are answered with a new event. -/
  schedules : Bool := false
  lastEvent : Nat := 0
  /-- The calls received, the latest first. -/
  heard : List EngineCall := []
  deriving DecidableEq, Repr

namespace Recorder

def calls (recorder : Recorder) : List EngineCall :=
  recorder.heard.reverse

def forget (recorder : Recorder) : Recorder :=
  { recorder with heard := [] }

def newEvent (recorder : Recorder) (wanted : Bool) : Option EventId × Recorder :=
  if wanted then
    (some (recorder.lastEvent + 1), { recorder with lastEvent := recorder.lastEvent + 1 })
  else (none, recorder)

def hear (recorder : Recorder) (call : EngineCall) : Recorder :=
  { recorder with heard := call :: recorder.heard }

def lookup (recorder : Recorder) (track : Option TrackId) (name : String) : Option Int :=
  let stored (track : Option TrackId) :=
    (recorder.parameters.find? fun p => p.track == track && p.name == name).map
      StoredParameter.value
  stored track <|> stored none

/-- Overwrite the first value stored for a track and a name, or add one. -/
def put (track : Option TrackId) (name : String) (value : Int) :
    List StoredParameter → List StoredParameter
  | [] => [⟨track, name, value⟩]
  | p :: rest =>
      if p.track = track ∧ p.name = name then ⟨track, name, value⟩ :: rest
      else p :: put track name value rest

instance : Engine Recorder where
  trackCount recorder := recorder.tracks
  activeTrack recorder := recorder.active
  trackGroup recorder track := (recorder.groups[track]?).join
  isFocusLocked recorder track := (recorder.focus[track]?).getD false
  invoke recorder track action :=
    let (event, recorder) := recorder.newEvent (recorder.deferred.contains action.name)
    (event, recorder.hear (.invoke track action event))
  parameter := lookup
  setParameter recorder track name value :=
    { recorder with parameters := put track name value recorder.parameters }.hear
      (.set track name value)
  scheduleWait recorder track msec :=
    let (event, recorder) := recorder.newEvent recorder.schedules
    (event, recorder.hear (.wait track msec event))
  scriptFinished recorder id := recorder.hear (.finished id)

end Recorder

end Looper
