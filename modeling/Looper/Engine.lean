import Looper.Action

/-!
# The loop engine as seen from here

The engine itself, with its tracks, loops and audio, lies outside this library.
It is any state that answers the questions and takes the calls below.
-/

namespace Looper

/-- The number of a group named by a single letter: its place in the alphabet. -/
def groupLetter (name : String) : Option Nat :=
  match name.toList with
  | [c] => if c.isAlpha then some (c.toUpper.toNat - 'A'.toNat + 1) else none
  | _ => none

/-- What a loop engine with states of type `ε` can be asked to do. -/
class Engine (ε : Type) where
  trackCount : ε → Nat
  activeTrack : ε → TrackId
  /-- The number of the group that a track belongs to. -/
  trackGroup : ε → TrackId → Option Nat
  isFocusLocked : ε → TrackId → Bool
  /-- The number of a group by name. -/
  groupOrdinal : ε → String → Option Nat := fun _ name => groupLetter name
  /-- Apply an action to a track, or to no track; the answer is an event if one was scheduled. -/
  invoke : ε → Option TrackId → Action → Option EventId × ε
  parameter : ε → Option TrackId → String → Option Int
  setParameter : ε → Option TrackId → String → Int → ε
  /-- Schedule an event some milliseconds ahead on a track. -/
  scheduleWait : ε → TrackId → Nat → Option EventId × ε
  /-- A script instance is gone for good. -/
  scriptFinished : ε → InstanceId → ε

end Looper
