import Looper.Script.Statement

/-!
# Frames

All that a script needs in order to go on later lies on a stack of frames:
calls, loops, label blocks that interrupted it, and waits.  Taking a frame off
tells where the script continues.
-/

namespace Looper

/-- What a wait is blocked on.  It is over once nothing is left. -/
structure Wait where
  function : Option SymbolId := none
  event : Option EventId := none
  kernel : Option KernelEventId := none
  /-- The block in which a wait for the next block began. -/
  block : Option Nat := none
  deriving DecidableEq, Repr

namespace Wait

def isSatisfied (wait : Wait) : Bool :=
  wait.function.isNone && wait.event.isNone && wait.kernel.isNone && wait.block.isNone

def finishEvent (event : EventId) (wait : Wait) : Wait :=
  if wait.event = some event then { wait with event := none } else wait

def finishKernel (event : KernelEventId) (wait : Wait) : Wait :=
  if wait.kernel = some event then { wait with kernel := none } else wait

def finishFunction (symbol : SymbolId) (wait : Wait) : Wait :=
  if wait.function = some symbol then { wait with function := none } else wait

/-- A block began: waits that began in an earlier one are over. -/
def releaseBlock (block : Nat) (wait : Wait) : Wait :=
  if wait.block.any (· < block) then { wait with block := none } else wait

end Wait

/-- How far a loop has come. -/
inductive Iteration where
  | repeats (remaining : Nat)
  /-- The tracks still to be visited, and the track to return to. -/
  | tracks (remaining : List TrackId) (saved : Option TrackId)
  deriving DecidableEq, Repr

/-- Something to come back to. -/
inductive Frame where
  /-- A call; the caller is given for calls into another script. -/
  | call (caller : Option Script) (returnTo : Nat) (args : String)
  /-- A proc entered for good: when it returns, the script level ends. -/
  | warp
  | loop (start : Nat) (iteration : Iteration)
  /-- A label block entered from outside, and the place that it interrupted. -/
  | label (script : Script) (resume : Option Nat)
  | wait (wait : Wait)
  deriving DecidableEq, Repr

namespace Frame

def kind : Frame → String
  | call .. => "call"
  | warp => "warp"
  | loop .. => "iterator"
  | label .. => "label"
  | wait _ => "wait"

def mapWait (change : Wait → Wait) : Frame → Frame
  | wait w => wait (change w)
  | frame => frame

def args? : Frame → Option String
  | call _ _ args => some args
  | _ => none

def awaitedKernel? : Frame → Option KernelEventId
  | wait w => w.kernel
  | _ => none

end Frame

end Looper
