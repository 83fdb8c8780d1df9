import Looper.Kernel.Event
import Looper.Mailbox

/-!
# The kernel channel

Envelopes circulate between the real-time side, which fills, sends and recycles
them, and the control side, which handles and completes them.  Only the control
side makes new ones: it tops the supply up to a low-water mark, and never makes
more than a fixed number in all.
-/

namespace Looper

/-- How many envelopes there are to be. -/
structure KernelConfig where
  poolSize : Nat := 16
  poolMax : Nat := 128
  lowWater : Nat := 4
  deriving DecidableEq, Repr

/-- The envelopes of a kernel channel, by place. -/
structure KernelChannel where
  /-- The most envelopes that may ever exist. -/
  poolMax : Nat
  /-- The supply below which the control side makes new envelopes. -/
  lowWater : Nat
  /-- Envelopes made so far. -/
  allocated : Nat
  /-- Envelopes at hand for the real-time side, the next one first. -/
  free : List KernelEvent
  /-- New envelopes on their way to the real-time side. -/
  replenish : Mailbox KernelEvent
  /-- Requests on their way to the control side. -/
  outbound : Mailbox KernelEvent
  /-- Handled requests on their way back. -/
  completed : Mailbox KernelEvent
  /-- The count of envelopes that the real-time side can take. -/
  available : Nat
  /-- The id given to the last request. -/
  lastId : Nat := 0
  deriving DecidableEq, Repr

namespace KernelChannel

/-- A channel with its first envelopes at hand. -/
def new (config : KernelConfig) : KernelChannel :=
  let poolMax := max (max config.poolMax config.poolSize) 1
  { poolMax
    lowWater := min config.lowWater poolMax
    allocated := config.poolSize
    free := (List.range config.poolSize).map .blank
    replenish := .new poolMax
    outbound := .new poolMax
    completed := .new poolMax
    available := config.poolSize }

/-! ## The real-time side -/

/-- Take an envelope: one at hand, else a new one that has arrived. -/
def alloc (channel : KernelChannel) : Logged (Option KernelEvent × KernelChannel) :=
  match channel.free with
  | event :: free =>
      pure (some event, { channel with free, available := channel.available - 1 })
  | [] =>
      match channel.replenish.take with
      | (some event, replenish) =>
          pure (some event, { channel with replenish, available := channel.available - 1 })
      | (none, _) => do
          Log.warn .kernel "kernel event pool exhausted"
          return (none, channel)

/-- Empty an envelope and lay it ready for use, if there is room. -/
def recycle (channel : KernelChannel) (event : KernelEvent) : KernelChannel :=
  if channel.free.length < channel.poolMax then
    { channel with free := event.clear :: channel.free, available := channel.available + 1 }
  else channel

/--
Send a request under the next id.  A request that cannot be posted is dropped
and its envelope recycled; its id is used up all the same.
-/
def send (channel : KernelChannel) (event : KernelEvent) :
    Logged (Option KernelEventId × KernelChannel) :=
  let id := channel.lastId + 1
  let channel := { channel with lastId := id }
  match channel.outbound.post { event with id } with
  | .ok outbound => pure (some id, { channel with outbound })
  | .error _ => do
      Log.warn .kernel s!"kernel event {event.kind.label} dropped"
      return (none, channel.recycle event)

/-- Take, fill and send an envelope.  Arguments beyond the third are left out. -/
def request (channel : KernelChannel) (kind : KernelKind) (args : List String)
    (requestId : Nat) : Logged (Option KernelEventId × KernelChannel) := do
  match ← channel.alloc with
  | (none, channel) => return (none, channel)
  | (some event, channel) =>
      channel.send (KernelEvent.setArgs { event with kind, requestId } 0 args)

def pollCompleted (channel : KernelChannel) : Option KernelEvent × KernelChannel :=
  let (event, completed) := channel.completed.take
  (event, { channel with completed })

def closeRealTimeSide (channel : KernelChannel) : KernelChannel :=
  { channel with
    free := []
    completed := channel.completed.close
    replenish := channel.replenish.close }

/-! ## The control side -/

def receive (channel : KernelChannel) : Option KernelEvent × KernelChannel :=
  let (event, outbound) := channel.outbound.take
  (event, { channel with outbound })

def complete (channel : KernelChannel) (event : KernelEvent) : Logged KernelChannel :=
  match channel.completed.post event with
  | .ok completed => pure { channel with completed }
  | .error refusal => do
      Log.warn .kernel s!"completion dropped: {refusal.message}"
      return channel

/-- Make envelopes, at most a given number, while the supply is low and the limit not reached. -/
def grow : Nat → KernelChannel → Logged KernelChannel
  | 0, channel => pure channel
  | count + 1, channel =>
      if channel.available < channel.lowWater && channel.allocated < channel.poolMax then
        match channel.replenish.post (.blank channel.allocated) with
        | .error _ => pure channel
        | .ok replenish => do
            let allocated := channel.allocated + 1
            Log.debug .kernel s!"kernel event pool grown to {allocated}"
            grow count
              { channel with replenish, allocated, available := channel.available + 1 }
      else pure channel

/-- Bring the supply back to the low-water mark, as far as the limit allows. -/
def topUp (channel : KernelChannel) : Logged KernelChannel :=
  channel.grow (channel.poolMax - channel.allocated)

def closeControlSide (channel : KernelChannel) : KernelChannel :=
  { channel with outbound := channel.outbound.close }

end KernelChannel

end Looper
