import Looper.Dispatch.Basic
import Looper.Script.Instance
import Looper.Script.Library
import Looper.Script.Reference

/-!
# Running a script instance

A run takes an instance from statement to statement until it waits, ends, or
has used up its budget of statements.  What it asks of other scripts on the way
is queued, and carried out by others once the run is over.
-/

namespace Looper

/-- Something that a running script asks of other scripts. -/
inductive ScriptRequest where
  | launch (action : Action)
  | cancel (author : Option InstanceId) (track : Option TrackId)
  deriving DecidableEq, Repr

/-- What all running scripts share. -/
structure ScriptShared where
  library : ScriptLibrary := {}
  globals : Variables := []
  /-- Requests to other scripts, the oldest first. -/
  requests : List ScriptRequest := []
  /-- The number of the current block. -/
  block : Nat := 0
  deriving DecidableEq, Repr

/-- An instance while it runs, and everything it can reach. -/
structure Run (ε : Type) where
  self : ScriptInstance
  shared : ScriptShared
  rig : Rig ε
  deriving DecidableEq, Repr

/-- Where a statement leads. -/
inductive Flow where
  | next
  | goto (index : Nat)
  /-- The statement has set the place itself. -/
  | placed
  /-- The script level is over. -/
  | finish
  deriving DecidableEq, Repr

/-- The variables that are computed when they are read, and can never be set. -/
inductive Internal where
  | sustainCount
  | clickCount
  | triggerValue
  | triggerNumber
  | triggerOffset
  | returnCode
  | track
  | trackCount
  | activeTrack
  deriving DecidableEq, Repr

namespace Internal

def names : List (String × Internal) :=
  [("sustainCount", sustainCount), ("clickCount", clickCount),
   ("triggerValue", triggerValue), ("triggerNumber", triggerNumber),
   ("triggerOffset", triggerOffset), ("returnCode", returnCode), ("track", track),
   ("trackCount", trackCount), ("activeTrack", activeTrack)]

/-- The computed variable with a given name, in any case. -/
def ofName? (name : String) : Option Internal :=
  (names.find? fun entry => Text.sameName entry.1 name).map Prod.snd

end Internal

def isTrue (value : String) : Bool :=
  let text := String.ofList (Text.trim value.toList)
  !(text.isEmpty || text == "0" || Text.sameName text "false")

/-- The order of two values: of integers if both are, else of texts without regard to case. -/
def valueOrder (left right : String) : Ordering :=
  match Text.int64? (Text.trim left.toList), Text.int64? (Text.trim right.toList) with
  | some l, some r => compare l r
  | _, _ => compare (Text.fold left) (Text.fold right)

/-- Script actions of a running script are queued. -/
def ScriptHost.queue {ε : Type} : ScriptHost (List ScriptRequest) ε where
  run action state := pure (state.1 ++ [.launch action], state.2)
  cancel author track state := pure (state.1 ++ [.cancel author track], state.2)

namespace Run

variable {ε : Type}

/-- The most statements that one run evaluates. -/
def budget : Nat := 1000

/-- The number of frames from which on no call is made. -/
def maxDepth : Nat := 64

/-- The largest count of further repeats that a loop keeps. -/
def maxRepeats : Nat := Text.wordSize - 1

def withSelf (run : Run ε) (self : ScriptInstance) : Run ε :=
  { run with self }

def push (run : Run ε) (frame : Frame) : Run ε :=
  run.withSelf { run.self with stack := frame :: run.self.stack }

def withEngine (run : Run ε) (engine : ε) : Run ε :=
  { run with rig := { run.rig with engine } }

def place (run : Run ε) (index : Nat) : String :=
  s!"{run.self.current.name} line {run.self.current.lineOf index}"

/-! ## Values -/

section Values

variable [Engine ε]

/-- The track of the instance, or the active track if it has none. -/
def trackOrActive (run : Run ε) : TrackId :=
  run.self.track.getD (Engine.activeTrack run.rig.engine)

def internal (run : Run ε) : Internal → Int
  | .sustainCount => run.self.sustainCount
  | .clickCount => run.self.clickCount
  | .triggerValue => run.self.triggerValue
  | .triggerNumber => run.self.trigger.triggerNumber run.self.triggerId
  | .triggerOffset => run.self.triggerOffset
  | .returnCode => run.self.returnCode
  | .track => trackNumber run.trackOrActive
  | .trackCount => Engine.trackCount run.rig.engine
  | .activeTrack => trackNumber (Engine.activeTrack run.rig.engine)

/--
What a name stands for: a computed variable, else a variable of the instance,
else one of all scripts, else a parameter of the engine.
-/
def named? (run : Run ε) (name : String) : Option String :=
  ((Internal.ofName? name).map fun which => toString (run.internal which))
    <|> Variables.get? run.self.locals name
    <|> Variables.get? run.shared.globals name
    <|> (Engine.parameter run.rig.engine run.self.track name).map toString

def resolve (run : Run ε) : Reference → Option String
  | .argument position => Reference.positional? run.self.args position
  | .named name => run.named? name

def expand (run : Run ε) (text : String) : Logged String :=
  Reference.expand run.resolve text

/-- Replace the references in an operand; a bare name that stands for something is a reference. -/
def operand (run : Run ε) (text : String) : Logged String := do
  let value ← run.expand text
  if Reference.isName value.toList then
    return (run.named? value).getD value
  return value

def test (run : Run ε) (condition : Condition) : Logged Bool := do
  let left ← run.operand condition.left
  match condition.compare with
  | none => return isTrue left
  | some (comparison, right) =>
      return comparison.holds (valueOrder left (← run.operand right))

/-- Add the tracks that a word of a track list means, as far as the engine has them. -/
def addTracks (run : Run ε) (set : TrackSet) (word : List Char) : Logged TrackSet :=
  let engine := run.rig.engine
  let count := min (Engine.trackCount engine) trackLimit
  let add (set : TrackSet) (track : TrackId) : TrackSet :=
    if track < count then set.insert track else set
  match Text.fold (String.ofList word) with
  | "*" | "all" => pure ((List.range count).foldl add set)
  | "focused" =>
      pure (((List.range count).filter (Engine.isFocusLocked engine)).foldl add
        (add set (Engine.activeTrack engine)))
  | other =>
      match Text.nat32? other.toList with
      | some (track + 1) => pure (add set track)
      | _ => do
          Log.warn .scripts s!"{run.self.current.name}: bad track '{String.ofList word}'"
          return set

def trackList (run : Run ε) (text : String) : Logged TrackSet := do
  let text ← run.expand text
  (Text.fields (fun c => c == ',' || Text.isBlank c) text.toList).foldlM run.addTracks .empty

end Values

/-! ## Statements -/

section Statements

variable [Engine ε]

/-- A label that is run into ends the label block it stands at the end of. -/
def label (run : Run ε) : Flow × Run ε :=
  match run.self.stack with
  | .label script resume :: rest =>
      (.placed, run.withSelf { run.self with stack := rest, current := script, pc := resume })
  | _ => (.next, run)

/-- Enter a proc or another script, to return to the statement after the call. -/
def call (run : Run ε) (index : Nat) (target : CallTarget) (args : String) :
    Logged (Flow × Run ε) := do
  if maxDepth ≤ run.self.stack.length then
    Log.warn .scripts s!"{run.place index}: calls nested too deep"
    return (.next, run)
  let args ← run.expand args
  match target with
  | .proc start => return (.goto (start + 1), run.push (.call none (index + 1) args))
  | .script name =>
      match run.shared.library.find? name with
      | none =>
          Log.warn .scripts s!"{run.place index}: no script or proc named {name}"
          return (.next, run)
      | some callee =>
          let run := run.push (.call (some run.self.current) (index + 1) args)
          return (.goto 0, run.withSelf { run.self with current := callee })

def endProc (run : Run ε) (index : Nat) : Logged (Flow × Run ε) :=
  match run.self.stack with
  | .call none returnTo _ :: rest =>
      pure (.goto returnTo, run.withSelf { run.self with stack := rest })
  | .warp :: rest => pure (.finish, run.withSelf { run.self with stack := rest })
  | frame :: _ => do
      Log.warn .scripts s!"{run.place index}: Endproc with open {frame.kind}"
      return (.finish, run)
  | [] => pure (.finish, run)

/-- Make a variable of the instance, or of all scripts unless there is one already. -/
def declare (run : Run ε) (everywhere : Bool) (name value : String) : Logged (Run ε) := do
  let value ← run.expand value
  if everywhere then
    return { run with
      shared := { run.shared with globals := Variables.declare run.shared.globals name value } }
  return run.withSelf { run.self with locals := Variables.set name value run.self.locals }

/--
Set a variable: one of the instance, else one of all scripts, else a new one of
the instance.  Computed variables cannot be set.
-/
def assign (run : Run ε) (index : Nat) (name value : String) : Logged (Run ε) := do
  if (Internal.ofName? name).isSome then
    Log.warn .scripts s!"{run.place index}: {name} is read-only"
    return run
  let value ← run.expand value
  if !Variables.has run.self.locals name && Variables.has run.shared.globals name then
    return { run with
      shared := { run.shared with globals := Variables.set name value run.shared.globals } }
  return run.withSelf { run.self with locals := Variables.set name value run.self.locals }

/-- Set an engine parameter until the script ends; its value before the first time is saved. -/
def use (run : Run ε) (name value : String) : Logged (Run ε) := do
  let text ← run.operand value
  match Text.int32? (Text.trim text.toList) with
  | none =>
      Log.warn .scripts s!"{run.self.current.name}: bad value '{text}' for {name}"
      return run
  | some value =>
      let track := run.self.track
      let saved := run.self.uses.any fun u => u.track == track && Text.sameName u.name name
      let previous := if saved then none else Engine.parameter run.rig.engine track name
      let uses := run.self.uses ++ (previous.map fun value => ⟨track, name, value⟩).toList
      return (run.withSelf { run.self with uses }).withEngine
        (Engine.setParameter run.rig.engine track name value)

def repeatCount (run : Run ε) (index : Nat) (text : String) : Logged Int :=
  match Text.int64? (Text.trim text.toList) with
  | some times => pure times
  | none => do
      Log.warn .scripts s!"{run.place index}: bad repeat count '{text}'"
      return 0

/-- Start a loop that repeats, unless there is nothing to repeat. -/
def repeatLoop (run : Run ε) (index : Nat) (count : String) (next : Nat) :
    Logged (Flow × Run ε) := do
  let times ← run.repeatCount index (← run.operand count)
  if times ≤ 0 then return (.goto (next + 1), run)
  let remaining := min (times - 1).toNat maxRepeats
  return (.next, run.push (.loop index (.repeats remaining)))

/-- Start a loop over tracks, unless there are none. -/
def trackLoop (run : Run ε) (index : Nat) (tracks : String) (next : Nat) :
    Logged (Flow × Run ε) := do
  let set ← run.trackList tracks
  match set.toList with
  | [] => return (.goto (next + 1), run)
  | first :: remaining =>
      let run := run.push (.loop index (.tracks remaining run.self.track))
      return (.next, run.withSelf { run.self with track := some first })

/-- Go round the innermost loop again, or leave it. -/
def next (run : Run ε) (index start : Nat) : Logged (Flow × Run ε) :=
  let unmatched : Logged (Flow × Run ε) := do
    Log.warn .scripts s!"{run.place index}: Next without a loop"
    return (.next, run)
  match run.self.stack with
  | .loop opened iteration :: rest =>
      if opened = start then
        match iteration with
        | .repeats (remaining + 1) =>
            pure (.goto (start + 1), run.withSelf
              { run.self with stack := .loop opened (.repeats remaining) :: rest })
        | .repeats 0 => pure (.next, run.withSelf { run.self with stack := rest })
        | .tracks (track :: remaining) saved =>
            pure (.goto (start + 1), run.withSelf
              { run.self with
                stack := .loop opened (.tracks remaining saved) :: rest
                track := some track })
        | .tracks [] saved =>
            pure (.next, run.withSelf { run.self with stack := rest, track := saved })
      else unmatched
  | _ => unmatched

/-- Ask the engine for an event some time ahead, and wait for it. -/
def waitMsec (run : Run ε) (index : Nat) (time : String) : Logged (Run ε) := do
  let text ← run.operand time
  match Text.nat32? (Text.trim text.toList) with
  | none =>
      Log.warn .scripts s!"{run.place index}: bad wait time '{text}'"
      return run
  | some msec =>
      let (event, engine) := Engine.scheduleWait run.rig.engine run.trackOrActive msec
      let run := run.withEngine engine
      match event with
      | none =>
          Log.warn .scripts s!"{run.place index}: wait not scheduled"
          return run
      | some event =>
          return (run.withSelf { run.self with lastEvent := some event }).push
            (.wait { event := some event })

def wait (run : Run ε) (index : Nat) : WaitKind → Logged (Run ε)
  | .last =>
      match run.self.lastEvent with
      | some event => pure (run.push (.wait { event := some event }))
      | none => do
          Log.debug .scripts s!"{run.place index}: nothing to wait for"
          return run
  | .thread =>
      match run.self.lastKernelEvent with
      | some kernel => pure (run.push (.wait { kernel := some kernel }))
      | none => pure run
  | .block => pure (run.push (.wait { block := some run.shared.block }))
  | .msec time => run.waitMsec index time
  | .function symbol => pure (run.push (.wait { function := some symbol }))

def expandAll (run : Run ε) : List String → Logged (List String)
  | [] => pure []
  | text :: rest => do
      let first ← run.expand text
      let more ← run.expandAll rest
      return first :: more

/-- Send a kernel request, and wait for the answer if there is one to come. -/
def request (run : Run ε) (kind : KernelKind) (args : List String) : Logged (Run ε) := do
  match ← run.rig.kernel.alloc with
  | (none, kernel) => return { run with rig := { run.rig with kernel } }
  | (some event, kernel) =>
      let args ← run.expandAll args
      let (id, kernel) ← kernel.send
        (KernelEvent.setArgs { event with kind, requestId := run.self.requestId } 0 args)
      let run : Run ε :=
        { run with
          self := { run.self with lastKernelEvent := id }
          rig := { run.rig with kernel } }
      match id with
      | some id =>
          if kind.expectsReply then return run.push (.wait { kernel := some id })
          return run
      | none => return run

/-- The action of an invocation with its arguments replaced. -/
def actionOf (run : Run ε) (invocation : Invocation) (args : String) : Action :=
  let action : Action :=
    { symbol := invocation.symbol
      name := invocation.name
      target := invocation.target
      level := invocation.level
      scope := (run.self.track.map Scope.track).getD .active
      trigger := .script
      author := some run.self.id }
  let action := action.withArgs args
  match Text.int32? (Text.trim action.args.toList) with
  | some value => action.withValue value
  | none => action

/-- Invoke a symbol on the instance's track, and remember the events it leads to. -/
def invoke (run : Run ε) (index : Nat) (invocation : Invocation) : Logged (Run ε) := do
  if !invocation.target.isResolved then
    Log.warn .scripts s!"{run.place index}: unresolved symbol {invocation.name}"
    return run
  let args ← run.expand invocation.args
  let (action, requests, rig) ←
    Dispatch.perform ScriptHost.queue (run.actionOf invocation args)
      (run.shared.requests, run.rig)
  return {
    self := { run.self with
      lastEvent := action.event <|> run.self.lastEvent
      lastKernelEvent := action.kernelEvent <|> run.self.lastKernelEvent }
    shared := { run.shared with requests }
    rig }

/-- Evaluate the statement at an index. -/
def evaluate (run : Run ε) (index : Nat) : Statement → Logged (Flow × Run ε)
  | .label .. => pure run.label
  | .jump label => pure (.goto (label + 1), run)
  | .call target args => run.call index target args
  | .warp proc => pure (.goto (proc + 1), run.push .warp)
  | .proc _ close => pure (.goto (close + 1), run)
  | .endProc => run.endProc index
  | .declare everywhere name value => do return (.next, ← run.declare everywhere name value)
  | .assign name value => do return (.next, ← run.assign index name value)
  | .use name value => do return (.next, ← run.use name value)
  | .branch condition otherwise => do
      if ← run.test condition then return (.next, run)
      return (.goto (otherwise + 1), run)
  | .otherwise close => pure (.goto (close + 1), run)
  | .endBranch => pure (.next, run)
  | .repeatLoop count next => run.repeatLoop index count next
  | .trackLoop tracks next => run.trackLoop index tracks next
  | .next start => run.next index start
  | .wait kind => do return (.next, ← run.wait index kind)
  | .request kind args => do return (.next, ← run.request kind args)
  | .finish => pure (.finish, run)
  | .invoke invocation => do return (.next, ← run.invoke index invocation)

end Statements

/-! ## From statement to statement -/

def setPlace (run : Run ε) (pc : Option Nat) : Run ε :=
  run.withSelf { run.self with pc }

def follow (run : Run ε) (index : Nat) : Flow → Run ε
  | .next => run.setPlace (some (index + 1))
  | .goto target => run.setPlace (some target)
  | .placed => run
  | .finish => run.withSelf run.self.endLevel

/-- The statement to be evaluated next, and its index, unless the place is past the end. -/
def here? (run : Run ε) : Option (Nat × Statement) :=
  run.self.pc.bind fun index => run.self.current.statements[index]?.map (index, ·)

/-- Take the wait off the top of the stack, if it is satisfied. -/
def wake? (run : Run ε) : Option (Run ε) :=
  match run.self.stack with
  | .wait wait :: rest =>
      if wait.isSatisfied then some (run.withSelf { run.self with stack := rest }) else none
  | _ => none

theorem length_stack_wake {run woken : Run ε} (wakes : run.wake? = some woken) :
    woken.self.stack.length < run.self.stack.length := by
  unfold wake? at wakes
  split at wakes
  · next stack =>
      split at wakes
      · cases wakes
        simp [withSelf, stack]
      · simp at wakes
  · simp at wakes

/--
What comes before the next statement: waking from the waits that are over and, past the
end of a script, leaving its levels.
-/
def arrive (run : Run ε) : Run ε :=
  if run.self.isWaiting then run
  else
    match _woken : run.wake? with
    | some run => arrive run
    | none =>
        if run.here?.isSome then run
        else if _opened : run.self.stack = [] then run.setPlace none
        else arrive (run.withSelf run.self.endLevel)
termination_by run.self.stack.length
decreasing_by
  · exact length_stack_wake _woken
  · exact run.self.length_endLevel_lt _opened

variable [Engine ε]

/--
Run until the script waits, ends or has evaluated a number of statements.
Waking from a wait and leaving a script level cost nothing.
-/
def advance (steps : Nat) (run : Run ε) : Logged (Run ε) :=
  let run := run.arrive
  if run.self.isWaiting then pure run
  else
    match run.here? with
    | none => pure run
    | some (index, statement) =>
        match steps with
        | 0 => do
            Log.warn .scripts
              s!"{run.self.current.name}: {budget} statements without a wait, suspending"
            return run
        | steps + 1 => do
            let (flow, run) ← run.evaluate index statement
            advance steps (run.follow index flow)

/-- Run an instance; at the beginning of a block, waits for the next block are over first. -/
def go (fresh : Bool) (run : Run ε) : Logged (Run ε) :=
  let run := if fresh then run.withSelf (run.self.releaseBlock run.shared.block) else run
  advance budget run

end Run

end Looper
