import Looper.Proofs.Script.Stepping

/-!
# What a statement comes to

`Run.Effect` lists once what evaluating a statement may come to: where it leads, what
it leaves of the run, and under which condition.  Evaluating a statement always has
one of its effects, so what holds of all effects holds of every statement.
-/

namespace Looper

/-- What a wait waits for. -/
inductive Cause where
  | event (event : EventId)
  | kernel (event : KernelEventId)
  | function (symbol : SymbolId)
  /-- The block after the one with a number. -/
  | block (block : Nat)
  deriving DecidableEq

def Cause.wait : Cause → Wait
  | .event id => { event := some id }
  | .kernel id => { kernel := some id }
  | .function symbol => { function := some symbol }
  | .block number => { block := some number }

namespace Run

variable {ε : Type} [Engine ε]

/-- What a wait statement waits for, if there is something to wait for. -/
def waitsFor? (run : Run ε) : WaitKind → Option Cause
  | .last => run.self.lastEvent.map .event
  | .thread => run.self.lastKernelEvent.map .kernel
  | .block => some (.block run.shared.block)
  | .msec time =>
      (Text.nat32? (Text.trim (run.operand time).value.toList)).bind fun msec =>
        (Engine.scheduleWait run.rig.engine run.trackOrActive msec).1.map .event
  | .function symbol => some (.function symbol)

/-- What a statement waits for: a wait statement, or a request that is to be answered. -/
def awaits? (run : Run ε) : Statement → Option Cause
  | .wait kind => run.waitsFor? kind
  | .request kind args =>
      if kind.expectsReply then
        (run.rig.kernel.request kind (run.expandAll args).value run.self.requestId).value.1.map
          .kernel
      else none
  | _ => none

section Waiting

variable (run : Run ε)

theorem waitsFor?_msec {time : String} {msec : Nat} {event : EventId} {engine : ε}
    (read : Text.nat32? (Text.trim (run.operand time).value.toList) = some msec)
    (schedules :
      Engine.scheduleWait run.rig.engine run.trackOrActive msec = (some event, engine)) :
    run.waitsFor? (.msec time) = some (.event event) := by
  rw [waitsFor?, read, Option.bind_some, schedules]
  rfl

theorem waitsFor?_msec_eq_none {time : String} {msec : Nat} {engine : ε}
    (read : Text.nat32? (Text.trim (run.operand time).value.toList) = some msec)
    (refuses : Engine.scheduleWait run.rig.engine run.trackOrActive msec = (none, engine)) :
    run.waitsFor? (.msec time) = none := by
  rw [waitsFor?, read, Option.bind_some, refuses]
  rfl

theorem awaits?_wait (kind : WaitKind) : run.awaits? (.wait kind) = run.waitsFor? kind :=
  rfl

theorem awaits?_request {kind : KernelKind} {args : List String} {id : KernelEventId}
    {kernel : KernelChannel}
    (requested : (run.rig.kernel.request kind (run.expandAll args).value
      run.self.requestId).value = (some id, kernel))
    (answered : kind.expectsReply = true) :
    run.awaits? (.request kind args) = some (.kernel id) := by
  rw [awaits?, if_pos answered, requested]
  rfl

end Waiting

/-! ## Effects -/

/-- What evaluating a statement may come to: where it leads, and what it leaves of the run. -/
inductive Effect (run : Run ε) (index : Nat) : Statement → Flow → Run ε → Prop where
  | resumed {name : String} {kind : LabelKind} {script : Script} {resume : Option Nat}
      {rest : List Frame} (top : run.self.stack = .label script resume :: rest) :
      Effect run index (.label name kind) .placed
        (run.withSelf { run.self with stack := rest, current := script, pc := resume })
  | labelPassed {name : String} {kind : LabelKind}
      (noLabel : ∀ script resume rest, run.self.stack ≠ .label script resume :: rest) :
      Effect run index (.label name kind) .next run
  | jumped {label : Nat} : Effect run index (.jump label) (.goto (label + 1)) run
  | callTooDeep {target : CallTarget} {args : String}
      (deep : maxDepth ≤ run.self.stack.length) : Effect run index (.call target args) .next run
  | callUnknown {name args : String} (missing : run.shared.library.find? name = none) :
      Effect run index (.call (.script name) args) .next run
  | procCalled {start : Nat} {args : String} (room : run.self.stack.length < maxDepth) :
      Effect run index (.call (.proc start) args) (.goto (start + 1))
        (run.push (.call none (index + 1) (run.expand args).value))
  | scriptCalled {name args : String} {callee : Script}
      (room : run.self.stack.length < maxDepth)
      (found : run.shared.library.find? name = some callee) :
      Effect run index (.call (.script name) args) (.goto 0)
        (run.withSelf { run.self with
          stack := .call (some run.self.current) (index + 1) (run.expand args).value ::
            run.self.stack
          current := callee })
  | warped {start : Nat} :
      Effect run index (.warp start) (.goto (start + 1)) (run.push .warp)
  | procPassed {name : String} {close : Nat} :
      Effect run index (.proc name close) (.goto (close + 1)) run
  | returned {returnTo : Nat} {args : String} {rest : List Frame}
      (top : run.self.stack = .call none returnTo args :: rest) :
      Effect run index .endProc (.goto returnTo) (run.withSelf { run.self with stack := rest })
  | warpOver {rest : List Frame} (top : run.self.stack = .warp :: rest) :
      Effect run index .endProc .finish (run.withSelf { run.self with stack := rest })
  | procUnopened
      (noCall : ∀ returnTo args rest, run.self.stack ≠ .call none returnTo args :: rest)
      (noWarp : ∀ rest, run.self.stack ≠ .warp :: rest) :
      Effect run index .endProc .finish run
  | declared {name value : String} :
      Effect run index (.declare false name value) .next
        (run.withSelf { run.self with
          locals := Variables.set name (run.expand value).value run.self.locals })
  | declaredForAll {name value : String} :
      Effect run index (.declare true name value) .next
        { run with shared := { run.shared with
          globals := Variables.declare run.shared.globals name (run.expand value).value } }
  | readOnly {name value : String} (computed : (Internal.ofName? name).isSome = true) :
      Effect run index (.assign name value) .next run
  | assigned {name value : String} (settable : (Internal.ofName? name).isSome = false)
      (own : (!Variables.has run.self.locals name &&
        Variables.has run.shared.globals name) = false) :
      Effect run index (.assign name value) .next
        (run.withSelf { run.self with
          locals := Variables.set name (run.expand value).value run.self.locals })
  | assignedForAll {name value : String} (settable : (Internal.ofName? name).isSome = false)
      (shared : (!Variables.has run.self.locals name &&
        Variables.has run.shared.globals name) = true) :
      Effect run index (.assign name value) .next
        { run with shared := { run.shared with
          globals := Variables.set name (run.expand value).value run.shared.globals } }
  | useless {name value : String}
      (noNumber : Text.int32? (Text.trim (run.operand value).value.toList) = none) :
      Effect run index (.use name value) .next run
  | used {name value : String} {uses : List SavedParameter} {number : Int}
      (isNumber : Text.int32? (Text.trim (run.operand value).value.toList) = some number)
      (saves : uses = ((if run.self.uses.any fun saved =>
          saved.track == run.self.track && Text.sameName saved.name name then none
        else Engine.parameter run.rig.engine run.self.track name).map fun previous =>
          ⟨run.self.track, name, previous⟩).toList) :
      Effect run index (.use name value) .next
        ((run.withSelf { run.self with uses := run.self.uses ++ uses }).withEngine
          (Engine.setParameter run.rig.engine run.self.track name number))
  | held {condition : Condition} {otherwise : Nat} (holds : (run.test condition).value = true) :
      Effect run index (.branch condition otherwise) .next run
  | failed {condition : Condition} {otherwise : Nat}
      (fails : (run.test condition).value = false) :
      Effect run index (.branch condition otherwise) (.goto (otherwise + 1)) run
  | skippedElse {close : Nat} : Effect run index (.otherwise close) (.goto (close + 1)) run
  | branchOver : Effect run index .endBranch .next run
  | noRepeat {count : String} {next : Nat} {times : Int}
      (isCount : (run.repeatCount index (run.operand count).value).value = times)
      (none : times ≤ 0) : Effect run index (.repeatLoop count next) (.goto (next + 1)) run
  | repeated {count : String} {next : Nat} {times : Int}
      (isCount : (run.repeatCount index (run.operand count).value).value = times)
      (some : 0 < times) :
      Effect run index (.repeatLoop count next) .next
        (run.push (.loop index (.repeats (min (times - 1).toNat maxRepeats))))
  | noTrack {tracks : String} {next : Nat} (none : (run.trackList tracks).value.toList = []) :
      Effect run index (.trackLoop tracks next) (.goto (next + 1)) run
  | tracked {tracks : String} {next : Nat} {first : TrackId} {remaining : List TrackId}
      (some : (run.trackList tracks).value.toList = first :: remaining) :
      Effect run index (.trackLoop tracks next) .next
        (run.withSelf { run.self with
          stack := .loop index (.tracks remaining run.self.track) :: run.self.stack
          track := .some first })
  | nextPassed {start : Nat}
      (elsewhere : ∀ iteration rest, run.self.stack ≠ .loop start iteration :: rest) :
      Effect run index (.next start) .next run
  | nextRound {start remaining : Nat} {rest : List Frame}
      (top : run.self.stack = .loop start (.repeats (remaining + 1)) :: rest) :
      Effect run index (.next start) (.goto (start + 1))
        (run.withSelf { run.self with stack := .loop start (.repeats remaining) :: rest })
  | lastRound {start : Nat} {rest : List Frame}
      (top : run.self.stack = .loop start (.repeats 0) :: rest) :
      Effect run index (.next start) .next (run.withSelf { run.self with stack := rest })
  | nextTrack {start : Nat} {track : TrackId} {remaining : List TrackId}
      {saved : Option TrackId} {rest : List Frame}
      (top : run.self.stack = .loop start (.tracks (track :: remaining) saved) :: rest) :
      Effect run index (.next start) (.goto (start + 1))
        (run.withSelf { run.self with
          stack := .loop start (.tracks remaining saved) :: rest
          track := some track })
  | lastTrack {start : Nat} {saved : Option TrackId} {rest : List Frame}
      (top : run.self.stack = .loop start (.tracks [] saved) :: rest) :
      Effect run index (.next start) .next
        (run.withSelf { run.self with stack := rest, track := saved })
  | nothingToWaitFor {kind : WaitKind} (nothing : run.waitsFor? kind = none) :
      Effect run index (.wait kind) .next run
  | unscheduled {time : String} {msec : Nat} {engine : ε}
      (read : Text.nat32? (Text.trim (run.operand time).value.toList) = some msec)
      (refuses : Engine.scheduleWait run.rig.engine run.trackOrActive msec = (none, engine)) :
      Effect run index (.wait (.msec time)) .next (run.withEngine engine)
  | scheduled {time : String} {msec : Nat} {event : EventId} {engine : ε}
      (read : Text.nat32? (Text.trim (run.operand time).value.toList) = some msec)
      (schedules :
        Engine.scheduleWait run.rig.engine run.trackOrActive msec = (some event, engine)) :
      Effect run index (.wait (.msec time)) .next
        ((run.withSelf { run.self with
          stack := .wait (Cause.event event).wait :: run.self.stack
          lastEvent := some event }).withEngine engine)
  | waited {kind : WaitKind} {cause : Cause} (begins : run.waitsFor? kind = some cause)
      (atOnce : ∀ time, kind ≠ .msec time) :
      Effect run index (.wait kind) .next (run.push (.wait cause.wait))
  | refused {kind : KernelKind} {args : List String} {kernel : KernelChannel}
      {last : Option KernelEventId}
      (requested : (run.rig.kernel.request kind (run.expandAll args).value
        run.self.requestId).value = (none, kernel))
      (forgets : last = none ∨ last = run.self.lastKernelEvent) :
      Effect run index (.request kind args) .next
        { run with
          self := { run.self with lastKernelEvent := last }
          rig := { run.rig with kernel } }
  | sent {kind : KernelKind} {args : List String} {id : KernelEventId} {kernel : KernelChannel}
      (requested : (run.rig.kernel.request kind (run.expandAll args).value
        run.self.requestId).value = (some id, kernel))
      (unanswered : kind.expectsReply = false) :
      Effect run index (.request kind args) .next
        { run with
          self := { run.self with lastKernelEvent := some id }
          rig := { run.rig with kernel } }
  | asked {kind : KernelKind} {args : List String} {id : KernelEventId} {kernel : KernelChannel}
      (requested : (run.rig.kernel.request kind (run.expandAll args).value
        run.self.requestId).value = (some id, kernel))
      (answered : kind.expectsReply = true) :
      Effect run index (.request kind args) .next
        { run with
          self := { run.self with
            stack := .wait (Cause.kernel id).wait :: run.self.stack
            lastKernelEvent := some id }
          rig := { run.rig with kernel } }
  | finished : Effect run index .finish .finish run
  | unresolved {invocation : Invocation} (unknown : invocation.target.isResolved = false) :
      Effect run index (.invoke invocation) .next run
  | invoked {invocation : Invocation} {action : Action} {requests : List ScriptRequest}
      {rig : Rig ε} (resolved : invocation.target.isResolved = true)
      (performed : (Dispatch.perform .queue
        (run.actionOf invocation (run.expand invocation.args).value)
        (run.shared.requests, run.rig)).value = (action, requests, rig)) :
      Effect run index (.invoke invocation) .next
        { self := { run.self with
            lastEvent := action.event <|> run.self.lastEvent
            lastKernelEvent := action.kernelEvent <|> run.self.lastKernelEvent }
          shared := { run.shared with requests }
          rig }

/-! ## Every statement -/

variable (run : Run ε) (index : Nat)

theorem effect_label (name : String) (kind : LabelKind) :
    run.Effect index (.label name kind) run.label.1 run.label.2 := by
  unfold label
  split
  · next top => exact .resumed top
  · next noLabel => exact .labelPassed noLabel

theorem effect_call (target : CallTarget) (args : String) :
    run.Effect index (.call target args) (run.call index target args).value.1
      (run.call index target args).value.2 := by
  unfold call
  split
  · next deep => exact .callTooDeep deep
  · next shallow =>
      have room : run.self.stack.length < maxDepth := Nat.lt_of_not_le shallow
      simp only [Logged.value_bind]
      split
      · exact .procCalled room
      · split
        · next missing => exact .callUnknown missing
        · next found => exact .scriptCalled room found

theorem effect_endProc :
    run.Effect index .endProc (run.endProc index).value.1 (run.endProc index).value.2 := by
  unfold endProc
  split
  · next top => exact .returned top
  · next top => exact .warpOver top
  · next frame rest noCall noWarp top =>
      refine .procUnopened (fun returnTo args others isCall => ?_) fun others isWarp => ?_
      · exact noCall returnTo args (List.cons.inj (top.symm.trans isCall)).1
      · exact noWarp (List.cons.inj (top.symm.trans isWarp)).1
  · next empty => exact .procUnopened (by simp [empty]) (by simp [empty])

theorem effect_declare (everywhere : Bool) (name value : String) :
    run.Effect index (.declare everywhere name value) .next
      (run.declare everywhere name value).value := by
  cases everywhere with
  | false => exact .declared
  | true => exact .declaredForAll

theorem effect_assign (name value : String) :
    run.Effect index (.assign name value) .next (run.assign index name value).value := by
  unfold assign
  split
  · next computed => exact .readOnly computed
  · next settable =>
      simp only [Logged.value_bind]
      split
      · next shared => exact .assignedForAll (Bool.eq_false_iff.2 settable) shared
      · next own => exact .assigned (Bool.eq_false_iff.2 settable) (Bool.eq_false_iff.2 own)

theorem effect_use (name value : String) :
    run.Effect index (.use name value) .next (run.use name value).value := by
  unfold use
  simp only [Logged.value_bind]
  split
  · next noNumber => exact .useless noNumber
  · next isNumber => exact .used isNumber rfl

theorem effect_repeatLoop (count : String) (next : Nat) :
    run.Effect index (.repeatLoop count next) (run.repeatLoop index count next).value.1
      (run.repeatLoop index count next).value.2 := by
  unfold repeatLoop
  simp only [Logged.value_bind]
  split
  · next none => exact .noRepeat rfl none
  · next some => exact .repeated rfl (Int.lt_of_not_ge some)

theorem effect_trackLoop (tracks : String) (next : Nat) :
    run.Effect index (.trackLoop tracks next) (run.trackLoop index tracks next).value.1
      (run.trackLoop index tracks next).value.2 := by
  unfold trackLoop
  simp only [Logged.value_bind]
  split
  · next none => exact .noTrack none
  · next some => exact .tracked some

theorem effect_next (start : Nat) :
    run.Effect index (.next start) (run.next index start).value.1
      (run.next index start).value.2 := by
  unfold Run.next
  split
  · next opened iteration rest top =>
      split
      · next own =>
          subst own
          split
          · exact .nextRound top
          · exact .lastRound top
          · exact .nextTrack top
          · exact .lastTrack top
      · next other =>
          refine .nextPassed fun iteration rest isTop => other ?_
          exact (Frame.loop.inj (List.cons.inj (top.symm.trans isTop)).1).1
  · next noLoop => exact .nextPassed fun iteration rest => noLoop start iteration rest

theorem effect_waitMsec (time : String) :
    run.Effect index (.wait (.msec time)) .next (run.waitMsec index time).value := by
  unfold waitMsec
  simp only [Logged.value_bind]
  split
  · next unread => exact .nothingToWaitFor (by rw [waitsFor?, unread]; rfl)
  · next msec read =>
      cases schedules : Engine.scheduleWait run.rig.engine run.trackOrActive msec with
      | mk event engine =>
          cases event with
          | none => exact .unscheduled read schedules
          | some event => exact .scheduled read schedules

theorem effect_wait (kind : WaitKind) :
    run.Effect index (.wait kind) .next (run.wait index kind).value := by
  have waits {cause : Cause} (begins : run.waitsFor? kind = some cause)
      (atOnce : ∀ time, kind ≠ .msec time) :
      run.Effect index (.wait kind) .next (run.push (.wait cause.wait)) := .waited begins atOnce
  cases kind with
  | last =>
      unfold wait
      cases last : run.self.lastEvent with
      | none => exact .nothingToWaitFor (by rw [waitsFor?, last]; rfl)
      | some event => exact waits (by rw [waitsFor?, last]; rfl) nofun
  | thread =>
      unfold wait
      cases last : run.self.lastKernelEvent with
      | none => exact .nothingToWaitFor (by rw [waitsFor?, last]; rfl)
      | some event => exact waits (by rw [waitsFor?, last]; rfl) nofun
  | block => exact waits rfl nofun
  | msec time => exact run.effect_waitMsec index time
  | function symbol => exact waits rfl nofun

/-- A request goes through the channel, and the event that is sent becomes the last one. -/
theorem effect_request (kind : KernelKind) (args : List String) :
    run.Effect index (.request kind args) .next (run.request kind args).value := by
  unfold request
  rw [Logged.value_bind]
  cases taken : run.rig.kernel.alloc.value with
  | mk event kernel =>
      cases event with
      | none =>
          refine .refused ?_ (.inr rfl)
          rw [KernelChannel.request, Logged.value_bind, taken]
          rfl
      | some event =>
          simp only [Logged.value_bind]
          cases sends : (kernel.send (KernelEvent.setArgs
              { event with kind, requestId := run.self.requestId } 0
              (run.expandAll args).value)).value with
          | mk id after =>
              have requested : (run.rig.kernel.request kind (run.expandAll args).value
                  run.self.requestId).value = (id, after) := by
                rw [KernelChannel.request, Logged.value_bind, taken]
                exact sends
              cases id with
              | none => exact .refused requested (.inl rfl)
              | some id =>
                  cases answered : kind.expectsReply with
                  | false => exact .sent requested answered
                  | true => exact .asked requested answered

theorem effect_invoke (invocation : Invocation) :
    run.Effect index (.invoke invocation) .next (run.invoke index invocation).value := by
  unfold invoke
  cases resolved : invocation.target.isResolved with
  | false => exact .unresolved resolved
  | true =>
      simp only [Logged.value_bind, Bool.not_true, Bool.false_eq_true, if_false]
      cases performed : (Dispatch.perform .queue
          (run.actionOf invocation (run.expand invocation.args).value)
          (run.shared.requests, run.rig)).value with
      | mk action state => exact .invoked resolved performed

/-- Evaluating a statement has one of its effects. -/
theorem effect_evaluate (statement : Statement) :
    run.Effect index statement (run.evaluate index statement).value.1
      (run.evaluate index statement).value.2 := by
  have plain {evaluated : Logged (Run ε)}
      (effect : run.Effect index statement .next evaluated.value)
      (only : run.evaluate index statement =
        (evaluated >>= fun later => pure (.next, later))) :
      run.Effect index statement (run.evaluate index statement).value.1
        (run.evaluate index statement).value.2 := by
    rw [only]
    exact effect
  cases statement with
  | label name kind => exact run.effect_label index name kind
  | jump label => exact .jumped
  | call target args => exact run.effect_call index target args
  | warp start => exact .warped
  | proc name close => exact .procPassed
  | endProc => exact run.effect_endProc index
  | declare everywhere name value =>
      exact plain (run.effect_declare index everywhere name value) rfl
  | assign name value => exact plain (run.effect_assign index name value) rfl
  | use name value => exact plain (run.effect_use index name value) rfl
  | branch condition otherwise =>
      simp only [evaluate, Logged.value_bind]
      cases tests : (run.test condition).value with
      | true => exact .held tests
      | false => exact .failed tests
  | otherwise close => exact .skippedElse
  | endBranch => exact .branchOver
  | repeatLoop count next => exact run.effect_repeatLoop index count next
  | trackLoop tracks next => exact run.effect_trackLoop index tracks next
  | next start => exact run.effect_next index start
  | wait kind => exact plain (run.effect_wait index kind) rfl
  | request kind args => exact plain (run.effect_request index kind args) rfl
  | finish => exact .finished
  | invoke invocation => exact plain (run.effect_invoke index invocation) rfl

end Run

end Looper
