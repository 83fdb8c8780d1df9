import Looper.Proofs.Dispatch.Delivery
import Looper.Proofs.Kernel.Ledger
import Looper.Proofs.Script.Awaiting

/-!
# What scripts ask of the control side

A running script sends a request to the control side by a statement for that, or
by an action that activates bindings.  Nothing else that it does touches the
kernel channel, and it comes to know of no event but the one that it sent.
-/

namespace Looper

/-! ## What is asked -/

def Action.ask? (action : Action) : Option Ask :=
  if action.level = .ui then none
  else
    match action.target with
    | .activation .bindings => some ⟨.activateBindings, [action.name], action.requestId⟩
    | _ => none

namespace Dispatch

section

variable {σ : Type}

/-- A delivery to several tracks leaves the kernel event on the action that one leaves. -/
theorem kernelEvent_fanOut {deliver : Action → σ → Logged (Action × σ)}
    (each : ∀ action state, (deliver action state).value.1.kernelEvent = action.kernelEvent)
    (action : Action) (tracks : List TrackId) (state : σ) :
    (fanOut deliver action tracks state).value.1.kernelEvent = action.kernelEvent := by
  cases tracks with
  | nil => rfl
  | cons first rest => exact each { action with track := some first } state

end

variable {ε : Type} [Engine ε]

theorem performOnTracks_asks (action : Action) (state : List ScriptRequest × Rig ε) :
    (performOnTracks .queue action state).value.2.2.kernel = state.2.kernel ∧
      (performOnTracks .queue action state).value.1.kernelEvent = action.kernelEvent := by
  have delivers (action : Action) (state : List ScriptRequest × Rig ε) :
      (deliverToEngine .queue action state).value.2.2.kernel = state.2.kernel ∧
        (deliverToEngine .queue action state).value.1.kernelEvent = action.kernelEvent := by
    unfold deliverToEngine
    split <;> exact ⟨rfl, rfl⟩
  let keeps (before after : List ScriptRequest × Rig ε) : Prop :=
    after.2.kernel = before.2.kernel
  have fans : keeps state (performOnTracks .queue action state).value.2 := by
    rw [value_performOnTracks]
    apply related_fanOut
    · intro state
      rfl
    · intro first second third earlier later
      exact later.trans earlier
    · intro track state
      exact (delivers _ state).1
  constructor
  · exact fans
  · rw [value_performOnTracks]
    exact kernelEvent_fanOut (fun action state => (delivers action state).2) action _ state

omit [Engine ε] in
theorem deliverToScripts_asks (action : Action) (tracks : List TrackId)
    (state : List ScriptRequest × Rig ε) :
    (fanOut (deliverToScripts .queue) action tracks state).value.2.2.kernel = state.2.kernel ∧
      (fanOut (deliverToScripts .queue) action tracks state).value.1.kernelEvent =
        action.kernelEvent := by
  let keeps (before after : List ScriptRequest × Rig ε) : Prop :=
    after.2.kernel = before.2.kernel
  have fans : keeps state (fanOut (deliverToScripts .queue) action tracks state).value.2 := by
    apply related_fanOut
    · intro state
      rfl
    · intro first second third earlier later
      exact later.trans earlier
    · intro track state
      rfl
  constructor
  · exact fans
  · exact kernelEvent_fanOut (fun _ _ => rfl) action tracks state

/-- What performing an action of a running script does to the kernel channel. -/
theorem perform_asks (action : Action) (state : List ScriptRequest × Rig ε)
    (resolved : action.target.isResolved = true) (fresh : action.kernelEvent = none) :
    (perform .queue action state).value.2.2.kernel = (state.2.kernel.serve action.ask?).2 ∧
      (perform .queue action state).value.1.kernelEvent =
        (state.2.kernel.serve action.ask?).1 := by
  have onTracks := performOnTracks_asks action state
  rw [fresh] at onTracks
  unfold perform
  rw [resolved]
  by_cases atTop : action.level = .ui
  · have nothing : action.ask? = none := if_pos atTop
    rw [nothing]
    simp only [atTop, Bool.not_true, Bool.false_eq_true, if_true, if_false]
    refine ⟨?_, fresh⟩
    simp only [Logged.value_bind, Logged.value_pure]
    unfold sendUp
    split <;> rfl
  · have below : action.ask? = match action.target with
        | .activation .bindings => some ⟨.activateBindings, [action.name], action.requestId⟩
        | _ => none := if_neg atTop
    rw [below]
    simp only [atTop, Bool.not_true, Bool.false_eq_true, if_false]
    cases action.target with
    | parameter traits =>
        dsimp only
        split
        · exact ⟨rfl, fresh⟩
        · exact onTracks
    | function traits => exact onTracks
    | sample => exact onTracks
    | script id traits =>
        have queued := deliverToScripts_asks action
          (destinations action state.2.engine).value.toList state
        rw [fresh] at queued
        exact queued
    | activation kind =>
        cases kind with
        | bindings => exact ⟨rfl, rfl⟩
        | preset => exact ⟨rfl, fresh⟩
        | setup => exact ⟨rfl, fresh⟩
    | unresolved => exact ⟨rfl, fresh⟩

end Dispatch

namespace Run

variable {ε : Type}

/-- What evaluating a statement asks of the control side. -/
def ask? [Engine ε] (run : Run ε) : Statement → Option Ask
  | .request kind args => some ⟨kind, (run.expandAll args).value, run.self.requestId⟩
  | .invoke invocation =>
      if invocation.target.isResolved then
        (run.actionOf invocation (run.expand invocation.args).value).ask?
      else none
  | _ => none

/--
A run has asked for something or for nothing: this is all that happened to the
kernel channel, and the instance knows of no other event than before and the one
that was sent.
-/
structure Asks (run later : Run ε) (ask : Option Ask) : Prop where
  kernel : later.rig.kernel = (run.rig.kernel.serve ask).2
  refers : ∀ id, later.self.Refers id →
    run.self.Refers id ∨ (run.rig.kernel.serve ask).1 = some id

theorem Asks.quiet {run later : Run ε} (kernel : later.rig.kernel = run.rig.kernel)
    (forgets : run.self.Forgets later.self) : Asks run later none :=
  ⟨kernel, fun id refers => .inl (forgets id refers)⟩

/-- Nothing is asked, and the instance waits for no kernel event that it did not wait for. -/
theorem Asks.still {run later : Run ε} (kernel : later.rig.kernel = run.rig.kernel)
    (last : later.self.lastKernelEvent = run.self.lastKernelEvent)
    (waits : ∀ id ∈ awaited later.self.stack, id ∈ awaited run.self.stack) :
    Asks run later none :=
  .quiet kernel (.of_awaited last waits)

theorem Asks.refl (run : Run ε) : Asks run run none :=
  .quiet rfl (.refl run.self)

/-- A frame that waits for no kernel event is put on the stack. -/
theorem Asks.push (run : Run ε) {frame : Frame} (plain : frame.awaitedKernel? = none) :
    Asks run (run.push frame) none :=
  .quiet rfl (.of_same rfl (awaited_cons_of_none plain run.self.stack))

theorem Asks.forgets {run later last : Run ε} {ask : Option Ask} (asks : Asks run later ask)
    (kernel : last.rig.kernel = later.rig.kernel) (forgets : later.self.Forgets last.self) :
    Asks run last ask :=
  ⟨kernel.trans asks.kernel, fun id refers => asks.refers id (forgets id refers)⟩

variable [Engine ε]

omit [Engine ε] in
theorem kernelEvent_actionOf (run : Run ε) (invocation : Invocation) (args : String) :
    (run.actionOf invocation args).kernelEvent = none := by
  unfold actionOf
  dsimp only
  split <;> rfl

omit [Engine ε] in
theorem target_actionOf (run : Run ε) (invocation : Invocation) (args : String) :
    (run.actionOf invocation args).target = invocation.target := by
  unfold actionOf
  dsimp only
  split <;> rfl

/-- A wait for a kernel event is one for the instance's own last event. -/
theorem lastKernelEvent_of_waitsFor? {run : Run ε} {kind : WaitKind} {id : KernelEventId}
    (waits : run.waitsFor? kind = some (.kernel id)) : run.self.lastKernelEvent = some id := by
  cases kind with
  | last =>
      obtain ⟨event, -, same⟩ := Option.map_eq_some_iff.1 waits
      cases same
  | thread =>
      obtain ⟨event, last, same⟩ := Option.map_eq_some_iff.1 waits
      cases same
      exact last
  | block => cases waits
  | msec time =>
      obtain ⟨msec, -, scheduled⟩ := Option.bind_eq_some_iff.1 waits
      obtain ⟨event, -, same⟩ := Option.map_eq_some_iff.1 scheduled
      cases same
  | function symbol => cases waits

/-- The action of an invocation asks for what it asks, and its event becomes the last one. -/
theorem asks_perform {run : Run ε} {invocation : Invocation} {action : Action}
    {requests : List ScriptRequest} {rig : Rig ε} (resolved : invocation.target.isResolved = true)
    (performed : (Dispatch.perform .queue
      (run.actionOf invocation (run.expand invocation.args).value)
      (run.shared.requests, run.rig)).value = (action, requests, rig)) :
    rig.kernel = (run.rig.kernel.serve (run.ask? (.invoke invocation))).2 ∧
      action.kernelEvent = (run.rig.kernel.serve (run.ask? (.invoke invocation))).1 := by
  have performs := Dispatch.perform_asks
    (run.actionOf invocation (run.expand invocation.args).value)
    (run.shared.requests, run.rig)
    ((congrArg Target.isResolved (run.target_actionOf invocation _)).trans resolved)
    (run.kernelEvent_actionOf invocation _)
  rw [performed] at performs
  rw [ask?, if_pos resolved]
  exact performs

/-- A statement asks for what it asks, and the instance knows of the event that is sent. -/
theorem Effect.asks {run : Run ε} {index : Nat} {statement : Statement} {flow : Flow}
    {later : Run ε} (effect : run.Effect index statement flow later) :
    Asks run later (run.ask? statement) := by
  have leaves {self : ScriptInstance} {frame : Frame} {rest : List Frame}
      (top : run.self.stack = frame :: rest)
      (last : self.lastKernelEvent = run.self.lastKernelEvent)
      (waits : awaited self.stack = awaited rest) : Asks run (run.withSelf self) none := by
    refine .still rfl last fun id waiting => ?_
    rw [top]
    exact mem_awaited_of_mem_rest _ (waits ▸ waiting)
  have sends {kind : KernelKind} {args : List String} {event : Option KernelEventId}
      {kernel : KernelChannel} {self : ScriptInstance}
      (requested : (run.rig.kernel.request kind (run.expandAll args).value
        run.self.requestId).value = (event, kernel))
      (refers : ∀ id, self.Refers id → run.self.Refers id ∨ event = some id) :
      Asks run { run with self, rig := { run.rig with kernel } }
        (run.ask? (.request kind args)) := by
    have serves : run.rig.kernel.serve (run.ask? (.request kind args)) = (event, kernel) :=
      requested
    exact ⟨by rw [serves], fun id known => by rw [serves]; exact refers id known⟩
  cases effect with
  | resumed top | returned top | warpOver top | nextRound top | lastRound top | nextTrack top
  | lastTrack top => exact leaves top rfl rfl
  | procCalled room | warped | repeated isCount some => exact .push run rfl
  | scriptCalled room found | declared | declaredForAll | assigned settable own
  | assignedForAll settable shared | used isNumber saves | tracked some | unscheduled read refuses
  | scheduled read schedules => exact .quiet rfl (.of_same rfl rfl)
  | @waited kind cause begins atOnce =>
      refine .quiet rfl ?_
      rintro id (isLast | waiting)
      · exact .inl isLast
      · cases cause with
        | kernel event =>
            rcases List.mem_cons.1 waiting with isNew | earlier
            · exact .inl (isNew ▸ lastKernelEvent_of_waitsFor? begins)
            · exact .inr earlier
        | _ => exact .inr waiting
  | refused requested forgets =>
      refine sends requested ?_
      rintro id (isLast | waiting)
      · rcases forgets with rfl | rfl
        · cases isLast
        · exact .inl (.inl isLast)
      · exact .inl (.inr waiting)
  | sent requested unanswered =>
      refine sends requested ?_
      rintro id (isLast | waiting)
      · exact .inr isLast
      · exact .inl (.inr waiting)
  | asked requested answered =>
      refine sends requested ?_
      rintro id (isLast | waiting)
      · exact .inr isLast
      · rcases List.mem_cons.1 waiting with isNew | earlier
        · exact .inr (congrArg some isNew.symm)
        · exact .inl (.inr earlier)
  | unresolved unknown =>
      rw [ask?, unknown]
      exact .refl run
  | @invoked invocation action requests rig resolved performed =>
      obtain ⟨kernel, sent⟩ := asks_perform resolved performed
      refine ⟨kernel, ?_⟩
      rintro id (isLast | waiting)
      · change (action.kernelEvent <|> run.self.lastKernelEvent) = some id at isLast
        cases event : action.kernelEvent with
        | none =>
            rw [event] at isLast
            exact .inl (.inl isLast)
        | some other =>
            rw [event] at isLast
            exact .inr (sent.symm.trans (event.trans isLast))
      · exact .inl (.inr waiting)
  | _ => exact .refl run

omit [Engine ε] in
theorem forgets_follow (run : Run ε) (index : Nat) (flow : Flow) :
    run.self.Forgets (run.follow index flow).self := by
  cases flow with
  | next => exact .of_same rfl rfl
  | goto target => exact .of_same rfl rfl
  | placed => exact .refl run.self
  | finish => exact run.self.forgets_endLevel

omit [Engine ε] in
theorem kernel_follow (run : Run ε) (index : Nat) (flow : Flow) :
    (run.follow index flow).rig.kernel = run.rig.kernel := by
  cases flow <;> rfl

/-- A step asks for what its statement asks, and for nothing without a statement. -/
theorem Step.asks {run later : Run ε} {statement : Option Statement}
    (step : run.Step statement later) : Asks run later (statement.bind run.ask?) := by
  cases step with
  | wake wakes =>
      obtain ⟨wait, rest, stack, -, rfl⟩ := wake?_eq_some.1 wakes
      refine .still rfl rfl fun id waiting => ?_
      rw [stack]
      exact mem_awaited_of_mem_rest _ waiting
  | endLevel past opened => exact .quiet rfl run.self.forgets_endLevel
  | finish past closed => exact .still rfl rfl fun _ waiting => waiting
  | evaluate ready stands =>
      exact (run.effect_evaluate _ _).asks.forgets (kernel_follow _ _ _) (forgets_follow _ _ _)

end Run

/-! ## What a moment asks -/

/-- What is reported when an instance leaves: nothing, unless a caller has numbered its launch. -/
def ScriptInstance.notice? (self : ScriptInstance) : Option Ask :=
  if self.requestId ≠ 0 then some ⟨.scriptFinished, [self.script.name], self.requestId⟩ else none

namespace Moment

variable {ε : Type}

def instance? (moment : Moment ε) (id : InstanceId) : Option ScriptInstance :=
  moment.roster.active.find? fun self => self.id == id

/-- What is asked of the control side in the work of scripts, and by whom. -/
def asks [Engine ε] (moment : Moment ε) : Deed ε → Option (Sender × Ask)
  | .step id statement =>
      (moment.instance? id).bind fun self =>
        (statement.bind (moment.runOf self).ask?).map fun ask => (.running id, ask)
  | .leave id =>
      (moment.instance? id).bind fun self => self.notice?.map fun ask => (.leaving id, ask)
  | _ => none

theorem IsNumbered.instance?_eq {moment : Moment ε} (numbered : moment.IsNumbered)
    {self : ScriptInstance} (member : self ∈ moment.roster.active) :
    moment.instance? self.id = some self := by
  unfold instance?
  cases found : moment.roster.active.find? fun other => other.id == self.id with
  | none =>
      have missing := List.find?_eq_none.1 found self member
      exact absurd (beq_self_eq_true self.id) missing
  | some other =>
      have same := List.find?_some found
      simp only [beq_iff_eq] at same
      rw [numbered.unique (List.mem_of_find?_eq_some found) member same]

variable [Engine ε]

theorem IsNumbered.asks_step {moment : Moment ε} (numbered : moment.IsNumbered)
    {self : ScriptInstance} (member : self ∈ moment.roster.active)
    (statement : Option Statement) :
    moment.asks (.step self.id statement) =
      (statement.bind (moment.runOf self).ask?).map fun ask => (.running self.id, ask) := by
  change (moment.instance? self.id).bind _ = _
  rw [numbered.instance?_eq member]
  rfl

theorem IsNumbered.asks_leave {moment : Moment ε} (numbered : moment.IsNumbered)
    {self : ScriptInstance} (member : self ∈ moment.roster.active) :
    moment.asks (.leave self.id) = self.notice?.map fun ask => (.leaving self.id, ask) := by
  change (moment.instance? self.id).bind _ = _
  rw [numbered.instance?_eq member]
  rfl

end Moment

variable {ε : Type} [Engine ε]

omit [Engine ε] in
/-- An instance that is launched knows of no kernel event, whoever it was before. -/
theorem Roster.not_refers_launched (roster : Roster) (script : Script) (action : Action)
    (id : KernelEventId) : ¬ (roster.launched script action).Refers id := by
  unfold Roster.launched
  split <;> simp [ScriptInstance.Refers, ScriptInstance.start, ScriptInstance.reset,
    ScriptInstance.new]

/-- Seeing an instance off asks for what is to be reported of it. -/
theorem Roster.kernel_seeOff (self : ScriptInstance) (rig : Rig ε) :
    (Roster.seeOff self rig).value.2.kernel = (rig.kernel.serve self.notice?).2 := by
  unfold Roster.seeOff ScriptInstance.notice?
  dsimp only
  split <;> rfl

/-- The work of scripts does to the kernel channel what is asked by it, and nothing else. -/
theorem Work.kernel {before after : Moment ε} {deed : Deed ε} (work : Work before deed after)
    (numbered : before.IsNumbered) :
    after.rig.kernel = (before.rig.kernel.serve ((before.asks deed).map Prod.snd)).2 := by
  cases work with
  | note stands noted => rfl
  | act move own =>
      cases move with
      | begin rests operation => cases own
      | tell stands told => cases own
      | mail kernel => cases own
      | @step position self statement later stands steps =>
          rw [numbered.asks_step (List.mem_of_getElem? stands), Option.map_map]
          change _ = (before.rig.kernel.serve (Option.map id _)).2
          rw [Option.map_id]
          exact steps.asks.kernel
      | @leave position self rests stands finished =>
          rw [numbered.asks_leave (List.mem_of_getElem? stands), Option.map_map]
          change _ = (before.rig.kernel.serve (Option.map id _)).2
          rw [Option.map_id]
          exact Roster.kernel_seeOff self before.rig
      | _ => rfl

/-- Nobody comes to know of a kernel event by the work of scripts but who has sent it. -/
theorem Work.refers {before after : Moment ε} {deed : Deed ε} (work : Work before deed after)
    (numbered : before.IsNumbered) {later : ScriptInstance}
    (member : later ∈ after.roster.active) {id : KernelEventId} (refers : later.Refers id) :
    (∃ self ∈ before.roster.active, self.id = later.id ∧ self.Refers id) ∨
      ∃ ask, before.asks deed = some (.running later.id, ask) ∧
        (before.rig.kernel.serve (some ask)).1 = some id := by
  have changes {position : Nat} {self changed : ScriptInstance}
      (stands : before.roster.active[position]? = some self) (same : changed.id = self.id)
      (forgets : self.Forgets changed)
      (isLater : later ∈ before.roster.active.set position changed) :
      ∃ self ∈ before.roster.active, self.id = later.id ∧ self.Refers id := by
    rcases List.mem_or_eq_of_mem_set isLater with earlier | isChanged
    · exact ⟨later, earlier, rfl, refers⟩
    · subst isChanged
      exact ⟨self, List.mem_of_getElem? stands, same.symm, forgets id refers⟩
  cases work with
  | note stands noted =>
      exact .inl (changes stands noted.told.continues.id noted.forgets member)
  | act move own =>
      cases move with
      | begin rests operation => cases own
      | tell stands told => cases own
      | mail kernel => cases own
      | @step position self statement evolved stands steps =>
          have there := List.mem_of_getElem? stands
          rcases List.mem_or_eq_of_mem_set member with earlier | isEvolved
          · exact .inl ⟨later, earlier, rfl, refers⟩
          · subst isEvolved
            have same : evolved.self.id = self.id := steps.evolves.id_eq
            rcases steps.asks.refers id refers with earlier | sent
            · exact .inl ⟨self, there, same.symm, earlier⟩
            · right
              cases asked : statement.bind (before.runOf self).ask? with
              | none =>
                  rw [asked] at sent
                  cases sent
              | some ask =>
                  rw [asked] at sent
                  refine ⟨ask, ?_, sent⟩
                  rw [numbered.asks_step there, asked, same]
                  rfl
      | enter front stands unfinished entered =>
          exact .inl (changes stands entered.continues.id entered.forgets member)
      | launch front found =>
          rcases List.mem_append.1 member with earlier | isNew
          · exact .inl ⟨later, earlier, rfl, refers⟩
          · rw [List.mem_singleton.1 isNew] at refers
            exact absurd refers (before.roster.not_refers_launched _ _ id)
      | @stop author track rest position self front stands concerns =>
          exact .inl (changes stands (self.continues_stop before.rig.engine).id
            (self.forgets_stop before.rig.engine) member)
      | leave rests stands finished =>
          exact .inl ⟨later, List.mem_of_mem_eraseIdx member, rfl, refers⟩
      | _ => exact .inl ⟨later, member, rfl, refers⟩

end Looper
