import Looper.Proofs.Script.Upkeep
import Looper.Session.Control
import Looper.Session.LoopHalf

/-!
# Histories of a session

A session is used by whole operations of either side, in any order.  What the
loop side plays changes neither what the control side has decided nor which
library is installed; what the control side decides reaches the loop side
through the box of updates only.  Either side keeps envelopes in circulation.
-/

namespace Looper

namespace LoopHalf

def applyAll (half : LoopHalf) (updates : List TableUpdate) : LoopHalf :=
  updates.foldl (fun half update => (half.apply update).2) half

theorem requests_applyAll (half : LoopHalf) (updates : List TableUpdate) :
    (half.applyAll updates).roster.shared.requests = half.roster.shared.requests := by
  induction updates generalizing half with
  | nil => rfl
  | cons update rest ih =>
      refine (ih (half.apply update).2).trans ?_
      unfold apply
      cases update.scripts <;> rfl

end LoopHalf

namespace Session

/-- What either side of a session may do, and the engine may do by itself. -/
inductive Operation (ε χ : Type) where
  | define (name : String) (definition : Definition)
  | setBindings (bindings : BindingConfig)
  | selectBindings (selection : BindingSelection)
  | activateBindings (name : String)
  | loadScript (name source : String)
  | setThreshold (threshold : Nat)
  | configureKeyboard
  | configureMidi
  | configureAll
  | processKernelEvents (handler : KernelHandler χ) (state : χ)
  | collectRetired
  | drainInterface
  | keyEvent (qualifier : Nat) (down : Bool)
  | midiEvent (event : Midi.Event)
  | midiBytes (bytes : List UInt8)
  | perform (action : Action)
  | processBlock (frames rate : Nat)
  | applyUpdates
  | cancelScripts (track : Option TrackId)
  | finishEvent (event : EventId)
  | finishFunction (symbol : SymbolId)
  | engine (change : ε → ε)

variable {ε χ : Type}

section Running

variable [Engine ε]

/-- Carry out an operation. -/
def operate (session : Session) (engine : ε) : Operation ε χ → Logged (Session × ε)
  | .define name definition => do return ((← session.define name definition).2, engine)
  | .setBindings bindings => do return (← session.setBindings bindings, engine)
  | .selectBindings selection => do return (← session.selectBindings selection, engine)
  | .activateBindings name => do return ((← session.activateBindings name).2, engine)
  | .loadScript name source => do return ((← session.loadScript name source).2, engine)
  | .setThreshold threshold => do return (← session.setThreshold threshold, engine)
  | .configureKeyboard => do return (← session.configureKeyboard, engine)
  | .configureMidi => do return (← session.configureMidi, engine)
  | .configureAll => do return (← session.configureAll, engine)
  | .processKernelEvents handler state => do
      return ((← processKernelEvents handler session state).2.1, engine)
  | .collectRetired => pure (session.collectRetired.2, engine)
  | .drainInterface => pure (session.drainInterface.2, engine)
  | .keyEvent qualifier down => session.keyEvent qualifier down engine
  | .midiEvent event => session.midiEvent event engine
  | .midiBytes bytes => session.midiBytes bytes engine
  | .perform action => do return (← session.perform action engine).2
  | .processBlock frames rate => session.processBlock frames rate engine
  | .applyUpdates => do return (← session.applyUpdates, engine)
  | .cancelScripts track => session.cancelScripts track engine
  | .finishEvent event => pure (session.finishEvent event, engine)
  | .finishFunction symbol => pure (session.finishFunction symbol, engine)
  | .engine change => pure (session, change engine)

def run (session : Session) (engine : ε) : List (Operation ε χ) → Logged (Session × ε)
  | [] => pure (session, engine)
  | operation :: rest => do
      let (session, engine) ← session.operate engine operation
      session.run engine rest

end Running

/-! ## The loop side -/

/-- No request of one script to another is left over. -/
def IsSettled (session : Session) : Prop :=
  session.loop.roster.shared.requests = []

theorem isSettled_of_loop {before after : Session} (loop : after.loop = before.loop)
    (settled : before.IsSettled) : after.IsSettled := by
  unfold IsSettled
  rw [loop]
  exact settled

/-- What the loop side keeps while it plays. -/
structure Plays (before after : Session) : Prop where
  control : after.control = before.control
  updates : after.wires.updates = before.wires.updates
  library : after.loop.roster.shared.library = before.loop.roster.shared.library
  settled : after.IsSettled
  kernel : before.wires.kernel.Carries after.wires.kernel

theorem Plays.refl {session : Session} (settled : session.IsSettled) : Plays session session :=
  ⟨rfl, rfl, rfl, settled, .refl _⟩

theorem Plays.trans {first second third : Session} (earlier : Plays first second)
    (later : Plays second third) : Plays first third where
  control := later.control.trans earlier.control
  updates := later.updates.trans earlier.updates
  library := later.library.trans earlier.library
  settled := later.settled
  kernel := earlier.kernel.trans later.kernel

theorem Plays.withDesk {session : Session} (settled : session.IsSettled) (desk : Desk) :
    Plays session { session with loop := { session.loop with desk } } :=
  ⟨rfl, rfl, rfl, settled, .refl _⟩

theorem Plays.withRig {session : Session} {engine : ε} {roster : Roster} {rig : Rig ε}
    (settled : roster.shared.requests = [])
    (keeps : Roster.Keeps (session.loop.roster, session.rig engine) (roster, rig)) :
    Plays session (session.withRig roster rig) where
  control := rfl
  updates := rfl
  library := keeps.library
  settled := settled
  kernel := keeps.kernel

section Playing

variable [Engine ε]

theorem respects_roster (action : Action) :
    Dispatch.Respects (ε := ε) .roster action fun before after =>
      before.1.shared.requests = [] →
        after.1.shared.requests = [] ∧ Roster.Keeps before after where
  refl state settled := ⟨settled, .refl state⟩
  trans earlier later settled := by
    obtain ⟨settledSecond, keeps⟩ := earlier settled
    obtain ⟨settledThird, keepsFurther⟩ := later settledSecond
    exact ⟨settledThird, keeps.trans keepsFurther⟩
  run track state settled :=
    ⟨Roster.requests_settle _ _ _, (Roster.evolves_runScript state.1 _ state.2 settled).toKeeps⟩
  cancel track state settled := by
    have evolves : Roster.Evolves True (fun _ => False) _ _ :=
      Roster.evolves_cancelScripts state.1 action.author track state.2 settled
    exact ⟨Roster.requests_settle _ _ _, evolves.toKeeps⟩
  invoke state track sent settled := ⟨settled, rfl, rfl, .refl _⟩
  request state kind args requestId settled := ⟨settled, rfl, rfl, .request _ _ _ _⟩
  interface state _ _ settled := ⟨settled, rfl, rfl, .refl _⟩

theorem plays_perform (session : Session) (action : Action) (engine : ε)
    (settled : session.IsSettled) :
    Plays session (session.perform action engine).value.2.1 := by
  obtain ⟨settledAfter, keeps⟩ :=
    (respects_roster action).perform (session.loop.roster, session.rig engine) settled
  exact .withRig settledAfter keeps

theorem plays_fire (session : Session) (firing : Option Firing) (engine : ε)
    (settled : session.IsSettled) :
    Plays session (session.fire firing engine).value.1 := by
  cases firing with
  | none => exact .refl settled
  | some firing =>
      have performed := session.plays_perform firing.action engine settled
      exact performed.trans (.withDesk performed.settled _)

theorem plays_keyEvent (session : Session) (qualifier : Nat) (down : Bool) (engine : ε)
    (settled : session.IsSettled) :
    Plays session (session.keyEvent qualifier down engine).value.1 :=
  (Plays.withDesk settled _).trans (plays_fire _ _ engine settled)

theorem plays_midiEvent (session : Session) (event : Midi.Event) (engine : ε)
    (settled : session.IsSettled) :
    Plays session (session.midiEvent event engine).value.1 :=
  (Plays.withDesk settled _).trans (plays_fire _ _ engine settled)

theorem plays_midiBytes (session : Session) (bytes : List UInt8) (engine : ε)
    (settled : session.IsSettled) :
    Plays session (session.midiBytes bytes engine).value.1 := by
  unfold midiBytes
  split
  · exact plays_midiEvent session _ engine settled
  · exact .refl settled

theorem plays_cancelScripts (session : Session) (track : Option TrackId) (engine : ε)
    (settled : session.IsSettled) :
    Plays session (session.cancelScripts track engine).value.1 := by
  have evolves : Roster.Evolves True (fun _ => False) _ _ :=
    Roster.evolves_cancelScripts session.loop.roster none track (session.rig engine) settled
  exact .withRig (Roster.requests_settle _ _ _) evolves.toKeeps

theorem plays_maintain (session : Session) (frames rate : Nat) (engine : ε)
    (settled : session.IsSettled) :
    Plays session
      (let maintained := (session.loop.roster.maintain frames rate (session.rig engine)).value
       session.withRig maintained.1 maintained.2) := by
  obtain ⟨keeps, none, _⟩ : Roster.Keeps _ _ ∧ _ ∧ Roster.Inherits (fun _ => False) _ _ :=
    Roster.maintain_spec session.loop.roster frames rate (session.rig engine) settled
  exact .withRig none keeps

end Playing

/-! ## The control side -/

/-- What the control side keeps when it decides something. -/
structure Decides (before after : Session) : Prop where
  loop : after.loop = before.loop
  kernel : after.wires.kernel = before.wires.kernel

theorem Decides.refl (session : Session) : Decides session session :=
  ⟨rfl, rfl⟩

theorem Decides.trans {first second third : Session} (earlier : Decides first second)
    (later : Decides second third) : Decides first third :=
  ⟨later.loop.trans earlier.loop, later.kernel.trans earlier.kernel⟩

theorem Decides.withControl (session : Session) (control : Control) :
    Decides session (session.withControl control) :=
  ⟨rfl, rfl⟩

theorem decides_publish (session : Session) (update : TableUpdate) :
    Decides session (session.publish update).value := by
  unfold publish
  dsimp only
  split <;> exact ⟨rfl, rfl⟩

theorem decides_publishCompiled (session : Session)
    (compile : Control → Logged (TableUpdate × Control)) :
    Decides session (session.publishCompiled compile).value :=
  (Decides.withControl session _).trans (decides_publish _ _)

theorem decides_activateBindings (session : Session) (name : String) :
    Decides session (session.activateBindings name).value.2 := by
  unfold activateBindings
  split
  · exact .refl session
  · next selection _ =>
      exact (Decides.withControl session { session.control with selection }).trans
        (decides_publishCompiled _ Control.compileAll)

theorem decides_loadScript (session : Session) (name source : String) :
    Decides session (session.loadScript name source).value.2 := by
  unfold loadScript
  simp only [Logged.value_bind]
  split
  · exact .withControl session _
  · simp only [Logged.value_bind]
    refine .trans ?_ (decides_publishCompiled _ Control.compileAll)
    exact (Decides.withControl session _).trans (decides_publish _ _)

/-- Handling a request may decide something, and leaves the envelope the one it is. -/
theorem decides_handleKernelEvent (handler : KernelHandler χ) (event : KernelEvent)
    (session : Session) (state : χ) :
    Decides session (handleKernelEvent handler event session state).value.2.1 ∧
      (handleKernelEvent handler event session state).value.1.envelope = event.envelope := by
  unfold handleKernelEvent
  split
  · exact ⟨decides_activateBindings session _, rfl⟩
  · exact ⟨.refl session, rfl⟩

theorem carries_handleKernelEvents (handler : KernelHandler χ) (events : List KernelEvent)
    (session : Session) (state : χ) (taken held : List KernelEvent) :
    (handleKernelEvents handler events session state).value.1.loop = session.loop ∧
      Traffic.Steps ⟨session.wires.kernel, taken, held ++ events⟩
        ⟨(handleKernelEvents handler events session state).value.1.wires.kernel, taken, held⟩ := by
  induction events generalizing session state with
  | nil =>
      rw [List.append_nil]
      exact ⟨rfl, .refl⟩
  | cons event rest ih =>
      obtain ⟨decides, same⟩ := decides_handleKernelEvent handler event session state
      generalize handled : (handleKernelEvent handler event session state).value = answer
        at decides same
      obtain ⟨answered, decided, next⟩ := answer
      obtain ⟨loopRest, stepsRest⟩ := ih
        { decided with
          wires := { decided.wires with
            kernel := (decided.wires.kernel.complete answered).value } } next
      unfold handleKernelEvents
      simp only [Logged.value_bind, handled]
      refine ⟨loopRest.trans decides.loop, ?_⟩
      have answers := Traffic.Step.answer session.wires.kernel taken held rest same
      have completes := Traffic.Step.complete session.wires.kernel taken held rest answered
      refine .head answers (.head completes ?_)
      rw [← decides.kernel]
      exact stepsRest

/-- The control side takes the requests that arrived, handles them and makes new envelopes. -/
theorem carries_processKernelEvents (handler : KernelHandler χ) (session : Session) (state : χ) :
    (processKernelEvents handler session state).value.2.1.loop = session.loop ∧
      session.wires.kernel.Carries
        (processKernelEvents handler session state).value.2.1.wires.kernel := by
  have handles := carries_handleKernelEvents handler session.wires.kernel.outbound.letters
    { session with
      wires := { session.wires with
        kernel := { session.wires.kernel with
          outbound := session.wires.kernel.outbound.drain.2 } } } state
  refine ⟨(handles [] []).1, fun taken held => ?_⟩
  have receives := KernelChannel.Carries.drain_outbound session.wires.kernel taken held
  exact (receives.trans (handles taken held).2).trans (KernelChannel.Carries.topUp _ taken held)

/-! ## Installing updates -/

theorem retire_eq (session : Session) (old : TableUpdate) :
    ∃ retired, (session.retire old).value =
      { session with wires := { session.wires with retired } } := by
  unfold retire
  split
  · exact ⟨session.wires.retired, rfl⟩
  · split
    · exact ⟨_, rfl⟩
    · exact ⟨session.wires.retired, rfl⟩

/-- Putting updates in place changes the loop half, and sends replaced tables back. -/
theorem applyAll_eq (updates : List TableUpdate) (session : Session) :
    ∃ retired, (applyAll updates session).value =
      { session with
        loop := session.loop.applyAll updates
        wires := { session.wires with retired } } := by
  induction updates generalizing session with
  | nil => exact ⟨session.wires.retired, rfl⟩
  | cons update rest ih =>
      obtain ⟨retired, retires⟩ :=
        retire_eq { session with loop := (session.loop.apply update).2 }
          (session.loop.apply update).1
      obtain ⟨retiredAll, applies⟩ := ih
        { session with
          loop := (session.loop.apply update).2
          wires := { session.wires with retired } }
      refine ⟨retiredAll, ?_⟩
      unfold applyAll
      simp only [Logged.value_bind, retires, applies]
      rfl

theorem applyUpdates_eq (session : Session) :
    ∃ retired, session.applyUpdates.value =
      { session with
        loop := session.loop.applyAll session.wires.updates.letters
        wires := { session.wires with updates := session.wires.updates.drain.2, retired } } :=
  applyAll_eq _ _

/-! ## Any operation -/

/-- What every operation keeps: no request is left over, and envelopes circulate. -/
structure Continues (before after : Session) : Prop where
  settled : after.IsSettled
  kernel : before.wires.kernel.Carries after.wires.kernel

theorem Plays.continues {before after : Session} (plays : Plays before after) :
    Continues before after :=
  ⟨plays.settled, plays.kernel⟩

theorem Decides.continues {before after : Session} (decides : Decides before after)
    (settled : before.IsSettled) : Continues before after where
  settled := isSettled_of_loop decides.loop settled
  kernel := decides.kernel ▸ .refl _

theorem continues_applyUpdates (session : Session) (settled : session.IsSettled) :
    Continues session session.applyUpdates.value := by
  obtain ⟨retired, applies⟩ := applyUpdates_eq session
  rw [applies]
  exact ⟨(LoopHalf.requests_applyAll _ _).trans settled, .refl _⟩

variable [Engine ε]

/-- A block puts every update in place, and then maintains the scripts. -/
theorem plays_processBlock (session : Session) (frames rate : Nat) (engine : ε)
    (settled : session.IsSettled) :
    Plays session.applyUpdates.value (session.processBlock frames rate engine).value.1 :=
  plays_maintain _ frames rate engine (continues_applyUpdates session settled).settled

/-- Whatever a session does, no request is left over, and envelopes circulate. -/
theorem continues_operate (session : Session) (engine : ε) (operation : Operation ε χ)
    (settled : session.IsSettled) :
    Continues session (session.operate engine operation).value.1 := by
  cases operation with
  | define name definition => exact (Decides.withControl session _).continues settled
  | setBindings bindings =>
      have decides := (Decides.withControl session { session.control with bindings }).trans
        (decides_publishCompiled _ Control.compileAll)
      exact decides.continues settled
  | selectBindings selection =>
      have decides := (Decides.withControl session { session.control with selection }).trans
        (decides_publishCompiled _ Control.compileAll)
      exact decides.continues settled
  | activateBindings name =>
      simp only [operate, Logged.value_bind, Logged.value_pure]
      exact (decides_activateBindings session name).continues settled
  | loadScript name source =>
      simp only [operate, Logged.value_bind, Logged.value_pure]
      exact (decides_loadScript session name source).continues settled
  | setThreshold threshold =>
      have decides := (Decides.withControl session { session.control with threshold }).trans
        (decides_publish _ { threshold := some threshold })
      exact decides.continues settled
  | configureKeyboard =>
      exact (decides_publishCompiled session Control.compileKeyboard).continues settled
  | configureMidi =>
      exact (decides_publishCompiled session Control.compileMidi).continues settled
  | configureAll =>
      exact (decides_publishCompiled session Control.compileAll).continues settled
  | processKernelEvents handler state =>
      obtain ⟨loop, kernel⟩ := carries_processKernelEvents handler session state
      exact ⟨isSettled_of_loop loop settled, kernel⟩
  | collectRetired => exact ⟨settled, .refl _⟩
  | drainInterface => exact ⟨settled, .refl _⟩
  | keyEvent qualifier down =>
      exact (plays_keyEvent session qualifier down engine settled).continues
  | midiEvent event => exact (plays_midiEvent session event engine settled).continues
  | midiBytes bytes => exact (plays_midiBytes session bytes engine settled).continues
  | perform action => exact (plays_perform session action engine settled).continues
  | processBlock frames rate =>
      have plays := plays_processBlock session frames rate engine settled
      exact ⟨plays.settled, (continues_applyUpdates session settled).kernel.trans plays.kernel⟩
  | applyUpdates => exact continues_applyUpdates session settled
  | cancelScripts track => exact (plays_cancelScripts session track engine settled).continues
  | finishEvent event => exact ⟨settled, .refl _⟩
  | finishFunction symbol => exact ⟨settled, .refl _⟩
  | engine change => exact ⟨settled, .refl _⟩

/-- However operations follow each other, no request is left over, and envelopes circulate. -/
theorem continues_run (session : Session) (engine : ε) (history : List (Operation ε χ))
    (settled : session.IsSettled) :
    Continues session (session.run engine history).value.1 := by
  induction history generalizing session engine with
  | nil => exact ⟨settled, .refl _⟩
  | cons operation rest ih =>
      have first := continues_operate session engine operation settled
      have others := ih (session.operate engine operation).value.1
        (session.operate engine operation).value.2 first.settled
      exact ⟨others.settled, first.kernel.trans others.kernel⟩

end Session

end Looper
