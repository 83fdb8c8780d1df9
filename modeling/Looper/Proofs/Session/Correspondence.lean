import Looper.Proofs.Session.Exchange
import Looper.Proofs.Session.History

/-!
# Histories of a session are exchanges

Whatever either side of a session does is a number of steps of an exchange:
operations on the scripts begin and work, completions are told of one by one,
and the control side receives, answers and completes requests in turn.  So what
holds of every exchange holds of every history of a session.
-/

namespace Looper

open Roster (Operation)

/-! ## Boxes of a channel -/

namespace KernelChannel

def withCompleted (channel : KernelChannel) (letters : List KernelEvent) : KernelChannel :=
  { channel with completed := { channel.completed with letters } }

def withOutbound (channel : KernelChannel) (letters : List KernelEvent) : KernelChannel :=
  { channel with outbound := { channel.outbound with letters } }

theorem recycle_withCompleted (channel : KernelChannel) (letters : List KernelEvent)
    (event : KernelEvent) :
    (channel.withCompleted letters).recycle event =
      (channel.recycle event).withCompleted letters := by
  unfold recycle withCompleted
  split <;> rfl

theorem complete_withOutbound (channel : KernelChannel) (letters : List KernelEvent)
    (event : KernelEvent) :
    ((channel.withOutbound letters).complete event).value =
      (channel.complete event).value.withOutbound letters := by
  unfold complete withOutbound
  dsimp only
  cases channel.completed.post event <;> rfl

end KernelChannel

namespace Exchange

variable {ε : Type}

/-- An exchange between two operations, with a roster and a kernel channel. -/
structure Shows (exchange : Exchange ε) (roster : Roster) (kernel : KernelChannel) : Prop where
  roster : exchange.moment.roster = roster
  kernel : exchange.moment.rig.kernel = kernel
  free : exchange.held = []
  rests : exchange.moment.IsAtRest

variable [Engine ε]

namespace Leads

variable {faithful : Prop}

theorem refl (exchange : Exchange ε) : Leads faithful exchange exchange :=
  Relation.ReflTransGen.refl

theorem trans {first second third : Exchange ε} (earlier : Leads faithful first second)
    (further : Leads faithful second third) : Leads faithful first third :=
  Relation.ReflTransGen.trans earlier further

theorem steps {exchange later : Exchange ε} (leads : Leads faithful exchange later) :
    Steps exchange later :=
  leads.lift id fun _ _ step => step.1

theorem of_step {exchange later : Exchange ε} (step : Step exchange later)
    (answered : later.ledger.answered = exchange.ledger.answered) :
    Leads faithful exchange later :=
  .single ⟨step, fun _ => .inl answered⟩

/-- The first event in hand goes back, and under its id if the control side is faithful. -/
theorem complete {exchange : Exchange ε} {back : List KernelEvent} {event answered : KernelEvent}
    (holds : exchange.held = event :: back) (envelope : answered.envelope = event.envelope)
    (id : faithful → answered.id = event.id) :
    Leads faithful exchange
      { exchange with
        moment := exchange.moment.withKernel (exchange.moment.rig.kernel.complete answered).value
        held := back
        ledger := exchange.ledger.answer answered } := by
  have step := @Step.complete ε _ exchange [] back event answered holds envelope
  refine .single ⟨step, fun faithfully => .inr ⟨event, holds, ?_⟩⟩
  rw [← id faithfully]
  rfl

end Leads

variable {faithful : Prop}

/-! ## Operations on the scripts -/

/-- The work of scripts is made of steps of an exchange. -/
theorem leads_works (exchange : Exchange ε) {last : Moment ε} (works : Works exchange.moment last) :
    ∃ later, Leads faithful exchange later ∧ later.moment = last ∧
      later.held = exchange.held := by
  generalize first : exchange.moment = moment at works
  induction works with
  | refl => exact ⟨exchange, .refl exchange, first, rfl⟩
  | @tail before after works work ih =>
      obtain ⟨deed, work⟩ := work
      obtain ⟨middle, leads, rfl, held⟩ := ih
      have acts : Leads faithful middle (middle.act deed after) := by
        exact .of_step (.work work)
          (middle.ledger.received_note middle.moment.rig.kernel (middle.moment.asks deed)).2
      exact ⟨middle.act deed after, leads.trans acts, rfl, held⟩

theorem leads_deliver (exchange : Exchange ε) (channel : KernelChannel)
    (events : List KernelEvent)
    (waiting : exchange.moment.rig.kernel = channel.withCompleted events) :
    ∃ later, Leads faithful exchange later ∧ later.held = exchange.held ∧
      (let told := exchange.moment.roster.deliverCompletions (channel.withCompleted []) events
       later.moment =
        exchange.moment.arrive (told.1, { exchange.moment.rig with kernel := told.2 })) := by
  induction events generalizing exchange channel with
  | nil =>
      refine ⟨exchange, .refl exchange, rfl, ?_⟩
      unfold Roster.deliverCompletions
      rw [← waiting]
      rfl
  | cons event rest ih =>
      have polls : exchange.moment.rig.kernel.pollCompleted =
          (some event, channel.withCompleted rest) := by
        rw [waiting]
        rfl
      have tells : Leads faithful exchange _ := .of_step (.tell polls) rfl
      rw [KernelChannel.recycle_withCompleted] at tells
      obtain ⟨later, leads, held, isLater⟩ := ih
        { exchange with
          moment := (exchange.moment.hear event).withKernel
            ((channel.recycle event).withCompleted rest)
          ledger := exchange.ledger.tell event.id }
        (channel.recycle event) rfl
      have delivers :
          exchange.moment.roster.deliverCompletions (channel.withCompleted []) (event :: rest) =
            (exchange.moment.hear event).roster.deliverCompletions
              ((channel.recycle event).withCompleted []) rest := by
        rw [← KernelChannel.recycle_withCompleted]
        rfl
      refine ⟨later, tells.trans leads, held, isLater.trans ?_⟩
      rw [delivers]
      rfl

/-- What an operation on the scripts gives back is reached by steps of an exchange. -/
theorem leads_operate (exchange : Exchange ε) (rests : exchange.moment.IsAtRest)
    (operation : Operation ε)
    (same : (exchange.moment.begin operation).rig.kernel = exchange.moment.rig.kernel) :
    ∃ later, Leads faithful exchange later ∧ later.held = exchange.held ∧
      later.moment.IsAtRest ∧
      later.moment.state = Roster.outcome exchange.moment.state operation := by
  have begins : Leads faithful exchange _ := .of_step (.begin rests same) rfl
  have hears : ∃ heard : Exchange ε, Leads faithful exchange heard ∧
      heard.held = exchange.held ∧
      heard.moment = (exchange.moment.begin operation).heard operation := by
    cases operation with
    | maintain frames rate rig =>
        obtain ⟨heard, leads, held, isHeard⟩ := @leads_deliver ε _ faithful
          { exchange with moment := exchange.moment.begin (.maintain frames rate rig) }
          rig.kernel rig.kernel.completed.letters rfl
        exact ⟨heard, begins.trans leads, held, isHeard⟩
    | _ => exact ⟨_, begins, rfl, rfl⟩
  obtain ⟨heard, leads, held, isHeard⟩ := hears
  obtain ⟨last, works, atRest, isLast⟩ := exchange.moment.works_operate rests operation
  rw [← isHeard] at works
  obtain ⟨later, further, rfl, kept⟩ := heard.leads_works works
  exact ⟨later, leads.trans further, kept.trans held, atRest, isLast⟩

/-- The control side, with nothing in hand, receives an event and sends its answer back. -/
theorem leads_handle (exchange : Exchange ε) {channel : KernelChannel}
    {event answered : KernelEvent} {rest : List KernelEvent}
    (kernel : exchange.moment.rig.kernel = channel.withOutbound (event :: rest))
    (free : exchange.held = []) (envelope : answered.envelope = event.envelope)
    (id : faithful → answered.id = event.id) :
    Leads faithful exchange
      { exchange with
        moment := exchange.moment.withKernel ((channel.complete answered).value.withOutbound rest)
        held := []
        ledger := (exchange.ledger.receive event).answer answered } := by
  have receives : exchange.moment.rig.kernel.receive =
      (some event, channel.withOutbound rest) := by
    rw [kernel]
    rfl
  have takes : Leads faithful exchange _ := .of_step (.receive receives) rfl
  have sends := @Leads.complete ε _ faithful
    { exchange with
      moment := exchange.moment.withKernel (channel.withOutbound rest)
      held := [event]
      ledger := exchange.ledger.receive event } [] event answered rfl envelope id
  rw [free] at takes
  rw [← channel.complete_withOutbound]
  exact takes.trans sends

/-! ## Both sides -/

/-- Wherever an exchange shows the one roster and channel, its steps lead to the other ones. -/
def Follows (ε : Type) [Engine ε] (faithful : Prop) (roster : Roster) (kernel : KernelChannel)
    (roster' : Roster) (kernel' : KernelChannel) : Prop :=
  ∀ exchange : Exchange ε, exchange.Shows roster kernel →
    ∃ later, Leads faithful exchange later ∧ later.Shows roster' kernel'

namespace Follows

variable {first second third : Roster} {kernel kernel' kernel'' : KernelChannel}

theorem refl (roster : Roster) (kernel : KernelChannel) :
    Follows ε faithful roster kernel roster kernel :=
  fun exchange shows => ⟨exchange, .refl exchange, shows⟩

theorem trans (earlier : Follows ε faithful first kernel second kernel')
    (further : Follows ε faithful second kernel' third kernel'') :
    Follows ε faithful first kernel third kernel'' := by
  intro exchange showsFirst
  obtain ⟨middle, toMiddle, showsSecond⟩ := earlier exchange showsFirst
  obtain ⟨later, toLater, showsThird⟩ := further middle showsSecond
  exact ⟨later, toMiddle.trans toLater, showsThird⟩

/-- An operation on the scripts, carried out with the channel that there is. -/
theorem operate (state : Roster × Rig ε) (operation : Operation ε)
    (same : ∀ moment : Moment ε, moment.rig.kernel = state.2.kernel →
      (moment.begin operation).rig.kernel = state.2.kernel) :
    Follows ε faithful state.1 state.2.kernel (Roster.outcome state operation).1
      (Roster.outcome state operation).2.kernel := by
  intro exchange shows
  obtain ⟨later, leads, held, atRest, isOutcome⟩ := exchange.leads_operate shows.rests
    operation ((same exchange.moment shows.kernel).trans shows.kernel.symm)
  obtain ⟨roster, rig⟩ := Prod.ext_iff.1 isOutcome
  have sameRoster : exchange.moment.state.1 = state.1 := shows.roster
  have sameKernel : exchange.moment.state.2.kernel = state.2.kernel := shows.kernel
  refine ⟨later, leads, ?_, ?_, held.trans shows.free, atRest⟩
  · refine roster.trans ?_
    rw [Roster.outcome_operate, Roster.outcome_operate, sameRoster]
  · refine (congrArg Rig.kernel rig).trans ?_
    unfold Roster.outcome
    cases operation with
    | finishEvent event => exact sameKernel
    | finishFunction symbol => exact sameKernel
    | install library => exact sameKernel
    | _ =>
        dsimp only
        rw [sameRoster]

theorem within (roster : Roster) (kernel : KernelChannel) (operation : Operation ε)
    (begins : ∀ moment : Moment ε, (moment.begin operation).rig = moment.rig)
    (ends : ∀ state : Roster × Rig ε, (Roster.outcome state operation).2 = state.2) :
    Follows ε faithful roster kernel (roster.operate operation) kernel := by
  intro exchange shows
  obtain rfl := shows.kernel
  have operates : Follows ε faithful _ _ _ _ :=
    .operate (roster, exchange.moment.rig) operation fun moment same =>
      (congrArg Rig.kernel (begins moment)).trans same
  rw [ends, Roster.outcome_operate] at operates
  exact operates exchange shows

theorem ask (roster : Roster) (kernel : KernelChannel) (ask : Ask) :
    Follows ε faithful roster kernel roster (kernel.serve (some ask)).2 := by
  intro exchange shows
  refine ⟨exchange.ask ask, .of_step (.ask exchange ask) rfl, shows.roster, ?_, shows.free,
    shows.rests⟩
  unfold Exchange.ask Moment.withKernel
  dsimp only
  rw [shows.kernel]

end Follows

end Exchange

namespace Session

variable {ε χ : Type} [Engine ε] {faithful : Prop}

/-- Steps of an exchange lead from what one session shows to what another one shows. -/
def Follows (ε : Type) [Engine ε] (faithful : Prop) (before after : Session) : Prop :=
  Exchange.Follows ε faithful before.loop.roster before.wires.kernel after.loop.roster
    after.wires.kernel

theorem Follows.of_same {before after : Session}
    (roster : after.loop.roster = before.loop.roster)
    (kernel : after.wires.kernel = before.wires.kernel) : Follows ε faithful before after := by
  unfold Follows
  rw [roster, kernel]
  exact .refl _ _

/-- What the control side decides is not for the scripts until it is put in place. -/
theorem Decides.follows {before after : Session} (decides : Decides before after) :
    Follows ε faithful before after :=
  .of_same (congrArg LoopHalf.roster decides.loop) decides.kernel

/-! ## The control side -/

/-- A handler that leaves the id of an event alone. -/
def KeepsIds (handler : KernelHandler χ) : Prop :=
  ∀ event state, (handler event state).value.1.id = event.id

omit [Engine ε] in
theorem keepsIds_logHandler : KeepsIds logHandler := by
  intro event state
  unfold logHandler KernelEvent.logOnly
  rw [Logged.value_bind]
  split <;> rfl

omit [Engine ε] in
theorem id_handleKernelEvent {handler : KernelHandler χ} (keeps : KeepsIds handler)
    (event : KernelEvent) (session : Session) (state : χ) :
    (handleKernelEvent handler event session state).value.1.id = event.id := by
  unfold handleKernelEvent
  split
  · rfl
  · exact keeps event state

/-- The control side receives, answers and completes requests one after another. -/
theorem leads_handleKernelEvents {handler : KernelHandler χ}
    (keeps : faithful → KeepsIds handler) (events : List KernelEvent) (session : Session)
    (state : χ) (exchange : Exchange ε)
    (roster : exchange.moment.roster = session.loop.roster)
    (kernel : exchange.moment.rig.kernel = session.wires.kernel.withOutbound events)
    (drained : session.wires.kernel.withOutbound [] = session.wires.kernel)
    (free : exchange.held = []) (rests : exchange.moment.IsAtRest) :
    ∃ later, Exchange.Leads faithful exchange later ∧
      later.Shows (handleKernelEvents handler events session state).value.1.loop.roster
        (handleKernelEvents handler events session state).value.1.wires.kernel := by
  induction events generalizing session state exchange with
  | nil => exact ⟨exchange, .refl exchange, roster, kernel.trans drained, free, rests⟩
  | cons event rest ih =>
      obtain ⟨decides, envelope⟩ := decides_handleKernelEvent handler event session state
      have id (faithfully : faithful) := id_handleKernelEvent (keeps faithfully) event session state
      generalize handled : (handleKernelEvent handler event session state).value = answer
        at decides envelope id
      obtain ⟨answered, decided, next⟩ := answer
      have handles := exchange.leads_handle kernel free envelope id
      let completed : Session :=
        { decided with
          wires := { decided.wires with
            kernel := (decided.wires.kernel.complete answered).value } }
      have same : completed.wires.kernel = (session.wires.kernel.complete answered).value :=
        congrArg (fun kernel => (KernelChannel.complete kernel answered).value) decides.kernel
      obtain ⟨later, leads, shows⟩ := ih completed next
        { exchange with
          moment := exchange.moment.withKernel
            ((session.wires.kernel.complete answered).value.withOutbound rest)
          held := []
          ledger := (exchange.ledger.receive event).answer answered }
        (roster.trans (congrArg LoopHalf.roster decides.loop).symm)
        (congrArg (KernelChannel.withOutbound · rest) same.symm)
        (by rw [same, ← KernelChannel.complete_withOutbound, drained]) rfl rests
      refine ⟨later, handles.trans leads, ?_⟩
      unfold handleKernelEvents
      simp only [Logged.value_bind, handled]
      exact shows

theorem follows_processKernelEvents {handler : KernelHandler χ}
    (keeps : faithful → KeepsIds handler) (session : Session) (state : χ) :
    Follows ε faithful session (processKernelEvents handler session state).value.2.1 := by
  intro exchange shows
  obtain ⟨middle, handles, showsMiddle⟩ := leads_handleKernelEvents keeps
    session.wires.kernel.outbound.letters
    { session with
      wires := { session.wires with kernel := session.wires.kernel.withOutbound [] } } state
    exchange shows.roster shows.kernel rfl shows.free shows.rests
  have grows : Exchange.Leads faithful middle _ :=
    .of_step (.grow middle (middle.moment.rig.kernel.poolMax - middle.moment.rig.kernel.allocated))
      rfl
  refine ⟨_, handles.trans grows, showsMiddle.roster, ?_, showsMiddle.free, showsMiddle.rests⟩
  unfold Moment.withKernel
  dsimp only
  rw [showsMiddle.kernel]
  rfl

/-! ## The loop side -/

/-- Dispatching to the roster is made of operations on it and of requests from outside. -/
theorem respects_follows (action : Action) :
    Dispatch.Respects (ε := ε) .roster action fun before after =>
      Exchange.Follows ε faithful before.1 before.2.kernel after.1 after.2.kernel where
  refl _ := .refl _ _
  trans earlier later := earlier.trans later
  run track state :=
    .operate state (.run { action with track := some track } state.2) fun _ _ => rfl
  cancel track state := .operate state (.cancel action.author track state.2) fun _ _ => rfl
  invoke _ _ _ := .refl _ _
  request _ kind args requestId := .ask _ _ ⟨kind, args, requestId⟩
  interface _ _ _ := .refl _ _

theorem follows_perform (session : Session) (action : Action) (engine : ε) :
    Follows ε faithful session (session.perform action engine).value.2.1 :=
  (respects_follows action).perform (session.loop.roster, session.rig engine)

theorem follows_fire (session : Session) (firing : Option Firing) (engine : ε) :
    Follows ε faithful session (session.fire firing engine).value.1 := by
  cases firing with
  | none => exact .of_same rfl rfl
  | some firing => exact session.follows_perform firing.action engine

theorem follows_keyEvent (session : Session) (qualifier : Nat) (down : Bool) (engine : ε) :
    Follows ε faithful session (session.keyEvent qualifier down engine).value.1 :=
  follows_fire { session with
    loop := { session.loop with desk := (session.loop.desk.keyEvent qualifier down).1 } } _ engine

theorem follows_midiEvent (session : Session) (event : Midi.Event) (engine : ε) :
    Follows ε faithful session (session.midiEvent event engine).value.1 :=
  follows_fire { session with
    loop := { session.loop with desk := (session.loop.desk.midiEvent event).value.1 } } _ engine

theorem follows_midiBytes (session : Session) (bytes : List UInt8) (engine : ε) :
    Follows ε faithful session (session.midiBytes bytes engine).value.1 := by
  unfold midiBytes
  split
  · exact follows_midiEvent session _ engine
  · exact .of_same rfl rfl

theorem follows_apply (half : LoopHalf) (update : TableUpdate) (kernel : KernelChannel) :
    Exchange.Follows ε faithful half.roster kernel (half.apply update).2.roster kernel := by
  unfold LoopHalf.apply
  cases update.scripts with
  | none => exact .refl _ _
  | some library =>
      exact .within half.roster kernel (.install library) (fun _ => rfl) fun _ => rfl

theorem follows_applyUpdates (session : Session) :
    Follows ε faithful session session.applyUpdates.value := by
  have applies (half : LoopHalf) (updates : List TableUpdate) :
      Exchange.Follows ε faithful half.roster session.wires.kernel
        (half.applyAll updates).roster session.wires.kernel := by
    induction updates generalizing half with
    | nil => exact .refl _ _
    | cons update rest ih =>
        exact (follows_apply half update session.wires.kernel).trans (ih (half.apply update).2)
  obtain ⟨retired, applied⟩ := session.applyUpdates_eq
  rw [applied]
  exact applies session.loop session.wires.updates.letters

theorem follows_processBlock (session : Session) (frames rate : Nat) (engine : ε) :
    Follows ε faithful session (session.processBlock frames rate engine).value.1 := by
  have maintains (session : Session) :
      Exchange.Follows ε faithful session.loop.roster session.wires.kernel _ _ :=
    .operate (session.loop.roster, session.rig engine)
      (.maintain frames rate (session.rig engine)) fun _ _ => rfl
  exact session.follows_applyUpdates.trans (maintains session.applyUpdates.value)

/-! ## Any history -/

/-- The handler that an operation brings, if it brings one, leaves the ids of events alone. -/
def Operation.KeepsIds : Operation ε χ → Prop
  | .processKernelEvents handler _ => Session.KeepsIds handler
  | _ => True

/-- Every operation of a session is made of steps of an exchange. -/
theorem follows_operate (session : Session) (engine : ε) (operation : Operation ε χ)
    (keeps : faithful → operation.KeepsIds) :
    Follows ε faithful session (session.operate engine operation).value.1 := by
  cases operation with
  | define name definition => exact (Decides.withControl session _).follows
  | setBindings bindings =>
      have decides := (Decides.withControl session { session.control with bindings }).trans
        (decides_publishCompiled _ Control.compileAll)
      exact decides.follows
  | selectBindings selection =>
      have decides := (Decides.withControl session { session.control with selection }).trans
        (decides_publishCompiled _ Control.compileAll)
      exact decides.follows
  | activateBindings name =>
      simp only [operate, Logged.value_bind, Logged.value_pure]
      exact (decides_activateBindings session name).follows
  | loadScript name source =>
      simp only [operate, Logged.value_bind, Logged.value_pure]
      exact (decides_loadScript session name source).follows
  | setThreshold threshold =>
      have decides := (Decides.withControl session { session.control with threshold }).trans
        (decides_publish _ { threshold := some threshold })
      exact decides.follows
  | configureKeyboard => exact (decides_publishCompiled session Control.compileKeyboard).follows
  | configureMidi => exact (decides_publishCompiled session Control.compileMidi).follows
  | configureAll => exact (decides_publishCompiled session Control.compileAll).follows
  | processKernelEvents handler state => exact session.follows_processKernelEvents keeps state
  | collectRetired => exact .of_same rfl rfl
  | drainInterface => exact .of_same rfl rfl
  | keyEvent qualifier down => exact session.follows_keyEvent qualifier down engine
  | midiEvent event => exact session.follows_midiEvent event engine
  | midiBytes bytes => exact session.follows_midiBytes bytes engine
  | perform action => exact session.follows_perform action engine
  | processBlock frames rate => exact session.follows_processBlock frames rate engine
  | applyUpdates => exact session.follows_applyUpdates
  | cancelScripts track =>
      exact .operate (session.loop.roster, session.rig engine)
        (.cancel none track (session.rig engine)) fun _ _ => rfl
  | finishEvent event =>
      exact .within session.loop.roster session.wires.kernel (.finishEvent event)
        (fun _ => rfl) fun _ => rfl
  | finishFunction symbol =>
      exact .within session.loop.roster session.wires.kernel (.finishFunction symbol)
        (fun _ => rfl) fun _ => rfl
  | engine change => exact .of_same rfl rfl

theorem follows_run (session : Session) (engine : ε) (history : List (Operation ε χ))
    (keeps : faithful → ∀ operation ∈ history, operation.KeepsIds) :
    Follows ε faithful session (session.run engine history).value.1 := by
  induction history generalizing session engine with
  | nil => exact .of_same rfl rfl
  | cons operation rest ih =>
      have first := session.follows_operate engine operation fun faithfully =>
        keeps faithfully operation List.mem_cons_self
      have others := ih (session.operate engine operation).value.1
        (session.operate engine operation).value.2 fun faithfully other member =>
          keeps faithfully other (List.mem_cons_of_mem _ member)
      exact first.trans others

/-- Every history of a session is an exchange, and an orderly one if handlers leave ids alone. -/
theorem exchange_run (config : Config) (symbols : SymbolTable) (engine : ε)
    (history : List (Operation ε χ)) :
    ∃ exchange : Exchange ε, exchange.Reachable config ∧
      exchange.Shows ((Session.new config symbols).run engine history).value.1.loop.roster
        ((Session.new config symbols).run engine history).value.1.wires.kernel ∧
      ((∀ operation ∈ history, operation.KeepsIds) → exchange.IsOrderly) := by
  have follows := (Session.new config symbols).follows_run engine history
    fun (keeps : ∀ operation ∈ history, operation.KeepsIds) => keeps
  obtain ⟨later, leads, shows⟩ := follows
    (.start config ((Session.new config symbols).rig engine)) ⟨rfl, rfl, rfl, rfl, rfl⟩
  exact ⟨later, ⟨_, leads.steps⟩, shows, fun keeps => leads.orderly keeps rfl⟩

end Session

end Looper
