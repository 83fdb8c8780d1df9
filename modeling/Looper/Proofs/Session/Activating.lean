import Looper.Engine.Recorder
import Looper.Proofs.Binding.Snapshot
import Looper.Proofs.Session.Registering

/-!
# Activating binding sets by symbol

An action for a binding set travels as a request that carries its name, and a
binding set is found by its exact name.  Whatever spelling a binding uses, the
action carries the first one that was ever met.  So it is the set of that
spelling that gets activated, which need not be the spelling that was
registered; the request is answered with success if there is such a set.
-/

namespace Looper

/-! ## Requests for binding sets -/

/-- A request for a binding set, by name, has been answered. -/
structure Control.Activates (before : Control) (name : String) (answer : KernelEvent)
    (after : Control) : Prop where
  kind : answer.kind = .activateBindings
  outcome :
    match before.selection.activate? name before.bindings.sets with
    | some selection => answer.returnCode = 0 ∧ after.selection = selection
    | none => answer.returnCode = -1 ∧ after.selection = before.selection

/-- There is something to activate just if a set has exactly the name. -/
theorem BindingSelection.isSome_activate?_iff (selection : BindingSelection) (name : String)
    (sets : List BindingSet) :
    (selection.activate? name sets).isSome ↔ ∃ set ∈ sets, set.name = name := by
  unfold activate?
  rw [Option.isSome_map, List.find?_isSome]
  simp only [beq_iff_eq]

theorem Control.Activates.of_known {before after : Control} {name : String}
    {answer : KernelEvent} (activates : before.Activates name answer after)
    (isSet : ∃ set ∈ before.bindings.sets, set.name = name) :
    answer.returnCode = 0 ∧
      before.selection.activate? name before.bindings.sets = some after.selection := by
  obtain ⟨selection, isSelection⟩ := Option.isSome_iff_exists.1
    ((before.selection.isSome_activate?_iff name _).2 isSet)
  have chosen := activates.outcome
  rw [isSelection] at chosen
  exact ⟨chosen.1, isSelection.trans (congrArg some chosen.2.symm)⟩

theorem Text.clip_of_fits {limit : Nat} {text : String} (fits : byteCount text.toList ≤ limit) :
    clip limit text = text := by
  rw [clip, clipChars_of_byteCount_le limit text.toList fits, String.ofList_toList]

namespace KernelChannel

variable {config : KernelConfig}

theorem completed_grow (count : Nat) (channel : KernelChannel) :
    (channel.grow count).value.completed = channel.completed := by
  obtain ⟨_, _, _, grows⟩ := channel.grow_eq count
  rw [grows]

theorem poolMax_pos (config : KernelConfig) : 0 < (new config).poolMax :=
  Nat.le_max_right _ _

theorem request_of_none (noPool : config.poolSize = 0) (kind : KernelKind) (args : List String)
    (requestId : Nat) : ((new config).request kind args requestId).value = (none, new config) := by
  unfold request alloc new
  rw [noPool]
  rfl

theorem request_of_some (pool : 0 < config.poolSize) (kind : KernelKind) (text : String)
    (requestId : Nat) :
    ∃ event after, ((new config).request kind [text] requestId).value = (some 1, after) ∧
      event.id = 1 ∧ event.kind = kind ∧ event.arg 0 = Text.clip KernelEvent.maxArg text ∧
      after.outbound.letters = [event] ∧ after.completed = .new (new config).poolMax := by
  obtain ⟨size, isSize⟩ := Nat.exists_eq_succ_of_ne_zero (Nat.ne_of_gt pool)
  let others : List KernelEvent := ((List.range size).map Nat.succ).map .blank
  let left : KernelChannel :=
    { new config with free := others, available := (new config).available - 1 }
  have free : (new config).free = .blank 0 :: others := by
    unfold new
    rw [isSize, Nat.succ_eq_add_one, List.range_succ_eq_map]
    rfl
  have takes : (new config).alloc.value = (some (.blank 0), left) := by
    unfold alloc
    rw [free]
    rfl
  let event : KernelEvent :=
    { KernelEvent.setArgs { KernelEvent.blank 0 with kind, requestId } 0 [text] with id := 1 }
  let posted : Mailbox KernelEvent := { capacity := (new config).poolMax, letters := [event] }
  have posts : left.outbound.post event = .ok posted :=
    (Mailbox.isOpen_new _).post (poolMax_pos config) event
  refine ⟨event, { left with lastId := 1, outbound := posted }, ?_, rfl, rfl, rfl, rfl, rfl⟩
  unfold request
  rw [Logged.value_bind, takes]
  unfold send
  dsimp only
  rw [show left.lastId + 1 = 1 from rfl, posts]
  rfl

end KernelChannel

namespace Session

variable {ε χ : Type}

theorem activates_activateBindings (session : Session) (name : String) (event : KernelEvent)
    (kind : event.kind = .activateBindings) :
    session.control.Activates name
      { event with
        returnCode := if (session.activateBindings name).value.1 then 0 else -1 }
      (session.activateBindings name).value.2.control where
  kind := kind
  outcome := by
    unfold activateBindings
    cases session.control.selection.activate? name session.control.bindings.sets with
    | none => exact ⟨rfl, rfl⟩
    | some selection =>
        refine ⟨rfl, ?_⟩
        have configured := control_publishCompiled
          (session.withControl { session.control with selection }) Control.compileAll
        exact congrArg Control.selection configured

/-- A single request for a binding set is answered by activating the set. -/
theorem processKernelEvents_activation (handler : KernelHandler χ) (session : Session) (state : χ)
    {event : KernelEvent} {capacity : Nat}
    (sent : session.wires.kernel.outbound.letters = [event])
    (kind : event.kind = .activateBindings)
    (room : 0 < capacity) (empty : session.wires.kernel.completed = .new capacity) :
    ∃ answer,
      (processKernelEvents handler session state).value.2.1.wires.kernel.completed.letters =
        [answer] ∧
      answer.id = event.id ∧
      session.control.Activates (event.arg 0) answer
        (processKernelEvents handler session state).value.2.1.control := by
  let drained : Session :=
    { session with
      wires := { session.wires with
        kernel := { session.wires.kernel with
          outbound := session.wires.kernel.outbound.drain.2 } } }
  let decided := (drained.activateBindings (event.arg 0)).value
  let answer : KernelEvent := { event with returnCode := if decided.1 then 0 else -1 }
  have handles : (handleKernelEvent handler event drained state).value =
      (answer, decided.2, state) := by
    unfold handleKernelEvent
    split
    · rfl
    · next other => exact absurd kind other
  have kept : decided.2.wires.kernel.completed = .new capacity := by
    rw [(decides_activateBindings drained (event.arg 0)).kernel]
    exact empty
  have posts : decided.2.wires.kernel.completed.post answer =
      .ok { capacity, letters := [answer] } :=
    kept ▸ (Mailbox.isOpen_new capacity).post room answer
  have completes := KernelChannel.complete_of_post posts
  have handled : (handleKernelEvents handler [event] drained state).value =
      ({ decided.2 with
          wires := { decided.2.wires with
            kernel := { decided.2.wires.kernel with
              completed := { capacity, letters := [answer] } } } }, state) := by
    unfold handleKernelEvents
    rw [Logged.value_bind, handles, Logged.value_bind, completes]
    rfl
  have processed : (processKernelEvents handler session state).value.2.1 =
      let after := (handleKernelEvents handler session.wires.kernel.outbound.letters drained
        state).value.1
      { after with
          wires := { after.wires with
            kernel := after.wires.kernel.topUp.value } }.collectRetired.2 := rfl
  have activates := drained.activates_activateBindings (event.arg 0) event kind
  rw [processed, sent, handled]
  exact ⟨answer, congrArg Mailbox.letters (KernelChannel.completed_grow _ _), rfl, activates⟩

/-! ## Preparing a session -/

/-- What the control side may do before anything is played. -/
def Undertaking.IsPreparation : Undertaking ε χ → Prop
  | .intern _
  | .operation (.define ..) | .operation (.loadScript ..)
  | .operation (.setBindings _) | .operation (.selectBindings _)
  | .operation (.activateBindings _) | .operation (.setThreshold _)
  | .operation .configureKeyboard | .operation .configureMidi | .operation .configureAll
  | .operation .collectRetired => True
  | _ => False

variable [Engine ε]

/-- Preparing a session leaves the loop side and the envelopes alone. -/
theorem decides_undertake (session : Session) (engine : ε) {undertaking : Undertaking ε χ}
    (preparing : undertaking.IsPreparation) :
    Decides session (session.undertake engine undertaking).value.1 := by
  cases undertaking with
  | intern name => exact .withControl session _
  | operation operation =>
      cases operation with
      | define name definition => exact .withControl session _
      | setBindings bindings =>
          exact (Decides.withControl session { session.control with bindings }).trans
            (decides_publishCompiled _ Control.compileAll)
      | selectBindings selection =>
          exact (Decides.withControl session { session.control with selection }).trans
            (decides_publishCompiled _ Control.compileAll)
      | activateBindings name => exact decides_activateBindings session name
      | loadScript name source => exact decides_loadScript session name source
      | setThreshold threshold =>
          exact (Decides.withControl session { session.control with threshold }).trans
            (decides_publish _ { threshold := some threshold })
      | configureKeyboard => exact decides_publishCompiled session Control.compileKeyboard
      | configureMidi => exact decides_publishCompiled session Control.compileMidi
      | configureAll => exact decides_publishCompiled session Control.compileAll
      | collectRetired => exact ⟨rfl, rfl⟩
      | _ => exact preparing.elim

theorem decides_undertakeAll (session : Session) (engine : ε) (history : List (Undertaking ε χ))
    (preparing : ∀ undertaking ∈ history, undertaking.IsPreparation) :
    Decides session (session.undertakeAll engine history).value.1 := by
  induction history generalizing session engine with
  | nil => exact .refl session
  | cons undertaking rest ih =>
      obtain ⟨first, others⟩ := List.forall_mem_cons.1 preparing
      exact (session.decides_undertake engine first).trans (ih _ _ others)

/-- An action for a binding set is sent as a request that carries its name. -/
theorem perform_activation (session : Session) (action : Action) (engine : ε)
    (target : action.target = .activation .bindings) (level : action.level = .core) :
    (session.perform action engine).value =
      (let asked := (session.wires.kernel.request .activateBindings [action.name]
        action.requestId).value
       ({ action with kernelEvent := asked.1 },
        { session with wires := { session.wires with kernel := asked.2 } }, engine)) := by
  have below : ¬ action.level = .ui := by
    rw [level]
    exact nofun
  have sends (state : Roster × Rig ε) : Dispatch.perform ScriptHost.roster action state =
      Dispatch.requestActivation action state := by
    unfold Dispatch.perform
    simp only [target, Target.isResolved, Bool.not_true, Bool.false_eq_true, if_false, below]
  unfold perform
  rw [sends]
  rfl

/-- What dispatching an action for a binding set leads to, before any other request was sent. -/
theorem activates_perform {config : Config} {session : Session}
    (kernel : session.wires.kernel = .new config.kernel) (action : Action) (engine : ε)
    (target : action.target = .activation .bindings) (level : action.level = .core)
    (handler : KernelHandler χ) (state : χ) :
    let performed := (session.perform action engine).value
    let handled := (processKernelEvents handler performed.2.1 state).value.2.1
    (config.kernel.poolSize = 0 → performed.1.kernelEvent = none ∧
      handled.wires.kernel.completed.letters = [] ∧ handled.control = session.control) ∧
    (0 < config.kernel.poolSize → ∃ answer, performed.1.kernelEvent = some answer.id ∧
      handled.wires.kernel.completed.letters = [answer] ∧
      session.control.Activates (Text.clip KernelEvent.maxArg action.name) answer
        handled.control) := by
  rw [session.perform_activation action engine target level, kernel]
  dsimp only
  refine ⟨fun noPool => ?_, fun pool => ?_⟩
  · rw [KernelChannel.request_of_none noPool]
    exact ⟨rfl, congrArg Mailbox.letters (KernelChannel.completed_grow _ _), rfl⟩
  · obtain ⟨event, after, requests, isId, kind, carries, sent, empty⟩ :=
      KernelChannel.request_of_some pool .activateBindings action.name action.requestId
    rw [requests]
    obtain ⟨answer, letters, sameId, activates⟩ := processKernelEvents_activation handler
      { session with wires := { session.wires with kernel := after } } state sent kind
      (KernelChannel.poolMax_pos config.kernel) empty
    rw [carries] at activates
    exact ⟨answer, by rw [sameId, isId], letters, activates⟩

/--
A name that was last registered for binding sets activates the set that is
called as the name was first spelled, whatever spelling is bound: exactly that
set is looked for, as far as its name fits an argument, and the request fails if
there is none.  So a set is activated by its own name if that was met first in
this spelling.
-/
theorem activates_first_spelling (config : Config) (symbols : SymbolTable) (engine : ε)
    (history : List (Undertaking ε χ))
    (preparing : ∀ undertaking ∈ history, undertaking.IsPreparation)
    (name : String) (registration : Registration)
    (last : Registration.last? ((new config symbols).registrationsAll engine history) name =
      some registration)
    (isActivation : registration.definition = .activation .bindings) :
    let start := new config symbols
    let ready := (start.undertakeAll engine history).value.1
    ∃ symbol, ready.control.symbols.find? name = some symbol ∧
      Text.sameName symbol.name name = true ∧
      (∀ earlier later, history = earlier ++ later →
        let before := (start.undertakeAll engine earlier).value.1
        (∀ known, before.control.symbols.find? name = some known → known.name = symbol.name) ∧
        (Registration.last? (start.registrationsAll engine earlier) name = some registration →
          ∀ binding : Binding, Text.sameName binding.symbolName name = true → ∀ compiled,
            (binding.compile before.control.symbols).value.1 = some compiled →
            compiled.action.Carries symbol)) ∧
      ∀ action : Action, action.Carries symbol → ∀ (handler : KernelHandler χ) (state : χ),
        let performed := (ready.perform action engine).value
        let handled := (processKernelEvents handler performed.2.1 state).value.2.1
        (config.kernel.poolSize = 0 → performed.1.kernelEvent = none ∧
          handled.wires.kernel.completed.letters = [] ∧ handled.control = ready.control) ∧
        (0 < config.kernel.poolSize → ∃ answer, performed.1.kernelEvent = some answer.id ∧
          handled.wires.kernel.completed.letters = [answer] ∧
          ready.control.Activates (Text.clip KernelEvent.maxArg symbol.name) answer
            handled.control ∧
          (symbol.name = name → Text.byteCount name.toList ≤ KernelEvent.maxArg →
            (∃ set ∈ ready.control.bindings.sets, set.name = name) →
            answer.returnCode = 0 ∧
              ready.control.selection.activate? name ready.control.bindings.sets =
                some handled.control.selection)) := by
  intro start ready
  have registers (part : List (Undertaking ε χ)) :
      SymbolTable.Registers (start.registrationsAll engine part) symbols
        (start.undertakeAll engine part).value.1.control.symbols :=
    (start.advances_undertakeAll engine part rfl).symbols
  obtain ⟨symbol, found, isDefined⟩ := (registers history).find? last
  have target : symbol.target = .activation .bindings := by
    rw [SymbolEntry.target, isDefined, isActivation]
    rfl
  have level : symbol.level = .core := by
    rw [SymbolEntry.level, isDefined, isActivation]
    rfl
  refine ⟨symbol, found, SymbolTable.sameName_of_find? found, ?_, ?_⟩
  · intro earlier later isHistory before
    have keeps : before.control.symbols.KeepsNames ready.control.symbols := by
      have rest := before.advances_undertakeAll (start.undertakeAll engine earlier).value.2 later
        (start.isSettled_undertakeAll engine earlier rfl)
      unfold ready
      rw [isHistory, undertakeAll_append]
      exact rest.symbols.names
    have spelled (known : SymbolEntry) (isKnown : before.control.symbols.find? name = some known) :
        known.name = symbol.name := by
      obtain ⟨kept, isKept, same⟩ := keeps.find? isKnown
      obtain rfl : kept = symbol := Option.some.inj (isKept.symm.trans found)
      exact same.symm
    refine ⟨spelled, ?_⟩
    intro lastBefore binding same compiled compiles
    obtain ⟨known, isKnown, isRegistered⟩ := (registers earlier).find? lastBefore
    have carries := Binding.carries_of_find? compiles
      ((SymbolTable.find?_congr _ same).trans isKnown)
    exact carries.of_kept (spelled known isKnown) (isRegistered.trans isDefined.symm)
  · intro action carries handler state
    have kernel : ready.wires.kernel = .new config.kernel :=
      (start.decides_undertakeAll engine history preparing).kernel
    have outcome := activates_perform kernel action engine (carries.target.trans target)
      (carries.level.trans level) handler state
    rw [carries.name] at outcome
    refine ⟨outcome.1, fun pool => ?_⟩
    obtain ⟨answer, sent, letters, activates⟩ := outcome.2 pool
    refine ⟨answer, sent, letters, activates, fun isName fits isSet => ?_⟩
    rw [isName, Text.clip_of_fits fits] at activates
    exact activates.of_known isSet

def lowered : List (Undertaking Recorder Unit) :=
  [.intern "pedals",
    .operation (.define "Pedals" (.activation .bindings)),
    .operation (.setBindings ⟨[{ name := "Common" }, { name := "Pedals", overlay := true }]⟩)]

/-- Then no action that is compiled for the name activates the set. -/
theorem activates_first_spelling_lowered :
    let ready := ((new {} {}).undertakeAll ({} : Recorder) lowered).value.1
    Registration.last? ((new {} {}).registrationsAll ({} : Recorder) lowered) "Pedals" =
        some ⟨"Pedals", .activation .bindings⟩ ∧
      (∃ set ∈ ready.control.bindings.sets, set.name = "Pedals") ∧
      ∃ symbol, ready.control.symbols.find? "Pedals" = some symbol ∧ symbol.name = "pedals" ∧
        ∀ action : Action, action.Carries symbol →
          let performed := (ready.perform action ({} : Recorder)).value
          let handled := (processKernelEvents logHandler performed.2.1 ()).value.2.1
          ∃ answer, handled.wires.kernel.completed.letters = [answer] ∧
            answer.returnCode = -1 ∧ handled.control.selection = ready.control.selection := by
  intro ready
  have preparing : ∀ undertaking ∈ lowered, undertaking.IsPreparation := by
    unfold lowered
    simp only [List.forall_mem_cons, Undertaking.IsPreparation, true_and]
    exact fun _ member => absurd member List.not_mem_nil
  have last : Registration.last? ((new {} {}).registrationsAll ({} : Recorder) lowered) "Pedals" =
      some ⟨"Pedals", .activation .bindings⟩ := by
    decide +kernel
  have first : ready.control.symbols.find? "Pedals" =
      some ⟨"pedals", some (.activation .bindings)⟩ := by
    decide +kernel
  have unknown : ready.control.selection.activate? (Text.clip KernelEvent.maxArg "pedals")
      ready.control.bindings.sets = none := by
    decide +kernel
  refine ⟨last, by decide +kernel, ?_⟩
  obtain ⟨symbol, found, -, -, dispatches⟩ := activates_first_spelling {} {} ({} : Recorder)
    lowered preparing "Pedals" ⟨"Pedals", .activation .bindings⟩ last rfl
  obtain rfl : symbol = _ := Option.some.inj (found.symm.trans first)
  refine ⟨_, first, rfl, fun action carries => ?_⟩
  obtain ⟨answer, -, letters, activates, -⟩ :=
    (dispatches action carries logHandler ()).2 (by decide)
  have outcome := activates.outcome
  rw [unknown] at outcome
  exact ⟨answer, letters, outcome.1, outcome.2⟩

end Session

end Looper
