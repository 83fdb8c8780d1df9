import Looper.Engine.Recorder
import Looper.Proofs.Binding.Recompile
import Looper.Proofs.Script.Shelving
import Looper.Proofs.Session.History

/-!
# Agreement of the two halves

The control half tells the loop half about new tables through a box that holds
few updates and loses what finds no room.  Tables and threshold are sent anew
with every full configuration; a library is sent when it changes.  So the halves
agree on the library as long as no update was lost.
-/

namespace Looper

theorem LoopHalf.library_apply (half : LoopHalf) (update : TableUpdate) :
    (half.apply update).2.roster.shared.library =
      update.scripts.getD half.roster.shared.library := by
  unfold apply
  cases update.scripts <;> rfl

/-- The library in place after some updates is the last one that they carry. -/
theorem LoopHalf.library_applyAll (half : LoopHalf) (updates : List TableUpdate) :
    (half.applyAll updates).roster.shared.library =
      updates.foldl (fun library update => update.scripts.getD library)
        half.roster.shared.library := by
  induction updates generalizing half with
  | nil => rfl
  | cons update rest ih =>
      refine (ih (half.apply update).2).trans ?_
      rw [library_apply]
      rfl

namespace Session

/-! ## What the loop half is about to know -/

/-- The library that the loop half will have once every update is in place. -/
def promised (session : Session) : ScriptLibrary :=
  session.wires.updates.letters.foldl (fun library update => update.scripts.getD library)
    session.loop.roster.shared.library

/-- The loop half has the library of the control half, or is about to have it. -/
def Agrees (session : Session) : Prop :=
  session.promised = session.control.library

def dropRecord : LogRecord :=
  ⟨.warn, .bindings, "table update dropped, real-time side is not draining"⟩

/-- The halves go on agreeing, unless an update is lost. -/
structure Informs (records : List LogRecord) (before after : Session) : Prop where
  opened : before.wires.updates.IsOpen updateCapacity → after.wires.updates.IsOpen updateCapacity
  agrees : before.wires.updates.IsOpen updateCapacity → before.Agrees →
    after.Agrees ∨ dropRecord ∈ records

namespace Informs

theorem trans {records more : List LogRecord} {first second third : Session}
    (earlier : Informs records first second) (later : Informs more second third) :
    Informs (records ++ more) first third where
  opened isOpen := later.opened (earlier.opened isOpen)
  agrees isOpen agreed := by
    rcases earlier.agrees isOpen agreed with agreesSecond | lost
    · rcases later.agrees (earlier.opened isOpen) agreesSecond with agreesThird | lost
      · exact .inl agreesThird
      · exact .inr (List.mem_append_right _ lost)
    · exact .inr (List.mem_append_left _ lost)

theorem mono {records more : List LogRecord} {before after : Session}
    (informs : Informs records before after) (written : records ⊆ more) :
    Informs more before after where
  opened := informs.opened
  agrees isOpen agreed := (informs.agrees isOpen agreed).imp id fun lost => written lost

theorem ofKept {before after : Session} (records : List LogRecord)
    (updates : after.wires.updates = before.wires.updates)
    (installed : after.loop.roster.shared.library = before.loop.roster.shared.library)
    (library : after.control.library = before.control.library) : Informs records before after where
  opened isOpen := by
    rw [updates]
    exact isOpen
  agrees _ agreed := by
    refine .inl ?_
    unfold Agrees promised
    rw [updates, installed, library]
    exact agreed

theorem ofPlays {before after : Session} (records : List LogRecord)
    (plays : Plays before after) : Informs records before after :=
  ofKept records plays.updates plays.library (congrArg Control.library plays.control)

end Informs

theorem publish_of_room (session : Session) (update : TableUpdate)
    (opened : session.wires.updates.IsOpen updateCapacity)
    (room : session.wires.updates.letters.length < updateCapacity) :
    (session.publish update).value =
      { session with
        wires := { session.wires with
          updates := { session.wires.updates with
            letters := session.wires.updates.letters ++ [update] }
          retired := session.wires.retired.drain.2 } } := by
  have posts : session.collectRetired.2.wires.updates.post update =
      .ok { session.wires.updates with
        letters := session.wires.updates.letters ++ [update] } := opened.post room update
  unfold publish
  dsimp only
  rw [posts]
  rfl

theorem publish_of_full (session : Session) (update : TableUpdate)
    (opened : session.wires.updates.IsOpen updateCapacity)
    (full : updateCapacity ≤ session.wires.updates.letters.length) :
    (session.publish update).value = session.collectRetired.2 ∧
      dropRecord ∈ (session.publish update).records := by
  have refuses : session.collectRetired.2.wires.updates.post update = .error .full :=
    opened.post_of_full full update
  unfold publish
  dsimp only
  rw [refuses]
  exact ⟨rfl, List.mem_singleton.2 rfl⟩

theorem isOpen_publish (session : Session) (update : TableUpdate)
    (opened : session.wires.updates.IsOpen updateCapacity) :
    (session.publish update).value.wires.updates.IsOpen updateCapacity := by
  by_cases room : session.wires.updates.letters.length < updateCapacity
  · rw [publish_of_room session update opened room]
    exact opened.withLetters _
  · rw [(publish_of_full session update opened (Nat.le_of_not_lt room)).1]
    exact opened

/-- An update makes the halves agree if it carries the library, or if they did already. -/
theorem agrees_publish (session : Session) (update : TableUpdate)
    (opened : session.wires.updates.IsOpen updateCapacity)
    (carries : update.scripts = some session.control.library ∨
      update.scripts = none ∧ session.Agrees) :
    (session.publish update).value.Agrees ∨ dropRecord ∈ (session.publish update).records := by
  by_cases room : session.wires.updates.letters.length < updateCapacity
  · refine .inl ?_
    rw [publish_of_room session update opened room]
    unfold Agrees promised
    simp only [List.foldl_append, List.foldl_cons, List.foldl_nil]
    rcases carries with library | ⟨none, agreed⟩
    · rw [library]
      rfl
    · rw [none]
      exact agreed
  · exact .inr (publish_of_full session update opened (Nat.le_of_not_lt room)).2

/-- A compilation whose update carries the library if it has changed. -/
def IsHonest (compile : Control → Logged (TableUpdate × Control)) : Prop :=
  ∀ control, (compile control).value.1.scripts = some (compile control).value.2.library ∨
    (compile control).value.1.scripts = none ∧
      (compile control).value.2.library = control.library

theorem isHonest_compileKeyboard : IsHonest Control.compileKeyboard :=
  fun _ => .inr ⟨rfl, rfl⟩

theorem isHonest_compileMidi : IsHonest Control.compileMidi :=
  fun _ => .inr ⟨rfl, rfl⟩

theorem value_compileAll (control : Control) :
    control.compileAll.value =
      (let keyboard := (Compile.keyboard control.liveSets control.symbols).value
       let midi := (Compile.midi control.liveSets keyboard.2).value
       let resolved := (control.library.resolve midi.2).value
       ({ keyboard := some keyboard.1
          midi := some midi.1
          scripts := if 0 < resolved.1 then some resolved.2 else none
          threshold := some control.threshold },
        { control with symbols := midi.2, library := resolved.2 })) :=
  rfl

theorem isHonest_compileAll : IsHonest Control.compileAll := by
  intro control
  rw [value_compileAll]
  dsimp only
  split
  · exact .inl rfl
  · next current =>
      exact .inr ⟨rfl, ScriptLibrary.resolve_of_current (Nat.eq_zero_of_not_pos current)⟩

/-- Compiling something honestly and sending it. -/
theorem informs_publishCompiled (session : Session)
    {compile : Control → Logged (TableUpdate × Control)} (honest : IsHonest compile) :
    Informs (session.publishCompiled compile).records session
      (session.publishCompiled compile).value where
  opened isOpen := isOpen_publish (session.withControl (compile session.control).value.2) _ isOpen
  agrees isOpen agreed := by
    have sent := agrees_publish (session.withControl (compile session.control).value.2)
      (compile session.control).value.1 isOpen
      ((honest session.control).imp id fun unsent => ⟨unsent.1, agreed.trans unsent.2.symm⟩)
    exact sent.imp id (List.mem_append_right _)

/-- Deciding something that is no library, and then configuring everything. -/
theorem informs_decide (session : Session) (control : Control)
    (library : control.library = session.control.library) :
    Informs ((session.withControl control).configureAll).records session
      ((session.withControl control).configureAll).value := by
  have decided : Informs [] session (session.withControl control) := .ofKept [] rfl rfl library
  exact decided.trans (informs_publishCompiled (session.withControl control) isHonest_compileAll)

theorem informs_activateBindings (session : Session) (name : String) :
    Informs (session.activateBindings name).records session
      (session.activateBindings name).value.2 := by
  unfold activateBindings
  split
  · exact .ofKept _ rfl rfl rfl
  · next selection _ =>
      have informs := informs_decide session { session.control with selection } rfl
      refine informs.mono fun record member => ?_
      simp only [Logged.records_bind, Logged.records_pure, List.append_nil]
      exact List.mem_append_right _ member

theorem informs_setThreshold (session : Session) (threshold : Nat) :
    Informs (session.setThreshold threshold).records session
      (session.setThreshold threshold).value where
  opened isOpen := isOpen_publish (session.withControl { session.control with threshold }) _ isOpen
  agrees isOpen agreed :=
    agrees_publish (session.withControl { session.control with threshold })
      { threshold := some threshold } isOpen (.inr ⟨rfl, agreed⟩)

theorem library_of_load_error {library after : ScriptLibrary} {name source : String}
    {symbols known : SymbolTable} {error : ScriptError}
    (loads : (library.load name source symbols).value = (.error error, known, after)) :
    after = library := by
  unfold ScriptLibrary.load at loads
  simp only [Logged.value_bind] at loads
  split at loads
  · simp only [Logged.value_pure, Prod.mk.injEq] at loads
    exact loads.2.2.symm
  · simp at loads

theorem informs_loadScript (session : Session) (name source : String) :
    Informs (session.loadScript name source).records session
      (session.loadScript name source).value.2 := by
  unfold loadScript
  simp only [Logged.value_bind, Logged.records_bind]
  cases loads : (session.control.library.load name source session.control.symbols).value with
  | mk result rest =>
      obtain ⟨symbols, library⟩ := rest
      cases result with
      | error error => exact .ofKept _ rfl rfl (library_of_load_error loads)
      | ok script =>
          dsimp only
          generalize ({ session.control with symbols, library }.announce script) = announced
          have sent : Informs
              ((session.withControl announced.value).publish
                { scripts := some announced.value.library }).records session
              ((session.withControl announced.value).publish
                { scripts := some announced.value.library }).value :=
            { opened := isOpen_publish (session.withControl announced.value) _
              agrees := fun isOpen _ =>
                agrees_publish (session.withControl announced.value) _ isOpen (.inl rfl) }
          have configured := sent.trans (informs_publishCompiled _ isHonest_compileAll)
          refine configured.mono fun record member => ?_
          simp only [Logged.records_bind, Logged.records_pure, List.append_nil]
          refine List.mem_append_right _ (List.mem_append_right _ ?_)
          exact member

variable {ε χ : Type}

theorem informs_handleKernelEvent (handler : KernelHandler χ) (event : KernelEvent)
    (session : Session) (state : χ) :
    Informs (handleKernelEvent handler event session state).records session
      (handleKernelEvent handler event session state).value.2.1 := by
  unfold handleKernelEvent
  split
  · refine (informs_activateBindings session (event.arg 0)).mono fun record member => ?_
    simp only [Logged.records_bind, Logged.records_pure, List.append_nil]
    exact member
  · exact .ofKept _ rfl rfl rfl

theorem informs_handleKernelEvents (handler : KernelHandler χ) (events : List KernelEvent)
    (session : Session) (state : χ) :
    Informs (handleKernelEvents handler events session state).records session
      (handleKernelEvents handler events session state).value.1 := by
  induction events generalizing session state with
  | nil => exact .ofKept _ rfl rfl rfl
  | cons event rest ih =>
      have first := informs_handleKernelEvent handler event session state
      generalize handled : handleKernelEvent handler event session state = answer at first
      have completed : Informs (answer.value.2.1.wires.kernel.complete answer.value.1).records
          answer.value.2.1
          { answer.value.2.1 with
            wires := { answer.value.2.1.wires with
              kernel := (answer.value.2.1.wires.kernel.complete answer.value.1).value } } :=
        .ofKept _ rfl rfl rfl
      have all := first.trans (completed.trans (ih _ answer.value.2.2))
      unfold handleKernelEvents
      simp only [Logged.value_bind, Logged.records_bind, handled]
      exact all

theorem informs_processKernelEvents (handler : KernelHandler χ) (session : Session) (state : χ) :
    Informs (processKernelEvents handler session state).records session
      (processKernelEvents handler session state).value.2.1 := by
  have received : Informs [] session
      { session with
        wires := { session.wires with
          kernel := { session.wires.kernel with
            outbound := session.wires.kernel.outbound.drain.2 } } } := .ofKept [] rfl rfl rfl
  have handled := received.trans (informs_handleKernelEvents handler
    session.wires.kernel.outbound.drain.1 _ state)
  have toppedUp : Informs []
      (handleKernelEvents handler session.wires.kernel.outbound.drain.1
        { session with
          wires := { session.wires with
            kernel := { session.wires.kernel with
              outbound := session.wires.kernel.outbound.drain.2 } } } state).value.1
      (processKernelEvents handler session state).value.2.1 := .ofKept [] rfl rfl rfl
  refine (handled.trans toppedUp).mono fun record member => ?_
  rw [List.append_nil] at member
  exact List.mem_append_left _ member

theorem informs_applyUpdates (session : Session) (records : List LogRecord) :
    Informs records session session.applyUpdates.value := by
  obtain ⟨retired, applies⟩ := applyUpdates_eq session
  rw [applies]
  refine ⟨fun isOpen => isOpen.withLetters [], fun _ agreed => .inl ?_⟩
  exact (LoopHalf.library_applyAll session.loop session.wires.updates.letters).trans agreed

variable [Engine ε]

/-- Whatever a session does, the halves go on agreeing, unless an update is lost. -/
theorem informs_operate (session : Session) (engine : ε) (operation : Operation ε χ)
    (settled : session.IsSettled) :
    Informs (session.operate engine operation).records session
      (session.operate engine operation).value.1 := by
  -- Only what the control half sends can be lost; what the loop half plays keeps the library.
  cases operation with
  | define name definition => exact .ofKept _ rfl rfl rfl
  | setBindings bindings =>
      refine (informs_decide session { session.control with bindings } rfl).mono ?_
      exact List.subset_append_left _ _
  | selectBindings selection =>
      refine (informs_decide session { session.control with selection } rfl).mono ?_
      exact List.subset_append_left _ _
  | activateBindings name =>
      simp only [operate, Logged.value_bind, Logged.value_pure]
      refine (informs_activateBindings session name).mono ?_
      exact List.subset_append_left _ _
  | loadScript name source =>
      simp only [operate, Logged.value_bind, Logged.value_pure]
      refine (informs_loadScript session name source).mono ?_
      exact List.subset_append_left _ _
  | setThreshold threshold =>
      refine (informs_setThreshold session threshold).mono ?_
      exact List.subset_append_left _ _
  | configureKeyboard =>
      refine (informs_publishCompiled session isHonest_compileKeyboard).mono ?_
      exact List.subset_append_left _ _
  | configureMidi =>
      refine (informs_publishCompiled session isHonest_compileMidi).mono ?_
      exact List.subset_append_left _ _
  | configureAll =>
      refine (informs_publishCompiled session isHonest_compileAll).mono ?_
      exact List.subset_append_left _ _
  | processKernelEvents handler state =>
      refine (informs_processKernelEvents handler session state).mono ?_
      exact List.subset_append_left _ _
  | collectRetired => exact .ofKept _ rfl rfl rfl
  | drainInterface => exact .ofKept _ rfl rfl rfl
  | keyEvent qualifier down =>
      exact .ofPlays _ (plays_keyEvent session qualifier down engine settled)
  | midiEvent event => exact .ofPlays _ (plays_midiEvent session event engine settled)
  | midiBytes bytes => exact .ofPlays _ (plays_midiBytes session bytes engine settled)
  | perform action => exact .ofPlays _ (plays_perform session action engine settled)
  | processBlock frames rate =>
      have applied := informs_applyUpdates session []
      have played : Informs (session.operate engine
          (.processBlock frames rate : Operation ε χ)).records _ _ :=
        .ofPlays _ (plays_processBlock session frames rate engine settled)
      exact applied.trans played
  | applyUpdates => exact informs_applyUpdates session _
  | cancelScripts track => exact .ofPlays _ (plays_cancelScripts session track engine settled)
  | finishEvent event => exact .ofKept _ rfl rfl rfl
  | finishFunction symbol => exact .ofKept _ rfl rfl rfl
  | engine change => exact .ofKept _ rfl rfl rfl

/-- However operations follow each other, the halves go on agreeing, unless an update is lost. -/
theorem informs_run (session : Session) (engine : ε) (history : List (Operation ε χ))
    (settled : session.IsSettled) :
    Informs (session.run engine history).records session
      (session.run engine history).value.1 := by
  induction history generalizing session engine with
  | nil => exact .ofKept _ rfl rfl rfl
  | cons operation rest ih =>
      have first := informs_operate session engine operation settled
      have others := ih (session.operate engine operation).value.1
        (session.operate engine operation).value.2
        (continues_operate session engine operation settled).settled
      exact first.trans others

/-! ## A full configuration and a block -/

/-- The desk works with what the control half has decided. -/
structure IsConfigured (session : Session) : Prop where
  keyboard : session.loop.desk.keyboard =
    (Compile.keyboard session.control.liveSets session.control.symbols).value.1
  midi : session.loop.desk.midi =
    (Compile.midi session.control.liveSets session.control.symbols).value.1
  threshold : session.loop.desk.threshold = Desk.normalizeThreshold session.control.threshold

omit [Engine ε] in
theorem configureAll_of_empty (session : Session)
    (opened : session.wires.updates.IsOpen updateCapacity)
    (empty : session.wires.updates.letters = []) :
    session.configureAll.value.control = session.control.compileAll.value.2 ∧
      session.configureAll.value.loop = session.loop ∧
      session.configureAll.value.wires.updates.letters =
        [session.control.compileAll.value.1] := by
  have room : session.wires.updates.letters.length < updateCapacity := by
    rw [empty]
    exact Nat.zero_lt_succ 7
  have sent := publish_of_room (session.withControl session.control.compileAll.value.2)
    session.control.compileAll.value.1 opened room
  have configured : session.configureAll.value =
      ((session.withControl session.control.compileAll.value.2).publish
        session.control.compileAll.value.1).value := rfl
  rw [configured, sent]
  refine ⟨rfl, rfl, ?_⟩
  change session.wires.updates.letters ++ _ = _
  rw [empty, List.nil_append]

theorem processBlock_of_single (session : Session) (frames rate : Nat) (engine : ε)
    {update : TableUpdate} (settled : session.IsSettled)
    (single : session.wires.updates.letters = [update]) :
    (session.processBlock frames rate engine).value.1.control = session.control ∧
      (session.processBlock frames rate engine).value.1.loop.desk =
        (session.loop.apply update).2.desk ∧
      (session.processBlock frames rate engine).value.1.loop.roster.shared.library =
        update.scripts.getD session.loop.roster.shared.library := by
  obtain ⟨retired, applies⟩ := applyUpdates_eq session
  have plays := plays_processBlock session frames rate engine settled
  have desk : (session.processBlock frames rate engine).value.1.loop.desk =
      session.applyUpdates.value.loop.desk := rfl
  have library := plays.library
  have control := plays.control
  rw [applies, single] at desk library
  rw [applies] at control
  exact ⟨control, desk, library.trans (LoopHalf.library_apply session.loop update)⟩

omit [Engine ε] in
/-- Tables that a full configuration compiles are those that its symbols would give again. -/
theorem isConfigured_of_apply {session : Session} {half : LoopHalf} {control : Control}
    (decided : session.control = control.compileAll.value.2)
    (desk : session.loop.desk = (half.apply control.compileAll.value.1).2.desk) :
    session.IsConfigured := by
  -- The MIDI tables add names after the keyboard table was made, but those names change nothing.
  obtain ⟨grown, midiAgain⟩ := Compile.midi_again control.liveSets
    (.refl (Compile.midi control.liveSets
      (Compile.keyboard control.liveSets control.symbols).value.2).value.2)
  obtain ⟨_, keyboardAgain⟩ := Compile.keyboard_again control.liveSets grown
  rw [value_compileAll] at decided desk
  refine ⟨?_, ?_, ?_⟩
  · rw [desk, decided]
    exact (congrArg Prod.fst keyboardAgain).symm
  · rw [desk, decided]
    exact (congrArg Prod.fst midiAgain).symm
  · rw [desk, decided]
    rfl

/-- A full configuration that finds no update waiting, and a block. -/
theorem configured_of_empty (session : Session) (frames rate : Nat) (engine : ε)
    (settled : session.IsSettled) (opened : session.wires.updates.IsOpen updateCapacity)
    (empty : session.wires.updates.letters = []) :
    let configured := session.configureAll.value
    let played := (configured.processBlock frames rate engine).value.1
    played.control = configured.control ∧ played.IsConfigured ∧
      (played.loop.roster.shared.library = played.control.library ↔
        session.loop.roster.shared.library = session.control.library ∨
          configured.control.library ≠ session.control.library) := by
  obtain ⟨decided, loop, single⟩ := configureAll_of_empty session opened empty
  generalize session.configureAll.value = configured at decided loop single ⊢
  obtain ⟨control, desk, library⟩ := processBlock_of_single configured frames rate
    engine (isSettled_of_loop loop settled) single
  dsimp only
  generalize (configured.processBlock frames rate engine).value.1 = played
    at control desk library ⊢
  refine ⟨control, isConfigured_of_apply (control.trans decided) desk, ?_⟩
  rw [library, control, decided, loop, value_compileAll]
  dsimp only
  -- The update carries the library just if resolving has changed it.
  rw [← ScriptLibrary.resolve_changed_iff]
  split
  · next changed => exact iff_of_true rfl (.inr changed)
  · next unchanged =>
      rw [ScriptLibrary.resolve_of_current (Nat.eq_zero_of_not_pos unchanged)]
      constructor
      · exact .inl
      · rintro (had | changed)
        · exact had
        · exact absurd changed unchanged

/--
When a full configuration finds no update waiting and a block follows, the loop
half has the tables and the threshold of the control half.  It has the library
too just if it had it before or the configuration changed it; and it has it in
any case if no update was ever lost.
-/
theorem configureAll_processBlock (config : Config) (symbols : SymbolTable) (engine : ε)
    (history : List (Operation ε χ)) (frames rate : Nat)
    (empty : ((Session.new config symbols).run engine history).value.1.wires.updates.letters =
      []) :
    let outcome := (Session.new config symbols).run engine history
    let session := outcome.value.1
    let configured := session.configureAll.value
    let played := (configured.processBlock frames rate outcome.value.2).value.1
    played.control = configured.control ∧ played.IsConfigured ∧
      (played.loop.roster.shared.library = played.control.library ↔
        session.loop.roster.shared.library = session.control.library ∨
          configured.control.library ≠ session.control.library) ∧
      (dropRecord ∉ outcome.records →
        played.loop.roster.shared.library = played.control.library) := by
  have informs := informs_run (Session.new config symbols) engine history rfl
  have settled := (continues_run (Session.new config symbols) engine history rfl).settled
  generalize (Session.new config symbols).run engine history = outcome
    at empty informs settled ⊢
  have opened := informs.opened (Mailbox.isOpen_new updateCapacity)
  obtain ⟨control, configured, exactly⟩ := configured_of_empty outcome.value.1 frames rate
    outcome.value.2 settled opened empty
  refine ⟨control, configured, exactly, fun kept => exactly.2 (.inl ?_)⟩
  rcases informs.agrees (Mailbox.isOpen_new updateCapacity) rfl with agreed | lost
  · unfold Agrees promised at agreed
    rw [empty] at agreed
    exact agreed
  · exact absurd lost kept

def smallConfig : Config where
  scripts := { maxActive := 0 }
  kernel := { poolSize := 1, poolMax := 1 }

/-- Updates fill their box, so that the library of a script that is loaded then is lost. -/
def lossyHistory : List (Operation Recorder Unit) :=
  List.replicate updateCapacity (.setThreshold 100) ++
    [.loadScript "main" "End", .processBlock 441 44100]

/-- The session after that. -/
def lossy : Logged (Session × Recorder) :=
  (Session.new smallConfig {}).run {} lossyHistory

def lossyPlayed : Session :=
  (lossy.value.1.configureAll.value.processBlock 441 44100 lossy.value.2).value.1

set_option maxRecDepth 20000 in
/-- No update is waiting any more, but the loop half has no script of the only one there is. -/
theorem lossy_empty : lossy.value.1.wires.updates.letters = [] ∧
    lossyPlayed.loop.roster.shared.library.size = 0 ∧ lossyPlayed.control.library.size = 1 := by
  refine ⟨?_, ?_, ?_⟩
  · decide +kernel
  · decide +kernel
  · decide +kernel

/-- The queue was full when a script was loaded: the tables arrive, and the library does not. -/
theorem configureAll_processBlock_lossy :
    lossyPlayed.IsConfigured ∧
      lossyPlayed.loop.roster.shared.library ≠ lossyPlayed.control.library := by
  obtain ⟨empty, installed, known⟩ := lossy_empty
  unfold lossyPlayed lossy at *
  obtain ⟨_, configured, _⟩ :=
    configureAll_processBlock smallConfig {} ({} : Recorder) lossyHistory 441 44100 empty
  refine ⟨configured, fun same => ?_⟩
  rw [same, known] at installed
  cases installed

end Session

end Looper
