import Looper.Proofs.Script.Shelving
import Looper.Proofs.Session.Agreement

/-!
# What a session registers

Besides the operations of a session, a name may become a symbol at any time.  In
every history, names keep their places and first spellings, and what is attached
to a name is what was registered for it last; loading a script registers the
script under its name.  The library stays in order, and a number that has been
given to a script stays with the name of the script.
-/

namespace Looper

namespace Control

/-- The library is in order, and its scripts invoke symbols that are known. -/
structure IsShelved (control : Control) : Prop where
  inOrder : control.library.IsInOrder
  known : control.library.IsKnown control.symbols

/-- Definitions have been registered, and the library has been kept in order. -/
structure Advances (made : List Registration) (before after : Control) : Prop where
  symbols : SymbolTable.Registers made before.symbols after.symbols
  library : before.IsShelved → after.IsShelved ∧ before.library.KeepsPlaces after.library

variable {made more : List Registration} {before after third : Control}

theorem Advances.trans (earlier : Advances made before after) (later : Advances more after third) :
    Advances (made ++ more) before third where
  symbols := earlier.symbols.trans later.symbols
  library shelved := by
    obtain ⟨shelvedNext, places⟩ := earlier.library shelved
    obtain ⟨shelvedLast, placesLast⟩ := later.library shelvedNext
    exact ⟨shelvedLast, places.trans placesLast⟩

theorem Advances.of_registers (symbols : SymbolTable.Registers made before.symbols after.symbols)
    (library : after.library = before.library) : Advances made before after where
  symbols := symbols
  library shelved := by
    refine ⟨⟨library ▸ shelved.inOrder, ?_⟩, library ▸ .refl _⟩
    rw [library]
    exact shelved.known.later symbols.names

theorem Advances.of_interns (interns : before.symbols.Interns after.symbols)
    (library : after.library = before.library) : Advances [] before after :=
  .of_registers interns.registers library

theorem Advances.refl (control : Control) : Advances [] control control :=
  .of_interns .refl rfl

theorem advances_resolve (control : Control) (symbols : SymbolTable) :
    Advances [] control
      { control with library := (control.library.resolve symbols).value.2 } where
  symbols := .refl control.symbols
  library shelved :=
    ⟨⟨ScriptLibrary.isInOrder_resolve shelved.inOrder symbols,
        ScriptLibrary.isKnown_resolve shelved.known symbols⟩,
      ScriptLibrary.keepsPlaces_resolve control.library symbols⟩

theorem interns_compileAll (control : Control) :
    control.symbols.Interns control.compileAll.value.2.symbols :=
  (Compile.interns_keyboard control.liveSets control.symbols).trans
    (Compile.interns_midi control.liveSets _)

/-- Compiling every table makes names symbols and brings the library up to date. -/
theorem advances_compileAll (control : Control) :
    Advances [] control control.compileAll.value.2 := by
  have interned : Advances [] control
      { control with symbols := control.compileAll.value.2.symbols } :=
    .of_interns (interns_compileAll control) rfl
  exact interned.trans (advances_resolve _ control.compileAll.value.2.symbols)

theorem advances_define (control : Control) (name : String) (definition : Definition) :
    Advances [⟨name, definition⟩] control
      { control with symbols := (control.symbols.define name definition).value.2 } :=
  .of_registers (control.symbols.registers_define name definition) rfl

theorem advances_insert (control : Control) {script : Script}
    (known : script.IsKnown control.symbols) :
    Advances [] control { control with library := (control.library.insert script).2 } where
  symbols := .refl control.symbols
  library shelved :=
    ⟨⟨ScriptLibrary.isInOrder_insert shelved.inOrder script,
        ScriptLibrary.isKnown_insert shelved.known known⟩,
      (ScriptLibrary.inserts_insert shelved.inOrder script).keepsPlaces shelved.inOrder⟩

theorem value_announce (control : Control) (script : Script) :
    (control.announce script).value =
      (let symbols :=
        (control.symbols.define script.name (.script script.id script.traits)).value.2
       { control with symbols, library := (control.library.resolve symbols).value.2 }) :=
  rfl

theorem advances_announce (control : Control) (script : Script) :
    Advances [⟨script.name, .script script.id script.traits⟩] control
      (control.announce script).value := by
  have defined := control.advances_define script.name (.script script.id script.traits)
  exact defined.trans (advances_resolve _ _)

end Control

/-- What loading a source does to a library and to the symbols. -/
theorem ScriptLibrary.value_load (library : ScriptLibrary) (name source : String)
    (symbols : SymbolTable) :
    (library.load name source symbols).value =
      match (Script.parse name source symbols).value.1 with
      | .error error => (.error error, (Script.parse name source symbols).value.2, library)
      | .ok script =>
          (.ok { script with id := (library.insert script).1 },
            (Script.parse name source symbols).value.2, (library.insert script).2) := by
  unfold load
  rw [Logged.value_bind]
  generalize (Script.parse name source symbols).value = read
  obtain ⟨result, known⟩ := read
  cases result <;> rfl

/-- A source that is read, and perhaps shelved, leaves the symbols with the names met in it. -/
theorem Control.advances_load (control : Control) (name source : String) :
    Control.Advances [] control
      { control with
        symbols := (control.library.load name source control.symbols).value.2.1
        library := (control.library.load name source control.symbols).value.2.2 } := by
  let read := (Script.parse name source control.symbols).value
  have named : Control.Advances [] control { control with symbols := read.2 } :=
    .of_interns (Script.interns_parse name source control.symbols) rfl
  rw [ScriptLibrary.value_load]
  split
  · exact named
  · next script reads => exact named.trans (advances_insert _ (Script.known_of_parse reads))

namespace Session

variable {ε χ : Type}

/-! ## What each operation decides -/

theorem control_publish (session : Session) (update : TableUpdate) :
    (session.publish update).value.control = session.control := by
  unfold publish
  dsimp only
  split <;> rfl

theorem control_publishCompiled (session : Session)
    (compile : Control → Logged (TableUpdate × Control)) :
    (session.publishCompiled compile).value.control = (compile session.control).value.2 :=
  control_publish _ _

theorem advances_configureAll (session : Session) :
    Control.Advances [] session.control session.configureAll.value.control :=
  (control_publishCompiled session Control.compileAll) ▸ session.control.advances_compileAll

theorem advances_decide (session : Session) (control : Control)
    (symbols : control.symbols = session.control.symbols)
    (library : control.library = session.control.library) :
    Control.Advances [] session.control
      (session.withControl control).configureAll.value.control := by
  have decided : Control.Advances [] session.control control :=
    .of_interns (symbols ▸ .refl) library
  exact decided.trans (session.withControl control).advances_configureAll

theorem advances_activateBindings (session : Session) (name : String) :
    Control.Advances [] session.control (session.activateBindings name).value.2.control := by
  unfold activateBindings
  split
  · exact .refl _
  · next selection _ => exact session.advances_decide { session.control with selection } rfl rfl

/-- A script that is loaded is announced and sent, and then everything is configured. -/
theorem value_loadScript (session : Session) (name source : String) :
    (session.loadScript name source).value =
      match (session.control.library.load name source session.control.symbols).value with
      | (.error error, symbols, library) =>
          (.error error, session.withControl { session.control with symbols, library })
      | (.ok script, symbols, library) =>
          let announced := ({ session.control with symbols, library }.announce script).value
          (.ok script.id,
            ((session.withControl announced).publish
              { scripts := some announced.library }).value.configureAll.value) := by
  unfold loadScript
  rw [Logged.value_bind]
  generalize (session.control.library.load name source session.control.symbols).value = loaded
  obtain ⟨result, symbols, library⟩ := loaded
  cases result <;> rfl

def registrationsOf (session : Session) (name source : String) : List Registration :=
  match (session.control.library.load name source session.control.symbols).value.1 with
  | .error _ => []
  | .ok script => [⟨script.name, .script script.id script.traits⟩]

theorem advances_loadScript (session : Session) (name source : String) :
    Control.Advances (session.registrationsOf name source) session.control
      (session.loadScript name source).value.2.control := by
  have loads := session.control.advances_load name source
  rw [value_loadScript, registrationsOf]
  generalize (session.control.library.load name source session.control.symbols).value = loaded
    at loads ⊢
  obtain ⟨result, symbols, library⟩ := loaded
  cases result with
  | error error => exact loads
  | ok script =>
      have announced := loads.trans (Control.advances_announce _ script)
      have configured := announced.trans (Control.advances_compileAll _)
      dsimp only at configured ⊢
      rw [configureAll, control_publishCompiled, control_publish]
      exact configured

theorem advances_handleKernelEvents (handler : KernelHandler χ) (events : List KernelEvent)
    (session : Session) (state : χ) :
    Control.Advances [] session.control
      (handleKernelEvents handler events session state).value.1.control := by
  induction events generalizing session state with
  | nil => exact .refl _
  | cons event rest ih =>
      have handled : Control.Advances [] session.control
          (handleKernelEvent handler event session state).value.2.1.control := by
        unfold handleKernelEvent
        split
        · exact session.advances_activateBindings (event.arg 0)
        · exact .refl _
      unfold handleKernelEvents
      rw [Logged.value_bind]
      generalize (handleKernelEvent handler event session state).value = answer at handled
      obtain ⟨answered, decided, next⟩ := answer
      have others := ih
        { decided with
          wires := { decided.wires with
            kernel := (decided.wires.kernel.complete answered).value } } next
      exact handled.trans others

/-! ## Histories -/

def intern (session : Session) (name : String) : Session :=
  session.withControl
    { session.control with symbols := (session.control.symbols.intern name).2 }

/-- What may happen to a session, names that become symbols included. -/
inductive Undertaking (ε χ : Type) where
  | intern (name : String)
  | operation (operation : Operation ε χ)

def registrations (session : Session) : Undertaking ε χ → List Registration
  | .operation (.define name definition) => [⟨name, definition⟩]
  | .operation (.loadScript name source) => session.registrationsOf name source
  | _ => []

variable [Engine ε]

def undertake (session : Session) (engine : ε) : Undertaking ε χ → Logged (Session × ε)
  | .intern name => pure (session.intern name, engine)
  | .operation operation => session.operate engine operation

def undertakeAll (session : Session) (engine : ε) :
    List (Undertaking ε χ) → Logged (Session × ε)
  | [] => pure (session, engine)
  | undertaking :: rest => do
      let (session, engine) ← session.undertake engine undertaking
      session.undertakeAll engine rest

def registrationsAll (session : Session) (engine : ε) :
    List (Undertaking ε χ) → List Registration
  | [] => []
  | undertaking :: rest =>
      let (next, engineNext) := (session.undertake engine undertaking).value
      session.registrations undertaking ++ next.registrationsAll engineNext rest

theorem undertakeAll_append (session : Session) (engine : ε)
    (first second : List (Undertaking ε χ)) :
    (session.undertakeAll engine (first ++ second)).value =
      (let reached := (session.undertakeAll engine first).value
       (reached.1.undertakeAll reached.2 second).value) := by
  induction first generalizing session engine with
  | nil => rfl
  | cons undertaking rest ih => exact ih _ _

theorem Plays.advances {before after : Session} (plays : Plays before after) :
    Control.Advances [] before.control after.control :=
  plays.control ▸ .refl _

theorem control_applyUpdates (session : Session) :
    session.applyUpdates.value.control = session.control := by
  obtain ⟨retired, applies⟩ := applyUpdates_eq session
  rw [applies]

/-- Each operation registers its definitions, and keeps the library in order. -/
theorem advances_operate (session : Session) (engine : ε) (operation : Operation ε χ)
    (settled : session.IsSettled) :
    Control.Advances (session.registrations (ε := ε) (χ := χ) (.operation operation))
      session.control (session.operate engine operation).value.1.control := by
  cases operation with
  | define name definition => exact session.control.advances_define name definition
  | setBindings bindings =>
      exact session.advances_decide { session.control with bindings } rfl rfl
  | selectBindings selection =>
      exact session.advances_decide { session.control with selection } rfl rfl
  | activateBindings name => exact session.advances_activateBindings name
  | loadScript name source => exact session.advances_loadScript name source
  | setThreshold threshold =>
      have decided : Control.Advances [] session.control { session.control with threshold } :=
        .of_interns .refl rfl
      have same := control_publish (session.withControl { session.control with threshold })
        { threshold := some threshold }
      exact same.symm ▸ decided
  | configureKeyboard =>
      have compiled : Control.Advances [] session.control session.control.compileKeyboard.value.2 :=
        .of_interns (Compile.interns_keyboard _ _) rfl
      exact (control_publishCompiled session Control.compileKeyboard) ▸ compiled
  | configureMidi =>
      have compiled : Control.Advances [] session.control session.control.compileMidi.value.2 :=
        .of_interns (Compile.interns_midi _ _) rfl
      exact (control_publishCompiled session Control.compileMidi) ▸ compiled
  | configureAll => exact session.advances_configureAll
  | processKernelEvents handler state =>
      exact advances_handleKernelEvents handler session.wires.kernel.outbound.letters
        { session with
          wires := { session.wires with
            kernel := { session.wires.kernel with
              outbound := session.wires.kernel.outbound.drain.2 } } } state
  | collectRetired => exact .refl _
  | drainInterface => exact .refl _
  | keyEvent qualifier down => exact (plays_keyEvent session qualifier down engine settled).advances
  | midiEvent event => exact (plays_midiEvent session event engine settled).advances
  | midiBytes bytes => exact (plays_midiBytes session bytes engine settled).advances
  | perform action => exact (plays_perform session action engine settled).advances
  | processBlock frames rate =>
      have played := (plays_processBlock session frames rate engine settled).control
      rw [control_applyUpdates] at played
      exact played ▸ .refl _
  | applyUpdates => exact (control_applyUpdates session) ▸ .refl _
  | cancelScripts track => exact (plays_cancelScripts session track engine settled).advances
  | finishEvent event => exact .refl _
  | finishFunction symbol => exact .refl _
  | engine change => exact .refl _

theorem advances_undertake (session : Session) (engine : ε) (undertaking : Undertaking ε χ)
    (settled : session.IsSettled) :
    Control.Advances (session.registrations undertaking) session.control
        (session.undertake engine undertaking).value.1.control ∧
      (session.undertake engine undertaking).value.1.IsSettled := by
  cases undertaking with
  | intern name =>
      exact ⟨.of_interns (.intern session.control.symbols name) rfl, settled⟩
  | operation operation =>
      exact ⟨session.advances_operate engine operation settled,
        (continues_operate session engine operation settled).settled⟩

/-- A history registers its definitions in order, and keeps the library in order. -/
theorem advances_undertakeAll (session : Session) (engine : ε)
    (history : List (Undertaking ε χ)) (settled : session.IsSettled) :
    Control.Advances (session.registrationsAll engine history) session.control
      (session.undertakeAll engine history).value.1.control := by
  induction history generalizing session engine with
  | nil => exact .refl _
  | cons undertaking rest ih =>
      obtain ⟨first, settledNext⟩ := session.advances_undertake engine undertaking settled
      exact first.trans (ih _ _ settledNext)

theorem isSettled_undertakeAll (session : Session) (engine : ε)
    (history : List (Undertaking ε χ)) (settled : session.IsSettled) :
    (session.undertakeAll engine history).value.1.IsSettled := by
  induction history generalizing session engine with
  | nil => exact settled
  | cons undertaking rest ih =>
      exact ih _ _ (session.advances_undertake engine undertaking settled).2

theorem isShelved_new (config : Config) (symbols : SymbolTable) :
    (new config symbols).control.IsShelved where
  inOrder := ScriptLibrary.isInOrder_empty
  known _ member := absurd member List.not_mem_nil

end Session

end Looper
