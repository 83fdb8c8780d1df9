import Looper.Session.State

/-!
# The control half

Whatever changes the bindings, the symbols or the scripts is followed by an
update that makes the loop half follow.  Loading a script that cannot be read
changes nothing but the names that are known.
-/

namespace Looper

namespace Control

def liveSets (control : Control) : List BindingSet :=
  control.selection.resolve control.bindings.sets

def compileKeyboard (control : Control) : Logged (TableUpdate × Control) := do
  let (table, symbols) ← Compile.keyboard control.liveSets control.symbols
  return ({ keyboard := some table }, { control with symbols })

def compileMidi (control : Control) : Logged (TableUpdate × Control) := do
  let (tables, symbols) ← Compile.midi control.liveSets control.symbols
  return ({ midi := some tables }, { control with symbols })

/-- Compile every table, and bring the library up to date; it is sent only if it changed. -/
def compileAll (control : Control) : Logged (TableUpdate × Control) := do
  let (keyboard, symbols) ← Compile.keyboard control.liveSets control.symbols
  let (midi, symbols) ← Compile.midi control.liveSets symbols
  let (changed, library) ← control.library.resolve symbols
  return ({
    keyboard := some keyboard
    midi := some midi
    scripts := if 0 < changed then some library else none
    threshold := some control.threshold }, { control with symbols, library })

/-- Define the name of a loaded script as a symbol, and bring the library up to date. -/
def announce (control : Control) (script : Script) : Logged Control := do
  let (_, symbols) ← control.symbols.define script.name (.script script.id script.traits)
  let (_, library) ← control.library.resolve symbols
  Log.debug .scripts s!"loaded script {script.name}"
  return { control with symbols, library }

end Control

namespace Session

def withControl (session : Session) (control : Control) : Session :=
  { session with control }

def collectRetired (session : Session) : Nat × Session :=
  let (retired, empty) := session.wires.retired.drain
  (retired.length, { session with wires := { session.wires with retired := empty } })

/-- Send an update to the loop half; one that finds no room is dropped. -/
def publish (session : Session) (update : TableUpdate) : Logged Session :=
  let session := session.collectRetired.2
  match session.wires.updates.post update with
  | .ok updates => pure { session with wires := { session.wires with updates } }
  | .error .full => do
      Log.warn .bindings "table update dropped, real-time side is not draining"
      return session
  | .error .disconnected => do
      Log.warn .bindings "table update dropped: loop core is gone"
      return session

def publishCompiled (session : Session) (compile : Control → Logged (TableUpdate × Control)) :
    Logged Session := do
  let (update, control) ← compile session.control
  (session.withControl control).publish update

def configureKeyboard (session : Session) : Logged Session :=
  session.publishCompiled Control.compileKeyboard

def configureMidi (session : Session) : Logged Session :=
  session.publishCompiled Control.compileMidi

def configureAll (session : Session) : Logged Session :=
  session.publishCompiled Control.compileAll

def setBindings (session : Session) (bindings : BindingConfig) : Logged Session :=
  (session.withControl { session.control with bindings }).configureAll

def selectBindings (session : Session) (selection : BindingSelection) : Logged Session :=
  (session.withControl { session.control with selection }).configureAll

/-- Activate a binding set, and tell whether there is one with the name. -/
def activateBindings (session : Session) (name : String) : Logged (Bool × Session) :=
  match session.control.selection.activate? name session.control.bindings.sets with
  | none => do
      Log.warn .bindings s!"no binding set named {name}"
      return (false, session)
  | some selection => do
      Log.debug .bindings s!"binding set {name} activated"
      let session ← (session.withControl { session.control with selection }).configureAll
      return (true, session)

def setThreshold (session : Session) (threshold : Nat) : Logged Session :=
  (session.withControl { session.control with threshold }).publish
    { threshold := some threshold }

def define (session : Session) (name : String) (definition : Definition) :
    Logged (SymbolId × Session) := do
  let (id, symbols) ← session.control.symbols.define name definition
  return (id, session.withControl { session.control with symbols })

/-- Load a script, and bring the tables and the library of the loop half up to date. -/
def loadScript (session : Session) (name source : String) :
    Logged (Except ScriptError ScriptId × Session) := do
  let (result, symbols, library) ←
    session.control.library.load name source session.control.symbols
  let control := { session.control with symbols, library }
  match result with
  | .error error => return (.error error, session.withControl control)
  | .ok script =>
      let control ← control.announce script
      let session ← (session.withControl control).publish { scripts := some control.library }
      let session ← session.configureAll
      return (.ok script.id, session)

/-- Someone who handles kernel requests, with a state of type `χ`. -/
abbrev KernelHandler (χ : Type) := KernelEvent → χ → Logged (KernelEvent × χ)

def logHandler : KernelHandler Unit := fun event state => do
  return (← event.logOnly, state)

/--
Handle one request.  Activating bindings is done here; the handler does the rest.
It writes into the envelope, and has no other to send back.
-/
def handleKernelEvent {χ : Type} (handler : KernelHandler χ) (event : KernelEvent)
    (session : Session) (state : χ) : Logged (KernelEvent × Session × χ) :=
  match event.kind with
  | .activateBindings => do
      let (done, session) ← session.activateBindings (event.arg 0)
      return ({ event with returnCode := if done then 0 else -1 }, session, state)
  | _ => do
      let (answered, state) ← handler event state
      return ({ answered with envelope := event.envelope }, session, state)

/-- Handle requests one after another, and send each back. -/
def handleKernelEvents {χ : Type} (handler : KernelHandler χ) :
    List KernelEvent → Session → χ → Logged (Session × χ)
  | [], session, state => pure (session, state)
  | event :: rest, session, state => do
      let (event, session, state) ← handleKernelEvent handler event session state
      let kernel ← session.wires.kernel.complete event
      handleKernelEvents handler rest
        { session with wires := { session.wires with kernel } } state

/-- Handle every request that has arrived, make envelopes as needed, and count the requests. -/
def processKernelEvents {χ : Type} (handler : KernelHandler χ) (session : Session)
    (state : χ) : Logged (Nat × Session × χ) := do
  let (events, outbound) := session.wires.kernel.outbound.drain
  let session :=
    { session with
      wires := { session.wires with kernel := { session.wires.kernel with outbound } } }
  let (session, state) ← handleKernelEvents handler events session state
  let kernel ← session.wires.kernel.topUp
  let session := { session with wires := { session.wires with kernel } }
  return (events.length, session.collectRetired.2, state)

def drainInterface (session : Session) : List Action × Session :=
  let (actions, interface) := session.wires.interface.drain
  (actions, { session with wires := { session.wires with interface } })

end Session

end Looper
