import Looper.Binding.Desk
import Looper.Config
import Looper.Script.Load

/-!
# The two halves of a session

The control half owns the symbols, the binding sets and the script library.  It
compiles tables and sends them over; the loop half puts them in place at the end
of a block, and sends the tables that were replaced back.  Requests and actions
for the user interface go the other way.  Nothing else is shared.
-/

namespace Looper

/-- New tables for the loop half, or replaced ones on their way back. -/
structure TableUpdate where
  keyboard : Option BindingTable := none
  midi : Option MidiTables := none
  scripts : Option ScriptLibrary := none
  threshold : Option Nat := none

def TableUpdate.isEmpty (update : TableUpdate) : Bool :=
  update.keyboard.isNone && update.midi.isNone && update.scripts.isNone &&
    update.threshold.isNone

/-- The control half. -/
structure Control where
  symbols : SymbolTable
  bindings : BindingConfig := {}
  selection : BindingSelection := {}
  library : ScriptLibrary := {}
  threshold : Nat

/-- The loop half. -/
structure LoopHalf where
  desk : Desk
  roster : Roster

/-- What lies between the halves. -/
structure Wires where
  kernel : KernelChannel
  /-- Actions on their way to the user interface. -/
  interface : Mailbox Action
  /-- New tables on their way to the loop half. -/
  updates : Mailbox TableUpdate
  /-- Replaced tables on their way back. -/
  retired : Mailbox TableUpdate

/-- Both halves and what lies between them. -/
structure Session where
  control : Control
  loop : LoopHalf
  wires : Wires

namespace Session

/-- The most updates that wait to be put in place. -/
def updateCapacity : Nat := 8

/-- The most actions that wait for the user interface. -/
def interfaceCapacity : Nat := 256

/-- A session in which nothing is bound or loaded. -/
def new (config : Config) (symbols : SymbolTable) : Session where
  control := { symbols, threshold := config.controllerThreshold }
  loop :=
    { desk := .new config.controllerThreshold
      roster := .new config.scripts {} }
  wires :=
    { kernel := .new config.kernel
      interface := .new interfaceCapacity
      updates := .new updateCapacity
      retired := .new updateCapacity }

end Session

end Looper
