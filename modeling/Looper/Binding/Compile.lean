import Looper.Binding.Selection
import Looper.Binding.Table
import Looper.Symbol

/-!
# Compiling bindings into tables

Compiling turns bindings into action templates and files them under their
triggers.  A bad binding is logged and left out; the others still compile.  A
binding to an unknown symbol is kept, so that it starts to work once the symbol
is defined and the tables are rebuilt.
-/

namespace Looper

/-- A binding ready to be filed in a table. -/
structure CompiledBinding where
  trigger : TriggerKind
  index : Nat
  qualifier : Nat
  action : Action
  deriving DecidableEq, Repr

namespace Binding

/-- The key qualifier of a binding, from its notation if it has one. -/
def keyQualifier? (binding : Binding) : Logged (Option Nat) := do
  match binding.key with
  | some written =>
      let chord := Chord.parse? written
      if chord.isNone then
        Log.warn .bindings s!"unrecognized key '{written}' for {binding.symbol}"
      return chord.map Chord.qualifier
  | none =>
      if 0 ≤ binding.value ∧ binding.value ≤ Chord.maxQualifier then
        return some binding.value.toNat
      Log.warn .bindings s!"invalid key value {binding.value} for {binding.symbol}"
      return none

/-- The MIDI number of a binding, once number and channel are found in range. -/
def midiNumber? (binding : Binding) : Logged (Option Nat) := do
  if ¬ (0 ≤ binding.value ∧ binding.value ≤ 127) then
    Log.warn .bindings
      s!"invalid {binding.trigger.label} number {binding.value} for {binding.symbol}"
    return none
  if binding.channel > 16 then
    Log.warn .bindings s!"invalid MIDI channel {binding.channel} for {binding.symbol}"
    return none
  return some binding.value.toNat

/-- Where a binding is filed, and what its trigger id is made from. -/
structure Address where
  index : Nat
  qualifier : Nat
  value : Nat
  channel : Nat
  deriving DecidableEq, Repr

/-- The place of a binding in its table; only table-driven triggers have one. -/
def address? (binding : Binding) : Logged (Option Address) := do
  match binding.trigger with
  | .key =>
      let qualifier ← binding.keyQualifier?
      return qualifier.map fun q => ⟨Chord.bucket q, q, q, 0⟩
  | .note | .program | .control =>
      let number ← binding.midiNumber?
      return number.map fun n => ⟨n, binding.channel, n, binding.channel⟩
  | .pitch =>
      Log.debug .bindings s!"pitch wheel bindings are not supported: {binding.symbol}"
      return none
  | kind =>
      Log.debug .bindings s!"{kind.label} binding for {binding.symbol} is not table driven"
      return none

/-- Whether an argument text asks for the action to start without waiting for quantization. -/
def asksNoQuantize (args : List Char) : Bool :=
  "noquant".toList.isPrefixOf args || args == "quantize=off".toList

/-- The template for a binding to a symbol that is already in the table. -/
def template (binding : Binding) (id : SymbolId) (symbol : SymbolEntry) : Action :=
  let args := Text.trim binding.args.toList
  let action : Action :=
    { symbol := id
      name := symbol.name
      target := symbol.target
      level := symbol.level
      scope := Scope.parse binding.scope
      trigger := binding.trigger
      noQuantize := asksNoQuantize args }
  let action :=
    match Text.int32? args with
    | some value => action.withValue value
    | none => action
  action.withArgs (String.ofList args)

/--
The action template of a binding, if it names a symbol.  The name becomes a
symbol if it is not one yet.
-/
def action? (binding : Binding) (symbols : SymbolTable) :
    Logged (Option Action × SymbolTable) := do
  let name := String.ofList (Text.trim binding.symbol.toList)
  if name.isEmpty then
    Log.warn .bindings "binding without a symbol name ignored"
    return (none, symbols)
  let (id, symbols) := symbols.intern name
  match symbols.get? id with
  | none => return (none, symbols)
  | some symbol =>
      if !symbol.isResolved then
        Log.warn .bindings s!"binding to unresolved symbol {name}"
      return (some (binding.template id symbol), symbols)

/-- Whether the binding's trigger can be held down. -/
def isMomentary (binding : Binding) : Bool :=
  binding.trigger.sustainBase.isSome &&
    (binding.mode == none || binding.mode == some .momentary)

/-- Give a template the identity of its trigger; it sustains if trigger and target both can. -/
def identify (binding : Binding) (address : Address) (action : Action) : Action :=
  let id := TriggerKind.triggerId binding.trigger address.value address.channel
  if binding.isMomentary && action.target.isSustainable then
    { action with triggerId := id, sustain := true, sustainId := id }
  else { action with triggerId := id }

def compile (binding : Binding) (symbols : SymbolTable) :
    Logged (Option CompiledBinding × SymbolTable) := do
  match ← binding.address? with
  | none => return (none, symbols)
  | some address =>
      let (action, symbols) ← binding.action? symbols
      return (action.map fun action =>
        { trigger := binding.trigger
          index := address.index
          qualifier := address.qualifier
          action := binding.identify address action }, symbols)

end Binding

/-- The tables for MIDI triggers, which are rebuilt together. -/
structure MidiTables where
  note : BindingTable := .empty
  program : BindingTable := .empty
  control : BindingTable := .empty

instance : Inhabited MidiTables := ⟨{}⟩

namespace MidiTables

def size (tables : MidiTables) : Nat :=
  tables.note.size + tables.program.size + tables.control.size

def prepare (tables : MidiTables) : MidiTables where
  note := tables.note.prepare
  program := tables.program.prepare
  control := tables.control.prepare

@[simp] theorem prepare_eq (tables : MidiTables) : tables.prepare = {} := by
  simp only [prepare, BindingTable.prepare_eq_empty]

/-- File a compiled binding in the table of its trigger kind. -/
def file (tables : MidiTables) (compiled : CompiledBinding) : MidiTables :=
  match compiled.trigger with
  | .note => { tables with
      note := tables.note.add compiled.index compiled.qualifier compiled.action }
  | .program => { tables with
      program := tables.program.add compiled.index compiled.qualifier compiled.action }
  | .control => { tables with
      control := tables.control.add compiled.index compiled.qualifier compiled.action }
  | _ => tables

end MidiTables

namespace Compile

def bindings : List Binding → SymbolTable → Logged (List CompiledBinding × SymbolTable)
  | [], symbols => return ([], symbols)
  | binding :: rest, symbols => do
      let (compiled, symbols) ← binding.compile symbols
      let (more, symbols) ← bindings rest symbols
      return (compiled.toList ++ more, symbols)

def inOrder (sets : List BindingSet) : List Binding :=
  sets.flatMap BindingSet.bindings

/-- Fill a keyboard table anew, whatever it held before. -/
def refillKeyboard (table : BindingTable) (sets : List BindingSet) (symbols : SymbolTable) :
    Logged (BindingTable × SymbolTable) := do
  let (compiled, symbols) ←
    bindings ((inOrder sets).filter fun binding => binding.trigger == .key) symbols
  let table := compiled.foldl
    (fun table entry => table.add entry.index entry.qualifier entry.action) table.prepare
  Log.debug .bindings s!"keyboard table rebuilt with {table.size} entries"
  return (table, symbols)

/-- Fill MIDI tables anew, whatever they held before. -/
def refillMidi (tables : MidiTables) (sets : List BindingSet) (symbols : SymbolTable) :
    Logged (MidiTables × SymbolTable) := do
  let (compiled, symbols) ←
    bindings ((inOrder sets).filter fun binding => binding.trigger.isMidi) symbols
  let tables := compiled.foldl MidiTables.file tables.prepare
  Log.debug .bindings s!"MIDI tables rebuilt with {tables.size} entries"
  return (tables, symbols)

def keyboard : List BindingSet → SymbolTable → Logged (BindingTable × SymbolTable) :=
  refillKeyboard .empty

def midi : List BindingSet → SymbolTable → Logged (MidiTables × SymbolTable) :=
  refillMidi {}

/-- A table that was in use before is filled as a new one is. -/
theorem refillKeyboard_eq (table : BindingTable) (sets : List BindingSet)
    (symbols : SymbolTable) : refillKeyboard table sets symbols = keyboard sets symbols := by
  simp only [keyboard, refillKeyboard, BindingTable.prepare_eq_empty]

theorem refillMidi_eq (tables : MidiTables) (sets : List BindingSet) (symbols : SymbolTable) :
    refillMidi tables sets symbols = midi sets symbols := by
  simp only [midi, refillMidi, MidiTables.prepare_eq]

end Compile

end Looper
