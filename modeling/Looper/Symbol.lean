import Looper.Action
import Looper.Log
import Looper.Text.Caseless

/-!
# Symbols

Every name that a binding or a script refers to is a symbol.  The table keeps
the first spelling of each name and compares names without regard to case.  A
symbol may be known by name long before anything is attached to it.
-/

namespace Looper

/-- What kind of thing a symbol names. -/
inductive Behavior where
  | function
  | parameter
  | script
  | sample
  | activation
  deriving DecidableEq, Repr

/-- What is attached to a symbol. -/
inductive Definition where
  | function (traits : FunctionTraits) (level : SymbolLevel)
  | parameter (traits : ParameterTraits) (level : SymbolLevel)
  | script (id : ScriptId) (traits : ScriptTraits)
  | sample (index : Nat)
  | activation (kind : ActivationKind)
  deriving DecidableEq, Repr

namespace Definition

/-- A function that is held while its trigger is down. -/
def sustainable : Definition :=
  .function { sustainable := true, focusLockable := true } .core

/-- A function that resets a track, or everything. -/
def resetting (scope : ResetScope) : Definition :=
  .function { reset := some scope, focusLockable := scope == .track } .core

def interface : Definition :=
  .function {} .ui

def behavior : Definition → Behavior
  | function .. => .function
  | parameter .. => .parameter
  | script .. => .script
  | sample _ => .sample
  | activation _ => .activation

def level : Definition → SymbolLevel
  | function _ level => level
  | parameter _ level => level
  | _ => .core

def target : Definition → Target
  | function traits _ => .function traits
  | parameter traits _ => .parameter traits
  | script id traits => .script id traits
  | sample _ => .sample
  | activation kind => .activation kind

end Definition

/-- A name and what is attached to it. -/
structure SymbolEntry where
  name : String
  definition : Option Definition := none
  deriving DecidableEq, Repr

namespace SymbolEntry

def isResolved (symbol : SymbolEntry) : Bool :=
  symbol.definition.isSome

def target (symbol : SymbolEntry) : Target :=
  (symbol.definition.map Definition.target).getD .unresolved

def level (symbol : SymbolEntry) : SymbolLevel :=
  (symbol.definition.map Definition.level).getD .core

end SymbolEntry

/-- The symbols known so far; a symbol's id is its position. -/
structure SymbolTable where
  entries : List SymbolEntry := []
  deriving DecidableEq, Repr

namespace SymbolTable

def size (table : SymbolTable) : Nat :=
  table.entries.length

def get? (table : SymbolTable) (id : SymbolId) : Option SymbolEntry :=
  table.entries[id]?

def idOf? (table : SymbolTable) (name : String) : Option SymbolId :=
  table.entries.findIdx? fun symbol => Text.sameName symbol.name name

def find? (table : SymbolTable) (name : String) : Option SymbolEntry :=
  table.entries.find? fun symbol => Text.sameName symbol.name name

def isResolved (table : SymbolTable) (name : String) : Bool :=
  (table.find? name).any SymbolEntry.isResolved

def names (table : SymbolTable) : List String :=
  table.entries.map SymbolEntry.name

/-- The id of a name, which becomes a symbol if it is not one yet. -/
def intern (table : SymbolTable) (name : String) : SymbolId × SymbolTable :=
  match table.idOf? name with
  | some id => (id, table)
  | none => (table.size, ⟨table.entries ++ [⟨name, none⟩]⟩)

def attach (table : SymbolTable) (id : SymbolId) (definition : Definition) : SymbolTable :=
  ⟨table.entries.modify id fun symbol => { symbol with definition := some definition }⟩

/-- Define a name, in place of what was attached to it before. -/
def define (table : SymbolTable) (name : String) (definition : Definition) :
    Logged (SymbolId × SymbolTable) := do
  let (id, table) := table.intern name
  if let some symbol := table.get? id then
    if symbol.isResolved && symbol.definition != some definition then
      Log.debug .bindings s!"redefining symbol {symbol.name}"
  return (id, table.attach id definition)

end SymbolTable

end Looper
