import Looper.Script.Statement

/-!
# The script library

Loaded scripts are numbered by position, and no two have the same name.  A
script that is loaded again takes the place of the old one, so that bindings to
it stay valid.  When symbols are defined after a script was read, resolving the
library brings its invocations up to date.
-/

namespace Looper

/-- The loaded scripts. -/
structure ScriptLibrary where
  scripts : List Script := []
  deriving DecidableEq, Repr

namespace Invocation

def refresh (invocation : Invocation) (symbols : SymbolTable) : Invocation :=
  match symbols.get? invocation.symbol with
  | some symbol => { invocation with target := symbol.target, level := symbol.level }
  | none => invocation

/-- Whether the symbol has changed since the invocation was read. -/
def isStale (invocation : Invocation) (symbols : SymbolTable) : Bool :=
  invocation.refresh symbols != invocation

end Invocation

namespace Statement

def refresh (symbols : SymbolTable) : Statement → Statement
  | .invoke invocation => .invoke (invocation.refresh symbols)
  | statement => statement

/-- Whether a statement's invocation is out of date. -/
def isStale (symbols : SymbolTable) : Statement → Bool
  | .invoke invocation => invocation.isStale symbols
  | _ => false

end Statement

namespace ScriptLibrary

def size (library : ScriptLibrary) : Nat :=
  library.scripts.length

def get? (library : ScriptLibrary) (id : ScriptId) : Option Script :=
  library.scripts[id]?

def find? (library : ScriptLibrary) (name : String) : Option Script :=
  library.scripts.find? fun script => Text.sameName script.name name

/-- Put a script in the place of the one with its name, or at the end. -/
def insert (library : ScriptLibrary) (script : Script) : ScriptId × ScriptLibrary :=
  match library.scripts.findIdx? fun other => Text.sameName other.name script.name with
  | some id => (id, ⟨library.scripts.set id { script with id }⟩)
  | none => (library.size, ⟨library.scripts ++ [{ script with id := library.size }]⟩)

/-- Bring one script up to date, and tell whether it was not. -/
def resolveScript (symbols : SymbolTable) (script : Script) : Logged (Bool × Script) := do
  if script.statements.any (Statement.isStale symbols) then
    Log.debug .scripts s!"re-resolved symbols in {script.name}"
    return (true, { script with statements := script.statements.map (Statement.refresh symbols) })
  return (false, script)

def resolveScripts (symbols : SymbolTable) : List Script → Logged (Nat × List Script)
  | [] => return (0, [])
  | script :: rest => do
      let (changed, script) ← resolveScript symbols script
      let (count, rest) ← resolveScripts symbols rest
      return (changed.toNat + count, script :: rest)

/-- Bring the library up to date, and count the scripts that were not. -/
def resolve (library : ScriptLibrary) (symbols : SymbolTable) : Logged (Nat × ScriptLibrary) := do
  let (count, scripts) ← resolveScripts symbols library.scripts
  return (count, ⟨scripts⟩)

end ScriptLibrary

end Looper
