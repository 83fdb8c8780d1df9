import Looper.Kernel.Event
import Looper.Symbol

/-!
# Scripts and their statements

A script is a list of statements.  Statements that open or continue a block
carry the index of the statement that closes it, so that running a script never
searches for it.
-/

namespace Looper

/-- What a label is for.  Some names are reserved for blocks that are entered from outside. -/
inductive LabelKind where
  | plain
  | sustain
  | endSustain
  | click
  | endClick
  | reentry
  deriving DecidableEq, Repr

namespace LabelKind

def reserved : List (String × LabelKind) :=
  [("sustain", sustain), ("endsustain", endSustain), ("click", click),
   ("endclick", endClick), ("reentry", reentry)]

def ofName (name : String) : LabelKind :=
  (reserved.lookup (Text.fold name)).getD plain

end LabelKind

/-- How two operands are compared. -/
inductive Comparison where
  | eq
  | ne
  | lt
  | gt
  | le
  | ge
  deriving DecidableEq, Repr

namespace Comparison

def signs : List (String × Comparison) :=
  [("==", eq), ("=", eq), ("!=", ne), ("<", lt), (">", gt), ("<=", le), (">=", ge)]

def ofSign? (sign : String) : Option Comparison :=
  signs.lookup sign

/-- Whether the comparison holds of two things in a given order. -/
def holds : Comparison → Ordering → Bool
  | eq, order => order.isEq
  | ne, order => order.isNe
  | lt, order => order.isLT
  | gt, order => order.isGT
  | le, order => order.isLE
  | ge, order => order.isGE

end Comparison

/-- A condition: one operand that is to be true, or two that are compared. -/
structure Condition where
  left : String
  compare : Option (Comparison × String) := none
  deriving DecidableEq, Repr

/-- What a script waits for. -/
inductive WaitKind where
  /-- The engine event scheduled by the last invocation. -/
  | last
  /-- The last kernel request. -/
  | thread
  /-- The next block. -/
  | block
  | msec (time : String)
  | function (symbol : SymbolId)
  deriving DecidableEq, Repr

/-- What a call enters. -/
inductive CallTarget where
  /-- The proc that starts at a statement of the same script. -/
  | proc (start : Nat)
  /-- Another script, found by name when the call is made. -/
  | script (name : String)
  deriving DecidableEq, Repr

/-- A symbol to be invoked, looked up when the script was loaded. -/
structure Invocation where
  symbol : SymbolId
  name : String
  target : Target
  level : SymbolLevel
  args : String
  deriving DecidableEq, Repr

/-- One statement of a script. -/
inductive Statement where
  | label (name : String) (kind : LabelKind)
  | jump (label : Nat)
  | call (target : CallTarget) (args : String)
  | warp (proc : Nat)
  | proc (name : String) (close : Nat)
  | endProc
  | declare (everywhere : Bool) (name value : String)
  | assign (name value : String)
  | use (name value : String)
  /-- Goes to the matching `Else` or `Endif` when the condition fails. -/
  | branch (condition : Condition) (otherwise : Nat)
  | otherwise (close : Nat)
  | endBranch
  | repeatLoop (count : String) (next : Nat)
  | trackLoop (tracks : String) (next : Nat)
  | next (start : Nat)
  | wait (kind : WaitKind)
  | request (kind : KernelKind) (args : List String)
  | finish
  | invoke (invocation : Invocation)
  deriving DecidableEq, Repr

/-- Set the index of the statement that closes or continues the block. -/
def Statement.closeAt (index : Nat) : Statement → Statement
  | .proc name _ => .proc name index
  | .branch condition _ => .branch condition index
  | .otherwise _ => .otherwise index
  | .repeatLoop count _ => .repeatLoop count index
  | .trackLoop tracks _ => .trackLoop tracks index
  | statement => statement

/-- The labels that are entered from outside, by statement. -/
structure SpecialLabels where
  sustain : Option Nat := none
  endSustain : Option Nat := none
  click : Option Nat := none
  endClick : Option Nat := none
  reentry : Option Nat := none
  deriving DecidableEq, Repr

namespace SpecialLabels

def get? (labels : SpecialLabels) : LabelKind → Option Nat
  | .plain => none
  | .sustain => labels.sustain
  | .endSustain => labels.endSustain
  | .click => labels.click
  | .endClick => labels.endClick
  | .reentry => labels.reentry

def set (labels : SpecialLabels) (kind : LabelKind) (index : Nat) : SpecialLabels :=
  match kind with
  | .plain => labels
  | .sustain => { labels with sustain := some index }
  | .endSustain => { labels with endSustain := some index }
  | .click => { labels with click := some index }
  | .endClick => { labels with endClick := some index }
  | .reentry => { labels with reentry := some index }

end SpecialLabels

/-- What the directives of a script say. -/
structure ScriptHeader where
  name : String := ""
  traits : ScriptTraits := {}
  /-- The hold time of this script, in place of the configured one. -/
  sustainMsec : Option Nat := none
  multiclick : Bool := false
  /-- The click window of this script, in place of the configured one. -/
  clickMsec : Option Nat := none
  deriving DecidableEq, Repr

/-- A compiled script. -/
structure Script extends ScriptHeader where
  id : ScriptId := 0
  statements : List Statement := []
  /-- The source line of each statement. -/
  lines : List Nat := []
  labels : SpecialLabels := {}
  deriving DecidableEq, Repr

namespace Script

def lineOf (script : Script) (index : Nat) : Nat :=
  script.lines.getD index 0

def findProc? (script : Script) (name : String) : Option Nat :=
  script.statements.findIdx? fun statement =>
    match statement with
    | .proc other _ => Text.sameName other name
    | _ => false

end Script

end Looper
