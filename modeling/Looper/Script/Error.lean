/-!
# Errors in script sources

A source that is not a script is refused with the number of the line at fault
and what is wrong there.
-/

namespace Looper

/-- What is wrong with a line of a script. -/
inductive ScriptFault where
  /-- A statement or directive lacks something that it needs. -/
  | missing (word what : String)
  | notMsec (directive arg : String)
  | unknownDirective (word : String)
  | duplicateLabel (name : String)
  | duplicateProc (name : String)
  | unknownLabel (name : String)
  | unknownProc (name : String)
  | unknownWait (kind : String)
  | strayEndProc
  | strayElse
  | strayEndIf
  | strayNext
  | openBranch
  | openLoop
  | openProc
  deriving DecidableEq, Repr

def ScriptFault.message : ScriptFault → String
  | missing word what => s!"{word} requires {what}"
  | notMsec directive arg => s!"{directive} expects milliseconds, got '{arg}'"
  | unknownDirective word => s!"unknown directive !{word}"
  | duplicateLabel name => s!"duplicate label {name}"
  | duplicateProc name => s!"duplicate proc {name}"
  | unknownLabel name => s!"unknown label {name}"
  | unknownProc name => s!"unknown proc {name}"
  | unknownWait kind => s!"unknown wait type {kind}"
  | strayEndProc => "Endproc without Proc"
  | strayElse => "Else without If"
  | strayEndIf => "Endif without If"
  | strayNext => "Next without Repeat or For"
  | openBranch => "If without Endif"
  | openLoop => "loop without Next"
  | openProc => "Proc without Endproc"

/-- A fault and its line, counted from one. -/
structure ScriptError where
  line : Nat
  fault : ScriptFault
  deriving DecidableEq, Repr

def ScriptError.message (error : ScriptError) : String :=
  s!"line {error.line}: {error.fault.message}"

end Looper
