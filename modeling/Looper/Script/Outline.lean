import Looper.Script.Error
import Looper.Script.Statement
import Looper.Text.Blank

/-!
# The outline of a script source

The outline separates directives, which describe the script as a whole, from
statement lines, and splits each statement line into its first word and the
rest.  Labels and procs are known by name from the outline on, so that a
statement may refer to one further down.
-/

namespace Looper

/-- The word that a statement line starts with, if it is not the name of a symbol. -/
inductive Keyword where
  | label
  | jump
  | call
  | warp
  | proc
  | endProc
  | declare
  | assign
  | use
  | branch
  | otherwise
  | endBranch
  | repeatLoop
  | trackLoop
  | next
  | wait
  /-- A kernel request whose argument may be left out. -/
  | request (kind : KernelKind)
  /-- A kernel request that needs its argument, named here. -/
  | demand (kind : KernelKind) (what : String)
  | diff
  | finish
  deriving DecidableEq, Repr

namespace Keyword

def vocabulary : List (String × Keyword) :=
  [("label", label), ("jump", jump), ("call", call), ("warp", warp),
   ("proc", proc), ("endproc", endProc), ("variable", declare), ("var", declare),
   ("set", assign), ("use", use), ("if", branch), ("else", otherwise),
   ("endif", endBranch), ("repeat", repeatLoop), ("for", trackLoop), ("next", next),
   ("wait", wait), ("echo", request .echo), ("message", request .message),
   ("alert", request .alert), ("prompt", request .prompt), ("save", request .saveLoop),
   ("savecapture", request .saveCapture), ("load", demand .loadLoop "a file"),
   ("diff", diff), ("bindings", demand .activateBindings "a set name"),
   ("end", finish)]

def ofWord? (word : String) : Option Keyword :=
  vocabulary.lookup (Text.fold word)

end Keyword

/-- A statement line. -/
structure SourceLine where
  number : Nat
  word : String
  rest : String
  deriving DecidableEq, Repr

namespace SourceLine

/-- The keyword of a line; a line without one invokes a symbol. -/
def keyword? (line : SourceLine) : Option Keyword :=
  Keyword.ofWord? line.word

def isLabel (line : SourceLine) (name : String) : Bool :=
  line.keyword? == some .label && Text.sameName line.rest name

def isProc (line : SourceLine) (name : String) : Bool :=
  line.keyword? == some .proc && Text.sameName line.rest name

end SourceLine

/-- A source split into directives and statement lines. -/
structure Outline where
  header : ScriptHeader
  lines : List SourceLine := []
  deriving DecidableEq, Repr

namespace Outline

def split (s : String) : String × String :=
  let parts := Text.splitWord s.toList
  (String.ofList parts.1, String.ofList parts.2)

/-- The statement that is the label with a given name. -/
def labelIndex? (outline : Outline) (name : String) : Option Nat :=
  outline.lines.findIdx? fun line => line.isLabel name

/-- The statement that opens the proc with a given name. -/
def procIndex? (outline : Outline) (name : String) : Option Nat :=
  outline.lines.findIdx? fun line => line.isProc name

def readMsec (directive arg : String) : Except ScriptFault (Option Nat) :=
  if arg.isEmpty then .ok none
  else
    match Text.nat32? arg.toList with
    | some msec => .ok (some msec)
    | none => .error (.notMsec directive arg)

/-- Obey the directive written after an exclamation mark. -/
def readDirective (header : ScriptHeader) (text : String) : Except ScriptFault ScriptHeader :=
  let (word, rest) := split text
  match Text.fold word with
  | "name" =>
      if rest.isEmpty then .error (.missing "!name" "a name")
      else .ok { header with name := rest }
  | "sustain" => do
      let sustainMsec ← readMsec "!sustain" rest
      return { header with
        sustainMsec, traits := { header.traits with sustainable := true } }
  | "multiclick" => do
      let clickMsec ← readMsec "!multiclick" rest
      return { header with clickMsec, multiclick := true }
  | "continuous" => .ok { header with traits := { header.traits with continuous := true } }
  | "focuslock" => .ok { header with traits := { header.traits with focusLockable := true } }
  | other => .error (.unknownDirective other)

/-- Labels and procs need a name that is not taken yet. -/
def checkName (outline : Outline) (line : SourceLine) : Except ScriptFault Unit :=
  match line.keyword? with
  | some .label =>
      if line.rest.isEmpty then .error (.missing "Label" "a name")
      else if (outline.labelIndex? line.rest).isSome then .error (.duplicateLabel line.rest)
      else .ok ()
  | some .proc =>
      if line.rest.isEmpty then .error (.missing "Proc" "a name")
      else if (outline.procIndex? line.rest).isSome then .error (.duplicateProc line.rest)
      else .ok ()
  | _ => .ok ()

/-- Add a trimmed line, which may be blank, a comment, a directive or a statement. -/
def addLine (outline : Outline) (number : Nat) (text : List Char) :
    Except ScriptFault Outline :=
  match text with
  | [] | '#' :: _ => .ok outline
  | '!' :: directive => do
      let header ← readDirective outline.header (String.ofList directive)
      return { outline with header }
  | _ => do
      let (word, rest) := split (String.ofList text)
      let line : SourceLine := { number, word, rest }
      outline.checkName line
      return { outline with lines := outline.lines ++ [line] }

/-- Add lines that are numbered from a given one on. -/
def addLines (outline : Outline) (number : Nat) :
    List (List Char) → Except ScriptError Outline
  | [] => .ok outline
  | raw :: more =>
      match outline.addLine number (Text.trim raw) with
      | .error fault => .error ⟨number, fault⟩
      | .ok outline => outline.addLines (number + 1) more

/-- The outline of a source; the given name is used unless a directive gives another. -/
def ofSource (name source : String) : Except ScriptError Outline :=
  addLines { header := { name } } 1 (Text.lines source.toList)

end Outline

end Looper
