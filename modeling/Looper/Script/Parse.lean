import Looper.Script.Outline

/-!
# From outline to script

Statement lines become statements one after another.  A block that is opened
stays on a list until it is closed; only the innermost open block may be
continued or closed, and its first statement then learns where the block goes
on.  Names that are not symbols yet become symbols, so that a script may invoke
what is defined later.
-/

namespace Looper

/-- A block that has been opened and not closed. -/
inductive OpenBlock where
  /-- An `If`, and its `Else` if there has been one. -/
  | branch (start : Nat) (otherwise : Option Nat)
  | loop (start : Nat)
  | proc (start : Nat)
  deriving DecidableEq, Repr

def OpenBlock.fault : OpenBlock → ScriptFault
  | branch .. => .openBranch
  | loop _ => .openLoop
  | proc _ => .openProc

/-- A script while its lines are being read. -/
structure Draft where
  symbols : SymbolTable
  statements : List Statement := []
  labels : SpecialLabels := {}
  /-- The open blocks with the lines that opened them, the innermost first. -/
  opened : List (OpenBlock × Nat) := []

namespace Draft

def index (draft : Draft) : Nat :=
  draft.statements.length

def push (draft : Draft) (statement : Statement) : Draft :=
  { draft with statements := draft.statements ++ [statement] }

/-- Tell an earlier statement that its block goes on at the statement to be added next. -/
def closeHere (draft : Draft) (start : Nat) : Draft :=
  { draft with statements := draft.statements.modify start (Statement.closeAt draft.index) }

def openBlock (draft : Draft) (block : OpenBlock) (line : Nat) : Draft :=
  { draft with opened := (block, line) :: draft.opened }

end Draft

namespace Parse

/-- The rest of a line, which must not be empty. -/
def require (line : SourceLine) (what : String) : Except ScriptFault String :=
  if line.rest.isEmpty then .error (.missing line.word what) else .ok line.rest

def joinWords (words : List (List Char)) : String :=
  String.ofList (List.intercalate [' '] words)

def isSign (word : List Char) : Bool :=
  (Comparison.ofSign? (String.ofList word)).isSome

/-- Read a condition: the first comparison sign among its words divides it. -/
def condition (text : String) : Condition :=
  let words := Text.words text.toList
  let left := words.takeWhile (!isSign ·)
  match words.dropWhile (!isSign ·) with
  | sign :: right =>
      { left := joinWords left
        compare := (Comparison.ofSign? (String.ofList sign)).map (·, joinWords right) }
  | [] => { left := text }

/-- Read the operand of `Variable`: a name, after `global` for a variable of all scripts. -/
def declaration (rest : String) : Except ScriptFault Statement :=
  let (first, more) := Outline.split rest
  let (everywhere, name, value) :=
    if Text.sameName first "global" then
      let (name, value) := Outline.split more
      (true, name, value)
    else (false, first, more)
  if name.isEmpty then .error (.missing "Variable" "a name")
  else .ok (.declare everywhere name value)

def requestOf (kind : KernelKind) (rest : String) : Statement :=
  .request kind (if rest.isEmpty then [] else [rest])

def isTime (kind : String) : Bool :=
  "$".toList.isPrefixOf kind.toList || (Text.nat32? kind.toList).isSome

/-- Read the operand of `Wait`; a function that is waited for becomes a symbol. -/
def wait (line : SourceLine) (symbols : SymbolTable) :
    Except ScriptFault (WaitKind × SymbolTable) := do
  let (kind, arg) := Outline.split (← require line "a wait type")
  match Text.fold kind with
  | "last" => return (.last, symbols)
  | "thread" => return (.thread, symbols)
  | "block" => return (.block, symbols)
  | "msec" =>
      if arg.isEmpty then .error (.missing "Wait msec" "a time")
      else return (.msec arg, symbols)
  | "function" =>
      if arg.isEmpty then .error (.missing "Wait function" "a name")
      else
        let (id, symbols) := symbols.intern arg
        return (.function id, symbols)
  | other =>
      if isTime kind then return (.msec kind, symbols)
      else .error (.unknownWait other)

def endProc (draft : Draft) : Except ScriptFault Draft :=
  match draft.opened with
  | (.proc start, _) :: opened =>
      .ok (({ draft with opened }.closeHere start).push .endProc)
  | _ => .error .strayEndProc

/-- Continue the innermost block, which must be a branch without an `Else`. -/
def otherwise (draft : Draft) : Except ScriptFault Draft :=
  match draft.opened with
  | (.branch start none, line) :: opened =>
      let opened := (.branch start (some draft.index), line) :: opened
      .ok (({ draft with opened }.closeHere start).push (.otherwise draft.index))
  | _ => .error .strayElse

def endBranch (draft : Draft) : Except ScriptFault Draft :=
  match draft.opened with
  | (.branch start part, _) :: opened =>
      .ok (({ draft with opened }.closeHere (part.getD start)).push .endBranch)
  | _ => .error .strayEndIf

def next (draft : Draft) : Except ScriptFault Draft :=
  match draft.opened with
  | (.loop start, _) :: opened =>
      .ok (({ draft with opened }.closeHere start).push (.next start))
  | _ => .error .strayNext

/-- Add the statement of a line with a keyword. -/
def keywordLine (outline : Outline) (line : SourceLine) (draft : Draft) :
    Keyword → Except ScriptFault Draft
  | .label =>
      let kind := LabelKind.ofName line.rest
      .ok ({ draft with labels := draft.labels.set kind draft.index }.push
        (.label line.rest kind))
  | .jump => do
      let name ← require line "a label"
      match outline.labelIndex? name with
      | some label => return draft.push (.jump label)
      | none => .error (.unknownLabel name)
  | .call => do
      let (callee, args) := Outline.split (← require line "a proc or script name")
      match outline.procIndex? callee with
      | some proc => return draft.push (.call (.proc proc) args)
      | none => return draft.push (.call (.script callee) args)
  | .warp => do
      let name ← require line "a proc name"
      match outline.procIndex? name with
      | some proc => return draft.push (.warp proc)
      | none => .error (.unknownProc name)
  | .proc =>
      .ok ((draft.openBlock (.proc draft.index) line.number).push
        (.proc line.rest draft.index))
  | .endProc => endProc draft
  | .declare => do return draft.push (← declaration (← require line "a name"))
  | .assign => do
      let (name, value) := Outline.split (← require line "a name")
      return draft.push (.assign name value)
  | .use => do
      let (name, value) := Outline.split (← require line "a parameter")
      return draft.push (.use name value)
  | .branch => do
      let text ← require line "a condition"
      return (draft.openBlock (.branch draft.index none) line.number).push
        (.branch (condition text) draft.index)
  | .otherwise => otherwise draft
  | .endBranch => endBranch draft
  | .repeatLoop => do
      let count ← require line "a count"
      return (draft.openBlock (.loop draft.index) line.number).push
        (.repeatLoop count draft.index)
  | .trackLoop => do
      let tracks ← require line "a track list"
      return (draft.openBlock (.loop draft.index) line.number).push
        (.trackLoop tracks draft.index)
  | .next => next draft
  | .wait => do
      let (kind, symbols) ← wait line draft.symbols
      return { draft with symbols }.push (.wait kind)
  | .request kind => .ok (draft.push (requestOf kind line.rest))
  | .demand kind what => do return draft.push (requestOf kind (← require line what))
  | .diff => do
      let (first, second) := Outline.split (← require line "two files")
      if second.isEmpty then .error (.missing "Diff" "two files")
      else return draft.push (.request .diff [first, second])
  | .finish => .ok (draft.push .finish)

def invocationOf (id : SymbolId) (symbol : SymbolEntry) (args : String) : Invocation where
  symbol := id
  name := symbol.name
  target := symbol.target
  level := symbol.level
  args := Text.clip Action.maxArgs args

def symbolLine (line : SourceLine) (draft : Draft) : Logged Draft := do
  let (id, symbols) := draft.symbols.intern line.word
  let symbol := (symbols.get? id).getD ⟨line.word, none⟩
  if !symbol.isResolved then
    Log.warn .scripts s!"line {line.number}: unresolved symbol {line.word}"
  return { draft with symbols }.push (.invoke (invocationOf id symbol line.rest))

def readLine (outline : Outline) (line : SourceLine) (draft : Draft) :
    Logged (Except ScriptFault Draft) :=
  match line.keyword? with
  | some keyword => pure (keywordLine outline line draft keyword)
  | none => do return .ok (← symbolLine line draft)

/--
Add the statements of some lines.  The first line at fault ends the reading, but
the names met before it have become symbols.
-/
def readLines (outline : Outline) : List SourceLine → Draft →
    Logged (Except ScriptError Draft × SymbolTable)
  | [], draft => pure (.ok draft, draft.symbols)
  | line :: more, draft => do
      match ← readLine outline line draft with
      | .error fault => return (.error ⟨line.number, fault⟩, draft.symbols)
      | .ok draft => readLines outline more draft

/-- The script of a finished draft, unless a block is still open. -/
def close (outline : Outline) (draft : Draft) : Except ScriptError Script :=
  match draft.opened with
  | (block, line) :: _ => .error ⟨line, block.fault⟩
  | [] => .ok
      { toScriptHeader := outline.header
        statements := draft.statements
        lines := outline.lines.map SourceLine.number
        labels := draft.labels }

end Parse

/--
Read a script source.  The given name is used unless the source has one of its
own.  The symbols come back with the names that the source added to them.
-/
def Script.parse (name source : String) (symbols : SymbolTable) :
    Logged (Except ScriptError Script × SymbolTable) :=
  match Outline.ofSource name source with
  | .error error => pure (.error error, symbols)
  | .ok outline => do
      let (draft, symbols) ← Parse.readLines outline outline.lines { symbols }
      return (draft.bind (Parse.close outline), symbols)

end Looper
