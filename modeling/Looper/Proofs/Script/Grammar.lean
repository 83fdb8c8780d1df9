import Looper.Script.Parse
import Mathlib.Data.List.Induction

/-!
# The language of script sources

Which sources are scripts, and which line of any other source is at fault.  A
source is a script if its directives are proper, its labels and procs have names of
their own, each of its statements has the operands it needs, and its blocks are
balanced.  Names and directives come first: a source with a fault in these blames
the first of them, whatever is wrong with a statement before it.  Otherwise the
first statement at fault is blamed, and if there is none, the line that opened the
innermost block among those that are never closed.

The last part of this module finds the blocks that are open after some lines one
line at a time, on a stack, and shows that `Balanced` and `Innermost` agree with it.
-/

namespace Looper

/-! ## Rules along a list -/

section Rules

variable {α : Type} {rule : List α → α → Prop} {front back list : List α} {a b : α}

/-- A rule about a thing and those before it is kept all along a list. -/
def KeptAlong (rule : List α → α → Prop) (list : List α) : Prop :=
  ∀ before a after, list = before ++ a :: after → rule before a

/-- The first thing in a list that breaks a rule. -/
def BreaksFirst (rule : List α → α → Prop) (list : List α) (a : α) : Prop :=
  ∃ before after, list = before ++ a :: after ∧ KeptAlong rule before ∧ ¬ rule before a

theorem keptAlong_nil : KeptAlong rule [] :=
  fun _ _ _ divides => absurd divides.symm (List.append_ne_nil_of_right_ne_nil _ nofun)

theorem KeptAlong.earlier (kept : KeptAlong rule (front ++ back)) : KeptAlong rule front := by
  rintro before a after rfl
  exact kept before a (after ++ back) (by rw [List.append_assoc, List.cons_append])

theorem keptAlong_concat :
    KeptAlong rule (list ++ [a]) ↔ KeptAlong rule list ∧ rule list a := by
  refine ⟨fun kept => ⟨kept.earlier, kept list a [] rfl⟩, ?_⟩
  rintro ⟨kept, last⟩ before b after divides
  rcases List.eq_nil_or_concat after with rfl | ⟨more, c, rfl⟩
  · obtain ⟨rfl, same⟩ := List.append_inj' divides rfl
    cases same
    exact last
  · rw [List.concat_eq_append, ← List.cons_append, ← List.append_assoc] at divides
    exact kept before b more (List.append_inj' divides rfl).1

theorem BreaksFirst.not_keptAlong (first : BreaksFirst rule list a) : ¬ KeptAlong rule list := by
  obtain ⟨before, after, rfl, -, broken⟩ := first
  exact fun kept => broken (kept before a after rfl)

/-- Only one thing in a list is the first to break a rule. -/
theorem BreaksFirst.unique (first : BreaksFirst rule list a) (second : BreaksFirst rule list b) :
    a = b := by
  obtain ⟨before, after, rfl, kept, broken⟩ := first
  obtain ⟨earlier, later, same, others, isBroken⟩ := second
  rcases List.append_eq_append_iff.1 same with ⟨between, rfl, isLater⟩ | ⟨between, rfl, isAfter⟩
  · cases between with
    | nil => exact (List.cons.inj isLater).1
    | cons c between =>
        obtain ⟨rfl, -⟩ := List.cons.inj isLater
        exact absurd (others before a between rfl) broken
  · cases between with
    | nil => exact (List.cons.inj isAfter).1.symm
    | cons c between =>
        obtain ⟨rfl, -⟩ := List.cons.inj isAfter
        exact absurd (kept earlier b between rfl) isBroken

end Rules

/-! ## Lines -/

inductive SourceEntry where
  /-- A blank line or a comment. -/
  | blank (number : Nat)
  /-- A directive by its name in lower case, with what follows it. -/
  | directive (number : Nat) (name operand : String)
  | statement (line : SourceLine)
  deriving DecidableEq, Repr

namespace SourceEntry

/-- What the line with a number and a trimmed text is. -/
def of (number : Nat) : List Char → SourceEntry
  | [] | '#' :: _ => .blank number
  | '!' :: text =>
      let (name, operand) := Outline.split (String.ofList text)
      .directive number (Text.fold name) operand
  | text =>
      let (word, rest) := Outline.split (String.ofList text)
      .statement { number, word, rest }

def number : SourceEntry → Nat
  | blank number | directive number .. => number
  | statement line => line.number

theorem number_of (number : Nat) (text : List Char) : (of number text).number = number := by
  unfold of
  split <;> rfl

def line? : SourceEntry → Option SourceLine
  | statement line => some line
  | _ => none

end SourceEntry

namespace Source

def entries (source : String) : List SourceEntry :=
  ((Text.lines source.toList).zipIdx 1).map fun line => .of line.2 (Text.trim line.1)

def lines (source : String) : List SourceLine :=
  (entries source).filterMap SourceEntry.line?

end Source

/-! ## Directives and names -/

/-- A time may be left out where a directive takes one. -/
def IsPeriod (operand : String) : Prop :=
  operand = "" ∨ (Text.nat32? operand.toList).isSome = true

/-- The directives, by their names in lower case, with what they may be given. -/
def IsDirective (name operand : String) : Prop :=
  match name with
  | "name" => operand ≠ ""
  | "sustain" | "multiclick" => IsPeriod operand
  | "continuous" | "focuslock" => True
  | _ => False

/-- A label has a name, and so has a proc; no label or proc before it has the same name. -/
def SourceLine.IsNamed (before : List SourceLine) (line : SourceLine) : Prop :=
  ∀ keyword ∈ [Keyword.label, Keyword.proc], line.keyword? = some keyword →
    line.rest ≠ "" ∧
      ∀ other ∈ before, other.keyword? = some keyword →
        Text.fold other.rest ≠ Text.fold line.rest

def SourceEntry.IsProper (before : List SourceEntry) : SourceEntry → Prop
  | .blank _ => True
  | .directive _ name operand => IsDirective name operand
  | .statement line => line.IsNamed (before.filterMap SourceEntry.line?)

/-! ## Operands -/

/-- What a statement needs behind its word. -/
inductive Operand where
  | optional
  | text
  | label
  | proc
  | variable
  | wait
  | files
  deriving DecidableEq, Repr

def Keyword.operand : Keyword → Operand
  | .jump => .label
  | .warp => .proc
  | .declare => .variable
  | .wait => .wait
  | .diff => .files
  | .call | .assign | .use | .branch | .repeatLoop | .trackLoop | .demand .. => .text
  | .label | .proc | .endProc | .otherwise | .endBranch | .next | .request _ | .finish =>
      .optional

/-- The name in the operand of `Variable`, which may follow `global`. -/
def declaredName (rest : String) : String :=
  let (first, more) := Outline.split rest
  if Text.sameName first "global" then (Outline.split more).1 else first

/-- What may be waited for: an event, something that is named, or a time on its own. -/
def IsWait (kind operand : String) : Prop :=
  match Text.fold kind with
  | "last" | "thread" | "block" => True
  | "msec" | "function" => operand ≠ ""
  | _ => Parse.isTime kind = true

/-- The operand is there and, if it is a name, names a label or a proc of the script. -/
def Operand.IsGiven (lines : List SourceLine) (rest : String) : Operand → Prop
  | .optional => True
  | .text => rest ≠ ""
  | .label => rest ≠ "" ∧ ∃ line ∈ lines, line.isLabel rest = true
  | .proc => rest ≠ "" ∧ ∃ line ∈ lines, line.isProc rest = true
  | .variable => declaredName rest ≠ ""
  | .wait => rest ≠ "" ∧ IsWait (Outline.split rest).1 (Outline.split rest).2
  | .files => (Outline.split rest).2 ≠ ""

/-- A line has the operand of its keyword; one that invokes a symbol needs none. -/
def SourceLine.HasOperand (lines : List SourceLine) (line : SourceLine) : Prop :=
  ∀ keyword, line.keyword? = some keyword → keyword.operand.IsGiven lines line.rest

/-! ## Blocks -/

inductive BlockKind where
  | branch
  | loop
  | proc
  deriving DecidableEq, Repr

/-- What a line does to the blocks around it. -/
inductive Role where
  | plain
  | opens (kind : BlockKind)
  | divides
  | closes (kind : BlockKind)
  deriving DecidableEq, Repr

def Keyword.role : Keyword → Role
  | .branch => .opens .branch
  | .repeatLoop | .trackLoop => .opens .loop
  | .proc => .opens .proc
  | .otherwise => .divides
  | .endBranch => .closes .branch
  | .next => .closes .loop
  | .endProc => .closes .proc
  | .label | .jump | .call | .warp | .declare | .assign | .use | .wait | .request _
  | .demand .. | .diff | .finish => .plain

def SourceLine.role (line : SourceLine) : Role :=
  match line.keyword? with
  | some keyword => keyword.role
  | none => .plain

/-- Lines whose blocks are all closed, each by its own kind of line; a branch may be divided. -/
inductive Balanced : List SourceLine → Prop where
  | nil : Balanced []
  | plain {line : SourceLine} {rest : List SourceLine} (alone : line.role = .plain)
      (others : Balanced rest) : Balanced (line :: rest)
  | block {kind : BlockKind} {first last : SourceLine} {body rest : List SourceLine}
      (opens : first.role = .opens kind) (inner : Balanced body)
      (closes : last.role = .closes kind) (others : Balanced rest) :
      Balanced (first :: (body ++ last :: rest))
  | choice {first middle last : SourceLine} {body other rest : List SourceLine}
      (opens : first.role = .opens .branch) (inner : Balanced body)
      (divides : middle.role = .divides) (second : Balanced other)
      (closes : last.role = .closes .branch) (others : Balanced rest) :
      Balanced (first :: (body ++ middle :: (other ++ last :: rest)))

/-- What follows the first line of a block within it, and whether that divides the block. -/
inductive Body : BlockKind → Bool → List SourceLine → Prop where
  | whole {kind : BlockKind} {body : List SourceLine} (inner : Balanced body) :
      Body kind false body
  | divided {middle : SourceLine} {body other : List SourceLine} (inner : Balanced body)
      (divides : middle.role = .divides) (second : Balanced other) :
      Body .branch true (body ++ middle :: other)

/-- The block that was opened last among those still open, by its first line. -/
def Innermost (read : List SourceLine) (first : SourceLine) (kind : BlockKind)
    (divided : Bool) : Prop :=
  ∃ before body, read = before ++ first :: body ∧ first.role = .opens kind ∧
    Body kind divided body

/-- A line that divides or closes a block does so to the innermost one, which is of its kind. -/
def SourceLine.Fits (read : List SourceLine) (line : SourceLine) : Prop :=
  match line.role with
  | .plain | .opens _ => True
  | .divides => ∃ first, Innermost read first .branch false
  | .closes kind => ∃ first divided, Innermost read first kind divided

/-! ## Scripts and lines at fault -/

/-- The rule of statements: they have their operands, and fit the blocks that are open. -/
def SourceLine.IsProper (lines read : List SourceLine) (line : SourceLine) : Prop :=
  line.HasOperand lines ∧ line.Fits read

structure IsScript (source : String) : Prop where
  entries : KeptAlong SourceEntry.IsProper (Source.entries source)
  operands : ∀ line ∈ Source.lines source, line.HasOperand (Source.lines source)
  balanced : Balanced (Source.lines source)

/-- The line at fault in a source that is not a script. -/
inductive Blames (source : String) : Nat → Prop where
  | entry {entry : SourceEntry}
      (first : BreaksFirst SourceEntry.IsProper (Source.entries source)
        entry) : Blames source entry.number
  | statement {line : SourceLine}
      (entries : KeptAlong SourceEntry.IsProper (Source.entries source))
      (first : BreaksFirst (SourceLine.IsProper (Source.lines source)) (Source.lines source)
        line) : Blames source line.number
  | opened {first : SourceLine} {kind : BlockKind} {divided : Bool}
      (entries : KeptAlong SourceEntry.IsProper (Source.entries source))
      (statements : KeptAlong (SourceLine.IsProper (Source.lines source)) (Source.lines source))
      (innermost : Innermost (Source.lines source) first kind divided) :
      Blames source first.number

/-! ## Open blocks on a stack -/

/-- A block that is open, with the number of its first line. -/
structure Pending where
  kind : BlockKind
  divided : Bool
  number : Nat
  deriving DecidableEq, Repr

/-- What is open after a line with a number, the innermost first, if the line fits. -/
def Role.apply (number : Nat) : Role → List Pending → Option (List Pending)
  | .plain, stack => some stack
  | .opens kind, stack => some (⟨kind, false, number⟩ :: stack)
  | .divides, ⟨.branch, false, first⟩ :: stack => some (⟨.branch, true, first⟩ :: stack)
  | .closes kind, top :: stack => if top.kind = kind then some stack else none
  | _, _ => none

/-- What is open after some lines, if each of them fits. -/
def brackets (stack : List Pending) (lines : List SourceLine) : Option (List Pending) :=
  lines.foldlM (fun stack line => line.role.apply line.number stack) stack

section Brackets

variable {stack next outer : List Pending} {lines rest body read : List SourceLine}
  {first line last : SourceLine} {kind : BlockKind} {divided : Bool}

theorem brackets_cons : brackets stack (line :: rest) =
    (line.role.apply line.number stack).bind fun next => brackets next rest :=
  List.foldlM_cons

theorem brackets_append : brackets stack (lines ++ rest) =
    (brackets stack lines).bind fun next => brackets next rest :=
  List.foldlM_append

theorem brackets_concat : brackets stack (lines ++ [line]) =
    (brackets stack lines).bind (line.role.apply line.number) := by
  rw [brackets_append]
  refine congrArg _ (funext fun next => ?_)
  rw [brackets_cons]
  exact Option.bind_fun_some _

theorem Balanced.brackets (balanced : Balanced lines) (stack : List Pending) :
    brackets stack lines = some stack := by
  induction balanced generalizing stack with
  | nil => rfl
  | plain alone others ih => simp [brackets_cons, alone, Role.apply, ih]
  | block opens inner closes others ihInner ihOthers =>
      simp [brackets_cons, brackets_append, opens, closes, Role.apply, ihInner, ihOthers]
  | choice opens inner divides second closes others ihInner ihSecond ihOthers =>
      simp [brackets_cons, brackets_append, opens, divides, closes, Role.apply, ihInner,
        ihSecond, ihOthers]

theorem Body.brackets (inside : Body kind divided body) (number : Nat) (stack : List Pending) :
    brackets (⟨kind, false, number⟩ :: stack) body = some (⟨kind, divided, number⟩ :: stack) := by
  cases inside with
  | whole inner => exact inner.brackets _
  | divided inner divides second =>
      simp [brackets_append, brackets_cons, divides, Role.apply, inner.brackets, second.brackets]

theorem Balanced.append (front : Balanced lines) (back : Balanced rest) :
    Balanced (lines ++ rest) := by
  induction front with
  | nil => exact back
  | plain alone _ ih => exact .plain alone ih
  | block opens inner closes _ _ ih =>
      rw [List.cons_append, List.append_assoc, List.cons_append]
      exact .block opens inner closes ih
  | choice opens inner divides second closes _ _ _ ih =>
      simp only [List.cons_append, List.append_assoc]
      exact .choice opens inner divides second closes ih

theorem Body.append (inside : Body kind divided body) (more : Balanced rest) :
    Body kind divided (body ++ rest) := by
  cases inside with
  | whole inner => exact .whole (inner.append more)
  | divided inner divides second =>
      rw [List.append_assoc, List.cons_append]
      exact .divided inner divides (second.append more)

theorem Body.balanced (inside : Body kind divided body) (opens : first.role = .opens kind)
    (closes : last.role = .closes kind) : Balanced (first :: (body ++ [last])) := by
  cases inside with
  | whole inner => exact .block opens inner closes .nil
  | divided inner divides second =>
      rw [List.append_assoc, List.cons_append]
      exact .choice opens inner divides second closes .nil

/-- Lines in which exactly the blocks on a stack are open, each within the one below it. -/
inductive Unclosed : List Pending → List SourceLine → Prop where
  | whole {lines : List SourceLine} (balanced : Balanced lines) : Unclosed [] lines
  | block {outer : List Pending} {before body : List SourceLine} {first : SourceLine}
      {kind : BlockKind} {divided : Bool} (around : Unclosed outer before)
      (opens : first.role = .opens kind) (inside : Body kind divided body) :
      Unclosed (⟨kind, divided, first.number⟩ :: outer) (before ++ first :: body)

theorem Unclosed.append (unclosed : Unclosed stack lines) (more : Balanced rest) :
    Unclosed stack (lines ++ rest) := by
  cases unclosed with
  | whole balanced => exact .whole (balanced.append more)
  | block around opens inside =>
      rw [List.append_assoc, List.cons_append]
      exact .block around opens (inside.append more)

theorem Unclosed.step (unclosed : Unclosed stack lines)
    (fits : line.role.apply line.number stack = some next) : Unclosed next (lines ++ [line]) := by
  cases isRole : line.role with
  | plain =>
      rw [isRole] at fits
      cases fits
      exact unclosed.append (.plain isRole .nil)
  | opens kind =>
      rw [isRole] at fits
      cases fits
      exact .block unclosed isRole (.whole .nil)
  | divides =>
      rw [isRole] at fits
      unfold Role.apply at fits
      split at fits
      · next => contradiction
      · next => contradiction
      · next isTop =>
          cases fits
          cases unclosed with
          | block around opens inside =>
              cases inside with
              | whole inner =>
                  rw [List.append_assoc, List.cons_append]
                  exact .block around opens (.divided inner isRole .nil)
      · next => contradiction
      · next => cases fits
  | closes kind =>
      rw [isRole] at fits
      cases unclosed with
      | whole balanced => cases fits
      | block around opens inside =>
          obtain ⟨rfl, same⟩ := Option.ite_none_right_eq_some.1 fits
          cases same
          rw [List.append_assoc, List.cons_append]
          exact around.append (inside.balanced opens isRole)

/-- The stack tells which blocks are open. -/
theorem unclosed_of_brackets (reads : brackets [] read = some stack) : Unclosed stack read := by
  induction read using List.reverseRecOn generalizing stack with
  | nil =>
      cases reads
      exact .whole .nil
  | append_singleton read line ih =>
      rw [brackets_concat] at reads
      obtain ⟨before, reads, fits⟩ := Option.bind_eq_some_iff.1 reads
      exact (ih reads).step fits

theorem balanced_iff : Balanced lines ↔ brackets [] lines = some [] := by
  refine ⟨fun balanced => balanced.brackets [], fun reads => ?_⟩
  cases unclosed_of_brackets reads with
  | whole balanced => exact balanced

theorem Innermost.top (innermost : Innermost read first kind divided)
    (reads : brackets [] read = some stack) :
    ∃ outer, stack = ⟨kind, divided, first.number⟩ :: outer := by
  obtain ⟨before, body, rfl, opens, inside⟩ := innermost
  rw [brackets_append] at reads
  obtain ⟨outer, -, reads⟩ := Option.bind_eq_some_iff.1 reads
  rw [brackets_cons, opens, Role.apply, Option.bind_some, inside.brackets] at reads
  exact ⟨outer, (Option.some.inj reads).symm⟩

theorem exists_innermost {top : Pending} (reads : brackets [] read = some (top :: outer)) :
    ∃ first, Innermost read first top.kind top.divided ∧ first.number = top.number := by
  cases unclosed_of_brackets reads with
  | block around opens inside => exact ⟨_, ⟨_, _, rfl, opens, inside⟩, rfl⟩

/-- A line fits if and only if the stack goes on. -/
theorem fits_iff (reads : brackets [] read = some stack) :
    line.Fits read ↔ ∃ next, line.role.apply line.number stack = some next := by
  unfold SourceLine.Fits
  cases line.role with
  | plain => exact iff_of_true trivial ⟨stack, rfl⟩
  | opens kind => exact iff_of_true trivial ⟨_, rfl⟩
  | divides =>
      constructor
      · rintro ⟨first, innermost⟩
        obtain ⟨outer, rfl⟩ := innermost.top reads
        exact ⟨_, rfl⟩
      · rintro ⟨next, fits⟩
        unfold Role.apply at fits
        split at fits
        · next => contradiction
        · next => contradiction
        · next =>
            obtain ⟨first, innermost, -⟩ := exists_innermost reads
            exact ⟨first, innermost⟩
        · next => contradiction
        · next => cases fits
  | closes kind =>
      constructor
      · rintro ⟨first, divided, innermost⟩
        obtain ⟨outer, rfl⟩ := innermost.top reads
        exact ⟨outer, if_pos rfl⟩
      · rintro ⟨next, fits⟩
        cases stack with
        | nil => cases fits
        | cons top outer =>
            obtain ⟨rfl, -⟩ := Option.ite_none_right_eq_some.1 fits
            obtain ⟨first, innermost, -⟩ := exists_innermost reads
            exact ⟨first, top.divided, innermost⟩

theorem brackets_of_keptAlong (fits : KeptAlong SourceLine.Fits lines) :
    ∃ stack, brackets [] lines = some stack := by
  induction lines using List.reverseRecOn with
  | nil => exact ⟨[], rfl⟩
  | append_singleton lines line ih =>
      obtain ⟨earlier, last⟩ := keptAlong_concat.1 fits
      obtain ⟨stack, reads⟩ := ih earlier
      obtain ⟨next, goesOn⟩ := (fits_iff reads).1 last
      exact ⟨next, by rw [brackets_concat, reads, Option.bind_some, goesOn]⟩

theorem Balanced.keptAlong (balanced : Balanced lines) :
    KeptAlong SourceLine.Fits lines := by
  rintro before line after rfl
  have reads := balanced.brackets []
  rw [brackets_append] at reads
  obtain ⟨stack, reads, goesOn⟩ := Option.bind_eq_some_iff.1 reads
  rw [brackets_cons] at goesOn
  obtain ⟨next, goesOn, -⟩ := Option.bind_eq_some_iff.1 goesOn
  exact (fits_iff reads).2 ⟨next, goesOn⟩

end Brackets

/-! ## There is one verdict -/

/-- Two lines that a source blames are the same line. -/
theorem Blames.unique {source : String} {number other : Nat} (blames : Blames source number)
    (second : Blames source other) : number = other := by
  cases blames with
  | entry first =>
      cases second with
      | entry again => exact congrArg SourceEntry.number (first.unique again)
      | statement entries | opened entries => exact absurd entries first.not_keptAlong
  | statement entries first =>
      cases second with
      | entry again => exact absurd entries again.not_keptAlong
      | statement _ again => exact congrArg SourceLine.number (first.unique again)
      | opened _ statements => exact absurd statements first.not_keptAlong
  | opened entries statements innermost =>
      cases second with
      | entry again => exact absurd entries again.not_keptAlong
      | statement _ again => exact absurd statements again.not_keptAlong
      | opened _ _ again =>
          obtain ⟨stack, reads⟩ := brackets_of_keptAlong
            fun before line after divides => (statements before line after divides).2
          obtain ⟨outer, rfl⟩ := innermost.top reads
          obtain ⟨around, same⟩ := again.top reads
          exact congrArg Pending.number (List.cons.inj same).1

theorem IsScript.not_blames {source : String} (isScript : IsScript source) (number : Nat) :
    ¬ Blames source number := by
  rintro (first | ⟨-, first⟩ | ⟨-, -, innermost⟩)
  · exact first.not_keptAlong isScript.entries
  · refine first.not_keptAlong fun before line after divides => ⟨?_, ?_⟩
    · exact isScript.operands line (divides ▸ List.mem_append_right _ List.mem_cons_self)
    · exact isScript.balanced.keptAlong before line after divides
  · obtain ⟨outer, same⟩ := innermost.top (isScript.balanced.brackets [])
    cases same

end Looper
