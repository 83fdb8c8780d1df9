import Looper.Proofs.Binding.Recompile
import Looper.Proofs.Script.Program
import Looper.Proofs.Script.Reading

/-!
# How a structured program is laid out

The statements of a structured program lie one after another, each block between the
statement that opens it and the one that closes it, which name each other's index.
`Writes` says which source lines write a program; reading such lines lays it out.
-/

namespace Looper

/-! ## Layout -/

namespace Program

def size : Program → Nat
  | .done => 0
  | .invoke _ next | .declare _ _ _ next | .assign _ _ next | .call _ _ next => next.size + 1
  | .branch _ body next | .repeats _ body next | .tracks _ body next | .proc _ body next =>
      body.size + 2 + next.size
  | .choice _ yes no next => yes.size + 1 + (no.size + 2 + next.size)

/-- Where, within a program, the first proc with a name begins, and its body. -/
def find? (name : String) : Program → Option (Nat × Program)
  | .done => none
  | .invoke _ next | .declare _ _ _ next | .assign _ _ next | .call _ _ next =>
      (next.find? name).map fun found => (found.1 + 1, found.2)
  | .branch _ body next | .repeats _ body next | .tracks _ body next =>
      ((body.find? name).map fun found => (found.1 + 1, found.2)).or
        ((next.find? name).map fun found => (found.1 + (body.size + 2), found.2))
  | .choice _ yes no next =>
      ((yes.find? name).map fun found => (found.1 + 1, found.2)).or
        (((no.find? name).map fun found => (found.1 + (yes.size + 2), found.2)).or
          ((next.find? name).map fun found => (found.1 + (yes.size + 1 + (no.size + 2)), found.2)))
  | .proc other body next =>
      if Text.sameName other name then some (0, body)
      else
        ((body.find? name).map fun found => (found.1 + 1, found.2)).or
          ((next.find? name).map fun found => (found.1 + (body.size + 2), found.2))

theorem proc?_eq (program : Program) (name : String) :
    program.proc? name = (program.find? name).map Prod.snd := by
  induction program with
  | done => rfl
  | proc other body next ihBody ihNext =>
      rw [proc?, find?]
      split
      · rfl
      · simp [ihBody, ihNext, Option.map_or, Function.comp_def]
  | _ => simp [proc?, find?, *, Option.map_or, Function.comp_def]

/-- The statements of a program that lies from an index on. -/
def code (entry : String → Option Nat) (start : Nat) : Program → List Statement
  | .done => []
  | .invoke invocation next => .invoke invocation :: next.code entry (start + 1)
  | .declare everywhere name value next =>
      .declare everywhere name value :: next.code entry (start + 1)
  | .assign name value next => .assign name value :: next.code entry (start + 1)
  | .branch condition yes next =>
      .branch (Parse.condition condition) (start + yes.size + 1) ::
        (yes.code entry (start + 1) ++ .endBranch :: next.code entry (start + (yes.size + 2)))
  | .choice condition yes no next =>
      let middle := start + yes.size + 1
      .branch (Parse.condition condition) middle ::
        (yes.code entry (start + 1) ++ .otherwise (middle + no.size + 1) ::
          (no.code entry (middle + 1) ++ .endBranch :: next.code entry (middle + (no.size + 2))))
  | .repeats count body next =>
      .repeatLoop count (start + body.size + 1) ::
        (body.code entry (start + 1) ++ .next start :: next.code entry (start + (body.size + 2)))
  | .tracks list body next =>
      .trackLoop list (start + body.size + 1) ::
        (body.code entry (start + 1) ++ .next start :: next.code entry (start + (body.size + 2)))
  | .call callee args next => .call (target entry callee) args :: next.code entry (start + 1)
  | .proc name body next =>
      .proc name (start + body.size + 1) ::
        (body.code entry (start + 1) ++ .endProc :: next.code entry (start + (body.size + 2)))

def entry (program : Program) (name : String) : Option Nat :=
  (program.find? name).map Prod.fst

/-- The statements of a whole program, which calls its own procs. -/
def layout (program : Program) : List Statement :=
  program.code program.entry 0

@[simp] theorem length_code (program : Program) (entry : String → Option Nat) (start : Nat) :
    (program.code entry start).length = program.size := by
  induction program generalizing start <;> simp [code, size, *] <;> omega

section Placing

variable {whole : List Statement} {entry : String → Option Nat} {start : Nat} {name : String}

theorem placed_block {first last : Statement} {inner : Program} {rest : List Statement}
    (placed : Placed whole start (first :: (inner.code entry (start + 1) ++ last :: rest))) :
    whole[start]? = some first ∧ Placed whole (start + 1) (inner.code entry (start + 1)) ∧
      Placed whole (start + inner.size + 1) (last :: rest) := by
  refine ⟨placed.head, placed.tail.left, ?_⟩
  have behind := placed.tail.right
  rwa [length_code, Nat.add_right_comm] at behind

/-- A proc lies among some statements from an index on. -/
structure HasProc (whole : List Statement) (entry : String → Option Nat) (start : Nat)
    (body : Program) : Prop where
  opens : ∃ name close, whole[start]? = some (.proc name close)
  inside : Placed whole (start + 1) (body.code entry (start + 1))
  closes : whole[start + body.size + 1]? = some .endProc

theorem HasProc.shift {part body : Program} {offset index : Nat}
    (lies : ∀ {index}, part.find? name = some (index, body) →
      HasProc whole entry (start + offset + index) body)
    (found : ((part.find? name).map fun found => (found.1 + offset, found.2)) =
      some (index, body)) :
    HasProc whole entry (start + index) body := by
  obtain ⟨⟨earlier, other⟩, isFound, same⟩ := Option.map_eq_some_iff.1 found
  cases same
  have there := lies isFound
  rwa [Nat.add_assoc, Nat.add_comm offset] at there

theorem hasProc_of_find? {program : Program} {index : Nat} {body : Program}
    (placed : Placed whole start (program.code entry start))
    (found : program.find? name = some (index, body)) :
    HasProc whole entry (start + index) body := by
  induction program generalizing start index with
  | done => cases found
  | invoke _ next ih | declare _ _ _ next ih | assign _ _ next ih | call _ _ next ih =>
      exact HasProc.shift (ih placed.tail) found
  | branch _ inner next ihInner ihNext | repeats _ inner next ihInner ihNext
  | tracks _ inner next ihInner ihNext =>
      obtain ⟨-, inside, ends⟩ := placed_block placed
      rcases Option.or_eq_some_iff.1 found with inInner | ⟨-, inNext⟩
      · exact HasProc.shift (ihInner inside) inInner
      · exact HasProc.shift (ihNext ends.tail) inNext
  | choice condition yes no next ihYes ihNo ihNext =>
      obtain ⟨-, inside, middle⟩ := placed_block placed
      obtain ⟨-, other, ends⟩ := placed_block middle
      rcases Option.or_eq_some_iff.1 found with inYes | ⟨-, later⟩
      · exact HasProc.shift (ihYes inside) inYes
      · rcases Option.or_eq_some_iff.1 later with inNo | ⟨-, inNext⟩
        · exact HasProc.shift (ihNo other) inNo
        · refine HasProc.shift (fun isFound => ?_) inNext
          have there := ihNext ends.tail isFound
          rwa [show start + (yes.size + 1 + (no.size + 2)) =
            start + yes.size + 1 + (no.size + 2) by omega]
  | proc other inner next ihInner ihNext =>
      obtain ⟨opens, inside, ends⟩ := placed_block placed
      rw [find?] at found
      split at found
      · cases found
        exact ⟨⟨_, _, opens⟩, inside, ends.head⟩
      · rcases Option.or_eq_some_iff.1 found with inInner | ⟨-, inNext⟩
        · exact HasProc.shift (ihInner inside) inInner
        · exact HasProc.shift (ihNext ends.tail) inNext

end Placing

end Program

/-! ## Lines that write a program -/

def SymbolTable.invocation? (symbols : SymbolTable) (word args : String) : Option Invocation :=
  (symbols.idOf? word).bind fun id =>
    (symbols.get? id).map fun symbol => Parse.invocationOf id symbol args

/-- Source lines that write a program, in whatever words. -/
inductive Writes (symbols : SymbolTable) : List SourceLine → Program → Prop where
  | done : Writes symbols [] .done
  | invoke {line : SourceLine} {rest : List SourceLine} {invocation : Invocation}
      {next : Program} (plain : line.keyword? = none)
      (known : symbols.invocation? line.word line.rest = some invocation)
      (others : Writes symbols rest next) :
      Writes symbols (line :: rest) (.invoke invocation next)
  | declare {line : SourceLine} {rest : List SourceLine} {everywhere : Bool}
      {name value : String} {next : Program} (opens : line.keyword? = some .declare)
      (given : line.rest.isEmpty = false)
      (reads : Parse.declaration line.rest = .ok (.declare everywhere name value))
      (others : Writes symbols rest next) :
      Writes symbols (line :: rest) (.declare everywhere name value next)
  | assign {line : SourceLine} {rest : List SourceLine} {name value : String} {next : Program}
      (opens : line.keyword? = some .assign) (given : line.rest.isEmpty = false)
      (splits : Outline.split line.rest = (name, value)) (others : Writes symbols rest next) :
      Writes symbols (line :: rest) (.assign name value next)
  | branch {line close : SourceLine} {inner rest : List SourceLine} {yes next : Program}
      (opens : line.keyword? = some .branch) (given : line.rest.isEmpty = false)
      (inside : Writes symbols inner yes) (closes : close.keyword? = some .endBranch)
      (others : Writes symbols rest next) :
      Writes symbols (line :: (inner ++ close :: rest)) (.branch line.rest yes next)
  | choice {line middle close : SourceLine} {inner other rest : List SourceLine}
      {yes no next : Program} (opens : line.keyword? = some .branch)
      (given : line.rest.isEmpty = false) (inside : Writes symbols inner yes)
      (divides : middle.keyword? = some .otherwise) (second : Writes symbols other no)
      (closes : close.keyword? = some .endBranch) (others : Writes symbols rest next) :
      Writes symbols (line :: (inner ++ middle :: (other ++ close :: rest)))
        (.choice line.rest yes no next)
  | repeats {line close : SourceLine} {inner rest : List SourceLine} {body next : Program}
      (opens : line.keyword? = some .repeatLoop) (given : line.rest.isEmpty = false)
      (inside : Writes symbols inner body) (closes : close.keyword? = some .next)
      (others : Writes symbols rest next) :
      Writes symbols (line :: (inner ++ close :: rest)) (.repeats line.rest body next)
  | tracks {line close : SourceLine} {inner rest : List SourceLine} {body next : Program}
      (opens : line.keyword? = some .trackLoop) (given : line.rest.isEmpty = false)
      (inside : Writes symbols inner body) (closes : close.keyword? = some .next)
      (others : Writes symbols rest next) :
      Writes symbols (line :: (inner ++ close :: rest)) (.tracks line.rest body next)
  | call {line : SourceLine} {rest : List SourceLine} {callee args : String} {next : Program}
      (opens : line.keyword? = some .call) (given : line.rest.isEmpty = false)
      (splits : Outline.split line.rest = (callee, args)) (others : Writes symbols rest next) :
      Writes symbols (line :: rest) (.call callee args next)
  | proc {line close : SourceLine} {inner rest : List SourceLine} {body next : Program}
      (opens : line.keyword? = some .proc) (inside : Writes symbols inner body)
      (closes : close.keyword? = some .endProc) (others : Writes symbols rest next) :
      Writes symbols (line :: (inner ++ close :: rest)) (.proc line.rest body next)

theorem isProc_of_keyword? {line : SourceLine} {keyword : Option Keyword}
    (isKeyword : line.keyword? = keyword) (other : keyword ≠ some .proc) (name : String) :
    line.isProc name = false := by
  rw [SourceLine.isProc, isKeyword, beq_false_of_ne other, Bool.false_and]

namespace Writes

variable {symbols : SymbolTable} {lines : List SourceLine} {program : Program}

theorem length (writes : Writes symbols lines program) : lines.length = program.size := by
  induction writes with
  | done => rfl
  | _ => simp [Program.size, *] <;> omega

/-- The outline of a source finds a proc where the program has it. -/
theorem findIdx? (writes : Writes symbols lines program) (name : String) :
    lines.findIdx? (fun line => line.isProc name) = program.entry name := by
  induction writes with
  | done => rfl
  | invoke opens _ _ ih | declare opens _ _ _ ih | assign opens _ _ _ ih | call opens _ _ _ ih =>
      rw [List.findIdx?_cons, isProc_of_keyword? opens nofun, ih]
      simp [Program.entry, Program.find?, Function.comp_def]
  | branch opens _ inside closes _ ihInner ihNext | repeats opens _ inside closes _ ihInner ihNext
  | tracks opens _ inside closes _ ihInner ihNext =>
      rw [List.findIdx?_cons, isProc_of_keyword? opens nofun, List.findIdx?_append,
        List.findIdx?_cons, isProc_of_keyword? closes nofun, ihInner, ihNext, inside.length]
      simp +arith [Program.entry, Program.find?, Function.comp_def, Option.map_or]
  | choice opens _ inside divides second closes _ ihYes ihNo ihNext =>
      rw [List.findIdx?_cons, isProc_of_keyword? opens nofun, List.findIdx?_append,
        List.findIdx?_cons, isProc_of_keyword? divides nofun, List.findIdx?_append,
        List.findIdx?_cons, isProc_of_keyword? closes nofun, ihYes, ihNo, ihNext, inside.length,
        second.length]
      simp +arith [Program.entry, Program.find?, Function.comp_def, Option.map_or]
  | @proc line close _ _ _ _ opens inside closes _ ihInner ihNext =>
      have named : line.isProc name = Text.sameName line.rest name := by
        rw [SourceLine.isProc, opens, beq_self_eq_true, Bool.true_and]
      rw [List.findIdx?_cons, named, List.findIdx?_append, List.findIdx?_cons,
        isProc_of_keyword? closes nofun, ihInner, ihNext, inside.length]
      simp only [Program.entry, Program.find?]
      split
      · rfl
      · simp +arith [Function.comp_def, Option.map_or]

end Writes

/-! ## Reading such lines -/

def Draft.extend (draft : Draft) (code : List Statement) : Draft :=
  { draft with statements := draft.statements ++ code }

def Draft.withOpened (draft : Draft) (opened : List (OpenBlock × Nat)) : Draft :=
  { draft with opened }

theorem Draft.extend_extend (draft : Draft) (front back : List Statement) :
    (draft.extend front).extend back = draft.extend (front ++ back) := by
  simp only [extend, List.append_assoc]

theorem Draft.index_extend (draft : Draft) (code : List Statement) :
    (draft.extend code).index = draft.index + code.length :=
  List.length_append

/-- The statement that closes a block comes behind it, and the one that opened it learns where. -/
theorem Draft.push_closeHere (draft : Draft) (opened : List (OpenBlock × Nat))
    (opening closing : Statement) (body : List Statement) :
    (((draft.extend (opening :: body)).withOpened opened).closeHere draft.index).push closing =
      (draft.extend (opening.closeAt (draft.index + body.length + 1) ::
        (body ++ [closing]))).withOpened opened := by
  have behind := modify_behind draft.statements body opening
    (Statement.closeAt (draft.index + body.length + 1))
  have index : ((draft.extend (opening :: body)).withOpened opened).index =
      draft.index + body.length + 1 := draft.index_extend (opening :: body)
  unfold push closeHere
  rw [index]
  simp only [extend, withOpened, Draft.index] at behind ⊢
  rw [behind, List.append_assoc, List.cons_append]

namespace Parse

variable {outline : Outline} {line : SourceLine} {more : List SourceLine} {draft later : Draft}

theorem value_readLines_cons (reads : (readLine outline line draft).value = .ok later) :
    (readLines outline (line :: more) draft).value = (readLines outline more later).value := by
  simp only [readLines, Logged.value_bind, reads]

theorem require_of_given (given : line.rest.isEmpty = false) (what : String) :
    require line what = .ok line.rest := by
  rw [require, given]
  rfl

/-- Reading some lines lays out a program, whatever has been read and whatever follows. -/
def LaysOut (outline : Outline) (symbols : SymbolTable) (lines : List SourceLine)
    (program : Program) : Prop :=
  ∀ (draft : Draft) (more : List SourceLine), draft.symbols = symbols →
    (readLines outline (lines ++ more) draft).value =
      (readLines outline more (draft.extend (program.code outline.procIndex? draft.index))).value

variable {symbols : SymbolTable} {inner rest : List SourceLine} {program next : Program}
  {opening closing : Statement}

theorem LaysOut.behind (others : LaysOut outline symbols rest next)
    (same : draft.symbols = symbols) (front : List Statement) (more : List SourceLine) :
    (readLines outline (rest ++ more) (draft.extend front)).value =
      (readLines outline more
        (draft.extend
          (front ++ next.code outline.procIndex? (draft.index + front.length)))).value := by
  have later := others (draft.extend front) more same
  rwa [Draft.index_extend, Draft.extend_extend] at later

theorem laysOut_plain (same : draft.symbols = symbols)
    (reads : (readLine outline line draft).value = .ok (draft.push opening))
    (others : LaysOut outline symbols rest next) :
    (readLines outline (line :: rest ++ more) draft).value =
      (readLines outline more
        (draft.extend (opening :: next.code outline.procIndex? (draft.index + 1)))).value :=
  (value_readLines_cons reads).trans (others.behind same [opening] more)

/-- A part of a block, from the statement that opens it to the one that closes it. -/
theorem readLines_part {close : SourceLine} {opened later : List (OpenBlock × Nat)}
    (same : draft.symbols = symbols) (inside : LaysOut outline symbols inner program)
    (closes : ∀ within : Draft, within.opened = opened →
      within.index = draft.index + program.size + 1 →
      (readLine outline close within).value =
        .ok (((within.withOpened later).closeHere draft.index).push closing)) :
    (readLines outline (inner ++ close :: more)
        ((draft.extend [opening]).withOpened opened)).value =
      (readLines outline more
        ((draft.extend (opening.closeAt (draft.index + program.size + 1) ::
          (program.code outline.procIndex? (draft.index + 1) ++ [closing]))).withOpened
            later)).value := by
  have index : ((draft.extend [opening]).withOpened opened).index = draft.index + 1 :=
    draft.index_extend [opening]
  have within : (((draft.extend [opening]).withOpened opened).extend
      (program.code outline.procIndex? (draft.index + 1))) =
      (draft.extend (opening :: program.code outline.procIndex? (draft.index + 1))).withOpened
        opened := by
    simp only [Draft.extend, Draft.withOpened, List.append_assoc, List.singleton_append]
  refine (inside ((draft.extend [opening]).withOpened opened) (close :: more) same).trans ?_
  rw [index, within]
  refine (value_readLines_cons (closes _ rfl ?_)).trans ?_
  · change ((draft.extend _)).index = _
    rw [Draft.index_extend, List.length_cons, Program.length_code, Nat.add_assoc]
  · have closed := draft.push_closeHere later opening closing
      (program.code outline.procIndex? (draft.index + 1))
    rw [Program.length_code] at closed
    rw [← closed]
    rfl

/-- A whole block, and what follows it. -/
theorem laysOut_block {close : SourceLine} {block : OpenBlock} {number : Nat}
    (same : draft.symbols = symbols)
    (opens : (readLine outline line draft).value =
      .ok ((draft.openBlock block number).push opening))
    (inside : LaysOut outline symbols inner program)
    (closes : ∀ within : Draft, within.opened = (block, number) :: draft.opened →
      (readLine outline close within).value =
        .ok (((within.withOpened draft.opened).closeHere draft.index).push closing))
    (others : LaysOut outline symbols rest next) :
    (readLines outline (line :: (inner ++ close :: rest) ++ more) draft).value =
      (readLines outline more
        (draft.extend (opening.closeAt (draft.index + program.size + 1) ::
          (program.code outline.procIndex? (draft.index + 1) ++ closing ::
            next.code outline.procIndex? (draft.index + (program.size + 2)))))).value := by
  rw [List.cons_append, List.append_assoc, List.cons_append]
  refine (value_readLines_cons opens).trans ?_
  refine (readLines_part same inside fun within isOpened _ => closes within isOpened).trans ?_
  have later := others.behind same
    (opening.closeAt (draft.index + program.size + 1) ::
      (program.code outline.procIndex? (draft.index + 1) ++ [closing])) more
  rw [List.length_cons, List.length_append, Program.length_code, List.length_singleton,
    List.cons_append, List.append_assoc, List.singleton_append] at later
  exact later

/-! ## Single lines -/

theorem readLine_of_keyword {keyword : Keyword} (isKeyword : line.keyword? = some keyword) :
    (readLine outline line draft).value = keywordLine outline line draft keyword := by
  rw [readLine, isKeyword]
  rfl

theorem readLine_invoke {invocation : Invocation} (same : draft.symbols = symbols)
    (plain : line.keyword? = none)
    (known : symbols.invocation? line.word line.rest = some invocation) :
    (readLine outline line draft).value = .ok (draft.push (.invoke invocation)) := by
  subst same
  obtain ⟨id, isId, found⟩ := Option.bind_eq_some_iff.1 known
  obtain ⟨symbol, isSymbol, isInvocation⟩ := Option.map_eq_some_iff.1 found
  have reads : (readLine outline line draft).value = .ok (symbolLine line draft).value := by
    rw [readLine, plain]
    rfl
  rw [reads]
  simp only [value_symbolLine, SymbolTable.intern_of_idOf? isId, isSymbol, Option.getD_some,
    isInvocation]

theorem readLine_declare {everywhere : Bool} {name value : String}
    (opens : line.keyword? = some .declare) (given : line.rest.isEmpty = false)
    (reads : declaration line.rest = .ok (.declare everywhere name value)) :
    (readLine outline line draft).value = .ok (draft.push (.declare everywhere name value)) := by
  rw [readLine_of_keyword opens, keywordLine, require_of_given given]
  simp only [bind, Except.bind, reads, pure, Except.pure]

theorem readLine_assign {name value : String} (opens : line.keyword? = some .assign)
    (given : line.rest.isEmpty = false) (splits : Outline.split line.rest = (name, value)) :
    (readLine outline line draft).value = .ok (draft.push (.assign name value)) := by
  rw [readLine_of_keyword opens, keywordLine, require_of_given given]
  simp only [bind, Except.bind, splits, pure, Except.pure]

theorem readLine_call {callee args : String} (opens : line.keyword? = some .call)
    (given : line.rest.isEmpty = false) (splits : Outline.split line.rest = (callee, args)) :
    (readLine outline line draft).value =
      .ok (draft.push (.call (Program.target outline.procIndex? callee) args)) := by
  rw [readLine_of_keyword opens, keywordLine, require_of_given given, Program.target]
  simp only [bind, Except.bind, splits, pure, Except.pure]
  cases outline.procIndex? callee <;> rfl

theorem readLine_branch (opens : line.keyword? = some .branch)
    (given : line.rest.isEmpty = false) :
    (readLine outline line draft).value =
      .ok ((draft.openBlock (.branch draft.index none) line.number).push
        (.branch (condition line.rest) draft.index)) := by
  rw [readLine_of_keyword opens, keywordLine, require_of_given given]
  rfl

theorem readLine_repeatLoop (opens : line.keyword? = some .repeatLoop)
    (given : line.rest.isEmpty = false) :
    (readLine outline line draft).value =
      .ok ((draft.openBlock (.loop draft.index) line.number).push
        (.repeatLoop line.rest draft.index)) := by
  rw [readLine_of_keyword opens, keywordLine, require_of_given given]
  rfl

theorem readLine_trackLoop (opens : line.keyword? = some .trackLoop)
    (given : line.rest.isEmpty = false) :
    (readLine outline line draft).value =
      .ok ((draft.openBlock (.loop draft.index) line.number).push
        (.trackLoop line.rest draft.index)) := by
  rw [readLine_of_keyword opens, keywordLine, require_of_given given]
  rfl

theorem readLine_proc (opens : line.keyword? = some .proc) :
    (readLine outline line draft).value =
      .ok ((draft.openBlock (.proc draft.index) line.number).push
        (.proc line.rest draft.index)) := by
  rw [readLine_of_keyword opens]
  rfl

section Closing

variable {number start : Nat} {below : List (OpenBlock × Nat)}

theorem readLine_otherwise (divides : line.keyword? = some .otherwise)
    (isOpened : draft.opened = (.branch start none, number) :: below) :
    (readLine outline line draft).value =
      .ok (((draft.withOpened ((.branch start (some draft.index), number) :: below)).closeHere
        start).push (.otherwise draft.index)) := by
  rw [readLine_of_keyword divides, keywordLine, otherwise, isOpened]
  rfl

theorem readLine_endBranch {part : Option Nat} (closes : line.keyword? = some .endBranch)
    (isOpened : draft.opened = (.branch start part, number) :: below) :
    (readLine outline line draft).value =
      .ok (((draft.withOpened below).closeHere (part.getD start)).push .endBranch) := by
  rw [readLine_of_keyword closes, keywordLine, endBranch, isOpened]
  rfl

theorem readLine_next (closes : line.keyword? = some .next)
    (isOpened : draft.opened = (.loop start, number) :: below) :
    (readLine outline line draft).value =
      .ok (((draft.withOpened below).closeHere start).push (.next start)) := by
  rw [readLine_of_keyword closes, keywordLine, Parse.next, isOpened]
  rfl

theorem readLine_endProc (closes : line.keyword? = some .endProc)
    (isOpened : draft.opened = (.proc start, number) :: below) :
    (readLine outline line draft).value =
      .ok (((draft.withOpened below).closeHere start).push .endProc) := by
  rw [readLine_of_keyword closes, keywordLine, endProc, isOpened]
  rfl

end Closing

/-- A branch of two parts: the `Else` is told to the `If`, and is told of the `Endif` itself. -/
theorem laysOut_choice {middle close : SourceLine} {other : List SourceLine} {no : Program}
    (same : draft.symbols = symbols) (opens : line.keyword? = some .branch)
    (given : line.rest.isEmpty = false) (inside : LaysOut outline symbols inner program)
    (divides : middle.keyword? = some .otherwise) (second : LaysOut outline symbols other no)
    (closes : close.keyword? = some .endBranch) (others : LaysOut outline symbols rest next) :
    (readLines outline (line :: (inner ++ middle :: (other ++ close :: rest)) ++ more)
        draft).value =
      (readLines outline more
        (draft.extend ((Program.choice line.rest program no next).code outline.procIndex?
          draft.index))).value := by
  let opened (part : Option Nat) : List (OpenBlock × Nat) :=
    (.branch draft.index part, line.number) :: draft.opened
  let half : Draft := draft.extend (.branch (condition line.rest)
    (draft.index + program.size + 1) :: program.code outline.procIndex? (draft.index + 1))
  have index : half.index = draft.index + program.size + 1 := by
    rw [Draft.index_extend, List.length_cons, Program.length_code, Nat.add_assoc]
  let parted : Draft :=
    (half.extend [.otherwise half.index]).withOpened (opened (some half.index))
  have firstPart : (readLines outline (inner ++ middle :: (other ++ close :: (rest ++ more)))
      ((draft.extend [.branch (condition line.rest) draft.index]).withOpened
        (opened none))).value =
      (readLines outline (other ++ close :: (rest ++ more)) parted).value := by
    have whole : parted = (draft.extend (.branch (condition line.rest)
        (draft.index + program.size + 1) :: (program.code outline.procIndex? (draft.index + 1) ++
          [.otherwise half.index]))).withOpened (opened (some half.index)) :=
      congrArg (Draft.withOpened · _) (draft.extend_extend _ _)
    rw [whole]
    refine readLines_part same inside fun within isOpened isIndex => ?_
    rw [index, ← isIndex]
    exact readLine_otherwise divides isOpened
  have secondPart : (readLines outline (other ++ close :: (rest ++ more)) parted).value =
      (readLines outline (rest ++ more)
        ((half.extend (.otherwise (half.index + no.size + 1) ::
          (no.code outline.procIndex? (half.index + 1) ++ [.endBranch]))).withOpened
            draft.opened)).value :=
    readLines_part same second fun within isOpened _ => readLine_endBranch closes isOpened
  have behind := others.behind (show half.symbols = _ from same)
    (.otherwise (half.index + no.size + 1) ::
      (no.code outline.procIndex? (half.index + 1) ++ [.endBranch])) more
  rw [List.cons_append, List.append_assoc, List.cons_append, List.append_assoc, List.cons_append]
  refine (value_readLines_cons (readLine_branch opens given)).trans
    (firstPart.trans (secondPart.trans (behind.trans ?_)))
  rw [List.length_cons, List.length_append, Program.length_code, List.length_singleton,
    Draft.extend_extend, index, Program.code]
  simp only [List.cons_append, List.append_assoc, List.nil_append]

end Parse

/-- Reading the lines that write a program lays it out behind what has been read. -/
theorem Writes.laysOut {symbols : SymbolTable} {lines : List SourceLine} {program : Program}
    (writes : Writes symbols lines program) (outline : Outline) :
    Parse.LaysOut outline symbols lines program := by
  induction writes with
  | done =>
      intro draft more same
      rw [List.nil_append, Program.code, Draft.extend, List.append_nil]
  | invoke plain known others ih =>
      intro draft more same
      exact Parse.laysOut_plain same (Parse.readLine_invoke same plain known) ih
  | declare opens given reads others ih =>
      intro draft more same
      exact Parse.laysOut_plain same (Parse.readLine_declare opens given reads) ih
  | assign opens given splits others ih =>
      intro draft more same
      exact Parse.laysOut_plain same (Parse.readLine_assign opens given splits) ih
  | call opens given splits others ih =>
      intro draft more same
      exact Parse.laysOut_plain same (Parse.readLine_call opens given splits) ih
  | branch opens given inside closes others ihYes ihNext =>
      intro draft more same
      exact Parse.laysOut_block same (Parse.readLine_branch opens given) ihYes
        (fun within isOpened => Parse.readLine_endBranch closes isOpened) ihNext
  | choice opens given inside divides second closes others ihYes ihNo ihNext =>
      intro draft more same
      exact Parse.laysOut_choice same opens given ihYes divides ihNo closes ihNext
  | repeats opens given inside closes others ihBody ihNext =>
      intro draft more same
      exact Parse.laysOut_block same (Parse.readLine_repeatLoop opens given) ihBody
        (fun within isOpened => Parse.readLine_next closes isOpened) ihNext
  | tracks opens given inside closes others ihBody ihNext =>
      intro draft more same
      exact Parse.laysOut_block same (Parse.readLine_trackLoop opens given) ihBody
        (fun within isOpened => Parse.readLine_next closes isOpened) ihNext
  | proc opens inside closes others ihBody ihNext =>
      intro draft more same
      exact Parse.laysOut_block same (Parse.readLine_proc opens) ihBody
        (fun within isOpened => Parse.readLine_endProc closes isOpened) ihNext

def Outline.scriptOf (outline : Outline) (program : Program) : Script where
  toScriptHeader := outline.header
  statements := program.layout
  lines := outline.lines.map SourceLine.number

/-- A source whose lines write a program is read, and makes no new symbols. -/
theorem Writes.parse {name source : String} {symbols : SymbolTable} {outline : Outline}
    {program : Program} (writes : Writes symbols outline.lines program)
    (outlined : Outline.ofSource name source = .ok outline) :
    (Script.parse name source symbols).value = (.ok (outline.scriptOf program), symbols) := by
  have reads := writes.laysOut outline { symbols } [] rfl
  have entries : outline.procIndex? = program.entry := funext writes.findIdx?
  rw [List.append_nil, entries] at reads
  simp only [Script.parse, outlined, Logged.value_bind, reads]
  rfl

end Looper
