import Looper.Proofs.Binding.Interning
import Looper.Proofs.Script.Nesting
import Looper.Proofs.Script.Program

/-!
# What a line adds to a script

Every line that is read adds one statement, which its keyword and the names of the
outline determine (`SourceLine.Yields`).  How the statement stands among the open
blocks determines what else happens to the draft (`Draft.Takes`): an earlier
statement may learn where its block goes on, a reserved label may get its slot, and
names may become symbols.
-/

namespace Looper

/-- Changing a member without effect on what is looked at has no effect on what is seen. -/
theorem map_modify {α β : Type} {look : α → β} {change : α → α}
    (same : ∀ a, look (change a) = look a) (list : List α) (index : Nat) :
    (list.modify index change).map look = list.map look := by
  induction list generalizing index with
  | nil => rw [List.modify_nil]
  | cons first rest ih =>
      cases index with
      | zero => rw [List.modify_zero_cons, List.map_cons, List.map_cons, same]
      | succ index => rw [List.modify_succ_cons, List.map_cons, List.map_cons, ih]

theorem ok_of_bind {ε α β : Type} {first : Except ε α} {next : α → Except ε β} {result : β}
    (succeeds : first >>= next = .ok result) :
    ∃ value, first = .ok value ∧ next value = .ok result := by
  cases first with
  | error fault => cases succeeds
  | ok value => exact ⟨value, rfl, succeeds⟩

/-! ## The statement of a line -/

/-- The statement that a line with a keyword yields, wherever a block goes on. -/
def SourceLine.Yields (outline : Outline) (line : SourceLine) (statement : Statement) :
    Keyword → Prop
  | .label => statement = .label line.rest (LabelKind.ofName line.rest)
  | .jump => ∃ label, outline.labelIndex? line.rest = some label ∧ statement = .jump label
  | .call => statement =
      .call (Program.target outline.procIndex? (Outline.split line.rest).1)
        (Outline.split line.rest).2
  | .warp => ∃ proc, outline.procIndex? line.rest = some proc ∧ statement = .warp proc
  | .proc => ∃ close, statement = .proc line.rest close
  | .endProc => statement = .endProc
  | .declare => Parse.declaration line.rest = .ok statement
  | .assign => statement = .assign (Outline.split line.rest).1 (Outline.split line.rest).2
  | .use => statement = .use (Outline.split line.rest).1 (Outline.split line.rest).2
  | .branch => ∃ close, statement = .branch (Parse.condition line.rest) close
  | .otherwise => ∃ close, statement = .otherwise close
  | .endBranch => statement = .endBranch
  | .repeatLoop => ∃ next, statement = .repeatLoop line.rest next
  | .trackLoop => ∃ next, statement = .trackLoop line.rest next
  | .next => ∃ start, statement = .next start
  | .wait => ∃ kind, statement = .wait kind
  | .request kind | .demand kind _ => statement = Parse.requestOf kind line.rest
  | .diff => statement =
      .request .diff [(Outline.split line.rest).1, (Outline.split line.rest).2]
  | .finish => statement = .finish

/-! ## How a draft takes a statement -/

/-- A block that was opened at an index by a statement. -/
inductive OpenBlock.OpenedBy (start : Nat) : OpenBlock → Statement → Prop where
  | branch (condition : Condition) (target : Nat) :
      OpenedBy start (.branch start none) (.branch condition target)
  | repeatLoop (count : String) (target : Nat) :
      OpenedBy start (.loop start) (.repeatLoop count target)
  | trackLoop (tracks : String) (target : Nat) :
      OpenedBy start (.loop start) (.trackLoop tracks target)
  | proc (name : String) (target : Nat) : OpenedBy start (.proc start) (.proc name target)

/--
A statement, to be added at an index, continues or closes the innermost open block;
it is announced to an earlier statement, and leaves the given blocks open.
-/
inductive Statement.Continues (index : Nat) :
    Statement → List (OpenBlock × Nat) → Nat → List (OpenBlock × Nat) → Prop where
  | endProc {start line : Nat} {opened : List (OpenBlock × Nat)} :
      Continues index .endProc ((.proc start, line) :: opened) start opened
  | next {start line : Nat} {opened : List (OpenBlock × Nat)} :
      Continues index (.next start) ((.loop start, line) :: opened) start opened
  | endBranch {start line : Nat} {part : Option Nat} {opened : List (OpenBlock × Nat)} :
      Continues index .endBranch ((.branch start part, line) :: opened) (part.getD start) opened
  | otherwise {start line : Nat} {opened : List (OpenBlock × Nat)} :
      Continues index (.otherwise index) ((.branch start none, line) :: opened) start
        ((.branch start (some index), line) :: opened)

namespace Draft

/-- The draft that another one becomes when it takes a statement. -/
inductive Takes (draft : Draft) : Statement → Draft → Prop where
  /-- The statement is outside of the block structure, and names may have become symbols. -/
  | plain {statement : Statement} {symbols : SymbolTable}
      (interns : draft.symbols.Interns symbols) (alone : statement.isPlain = true) :
      Takes draft statement ({ draft with symbols }.push statement)
  /-- A label gets the slot of its kind. -/
  | label (name : String) :
      Takes draft (.label name (LabelKind.ofName name))
        ({ draft with labels := draft.labels.set (LabelKind.ofName name) draft.index }.push
          (.label name (LabelKind.ofName name)))
  | opens {statement : Statement} {block : OpenBlock} (line : Nat)
      (opens : block.OpenedBy draft.index statement) :
      Takes draft statement ((draft.openBlock block line).push statement)
  | continues {statement : Statement} {start : Nat} {opened : List (OpenBlock × Nat)}
      (continues : statement.Continues draft.index draft.opened start opened) :
      Takes draft statement (({ draft with opened }.closeHere start).push statement)

/--
A draft goes on by one statement: whatever is looked at in statements that is not
where their blocks go on, stays as it was in those before.
-/
structure Adds (before : Draft) (statement : Statement) (after : Draft) : Prop where
  symbols : before.symbols.Interns after.symbols
  statements : ∀ {α : Type} {look : Statement → α},
    (∀ index other, look (Statement.closeAt index other) = look other) →
      after.statements.map look = before.statements.map look ++ [look statement]

variable {draft within later : Draft} {statement : Statement}

theorem Adds.push (symbols : draft.symbols.Interns within.symbols)
    (same : within.statements = draft.statements) :
    draft.Adds statement (within.push statement) where
  symbols := symbols
  statements _ := by rw [Draft.push, List.map_append, same, List.map_singleton]

theorem Takes.adds (takes : draft.Takes statement later) : draft.Adds statement later := by
  cases takes with
  | plain interns alone => exact .push interns rfl
  | label name => exact .push .refl rfl
  | opens line opens => exact .push .refl rfl
  | continues continues =>
      refine ⟨.refl, fun blind => ?_⟩
      rw [Draft.push, List.map_append, List.map_singleton, closeHere, map_modify (blind _)]

theorem Adds.filterMap (adds : draft.Adds statement later) {α : Type}
    {look : Statement → Option α}
    (blind : ∀ index other, look (Statement.closeAt index other) = look other) :
    later.statements.filterMap look =
      draft.statements.filterMap look ++ (look statement).toList := by
  have seen (statements : List Statement) :
      statements.filterMap look = (statements.map look).filterMap id := by
    rw [List.filterMap_map, Function.id_comp]
  rw [seen, seen, adds.statements blind, List.filterMap_append]
  cases look statement <;> rfl

end Draft

/-! ## Reading a line -/

namespace Parse

variable {outline : Outline} {draft later : Draft} {line : SourceLine}

theorem ok_of_require {α : Type} {what : String} {next : String → Except ScriptFault α}
    {result : α} (reads : require line what >>= next = .ok result) :
    next line.rest = .ok result := by
  obtain ⟨text, given, reads⟩ := ok_of_bind reads
  unfold require at given
  split at given <;> cases given
  exact reads

theorem declare_of_declaration {rest : String} {statement : Statement}
    (reads : declaration rest = .ok statement) :
    ∃ everywhere name value, statement = .declare everywhere name value := by
  unfold declaration at reads
  split at reads
  split at reads
  split at reads
  · cases reads
  · exact ⟨_, _, _, (Except.ok.inj reads).symm⟩

theorem interns_wait {symbols grown : SymbolTable} {kind : WaitKind}
    (reads : wait line symbols = .ok (kind, grown)) : symbols.Interns grown := by
  have reads := ok_of_require reads
  dsimp only at reads
  split at reads
  · cases reads; exact .refl
  · cases reads; exact .refl
  · cases reads; exact .refl
  · split at reads <;> cases reads
    exact .refl
  · split at reads <;> cases reads
    exact .intern symbols _
  · split at reads <;> cases reads
    exact .refl

theorem takes_endProc (reads : endProc draft = .ok later) : draft.Takes .endProc later := by
  unfold endProc at reads
  split at reads
  · next start line opened innermost =>
      cases reads
      exact .continues (innermost ▸ .endProc)
  · cases reads

theorem takes_next (reads : next draft = .ok later) :
    ∃ start, draft.Takes (.next start) later := by
  unfold next at reads
  split at reads
  · next start line opened innermost =>
      cases reads
      exact ⟨start, .continues (innermost ▸ .next)⟩
  · cases reads

theorem takes_endBranch (reads : endBranch draft = .ok later) : draft.Takes .endBranch later := by
  unfold endBranch at reads
  split at reads
  · next start part line opened innermost =>
      cases reads
      exact .continues (innermost ▸ .endBranch)
  · cases reads

theorem takes_otherwise (reads : otherwise draft = .ok later) :
    ∃ close, draft.Takes (.otherwise close) later := by
  unfold otherwise at reads
  split at reads
  · next start line opened innermost =>
      cases reads
      exact ⟨draft.index, .continues (innermost ▸ .otherwise)⟩
  · cases reads

/-- A line with a keyword that can be read adds the statement that it yields. -/
theorem takes_keywordLine {keyword : Keyword}
    (reads : keywordLine outline line draft keyword = .ok later) :
    ∃ statement, line.Yields outline statement keyword ∧ draft.Takes statement later := by
  cases keyword with
  | label => cases reads; exact ⟨_, rfl, .label line.rest⟩
  | jump =>
      have reads := ok_of_require reads
      split at reads
      · next label found => cases reads; exact ⟨_, ⟨label, found, rfl⟩, .plain .refl rfl⟩
      · cases reads
  | call =>
      have reads := ok_of_require reads
      refine ⟨_, rfl, ?_⟩
      dsimp only at reads
      rw [Program.target]
      cases found : outline.procIndex? (Outline.split line.rest).1 with
      | some proc =>
          rw [found] at reads
          cases reads
          exact .plain .refl rfl
      | none =>
          rw [found] at reads
          cases reads
          exact .plain .refl rfl
  | warp =>
      have reads := ok_of_require reads
      split at reads
      · next proc found => cases reads; exact ⟨_, ⟨proc, found, rfl⟩, .plain .refl rfl⟩
      · cases reads
  | proc => cases reads; exact ⟨_, ⟨_, rfl⟩, .opens _ (.proc _ _)⟩
  | endProc => exact ⟨_, rfl, takes_endProc reads⟩
  | declare =>
      obtain ⟨statement, declares, reads⟩ := ok_of_bind (ok_of_require reads)
      obtain ⟨everywhere, name, value, rfl⟩ := declare_of_declaration declares
      cases reads
      exact ⟨_, declares, .plain .refl rfl⟩
  | assign | use | demand =>
      cases ok_of_require reads
      exact ⟨_, rfl, .plain .refl rfl⟩
  | branch =>
      cases ok_of_require reads
      exact ⟨_, ⟨_, rfl⟩, .opens _ (.branch _ _)⟩
  | otherwise =>
      obtain ⟨close, takes⟩ := takes_otherwise reads
      exact ⟨_, ⟨close, rfl⟩, takes⟩
  | endBranch => exact ⟨_, rfl, takes_endBranch reads⟩
  | repeatLoop =>
      cases ok_of_require reads
      exact ⟨_, ⟨_, rfl⟩, .opens _ (.repeatLoop _ _)⟩
  | trackLoop =>
      cases ok_of_require reads
      exact ⟨_, ⟨_, rfl⟩, .opens _ (.trackLoop _ _)⟩
  | next =>
      obtain ⟨start, takes⟩ := takes_next reads
      exact ⟨_, ⟨start, rfl⟩, takes⟩
  | wait =>
      obtain ⟨⟨kind, symbols⟩, waits, reads⟩ := ok_of_bind reads
      cases reads
      exact ⟨_, ⟨kind, rfl⟩, .plain (interns_wait waits) rfl⟩
  | request | finish => cases reads; exact ⟨_, rfl, .plain .refl rfl⟩
  | diff =>
      have reads := ok_of_require reads
      dsimp only at reads
      split at reads <;> cases reads
      exact ⟨_, rfl, .plain .refl rfl⟩

/-- The invocation is made from the symbol as it is when the line is read. -/
theorem value_symbolLine (line : SourceLine) (draft : Draft) :
    (symbolLine line draft).value =
      { draft with symbols := (draft.symbols.intern line.word).2 }.push
        (.invoke (invocationOf (draft.symbols.intern line.word).1
          (((draft.symbols.intern line.word).2.get? (draft.symbols.intern line.word).1).getD
            ⟨line.word, none⟩) line.rest)) := by
  unfold symbolLine
  dsimp only
  split <;> rfl

/-- A line that invokes a symbol can always be read, and its word becomes one. -/
theorem takes_symbolLine (line : SourceLine) (draft : Draft) :
    ∃ invocation, draft.Takes (.invoke invocation) (symbolLine line draft).value := by
  rw [value_symbolLine]
  exact ⟨_, .plain (.intern draft.symbols line.word) rfl⟩

end Parse

end Looper
