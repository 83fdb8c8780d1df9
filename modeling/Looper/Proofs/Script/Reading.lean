import Looper.Proofs.Script.Adding

/-!
# What reading a script guarantees

While a script is being read, its statements are whole blocks cut off within the
blocks that are still open: `Opened` has one constructor for each way in which
the innermost open block can have begun.  Closing a block puts back what
`Nested` needs, so that a script without open blocks is `Script.IsSound`.
Loading scripts and bringing them up to date keeps a library of sound scripts.
-/

namespace Looper

/-! ## Open blocks -/

/-- Statements that form whole blocks, except for those that are still open. -/
inductive Opened : List (OpenBlock × Nat) → List Statement → Prop where
  | nil {statements : List Statement} (whole : Nested 0 statements) : Opened [] statements
  | block {opened : List (OpenBlock × Nat)} {before body : List Statement}
      {block : OpenBlock} {first : Statement} {line : Nat} (outer : Opened opened before)
      (opens : block.OpenedBy before.length first) (inner : Nested (before.length + 1) body) :
      Opened ((block, line) :: opened) (before ++ first :: body)
  | choice {opened : List (OpenBlock × Nat)} {before body other : List Statement}
      {condition : Condition} {line target : Nat} (outer : Opened opened before)
      (inner : Nested (before.length + 1) body)
      (second : Nested (before.length + 1 + body.length + 1) other) :
      Opened
        ((.branch before.length (some (before.length + 1 + body.length)), line) :: opened)
        (before ++ .branch condition (before.length + 1 + body.length) ::
          (body ++ .otherwise target :: other))

theorem Opened.append {opened : List (OpenBlock × Nat)} {statements more : List Statement}
    (within : Opened opened statements) (whole : Nested statements.length more) :
    Opened opened (statements ++ more) := by
  cases within with
  | nil nested =>
      exact .nil (nested.append (by rwa [Nat.zero_add]))
  | @block opened before body block first line outer opens inner =>
      rw [List.append_assoc, List.cons_append]
      refine .block outer opens (inner.append ?_)
      rw [List.length_append, List.length_cons] at whole
      rwa [show before.length + 1 + body.length = before.length + (body.length + 1) by omega]
  | @choice opened before body other condition line target outer inner second =>
      simp only [List.append_assoc, List.cons_append]
      refine .choice outer inner (second.append ?_)
      simp only [List.length_append, List.length_cons] at whole
      rwa [show before.length + 1 + body.length + 1 + other.length =
        before.length + (body.length + (other.length + 1) + 1) by omega]

theorem modify_behind (before body : List Statement) (first : Statement)
    (change : Statement → Statement) :
    (before ++ first :: body).modify before.length change = before ++ change first :: body := by
  induction before with
  | nil => rfl
  | cons other before ih =>
      rw [List.cons_append, List.length_cons, List.modify_succ_cons, ih, List.cons_append]

theorem Nested.single {start : Nat} {first last : Statement} {body : List Statement}
    (pair : Statement.Encloses start (start + 1 + body.length) first last)
    (inner : Nested (start + 1) body) : Nested start (first :: (body ++ [last])) :=
  .block pair inner (.nil _)

/-- The innermost block is closed by telling its first statement where it ends. -/
theorem Opened.close {opened : List (OpenBlock × Nat)} {before body : List Statement}
    {first last : Statement} (outer : Opened opened before)
    (inner : Nested (before.length + 1) body)
    (pair : Statement.Encloses before.length (before.length + 1 + body.length)
      (first.closeAt (before.length + 1 + body.length)) last) :
    Opened opened
      ((before ++ first :: body).modify before.length
        (Statement.closeAt (before ++ first :: body).length) ++ [last]) := by
  rw [modify_behind, List.append_assoc, List.cons_append, List.length_append, List.length_cons,
    show before.length + (body.length + 1) = before.length + 1 + body.length by omega]
  exact outer.append (.single pair inner)

theorem Opened.endProc {opened : List (OpenBlock × Nat)} {statements : List Statement}
    {start line : Nat} (within : Opened ((.proc start, line) :: opened) statements) :
    Opened opened
      (statements.modify start (Statement.closeAt statements.length) ++ [.endProc]) := by
  cases within with
  | block outer opens inner =>
      cases opens with
      | proc name target => exact outer.close inner (.proc name)

theorem Opened.next {opened : List (OpenBlock × Nat)} {statements : List Statement}
    {start line : Nat} (within : Opened ((.loop start, line) :: opened) statements) :
    Opened opened
      (statements.modify start (Statement.closeAt statements.length) ++ [.next start]) := by
  cases within with
  | block outer opens inner =>
      cases opens with
      | repeatLoop count target => exact outer.close inner (.repeatLoop count)
      | trackLoop tracks target => exact outer.close inner (.trackLoop tracks)

/-- An `Endif` is announced to the `Else` if there is one, and to the `If` otherwise. -/
theorem Opened.endBranch {opened : List (OpenBlock × Nat)} {statements : List Statement}
    {start line : Nat} {part : Option Nat}
    (within : Opened ((.branch start part, line) :: opened) statements) :
    Opened opened
      (statements.modify (part.getD start) (Statement.closeAt statements.length) ++
        [.endBranch]) := by
  cases within with
  | block outer opens inner =>
      cases opens with
      | branch condition target => exact outer.close inner (.branch condition)
  | @choice _ before body other condition _ target outer inner second =>
      have divide : before ++ Statement.branch condition (before.length + 1 + body.length) ::
            (body ++ .otherwise target :: other) =
          (before ++ .branch condition (before.length + 1 + body.length) :: body) ++
            .otherwise target :: other := by
        rw [List.append_assoc, List.cons_append]
      have isElse : (before ++
          Statement.branch condition (before.length + 1 + body.length) :: body).length =
          before.length + 1 + body.length := by
        rw [List.length_append, List.length_cons]
        omega
      have changed := modify_behind
        (before ++ .branch condition (before.length + 1 + body.length) :: body) other
        (.otherwise target) (Statement.closeAt (before.length + 1 + body.length + 1 + other.length))
      rw [isElse] at changed
      rw [divide, Option.getD_some, List.length_append, isElse, List.length_cons,
        show before.length + 1 + body.length + (other.length + 1) =
          before.length + 1 + body.length + 1 + other.length by omega, changed]
      have closed := outer.append
        (@Nested.choice before.length condition body other [] inner second (.nil _))
      simpa only [Statement.closeAt, List.append_assoc, List.cons_append] using closed

theorem Opened.otherwise {opened : List (OpenBlock × Nat)} {statements : List Statement}
    {start line : Nat} (within : Opened ((.branch start none, line) :: opened) statements) :
    Opened ((.branch start (some statements.length), line) :: opened)
      (statements.modify start (Statement.closeAt statements.length) ++
        [.otherwise statements.length]) := by
  cases within with
  | @block _ before body block first _ outer opens inner =>
      cases opens with
      | branch condition target =>
          rw [modify_behind, List.append_assoc, List.cons_append, List.length_append,
            List.length_cons,
            show before.length + (body.length + 1) = before.length + 1 + body.length by omega]
          exact .choice outer inner (.nil _)

/-- Whichever way the innermost open block goes on, the blocks stay cut off within each other. -/
theorem Opened.continues {before after : List (OpenBlock × Nat)} {statements : List Statement}
    {statement : Statement} {start : Nat} (within : Opened before statements)
    (continues : statement.Continues statements.length before start after) :
    Opened after
      (statements.modify start (Statement.closeAt statements.length) ++ [statement]) := by
  cases continues with
  | endProc => exact within.endProc
  | next => exact within.next
  | endBranch => exact within.endBranch
  | otherwise => exact within.otherwise

theorem Opened.openBlock {opened : List (OpenBlock × Nat)} {statements : List Statement}
    {block : OpenBlock} {first : Statement} {line : Nat} (within : Opened opened statements)
    (opens : block.OpenedBy statements.length first) :
    Opened ((block, line) :: opened) (statements ++ [first]) :=
  .block within opens (.nil _)

/-- A statement that neither opens, continues nor closes a block leaves the open blocks alone. -/
theorem Opened.plain {opened : List (OpenBlock × Nat)} {statements : List Statement}
    {statement : Statement} (within : Opened opened statements)
    (alone : statement.isPlain = true) : Opened opened (statements ++ [statement]) :=
  within.append (.plain alone (.nil _))

/-! ## Statements and their lines -/

namespace Statement

def IsOf (line : SourceLine) (statement : Statement) : Prop :=
  match line.keyword? with
  | some .label => statement = .label line.rest (LabelKind.ofName line.rest)
  | some .proc => ∃ close, statement = .proc line.rest close
  | _ => True

/-- Indices that do not belong to a block are those the outline gives for a name. -/
def RefersIn (outline : Outline) : Statement → Prop
  | .jump target => ∃ name, outline.labelIndex? name = some target
  | .call (.proc start) _ => ∃ name, outline.procIndex? name = some start
  | .warp start => ∃ name, outline.procIndex? name = some start
  | _ => True

theorem IsOf.closeAt {line : SourceLine} {statement : Statement} (isOf : statement.IsOf line)
    (index : Nat) : (statement.closeAt index).IsOf line := by
  unfold IsOf at isOf ⊢
  split at isOf
  · rw [isOf]
    rfl
  · obtain ⟨close, isProc⟩ := isOf
    rw [isProc]
    exact ⟨index, rfl⟩
  · trivial

theorem RefersIn.closeAt {outline : Outline} {statement : Statement}
    (refers : statement.RefersIn outline) (index : Nat) :
    (statement.closeAt index).RefersIn outline := by
  cases statement <;> exact refers

end Statement

namespace SourceLine.Yields

variable {outline : Outline} {line : SourceLine} {statement : Statement} {keyword : Keyword}

theorem isOf (yields : line.Yields outline statement keyword)
    (isKeyword : line.keyword? = some keyword) : statement.IsOf line := by
  rw [Statement.IsOf, isKeyword]
  cases keyword with
  | label | proc => exact yields
  | _ => trivial

/-- A name that a line refers to has been looked up in the outline. -/
theorem refersIn (yields : line.Yields outline statement keyword) :
    statement.RefersIn outline := by
  cases keyword with
  | jump | warp =>
      obtain ⟨index, found, rfl⟩ := yields
      exact ⟨line.rest, found⟩
  | call =>
      rw [yields, Program.target]
      cases found : outline.procIndex? (Outline.split line.rest).1 with
      | some start => exact ⟨_, found⟩
      | none => trivial
  | declare =>
      obtain ⟨everywhere, name, value, rfl⟩ := Parse.declare_of_declaration yields
      trivial
  | proc | branch | otherwise | repeatLoop | trackLoop | next | wait =>
      obtain ⟨part, rfl⟩ := yields
      trivial
  | _ =>
      rw [yields]
      trivial

end SourceLine.Yields

theorem SpecialLabels.of_get?_set {labels : SpecialLabels} {kind other : LabelKind}
    {index found : Nat} (slot : (labels.set kind index).get? other = some found) :
    (other = kind ∧ found = index) ∨ labels.get? other = some found := by
  cases kind <;> cases other <;> first
    | exact .inr slot
    | exact .inl ⟨rfl, (Option.some.inj slot).symm⟩

/-- Statements and label slots say what the lines read so far and the outline say. -/
structure Faithful (outline : Outline) (read : List SourceLine) (statements : List Statement)
    (labels : SpecialLabels) : Prop where
  length : statements.length = read.length
  written : ∀ (index : Nat) (line : SourceLine) (statement : Statement),
    read[index]? = some line → statements[index]? = some statement → statement.IsOf line
  refers : ∀ statement ∈ statements, statement.RefersIn outline
  labels : ∀ (kind : LabelKind) (index : Nat), labels.get? kind = some index →
    ∃ name, statements[index]? = some (.label name kind)

namespace Faithful

variable {outline : Outline} {read : List SourceLine} {statements : List Statement}
  {labels : SpecialLabels}

theorem nil (outline : Outline) : Faithful outline [] [] {} where
  length := rfl
  written := by simp
  refers := by simp
  labels kind index slot := by cases kind <;> simp [SpecialLabels.get?] at slot

/-- The statement of another line is added, and its index may become that of a reserved label. -/
theorem push (faithful : Faithful outline read statements labels) {line : SourceLine}
    {statement : Statement} {later : SpecialLabels} (isOf : statement.IsOf line)
    (refers : statement.RefersIn outline)
    (slots : ∀ kind index, later.get? kind = some index →
      labels.get? kind = some index ∨
        index = statements.length ∧ ∃ name, statement = .label name kind) :
    Faithful outline (read ++ [line]) (statements ++ [statement]) later where
  length := by rw [List.length_append, List.length_append, faithful.length]; rfl
  written index other found isOther isFound := by
    rcases Nat.lt_or_ge index read.length with earlier | last
    · rw [List.getElem?_append_left earlier] at isOther
      rw [List.getElem?_append_left (faithful.length ▸ earlier)] at isFound
      exact faithful.written index other found isOther isFound
    · rw [List.getElem?_append_right last] at isOther
      rw [List.getElem?_append_right (faithful.length ▸ last), faithful.length] at isFound
      have isLine := List.mem_singleton.1 (List.mem_of_getElem? isOther)
      have isStatement := List.mem_singleton.1 (List.mem_of_getElem? isFound)
      exact isLine ▸ isStatement ▸ isOf
  refers other member := by
    rcases List.mem_append.1 member with earlier | last
    · exact faithful.refers other earlier
    · exact List.mem_singleton.1 last ▸ refers
  labels kind index slot := by
    rcases slots kind index slot with earlier | ⟨isLast, name, isLabel⟩
    · obtain ⟨name, found⟩ := faithful.labels kind index earlier
      obtain ⟨within, -⟩ := List.getElem?_eq_some_iff.1 found
      exact ⟨name, (List.getElem?_append_left within).trans found⟩
    · subst isLast
      exact ⟨name, by rw [isLabel, List.getElem?_concat_length]⟩

theorem closeAt (faithful : Faithful outline read statements labels) (start close : Nat) :
    Faithful outline read (statements.modify start (Statement.closeAt close)) labels where
  length := by rw [List.length_modify, faithful.length]
  written index line statement isLine isStatement := by
    rw [List.getElem?_modify] at isStatement
    obtain ⟨before, found, isAfter⟩ := Option.map_eq_some_iff.1 isStatement
    have isOf := faithful.written index line before isLine found
    subst isAfter
    split
    · exact isOf.closeAt close
    · exact isOf
  refers statement member := by
    obtain ⟨index, isStatement⟩ := List.mem_iff_getElem?.1 member
    rw [List.getElem?_modify] at isStatement
    obtain ⟨before, found, isAfter⟩ := Option.map_eq_some_iff.1 isStatement
    have refers := faithful.refers before (List.mem_iff_getElem?.2 ⟨index, found⟩)
    subst isAfter
    split
    · exact refers.closeAt close
    · exact refers
  labels kind index slot := by
    obtain ⟨name, found⟩ := faithful.labels kind index slot
    refine ⟨name, ?_⟩
    rw [List.getElem?_modify, found]
    dsimp only [Option.map_eq_map, Option.map_some]
    split <;> rfl

end Faithful

/-! ## Drafts -/

/-- What holds of a script that is being read, after some lines. -/
structure Draft.IsSound (outline : Outline) (read : List SourceLine) (draft : Draft) : Prop where
  opened : Opened draft.opened draft.statements
  faithful : Faithful outline read draft.statements draft.labels

theorem Draft.Takes.isSound {outline : Outline} {read : List SourceLine} {draft later : Draft}
    {line : SourceLine} {statement : Statement} (takes : draft.Takes statement later)
    (sound : draft.IsSound outline read) (isOf : statement.IsOf line)
    (refers : statement.RefersIn outline) : later.IsSound outline (read ++ [line]) := by
  cases takes with
  | plain interns alone =>
      exact ⟨sound.opened.plain alone, sound.faithful.push isOf refers fun _ _ => .inl⟩
  | label name =>
      refine ⟨sound.opened.plain rfl, sound.faithful.push isOf refers ?_⟩
      intro kind index slot
      rcases SpecialLabels.of_get?_set slot with ⟨isKind, isIndex⟩ | earlier
      · exact .inr ⟨isIndex, name, by rw [isKind]⟩
      · exact .inl earlier
  | opens number opens =>
      exact ⟨sound.opened.openBlock opens, sound.faithful.push isOf refers fun _ _ => .inl⟩
  | @continues _ start opened continues =>
      have changed := sound.faithful.closeAt start draft.index
      exact ⟨sound.opened.continues continues, changed.push isOf refers fun _ _ => .inl⟩

namespace Parse

variable {outline : Outline} {read : List SourceLine} {draft later : Draft} {line : SourceLine}

theorem isSound_readLine (sound : draft.IsSound outline read)
    (reads : (readLine outline line draft).value = .ok later) :
    later.IsSound outline (read ++ [line]) := by
  unfold readLine at reads
  split at reads
  · next keyword isKeyword =>
      obtain ⟨statement, yields, takes⟩ := takes_keywordLine reads
      exact takes.isSound sound (yields.isOf isKeyword) yields.refersIn
  · next isSymbol =>
      obtain ⟨invocation, takes⟩ := takes_symbolLine line draft
      have isOf : (Statement.invoke invocation).IsOf line := by
        rw [Statement.IsOf, isSymbol]
        trivial
      rw [← Except.ok.inj reads]
      exact takes.isSound sound isOf trivial

/-- What every line that is read keeps, holds when all lines have been read. -/
theorem readLines_induction {holds : List SourceLine → Draft → Prop}
    (step : ∀ {read : List SourceLine} {line : SourceLine} {draft later : Draft},
      holds read draft → (readLine outline line draft).value = .ok later →
        holds (read ++ [line]) later)
    {lines : List SourceLine} (start : holds read draft)
    (reads : (readLines outline lines draft).value.1 = .ok later) :
    holds (read ++ lines) later := by
  induction lines generalizing draft read with
  | nil =>
      rw [← Except.ok.inj reads, List.append_nil]
      exact start
  | cons line more ih =>
      simp only [readLines, Logged.value_bind] at reads
      split at reads
      · cases reads
      · next next isNext =>
          have whole := ih (step start isNext) reads
          rwa [List.append_assoc] at whole

theorem isSound_readLines {lines : List SourceLine} (sound : draft.IsSound outline read)
    (reads : (readLines outline lines draft).value.1 = .ok later) :
    later.IsSound outline (read ++ lines) :=
  readLines_induction isSound_readLine sound reads

end Parse

/-! ## Scripts -/

namespace Script

/--
Every statement has a source line, blocks nest properly and lead to where they go
on, and every other index leads to a label or a proc.
-/
structure IsSound (script : Script) : Prop where
  lines : script.lines.length = script.statements.length
  nested : Nested 0 script.statements
  closes : ∀ (index : Nat) (statement : Statement), script.statements[index]? = some statement →
    statement.Closes script.statements index
  refers : ∀ statement ∈ script.statements, statement.Refers script.statements
  labels : ∀ (kind : LabelKind) (index : Nat), script.labels.get? kind = some index →
    ∃ name, script.statements[index]? = some (.label name kind)

theorem IsSound.of_nested {script : Script}
    (lines : script.lines.length = script.statements.length)
    (nested : Nested 0 script.statements)
    (refers : ∀ statement ∈ script.statements, statement.Refers script.statements)
    (labels : ∀ (kind : LabelKind) (index : Nat), script.labels.get? kind = some index →
      ∃ name, script.statements[index]? = some (.label name kind)) : script.IsSound where
  lines := lines
  nested := nested
  closes index statement found := by
    have leads := nested.closes (placed_self _) found
    rwa [Nat.zero_add] at leads
  refers := refers
  labels := labels

theorem IsSound.withId {script : Script} (sound : script.IsSound) (id : ScriptId) :
    IsSound { script with id } :=
  ⟨sound.lines, sound.nested, sound.closes, sound.refers, sound.labels⟩

end Script

/-- The statement of a label or a proc stands at the index that the outline gives for it. -/
theorem Faithful.refersTo {outline : Outline} {statements : List Statement}
    {labels : SpecialLabels} (faithful : Faithful outline outline.lines statements labels)
    {statement : Statement} (refers : statement.RefersIn outline) :
    statement.Refers statements := by
  have written {index : Nat} {line : SourceLine} (isLine : outline.lines[index]? = some line) :
      ∃ statement, statements[index]? = some statement ∧ statement.IsOf line := by
    obtain ⟨within, -⟩ := List.getElem?_eq_some_iff.1 isLine
    have found := List.getElem?_eq_getElem (faithful.length ▸ within)
    exact ⟨_, found, faithful.written index line _ isLine found⟩
  have labelAt {name : String} {index : Nat} (found : outline.labelIndex? name = some index) :
      ∃ name kind, statements[index]? = some (.label name kind) := by
    obtain ⟨within, isLabel, -⟩ := List.findIdx?_eq_some_iff_getElem.1 found
    obtain ⟨statement, stands, isOf⟩ := written (List.getElem?_eq_getElem within)
    obtain ⟨isKeyword, -⟩ := Bool.and_eq_true_iff.1 isLabel
    rw [Statement.IsOf, eq_of_beq isKeyword] at isOf
    exact ⟨_, _, isOf ▸ stands⟩
  have procAt {name : String} {index : Nat} (found : outline.procIndex? name = some index) :
      ∃ name close, statements[index]? = some (.proc name close) := by
    obtain ⟨within, isProc, -⟩ := List.findIdx?_eq_some_iff_getElem.1 found
    obtain ⟨statement, stands, isOf⟩ := written (List.getElem?_eq_getElem within)
    obtain ⟨isKeyword, -⟩ := Bool.and_eq_true_iff.1 isProc
    rw [Statement.IsOf, eq_of_beq isKeyword] at isOf
    obtain ⟨close, isOf⟩ := isOf
    exact ⟨_, close, isOf ▸ stands⟩
  cases statement with
  | jump target =>
      obtain ⟨name, found⟩ := refers
      exact labelAt found
  | call target args =>
      cases target with
      | proc start =>
          obtain ⟨name, found⟩ := refers
          exact procAt found
      | script name => trivial
  | warp start =>
      obtain ⟨name, found⟩ := refers
      exact procAt found
  | _ => trivial

/-- A script that could be read comes from an outline and a draft without open blocks. -/
theorem Script.exists_draft {name source : String} {symbols : SymbolTable} {script : Script}
    (reads : (Script.parse name source symbols).value.1 = .ok script) :
    ∃ outline draft, Outline.ofSource name source = .ok outline ∧
      (Parse.readLines outline outline.lines { symbols }).value =
        (.ok draft, (Script.parse name source symbols).value.2) ∧
      draft.opened = [] ∧
      script =
        { toScriptHeader := outline.header
          statements := draft.statements
          lines := outline.lines.map SourceLine.number
          labels := draft.labels } := by
  unfold Script.parse at reads ⊢
  split at reads
  · cases reads
  · next outline outlined =>
      obtain ⟨draft, isDraft, closes⟩ := ok_of_bind reads
      rw [outlined]
      refine ⟨outline, draft, rfl, Prod.ext isDraft rfl, ?_⟩
      unfold Parse.close at closes
      split at closes
      · cases closes
      · next noneOpen => exact ⟨noneOpen, (Except.ok.inj closes).symm⟩

/-- A script that could be read is sound. -/
theorem isSound_parse {name source : String} {symbols : SymbolTable} {script : Script}
    (reads : (Script.parse name source symbols).value.1 = .ok script) : script.IsSound := by
  obtain ⟨outline, draft, -, isDraft, noneOpen, rfl⟩ := Script.exists_draft reads
  have start : Draft.IsSound outline [] { symbols } := ⟨.nil (.nil 0), .nil outline⟩
  have sound := Parse.isSound_readLines start (congrArg Prod.fst isDraft)
  have whole := sound.opened
  rw [noneOpen] at whole
  cases whole with
  | nil nested =>
      refine .of_nested ?_ nested ?_ sound.faithful.labels
      · rw [List.length_map, sound.faithful.length]
        rfl
      · intro statement member
        exact sound.faithful.refersTo (sound.faithful.refers statement member)

/-! ## Libraries -/

theorem Nested.refresh {start : Nat} {statements : List Statement}
    (nested : Nested start statements) (symbols : SymbolTable) :
    Nested start (statements.map (Statement.refresh symbols)) := by
  induction nested with
  | nil start => exact .nil start
  | plain alone others ih =>
      refine .plain ?_ ih
      rename_i statement _
      cases statement <;> exact alone
  | @block start first last body rest pair inner others ihInner ihOthers =>
      have opens : first.refresh symbols = first := by cases pair <;> rfl
      have ends : last.refresh symbols = last := by cases pair <;> rfl
      rw [List.map_cons, List.map_append, List.map_cons, opens, ends]
      refine .block ?_ ihInner ?_
      · rwa [List.length_map]
      · rwa [List.length_map]
  | @choice start condition body other rest inner second others ihInner ihSecond ihOthers =>
      have whole := @Nested.choice start condition (body.map (Statement.refresh symbols))
        (other.map (Statement.refresh symbols)) (rest.map (Statement.refresh symbols)) ihInner
        (by rwa [List.length_map]) (by rwa [List.length_map, List.length_map])
      rw [List.length_map, List.length_map] at whole
      rw [List.map_cons, List.map_append, List.map_cons, List.map_append, List.map_cons]
      exact whole

theorem Script.IsSound.refresh {script : Script} (sound : script.IsSound)
    (symbols : SymbolTable) :
    IsSound { script with statements := script.statements.map (Statement.refresh symbols) } := by
  have kept {index : Nat} {statement : Statement}
      (stands : script.statements[index]? = some statement)
      (same : statement.refresh symbols = statement) :
      (script.statements.map (Statement.refresh symbols))[index]? = some statement := by
    rw [List.getElem?_map, stands, Option.map_some, same]
  refine .of_nested ?_ (sound.nested.refresh symbols) ?_ ?_
  · rw [List.length_map]
    exact sound.lines
  · intro statement member
    obtain ⟨before, isBefore, isAfter⟩ := List.mem_map.1 member
    have refers := sound.refers before isBefore
    subst isAfter
    cases before with
    | jump target =>
        obtain ⟨name, kind, stands⟩ := refers
        exact ⟨name, kind, kept stands rfl⟩
    | call target args =>
        cases target with
        | proc start =>
            obtain ⟨name, close, stands⟩ := refers
            exact ⟨name, close, kept stands rfl⟩
        | script name => trivial
    | warp start =>
        obtain ⟨name, close, stands⟩ := refers
        exact ⟨name, close, kept stands rfl⟩
    | _ => trivial
  · intro kind index slot
    obtain ⟨name, stands⟩ := sound.labels kind index slot
    exact ⟨name, kept stands rfl⟩

namespace ScriptLibrary

def IsSound (library : ScriptLibrary) : Prop :=
  ∀ script ∈ library.scripts, script.IsSound

theorem isSound_insert {library : ScriptLibrary} (sound : library.IsSound) {script : Script}
    (isSound : script.IsSound) : (library.insert script).2.IsSound := by
  intro other member
  unfold insert at member
  split at member
  · rcases List.mem_or_eq_of_mem_set member with earlier | isNew
    · exact sound other earlier
    · exact isNew ▸ isSound.withId _
  · rcases List.mem_append.1 member with earlier | isNew
    · exact sound other earlier
    · exact List.mem_singleton.1 isNew ▸ isSound.withId _

/-- Loading a source keeps a library sound, whether or not the source is a script. -/
theorem isSound_load {library : ScriptLibrary} (sound : library.IsSound)
    (name source : String) (symbols : SymbolTable) :
    (library.load name source symbols).value.2.2.IsSound := by
  unfold load
  simp only [Logged.value_bind]
  split
  · exact sound
  · next script reads => exact isSound_insert sound (isSound_parse reads)

theorem isSound_resolveScripts {scripts : List Script}
    (sound : ∀ script ∈ scripts, script.IsSound) (symbols : SymbolTable) :
    ∀ script ∈ (resolveScripts symbols scripts).value.2, script.IsSound := by
  induction scripts with
  | nil => exact sound
  | cons script rest ih =>
      obtain ⟨first, others⟩ := List.forall_mem_cons.1 sound
      refine List.forall_mem_cons.2 ⟨?_, ih others⟩
      unfold resolveScript
      split
      · exact first.refresh symbols
      · exact first

theorem isSound_resolve {library : ScriptLibrary} (sound : library.IsSound)
    (symbols : SymbolTable) : (library.resolve symbols).value.2.IsSound :=
  isSound_resolveScripts sound symbols

end ScriptLibrary

end Looper
