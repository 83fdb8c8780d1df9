import Looper.Proofs.Script.Grammar
import Looper.Proofs.Script.Reading

/-!
# Scripts are the sources that can be read

Reading a source goes along its lines twice, first for directives and names, then
for statements.  Each time `Verdict` says how far it gets: it goes all along the
lines if they keep the rule, and stops at the first line that breaks it.  In the
second pass the blocks that are open are those on the stack of the grammar.
-/

namespace Looper

/-! ## Verdicts -/

/-- One line is accepted as it should be if it keeps a rule, and refused otherwise. -/
inductive Judged {α : Type} (rule : Prop) (good : α → Prop) : Except ScriptFault α → Prop where
  | accepted {result : α} (kept : rule) (isGood : good result) : Judged rule good (.ok result)
  | refused {fault : ScriptFault} (broken : ¬ rule) : Judged rule good (.error fault)

/-- All lines are accepted if they keep a rule, and the first one that breaks it is refused. -/
inductive Verdict {α β : Type} (rule : List α → α → Prop) (number : α → Nat) (list : List α)
    (good : β → Prop) : Except ScriptError β → Prop where
  | accepted {result : β} (kept : KeptAlong rule list) (isGood : good result) :
      Verdict rule number list good (.ok result)
  | refused {a : α} {line : Nat} {fault : ScriptFault} (first : BreaksFirst rule list a)
      (isNumber : number a = line) : Verdict rule number list good (.error ⟨line, fault⟩)

theorem Judged.map {α β : Type} {rule : Prop} {good : α → Prop} {better : β → Prop}
    {first : Except ScriptFault α} {next : α → β} (judged : Judged rule good first)
    (improves : ∀ a, good a → better (next a)) :
    Judged rule better (first >>= fun a => pure (next a)) := by
  cases judged with
  | accepted kept isGood => exact .accepted kept (improves _ isGood)
  | refused broken => exact .refused broken

theorem Judged.imp {α : Type} {rule other : Prop} {good better : α → Prop}
    {result : Except ScriptFault α} (judged : Judged rule good result) (same : rule ↔ other)
    (improves : ∀ a, good a → better a) : Judged other better result := by
  cases judged with
  | accepted kept isGood => exact .accepted (same.1 kept) (improves _ isGood)
  | refused broken => exact .refused fun kept => broken (same.2 kept)

theorem judged_given {α : Type} {rule : Prop} {good : α → Prop} {operand : String}
    {fault : ScriptFault} {next : Except ScriptFault α} (needs : rule → operand ≠ "")
    (reads : operand ≠ "" → Judged rule good next) :
    Judged rule good (if operand.isEmpty then .error fault else next) := by
  split
  · next absent => exact .refused fun kept => needs kept (String.isEmpty_iff.1 absent)
  · next given => exact reads fun absent => given (String.isEmpty_iff.2 absent)

/-! ## Directives and names -/

namespace Outline

variable {outline : Outline} {line : SourceLine} {before : List SourceEntry}

theorem judged_readMsec (directive operand : String) :
    Judged (IsPeriod operand) (fun _ => True) (readMsec directive operand) := by
  unfold readMsec IsPeriod
  rw [← String.isEmpty_iff]
  cases operand.isEmpty with
  | true => exact .accepted (.inl rfl) trivial
  | false =>
      cases Text.nat32? operand.toList with
      | none => exact .refused fun period => period.elim nofun nofun
      | some msec => exact .accepted (.inr rfl) trivial

/-- A directive is obeyed if and only if it is one of those there are. -/
theorem judged_readDirective (header : ScriptHeader) (text : String) :
    Judged (IsDirective (Text.fold (split text).1) (split text).2) (fun _ => True)
      (readDirective header text) := by
  unfold readDirective
  dsimp only
  split
  · next isName =>
      simp only [isName, IsDirective]
      exact judged_given id fun given => .accepted given trivial
  · next isSustain =>
      simp only [isSustain, IsDirective]
      exact (judged_readMsec _ _).map fun _ _ => trivial
  · next isMulticlick =>
      simp only [isMulticlick, IsDirective]
      exact (judged_readMsec _ _).map fun _ _ => trivial
  · next isContinuous =>
      simp only [isContinuous, IsDirective]
      exact .accepted trivial trivial
  · next isFocusLock =>
      simp only [isFocusLock, IsDirective]
      exact .accepted trivial trivial
  · next =>
      have unknown : ¬ IsDirective (Text.fold (split text).1) (split text).2 := by
        simp [IsDirective]
      exact .refused unknown

/-- A name is taken if a line before gives it in any case. -/
theorem isNamed_iff {lines : List SourceLine} {keyword : Keyword}
    (isKeyword : line.keyword? = some keyword) (names : keyword ∈ [Keyword.label, Keyword.proc]) :
    line.IsNamed lines ↔ line.rest ≠ "" ∧
      (lines.any fun other => other.keyword? == some keyword &&
        Text.sameName other.rest line.rest) = false := by
  have free : (lines.any fun other => other.keyword? == some keyword &&
      Text.sameName other.rest line.rest) = false ↔
      ∀ other ∈ lines, other.keyword? = some keyword →
        Text.fold other.rest ≠ Text.fold line.rest := by
    simp [Text.sameName]
  rw [free]
  refine ⟨fun named => named keyword names isKeyword, fun named other _ isOther => ?_⟩
  cases isKeyword.symm.trans isOther
  exact named

theorem judged_name {lines : List SourceLine} {keyword : Keyword}
    (isKeyword : line.keyword? = some keyword) (names : keyword ∈ [Keyword.label, Keyword.proc])
    {taken : Bool} (isTaken : taken = lines.any fun other => other.keyword? == some keyword &&
      Text.sameName other.rest line.rest) (absent twice : ScriptFault) :
    Judged (line.IsNamed lines) (fun _ => True)
      (if line.rest.isEmpty then .error absent else if taken then .error twice else .ok ()) := by
  rw [isNamed_iff isKeyword names, ← isTaken]
  refine judged_given And.left fun given => ?_
  cases taken with
  | true => exact .refused fun named => nomatch named.2
  | false => exact .accepted ⟨given, rfl⟩ trivial

theorem judged_checkName (outline : Outline) (line : SourceLine) :
    Judged (line.IsNamed outline.lines) (fun _ => True) (outline.checkName line) := by
  unfold checkName
  split
  · next isLabel => exact judged_name isLabel (by decide) List.findIdx?_isSome _ _
  · next isProc => exact judged_name isProc (by decide) List.findIdx?_isSome _ _
  · next notLabel notProc =>
      refine .accepted (fun keyword names isKeyword => ?_) trivial
      rcases List.mem_cons.1 names with rfl | isProc
      · exact (notLabel isKeyword).elim
      · exact (notProc (List.mem_singleton.1 isProc ▸ isKeyword)).elim

/-- A line is added if and only if it is proper. -/
theorem judged_addLine (isLines : outline.lines = before.filterMap SourceEntry.line?)
    (number : Nat) (text : List Char) :
    Judged ((SourceEntry.of number text).IsProper before)
      (fun later => later.lines =
        (before ++ [SourceEntry.of number text]).filterMap SourceEntry.line?)
      (outline.addLine number text) := by
  have grown : (before ++ [SourceEntry.of number text]).filterMap SourceEntry.line? =
      outline.lines ++ (SourceEntry.of number text).line?.toList := by
    rw [List.filterMap_append, isLines]
    cases isLine : (SourceEntry.of number text).line? <;> simp [isLine]
  rw [grown]
  unfold addLine
  split
  · exact .accepted trivial (List.append_nil _).symm
  · exact .accepted trivial (List.append_nil _).symm
  · next directive =>
      exact (judged_readDirective outline.header (String.ofList directive)).map fun _ _ =>
        (List.append_nil _).symm
  · next notEmpty notComment notDirective =>
      have isStatement : SourceEntry.of number text =
          .statement ⟨number, (split (String.ofList text)).1, (split (String.ofList text)).2⟩ := by
        simp [SourceEntry.of]
      rw [isStatement, SourceEntry.IsProper, ← isLines]
      exact (judged_checkName outline _).map fun _ _ => rfl

/-- The first pass accepts lines as far as they are proper. -/
theorem verdict_addLines (isLines : outline.lines = before.filterMap SourceEntry.line?)
    (kept : KeptAlong SourceEntry.IsProper before) (number : Nat)
    (texts : List (List Char)) :
    Verdict SourceEntry.IsProper SourceEntry.number
      (before ++ (texts.zipIdx number).map fun line => .of line.2 (Text.trim line.1))
      (fun later => later.lines =
        (before ++ (texts.zipIdx number).map fun line =>
          SourceEntry.of line.2 (Text.trim line.1)).filterMap SourceEntry.line?)
      (outline.addLines number texts) := by
  induction texts generalizing outline number before with
  | nil =>
      rw [List.zipIdx_nil, List.map_nil, List.append_nil]
      exact .accepted kept isLines
  | cons raw more ih =>
      have judged := judged_addLine isLines number (Text.trim raw)
      rw [List.zipIdx_cons, List.map_cons]
      unfold addLines
      generalize outline.addLine number (Text.trim raw) = result at judged ⊢
      cases judged with
      | refused broken =>
          exact .refused ⟨before, _, rfl, kept, broken⟩ (SourceEntry.number_of number _)
      | accepted proper grown =>
          have whole := ih grown (keptAlong_concat.2 ⟨kept, proper⟩) (number + 1)
          rw [List.append_assoc] at whole
          exact whole

end Outline

/-! ## Statements -/

def OpenBlock.pending (number : Nat) : OpenBlock → Pending
  | branch _ part => ⟨.branch, part.isSome, number⟩
  | loop _ => ⟨.loop, false, number⟩
  | proc _ => ⟨.proc, false, number⟩

theorem OpenBlock.number_pending (number : Nat) (block : OpenBlock) :
    (block.pending number).number = number := by
  cases block <;> rfl

def Draft.pending (draft : Draft) : List Pending :=
  draft.opened.map fun block => block.1.pending block.2

namespace Parse

variable {outline : Outline} {line : SourceLine} {draft : Draft}

theorem judged_require {α : Type} {rule : Prop} {good : α → Prop} {what : String}
    {next : String → Except ScriptFault α} (needs : rule → line.rest ≠ "")
    (reads : line.rest ≠ "" → Judged rule good (next line.rest)) :
    Judged rule good (require line what >>= next) := by
  have asks : require line what >>= next =
      if line.rest.isEmpty then .error (.missing line.word what) else next line.rest := by
    unfold require
    split <;> rfl
  rw [asks]
  exact judged_given needs reads

/-- What a line that has its operand does to the open blocks, if it fits them. -/
def Goes (outline : Outline) (line : SourceLine) (draft : Draft) (keyword : Keyword) :
    Except ScriptFault Draft → Prop :=
  Judged
    (keyword.operand.IsGiven outline.lines line.rest ∧
      ∃ next, keyword.role.apply line.number draft.pending = some next)
    (fun later => keyword.role.apply line.number draft.pending = some later.pending)

theorem goes_endProc : Goes outline line draft .endProc (endProc draft) := by
  unfold endProc Goes Draft.pending
  match draft.opened with
  | (.proc _, _) :: _ => exact .accepted ⟨trivial, _, rfl⟩ rfl
  | [] | (.branch .., _) :: _ | (.loop _, _) :: _ => exact .refused fun ⟨_, _, fits⟩ => nomatch fits

theorem goes_otherwise : Goes outline line draft .otherwise (otherwise draft) := by
  unfold otherwise Goes Draft.pending
  match draft.opened with
  | (.branch _ none, _) :: _ => exact .accepted ⟨trivial, _, rfl⟩ rfl
  | [] | (.branch _ (some _), _) :: _ | (.loop _, _) :: _ | (.proc _, _) :: _ =>
      exact .refused fun ⟨_, _, fits⟩ => nomatch fits

theorem goes_endBranch : Goes outline line draft .endBranch (endBranch draft) := by
  unfold endBranch Goes Draft.pending
  match draft.opened with
  | (.branch .., _) :: _ => exact .accepted ⟨trivial, _, rfl⟩ rfl
  | [] | (.loop _, _) :: _ | (.proc _, _) :: _ => exact .refused fun ⟨_, _, fits⟩ => nomatch fits

theorem goes_next : Goes outline line draft .next (next draft) := by
  unfold next Goes Draft.pending
  match draft.opened with
  | (.loop _, _) :: _ => exact .accepted ⟨trivial, _, rfl⟩ rfl
  | [] | (.branch .., _) :: _ | (.proc _, _) :: _ => exact .refused fun ⟨_, _, fits⟩ => nomatch fits

/-- A line is read if it has its operand, where nothing else can be wrong with it. -/
theorem goes_of_operand {keyword : Keyword} {later : Draft}
    (given : keyword.operand.IsGiven outline.lines line.rest)
    (goesOn : keyword.role.apply line.number draft.pending = some later.pending) :
    Goes outline line draft keyword (.ok later) :=
  .accepted ⟨given, _, goesOn⟩ goesOn

/-- Reading the operand is all that can go wrong with a line that is plain. -/
theorem goes_bind {α : Type} {keyword : Keyword} {good : α → Prop} {operand : Except ScriptFault α}
    {next : α → Except ScriptFault Draft}
    (judged : Judged (keyword.operand.IsGiven outline.lines line.rest) good operand)
    (goesOn : ∀ a, ∃ later, next a = .ok later ∧
      keyword.role.apply line.number draft.pending = some later.pending) :
    Goes outline line draft keyword (operand >>= next) := by
  cases judged with
  | @accepted result given _ =>
      obtain ⟨later, isLater, goesOn⟩ := goesOn result
      change Goes outline line draft keyword (next result)
      rw [isLater]
      exact goes_of_operand given goesOn
  | refused broken => exact .refused fun kept => broken kept.1

/-- A name is found if and only if there is a line that gives it. -/
theorem goes_found {keyword : Keyword} {looks : SourceLine → Bool} {next : Nat → Draft}
    {fault : ScriptFault}
    (given : (∃ other ∈ outline.lines, looks other = true) ↔
      keyword.operand.IsGiven outline.lines line.rest)
    (goesOn : ∀ index, keyword.role.apply line.number draft.pending = some (next index).pending) :
    Goes outline line draft keyword
      (match outline.lines.findIdx? looks with
        | some index => pure (next index)
        | none => .error fault) := by
  have found : (outline.lines.findIdx? looks).isSome = true ↔
      keyword.operand.IsGiven outline.lines line.rest := by
    rw [← given, List.findIdx?_isSome, List.any_eq_true]
  cases isFound : outline.lines.findIdx? looks with
  | some index => exact goes_of_operand (found.1 (by rw [isFound]; rfl)) (goesOn index)
  | none =>
      refine .refused fun ⟨names, _⟩ => ?_
      have isSome := found.2 names
      rw [isFound] at isSome
      cases isSome

theorem judged_declaration (rest : String) :
    Judged (declaredName rest ≠ "") (fun _ => True) (declaration rest) := by
  unfold declaration declaredName
  dsimp only
  split
  · exact judged_given id fun given => .accepted given trivial
  · exact judged_given id fun given => .accepted given trivial

theorem judged_wait (line : SourceLine) (symbols : SymbolTable) :
    Judged (line.rest ≠ "" ∧ IsWait (Outline.split line.rest).1 (Outline.split line.rest).2)
      (fun _ => True) (wait line symbols) := by
  refine judged_require And.left fun given => ?_
  rw [and_iff_right given]
  dsimp only
  split
  · next isLast =>
      simp only [IsWait, isLast]
      exact .accepted trivial trivial
  · next isThread =>
      simp only [IsWait, isThread]
      exact .accepted trivial trivial
  · next isBlock =>
      simp only [IsWait, isBlock]
      exact .accepted trivial trivial
  · next isMsec =>
      simp only [IsWait, isMsec]
      exact judged_given id fun given => .accepted given trivial
  · next isFunction =>
      simp only [IsWait, isFunction]
      exact judged_given id fun given => .accepted given trivial
  · next =>
      have other : IsWait (Outline.split line.rest).1 (Outline.split line.rest).2 ↔
          isTime (Outline.split line.rest).1 = true := by
        simp [IsWait]
      rw [other]
      split
      · next time => exact .accepted time trivial
      · next noTime => exact .refused noTime

theorem goes_keywordLine (keyword : Keyword) :
    Goes outline line draft keyword (keywordLine outline line draft keyword) := by
  cases keyword with
  | label => exact goes_of_operand trivial rfl
  | jump =>
      refine judged_require (·.1.1) fun given => ?_
      refine goes_found ?_ fun index => rfl
      exact ⟨fun named => ⟨given, named⟩, And.right⟩
  | call =>
      refine judged_require And.left fun given => ?_
      dsimp only
      split
      · exact goes_of_operand given rfl
      · exact goes_of_operand given rfl
  | warp =>
      refine judged_require (·.1.1) fun given => ?_
      refine goes_found ?_ fun index => rfl
      exact ⟨fun named => ⟨given, named⟩, And.right⟩
  | proc => exact goes_of_operand trivial rfl
  | endProc => exact goes_endProc
  | declare =>
      refine judged_require ?_ fun given => ?_
      · rintro ⟨named, -⟩ absent
        exact named (by rw [absent]; decide)
      · exact goes_bind (judged_declaration line.rest) fun _ => ⟨_, rfl, rfl⟩
  | assign | use | branch | repeatLoop | trackLoop | demand =>
      exact judged_require And.left fun given => goes_of_operand given rfl
  | otherwise => exact goes_otherwise
  | endBranch => exact goes_endBranch
  | next => exact goes_next
  | wait => exact goes_bind (judged_wait line draft.symbols) fun _ => ⟨_, rfl, rfl⟩
  | request kind => exact goes_of_operand trivial rfl
  | diff =>
      refine judged_require ?_ fun given => ?_
      · rintro ⟨second, -⟩ absent
        exact second (by rw [absent]; decide)
      · exact judged_given And.left fun second => goes_of_operand second rfl
  | finish => exact goes_of_operand trivial rfl

variable {read : List SourceLine}

/-- A line is read if and only if it is proper, and then the stack goes on. -/
theorem judged_readLine (reads : brackets [] read = some draft.pending) :
    Judged (line.IsProper outline.lines read)
      (fun later => brackets [] (read ++ [line]) = some later.pending)
      (readLine outline line draft).value := by
  have step : brackets [] (read ++ [line]) = line.role.apply line.number draft.pending := by
    rw [brackets_concat, reads, Option.bind_some]
  rw [SourceLine.IsProper, fits_iff reads, step]
  unfold readLine SourceLine.HasOperand SourceLine.role
  cases line.keyword? with
  | some keyword =>
      refine (goes_keywordLine keyword).imp (and_congr_left' ?_) fun _ => id
      exact ⟨fun given _ same => Option.some.inj same ▸ given, fun given => given keyword rfl⟩
  | none =>
      have isRead : (symbolLine line draft).value.pending = draft.pending := by
        rw [value_symbolLine]
        rfl
      exact .accepted ⟨nofun, _, rfl⟩ (congrArg some isRead.symm)

/-- The second pass accepts lines as far as they are proper. -/
theorem verdict_readLines (reads : brackets [] read = some draft.pending)
    (kept : KeptAlong (SourceLine.IsProper outline.lines) read) (lines : List SourceLine) :
    Verdict (SourceLine.IsProper outline.lines) SourceLine.number (read ++ lines)
      (fun later => brackets [] (read ++ lines) = some later.pending)
      (readLines outline lines draft).value.1 := by
  induction lines generalizing draft read with
  | nil =>
      rw [List.append_nil]
      exact .accepted kept reads
  | cons line more ih =>
      have judged : Judged (line.IsProper outline.lines read) _ _ := judged_readLine reads
      simp only [readLines, Logged.value_bind]
      generalize (readLine outline line draft).value = result at judged ⊢
      cases judged with
      | refused broken => exact .refused ⟨read, more, rfl, kept, broken⟩ rfl
      | accepted proper goesOn =>
          have whole := ih goesOn (keptAlong_concat.2 ⟨kept, proper⟩)
          rw [List.append_assoc] at whole
          exact whole

end Parse

/-! ## Whole sources -/

theorem Outline.verdict_ofSource (name source : String) :
    Verdict SourceEntry.IsProper SourceEntry.number (Source.entries source)
      (fun outline => outline.lines = Source.lines source) (ofSource name source) :=
  @verdict_addLines _ [] rfl keptAlong_nil 1 (Text.lines source.toList)

theorem Outline.lines_of_ofSource {name source : String} {outline : Outline}
    (outlined : ofSource name source = .ok outline) : outline.lines = Source.lines source := by
  have verdict := verdict_ofSource name source
  rw [outlined] at verdict
  cases verdict with
  | accepted _ isLines => exact isLines

/-- What is still open at the end has the line to blame on top. -/
theorem Parse.close_cases {source : String} {draft : Draft} {outline : Outline}
    (entries : KeptAlong SourceEntry.IsProper (Source.entries source))
    (statements : KeptAlong (SourceLine.IsProper (Source.lines source)) (Source.lines source))
    (isOpen : brackets [] (Source.lines source) = some draft.pending) :
    (IsScript source ∧ ∃ script, close outline draft = .ok script) ∨
      ∃ number fault, Blames source number ∧ close outline draft = .error ⟨number, fault⟩ := by
  unfold Draft.pending at isOpen
  unfold close
  generalize draft.opened = opened at isOpen ⊢
  rcases opened with - | ⟨⟨block, number⟩, opened⟩
  · refine .inl ⟨⟨entries, fun line member => ?_, balanced_iff.2 isOpen⟩, _, rfl⟩
    obtain ⟨before, after, divides⟩ := List.append_of_mem member
    exact (statements before line after divides).1
  · obtain ⟨first, innermost, isNumber⟩ := exists_innermost isOpen
    refine .inr ⟨first.number, block.fault, .opened entries statements innermost, ?_⟩
    rw [isNumber, OpenBlock.number_pending]

/-- A source is read if it is a script, and otherwise refused for the line that it blames. -/
theorem Script.parse_cases (name source : String) (symbols : SymbolTable) :
    (IsScript source ∧ ∃ script, (parse name source symbols).value.1 = .ok script) ∨
      ∃ number fault, Blames source number ∧
        (parse name source symbols).value.1 = .error ⟨number, fault⟩ := by
  unfold parse
  have outlined := Outline.verdict_ofSource name source
  generalize Outline.ofSource name source = result at outlined ⊢
  cases outlined with
  | refused first isNumber => exact .inr ⟨_, _, isNumber ▸ .entry first, rfl⟩
  | @accepted outline entries isLines =>
      have read : Verdict _ _ _ _ (Parse.readLines outline outline.lines { symbols }).value.1 :=
        @Parse.verdict_readLines _ _ [] rfl keptAlong_nil outline.lines
      simp only [Logged.value_bind, Logged.value_pure]
      generalize (Parse.readLines outline outline.lines { symbols }).value = result at read ⊢
      rw [List.nil_append, isLines] at read
      obtain ⟨result, grown⟩ := result
      cases read with
      | refused first isNumber => exact .inr ⟨_, _, isNumber ▸ .statement entries first, rfl⟩
      | @accepted draft statements isOpen => exact Parse.close_cases entries statements isOpen

/--
A source is read if and only if it is a script; otherwise the line that it blames is
the one that is reported.
-/
theorem Script.parse_accepts_language (name source : String) (symbols : SymbolTable) :
    ((∃ script, (parse name source symbols).value.1 = .ok script) ↔ IsScript source) ∧
      ∀ number, (∃ fault, (parse name source symbols).value.1 = .error ⟨number, fault⟩) ↔
        Blames source number := by
  rcases Script.parse_cases name source symbols with
    ⟨isScript, script, reads⟩ | ⟨line, fault, blames, reads⟩
  · rw [reads]
    refine ⟨iff_of_true ⟨script, rfl⟩ isScript, fun number => iff_of_false nofun ?_⟩
    exact isScript.not_blames number
  · rw [reads]
    have notRead : ¬ ∃ script : Script,
        (Except.error ⟨line, fault⟩ : Except ScriptError Script) = .ok script := by
      rintro ⟨script, same⟩
      cases same
    refine ⟨iff_of_false notRead fun isScript => isScript.not_blames line blames, fun number => ?_⟩
    constructor
    · rintro ⟨other, same⟩
      cases same
      exact blames
    · intro blamed
      cases blamed.unique blames
      exact ⟨fault, rfl⟩

/-- A name that is missing is reported before a statement that comes earlier. -/
example : (Script.parse "example" "Jump nowhere\nLabel" {}).value.1 =
    .error ⟨2, .missing "Label" "a name"⟩ := by
  decide +kernel

end Looper
