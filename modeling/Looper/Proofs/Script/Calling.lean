import Looper.Proofs.Script.Accepting
import Looper.Proofs.Script.Writing

/-!
# Which procs can be called

The name of a proc is the whole rest of the line that opens it, and so it is for
`Warp`.  `Call` takes the first word of its operand as the name, because arguments
may follow.  So a proc is called by its name if that is one word, and cannot be
called at all if it has a blank in it.
-/

namespace Looper

/-! ## What lines do about procs -/

/-- What a statement does about procs, wherever a proc ends. -/
inductive ProcUse where
  | opens (name : String)
  | call (target : CallTarget) (args : String)
  | warp (start : Nat)
  deriving DecidableEq, Repr

def ProcUse.isOpening (name : String) : ProcUse → Bool
  | opens other => Text.sameName other name
  | _ => false

def Statement.procUse? : Statement → Option ProcUse
  | .proc name _ => some (.opens name)
  | .call target args => some (.call target args)
  | .warp start => some (.warp start)
  | _ => none

/-- What a line does about procs, if these are found by their names as given. -/
def SourceLine.procUse? (entry : String → Option Nat) (line : SourceLine) : Option ProcUse :=
  match line.keyword? with
  | some .proc => some (.opens line.rest)
  | some .call =>
      some (.call (Program.target entry (Outline.split line.rest).1) (Outline.split line.rest).2)
  | some .warp => (entry line.rest).map .warp
  | _ => none

theorem SourceLine.any_procUse? (entry : String → Option Nat) (line : SourceLine)
    (name : String) : (line.procUse? entry).any (ProcUse.isOpening name) = line.isProc name := by
  unfold procUse? isProc
  cases line.keyword? with
  | none => rfl
  | some keyword =>
      cases keyword with
      | warp => cases entry line.rest <;> rfl
      | _ => rfl

theorem Statement.procUse?_closeAt (index : Nat) (statement : Statement) :
    (statement.closeAt index).procUse? = statement.procUse? := by
  cases statement <;> rfl

theorem SourceLine.Yields.procUse? {outline : Outline} {line : SourceLine}
    {statement : Statement} {keyword : Keyword} (isKeyword : line.keyword? = some keyword)
    (yields : line.Yields outline statement keyword) :
    statement.procUse? = line.procUse? outline.procIndex? := by
  unfold SourceLine.procUse?
  rw [isKeyword]
  cases keyword with
  | declare =>
      obtain ⟨everywhere, name, value, rfl⟩ := Parse.declare_of_declaration yields
      rfl
  | warp =>
      obtain ⟨start, found, rfl⟩ := yields
      exact (congrArg (Option.map ProcUse.warp) found).symm
  | jump =>
      obtain ⟨index, -, rfl⟩ := yields
      rfl
  | proc | branch | otherwise | repeatLoop | trackLoop | next | wait =>
      obtain ⟨part, rfl⟩ := yields
      rfl
  | _ =>
      rw [yields]
      rfl

namespace Parse

variable {outline : Outline} {draft later : Draft} {line : SourceLine}

/-- A line that is read adds what it does about procs, and nothing else of the kind. -/
theorem procUse_readLine (reads : (readLine outline line draft).value = .ok later) :
    later.statements.map Statement.procUse? =
      draft.statements.map Statement.procUse? ++ [line.procUse? outline.procIndex?] := by
  unfold readLine at reads
  cases isKeyword : line.keyword? with
  | some keyword =>
      rw [isKeyword] at reads
      obtain ⟨statement, yields, takes⟩ := takes_keywordLine reads
      rw [takes.adds.statements Statement.procUse?_closeAt, yields.procUse? isKeyword]
  | none =>
      rw [isKeyword] at reads
      have none : line.procUse? outline.procIndex? = none := by
        rw [SourceLine.procUse?, isKeyword]
      obtain ⟨invocation, takes⟩ := takes_symbolLine line draft
      rw [none, ← Except.ok.inj reads, takes.adds.statements Statement.procUse?_closeAt]
      rfl

theorem procUse_readLines {lines : List SourceLine} {symbols : SymbolTable}
    (reads : (readLines outline lines { symbols }).value.1 = .ok later) :
    later.statements.map Statement.procUse? =
      lines.map (SourceLine.procUse? outline.procIndex?) := by
  refine @readLines_induction outline [] _ later
    (fun read draft => draft.statements.map Statement.procUse? =
      read.map (SourceLine.procUse? outline.procIndex?)) (fun earlier next => ?_) lines rfl reads
  rw [procUse_readLine next, earlier, List.map_append, List.map_singleton]

end Parse

def Source.procIndex? (source name : String) : Option Nat :=
  (lines source).findIdx? fun line => line.isProc name

namespace Script

variable {name source : String} {symbols : SymbolTable} {script : Script}

/-- A script does about procs what its source says, line by line. -/
theorem procUse_of_parse (reads : (parse name source symbols).value.1 = .ok script) :
    script.statements.map Statement.procUse? =
      (Source.lines source).map (SourceLine.procUse? (Source.procIndex? source)) := by
  obtain ⟨outline, draft, outlined, isDraft, -, rfl⟩ := exists_draft reads
  have isLines : outline.lines = Source.lines source := Outline.lines_of_ofSource outlined
  have entry : outline.procIndex? = Source.procIndex? source := by
    funext proc
    rw [Outline.procIndex?, isLines]
    rfl
  have uses := Parse.procUse_readLines (congrArg Prod.fst isDraft)
  rwa [entry, isLines] at uses

/-- A proc is found in a script where its line stands in the source. -/
theorem findProc?_of_parse (reads : (parse name source symbols).value.1 = .ok script)
    (proc : String) : script.findProc? proc = Source.procIndex? source proc := by
  have inScript : script.findProc? proc = (script.statements.map
      Statement.procUse?).findIdx? (Option.any (ProcUse.isOpening proc)) := by
    rw [List.findIdx?_map, findProc?]
    refine congrArg (List.findIdx? · script.statements) (funext fun statement => ?_)
    cases statement <;> rfl
  have inSource : Source.procIndex? source proc = ((Source.lines source).map
      (SourceLine.procUse? (Source.procIndex? source))).findIdx?
        (Option.any (ProcUse.isOpening proc)) := by
    rw [List.findIdx?_map, Source.procIndex?]
    refine congrArg (List.findIdx? · (Source.lines source)) (funext fun line => ?_)
    exact (line.any_procUse? (Source.procIndex? source) proc).symm
  rw [inScript, inSource, procUse_of_parse reads]

theorem isScript_of_parse (reads : (parse name source symbols).value.1 = .ok script) :
    IsScript source := by
  rcases parse_cases name source symbols with ⟨isScript, -⟩ | ⟨number, fault, -, refuses⟩
  · exact isScript
  · rw [refuses] at reads
    cases reads

theorem exists_statement (reads : (parse name source symbols).value.1 = .ok script)
    {index : Nat} {line : SourceLine} (stands : (Source.lines source)[index]? = some line) :
    ∃ statement, script.statements[index]? = some statement ∧
      statement.procUse? = line.procUse? (Source.procIndex? source) := by
  have same := congrArg (·[index]?) (procUse_of_parse reads)
  simp only [List.getElem?_map, stands, Option.map_some] at same
  exact Option.map_eq_some_iff.1 same

end Script

/-! ## Names of procs -/

/-- The names of labels and procs are their own among the statement lines. -/
theorem keptAlong_isNamed {entries : List SourceEntry}
    (kept : KeptAlong SourceEntry.IsProper entries) :
    KeptAlong SourceLine.IsNamed (entries.filterMap SourceEntry.line?) := by
  intro before line after divides
  obtain ⟨front, back, rfl, rfl, isBehind⟩ := List.filterMap_eq_append_iff.1 divides
  obtain ⟨skipped, entry, rest, rfl, noLine, isLine, -⟩ := List.filterMap_eq_cons_iff.1 isBehind
  have proper := kept (front ++ skipped) entry rest (List.append_assoc ..).symm
  cases entry with
  | blank | directive => cases isLine
  | statement =>
      cases isLine
      rwa [SourceEntry.IsProper, List.filterMap_append, List.filterMap_eq_nil_iff.2 noLine,
        List.append_nil] at proper

theorem IsScript.isNamed {source : String} (isScript : IsScript source) {index : Nat}
    {line : SourceLine} (stands : (Source.lines source)[index]? = some line) :
    line.IsNamed ((Source.lines source).take index) := by
  obtain ⟨within, isLine⟩ := List.getElem?_eq_some_iff.1 stands
  refine keptAlong_isNamed isScript.entries _ line ((Source.lines source).drop (index + 1)) ?_
  rw [← isLine, ← List.drop_eq_getElem_cons within, List.take_append_drop]
  rfl

/-- A proc is found by its name in any case, since no proc before it has the same. -/
theorem IsScript.procIndex?_eq {source : String} (isScript : IsScript source) {start : Nat}
    {opening : SourceLine} (stands : (Source.lines source)[start]? = some opening)
    (opens : opening.keyword? = some .proc) {name : String}
    (same : Text.sameName opening.rest name = true) :
    Source.procIndex? source name = some start := by
  obtain ⟨-, own⟩ := isScript.isNamed stands .proc (by decide) opens
  obtain ⟨within, isOpening⟩ := List.getElem?_eq_some_iff.1 stands
  refine List.findIdx?_eq_some_iff_getElem.2 ⟨within, ?_, fun earlier before isProc => ?_⟩
  · rw [isOpening, SourceLine.isProc, opens, same]
    rfl
  · obtain ⟨isKeyword, isSame⟩ := Bool.and_eq_true_iff.1 isProc
    have member : (Source.lines source)[earlier] ∈ (Source.lines source).take start :=
      List.mem_take_iff_getElem.2 ⟨earlier, by omega, rfl⟩
    refine own _ member (eq_of_beq isKeyword) ?_
    rw [Text.sameName_iff.1 isSame, Text.sameName_iff.1 same]

namespace Text

/-- No blank has a code between those of the space and of the delete character. -/
theorem isBlank_of_printable {c : Char} (front : 32 < c.toNat) (back : c.toNat < 127) :
    isBlank c = false := by
  simp [isBlank, blankRanges]
  omega

theorem isBlank_toLower (c : Char) : isBlank c.toLower = isBlank c := by
  unfold Char.toLower
  split
  · next upper =>
      have isUpper : 65 ≤ c.toNat ∧ c.toNat ≤ 90 := upper
      have isLower : (c.val + ('a'.val - 'A'.val)).toNat = c.toNat + 32 := by
        rw [UInt32.toNat_add]
        exact Nat.mod_eq_of_lt (Nat.lt_of_le_of_lt (Nat.add_le_add_right isUpper.2 32) (by decide))
      rw [isBlank_of_printable (Nat.lt_of_lt_of_le (by decide) isUpper.1)
        (Nat.lt_of_le_of_lt isUpper.2 (by decide))]
      refine isBlank_of_printable ?_ ?_
      · change 32 < (c.val + ('a'.val - 'A'.val)).toNat
        omega
      · change (c.val + ('a'.val - 'A'.val)).toNat < 127
        omega
  · rfl

/-- Names that differ in case alone have the same blanks, and are empty alike. -/
theorem isWord_iff_of_sameName {a b : String} (same : sameName a b = true) :
    IsWord a.toList ↔ IsWord b.toList := by
  have lowered (s : List Char) : IsWord (s.map Char.toLower) ↔ IsWord s := by
    simp [IsWord, isBlank_toLower]
  have alike : a.toList.map Char.toLower = b.toList.map Char.toLower :=
    String.ofList_injective (sameName_iff.1 same)
  rw [← lowered a.toList, alike, lowered]

theorem eq_empty_of_sameName {a : String} (same : sameName a "" = true) : a = "" := by
  have alike : a.toList.map Char.toLower = [] := String.ofList_injective (sameName_iff.1 same)
  exact String.toList_eq_nil_iff.1 (List.map_eq_nil_iff.1 alike)

end Text

/-! ## Calls -/

/-- The operand of a call gives a name, and arguments behind it if there are any. -/
inductive Gives (name : String) : String → String → Prop where
  | alone : Gives name "" name
  | args {args : String} {gap : List Char} (apart : gap ≠ [])
      (blank : ∀ c ∈ gap, Text.isBlank c = true) (given : args ≠ "")
      (tail : Text.IsTail args.toList) :
      Gives name args (String.ofList (name.toList ++ (gap ++ args.toList)))

theorem Gives.split {name args operand : String} (gives : Gives name args operand)
    (isWord : Text.IsWord name.toList) : Outline.split operand = (name, args) := by
  unfold Outline.split
  cases gives with
  | alone =>
      rw [isWord.splitWord_self]
      simp only [String.ofList_toList, String.ofList_nil]
  | args apart blank given tail =>
      have some : args.toList ≠ [] := fun empty => given (String.toList_eq_nil_iff.1 empty)
      rw [String.toList_ofList, isWord.splitWord_gap apart blank some tail]
      simp only [String.ofList_toList]

/-- What is split off from a text is a word, if there is anything. -/
theorem isWord_split {text : String} (some : (Outline.split text).1 ≠ "") :
    Text.IsWord (Outline.split text).1.toList := by
  refine ⟨fun empty => some (String.toList_eq_nil_iff.1 empty), fun c member => ?_⟩
  have solid := List.all_takeWhile (p := (!Text.isBlank ·)) (l := Text.trim text.toList)
  rw [Outline.split, String.toList_ofList] at member
  simpa using List.all_eq_true.1 solid c member

namespace Script

variable {name source : String} {symbols : SymbolTable} {script : Script} {index start : Nat}
  {line opening : SourceLine}

theorem warp_of_parse (reads : (parse name source symbols).value.1 = .ok script)
    (stands : (Source.lines source)[index]? = some line) (warps : line.keyword? = some .warp)
    (found : Source.procIndex? source line.rest = some start) :
    script.statements[index]? = some (.warp start) := by
  obtain ⟨statement, isStatement, uses⟩ := exists_statement reads stands
  rw [SourceLine.procUse?, warps] at uses
  simp only [found, Option.map_some] at uses
  cases statement <;> cases uses
  exact isStatement

theorem call_of_parse (reads : (parse name source symbols).value.1 = .ok script)
    (stands : (Source.lines source)[index]? = some line) (calls : line.keyword? = some .call)
    {callee args : String} (splits : Outline.split line.rest = (callee, args)) :
    script.statements[index]? =
      some (.call (Program.target (Source.procIndex? source) callee) args) := by
  obtain ⟨statement, isStatement, uses⟩ := exists_statement reads stands
  rw [SourceLine.procUse?, calls] at uses
  simp only [splits] at uses
  cases statement <;> cases uses
  exact isStatement

/-- A proc that is called has the first word of the operand as its name. -/
theorem exists_word_of_call (reads : (parse name source symbols).value.1 = .ok script)
    {args : String} (calls : script.statements[index]? = some (.call (.proc start) args)) :
    ∃ operand, Source.procIndex? source (Outline.split operand).1 = some start := by
  have same := congrArg (·[index]?) (procUse_of_parse reads)
  simp only [List.getElem?_map, calls, Option.map_some] at same
  obtain ⟨line, -, uses⟩ := Option.map_eq_some_iff.1 same.symm
  unfold SourceLine.procUse? at uses
  split at uses
  · cases uses
  · refine ⟨line.rest, ?_⟩
    simp only [Statement.procUse?, Option.some.injEq, ProcUse.call.injEq, Program.target] at uses
    split at uses
    · next found => rw [found]; exact congrArg some (CallTarget.proc.inj uses.1)
    · cases uses.1
  · obtain ⟨_, -, impossible⟩ := Option.map_eq_some_iff.1 uses
    cases impossible
  · cases uses

/--
The procs of a script and the lines that lead to them.  A proc is found by its name
in any case, and `Warp` goes to it by this name.  `Call` takes the first word of its
operand for the name, of a proc if there is one and of another script if there is
not.  So if the name of a proc is one word, `Call` with this name, alone or before
arguments, calls the proc with just these arguments; if the name has a blank in it,
nothing calls the proc.
-/
theorem calls_by_one_word (reads : (parse name source symbols).value.1 = .ok script)
    (defines : (Source.lines source)[start]? = some opening)
    (opens : opening.keyword? = some .proc) :
    (∀ spelling, Text.sameName opening.rest spelling = true →
      script.findProc? spelling = some start) ∧
    (∀ (index : Nat) (line : SourceLine), (Source.lines source)[index]? = some line →
      line.keyword? = some .warp → Text.sameName opening.rest line.rest = true →
        script.statements[index]? = some (.warp start)) ∧
    (∀ (index : Nat) (line : SourceLine), (Source.lines source)[index]? = some line →
      line.keyword? = some .call →
        script.statements[index]? = some (.call
          (Program.target script.findProc? (Outline.split line.rest).1)
          (Outline.split line.rest).2)) ∧
    (Text.IsWord opening.rest.toList →
      ∀ (index : Nat) (line : SourceLine) (spelling args : String),
        (Source.lines source)[index]? = some line → line.keyword? = some .call →
          Text.sameName opening.rest spelling = true → Gives spelling args line.rest →
            script.statements[index]? = some (.call (.proc start) args)) ∧
    (¬ Text.IsWord opening.rest.toList →
      ∀ (index : Nat) (args : String),
        script.statements[index]? ≠ some (.call (.proc start) args)) := by
  have isScript := isScript_of_parse reads
  have found {spelling : String} (same : Text.sameName opening.rest spelling = true) :
      Source.procIndex? source spelling = some start :=
    isScript.procIndex?_eq defines opens same
  have finds : script.findProc? = Source.procIndex? source := funext (findProc?_of_parse reads)
  rw [finds]
  refine ⟨fun spelling => found, ?_, ?_, ?_, ?_⟩
  · intro index line stands warps same
    exact warp_of_parse reads stands warps (found same)
  · intro index line stands calls
    exact call_of_parse reads stands calls rfl
  · intro isWord index line spelling args stands calls same gives
    have splits := gives.split ((Text.isWord_iff_of_sameName same).1 isWord)
    rw [call_of_parse reads stands calls splits, Program.target, found same]
  · intro notWord index args calls
    obtain ⟨operand, called⟩ := exists_word_of_call reads calls
    have same : Text.sameName opening.rest (Outline.split operand).1 = true := by
      obtain ⟨within, isProc, -⟩ := List.findIdx?_eq_some_iff_getElem.1 called
      rw [List.getElem?_eq_getElem within] at defines
      cases defines
      exact (Bool.and_eq_true_iff.1 isProc).2
    refine notWord ((Text.isWord_iff_of_sameName same).2 (isWord_split fun empty => ?_))
    rw [empty] at same
    obtain ⟨given, -⟩ := isScript.isNamed defines .proc (by decide) opens
    exact given (Text.eq_empty_of_sameName same)

def helpersSource : String :=
  "Call HELPER 1 2\nCall my helper\nWarp My Helper\nProc helper\nEndproc\nProc my helper\nEndproc"

def helpers : Script where
  name := "helpers"
  statements := [.call (.proc 3) "1 2", .call (.script "my") "helper", .warp 5, .proc "helper" 4,
    .endProc, .proc "my helper" 6, .endProc]
  lines := [1, 2, 3, 4, 5, 6, 7]

/-- One proc is called and the other is not, though its name is given as it is for `Warp`. -/
theorem calls_by_one_word_helpers :
    (parse "helpers" helpersSource {}).value.1 = .ok helpers ∧
      helpers.statements[0]? = some (.call (.proc 3) "1 2") ∧
      helpers.statements[2]? = some (.warp 5) ∧
      (∀ (index : Nat) (args : String),
        helpers.statements[index]? ≠ some (.call (.proc 5) args)) := by
  have reads : (parse "helpers" helpersSource {}).value.1 = .ok helpers := by decide +kernel
  have one : (Source.lines helpersSource)[3]? = some ⟨4, "Proc", "helper"⟩ := by decide +kernel
  have two : (Source.lines helpersSource)[5]? = some ⟨6, "Proc", "my helper"⟩ := by
    decide +kernel
  have gives : Gives "HELPER" "1 2" "HELPER 1 2" :=
    .args (List.cons_ne_nil ' ' []) (List.forall_mem_singleton.2 (by decide)) (by decide)
      (by decide)
  obtain ⟨-, -, -, called, -⟩ := calls_by_one_word reads one (by decide)
  obtain ⟨-, warps, -, -, never⟩ := calls_by_one_word reads two (by decide)
  refine ⟨reads, ?_, ?_, never (by decide)⟩
  · exact called (by decide) 0 ⟨1, "Call", "HELPER 1 2"⟩ "HELPER" "1 2" (by decide +kernel)
      (by decide) (by decide) gives
  · exact warps 2 ⟨3, "Warp", "My Helper"⟩ (by decide +kernel) (by decide) (by decide)

end Script

end Looper
