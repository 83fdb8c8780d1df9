import Looper.Proofs.Script.Reading

/-!
# The symbols that scripts invoke

Reading a script adds the names that it meets to the symbols, and changes
nothing else there, even if the script is at fault.  An invocation is made from
the symbol of its name, and symbols keep their places and their names; so it
stays the invocation of that symbol.
-/

namespace Looper

def Statement.invocation? : Statement → Option Invocation
  | .invoke invocation => some invocation
  | _ => none

def Script.invocations (script : Script) : List Invocation :=
  script.statements.filterMap Statement.invocation?

def Invocation.IsKnown (symbols : SymbolTable) (invocation : Invocation) : Prop :=
  symbols.names[invocation.symbol]? = some invocation.name

theorem Invocation.IsKnown.later {before after : SymbolTable} {invocation : Invocation}
    (isKnown : invocation.IsKnown before) (keeps : before.KeepsNames after) :
    invocation.IsKnown after :=
  keeps.getElem? isKnown

/-! ## Reading a source -/

def Draft.invocations (draft : Draft) : List Invocation :=
  draft.statements.filterMap Statement.invocation?

theorem Statement.invocation?_closeAt (index : Nat) (statement : Statement) :
    (statement.closeAt index).invocation? = statement.invocation? := by
  cases statement <;> rfl

theorem SourceLine.Yields.invocation? {outline : Outline} {line : SourceLine}
    {statement : Statement} {keyword : Keyword}
    (yields : line.Yields outline statement keyword) : statement.invocation? = none := by
  cases keyword with
  | declare =>
      obtain ⟨everywhere, name, value, rfl⟩ := Parse.declare_of_declaration yields
      rfl
  | jump | warp =>
      obtain ⟨index, -, rfl⟩ := yields
      rfl
  | proc | branch | otherwise | repeatLoop | trackLoop | next | wait =>
      obtain ⟨part, rfl⟩ := yields
      rfl
  | _ =>
      rw [yields]
      rfl

namespace Draft

/-- A draft goes on without an invocation being added; names may be. -/
structure GoesOn (before after : Draft) : Prop where
  symbols : before.symbols.Interns after.symbols
  invocations : after.invocations = before.invocations

end Draft

namespace Parse

variable {outline : Outline} {draft later : Draft} {line : SourceLine}

theorem goesOn_keywordLine {keyword : Keyword}
    (reads : keywordLine outline line draft keyword = .ok later) : draft.GoesOn later := by
  obtain ⟨statement, yields, takes⟩ := takes_keywordLine reads
  refine ⟨takes.adds.symbols, ?_⟩
  have seen := takes.adds.filterMap Statement.invocation?_closeAt
  rwa [yields.invocation?, Option.toList_none, List.append_nil] at seen

theorem interns_readLine (reads : (readLine outline line draft).value = .ok later) :
    draft.symbols.Interns later.symbols := by
  unfold readLine at reads
  split at reads
  · exact (goesOn_keywordLine reads).symbols
  · obtain ⟨invocation, takes⟩ := takes_symbolLine line draft
    exact Except.ok.inj reads ▸ takes.adds.symbols

/-- Reading lines adds the names that are met, also if a line is at fault. -/
theorem interns_readLines (lines : List SourceLine) (draft : Draft) :
    draft.symbols.Interns (readLines outline lines draft).value.2 := by
  induction lines generalizing draft with
  | nil => exact .refl
  | cons line more ih =>
      simp only [readLines, Logged.value_bind]
      split
      · exact .refl
      · next next isNext => exact (interns_readLine isNext).trans (ih next)

end Parse

namespace Draft

/-- The symbols of a draft go on from given ones, and it invokes no others. -/
structure Recognizes (symbols : SymbolTable) (draft : Draft) : Prop where
  interns : symbols.Interns draft.symbols
  known : ∀ invocation ∈ draft.invocations, invocation.IsKnown draft.symbols

theorem Recognizes.start (symbols : SymbolTable) : Recognizes symbols { symbols } where
  interns := .refl
  known _ member := absurd member List.not_mem_nil

end Draft

namespace Parse

variable {symbols : SymbolTable} {outline : Outline} {draft later : Draft} {line : SourceLine}

/-- The invocation of a line is made from the symbol of its word. -/
theorem recognizes_symbolLine (recognizes : draft.Recognizes symbols) :
    (symbolLine line draft).value.Recognizes symbols := by
  have grown := SymbolTable.Interns.intern draft.symbols line.word
  obtain ⟨symbol, found⟩ := draft.symbols.get?_intern line.word
  rw [value_symbolLine, found, Option.getD_some]
  refine ⟨recognizes.interns.trans grown, ?_⟩
  intro invocation member
  rw [Draft.invocations, Draft.push, List.filterMap_append, List.mem_append] at member
  rcases member with earlier | isNew
  · exact (recognizes.known invocation earlier).later grown.extends.keepsNames
  · rw [List.mem_singleton.1 isNew, Invocation.IsKnown]
    exact (SymbolTable.getElem?_names _ _).trans (congrArg (Option.map SymbolEntry.name) found)

theorem recognizes_readLine (recognizes : draft.Recognizes symbols)
    (reads : (readLine outline line draft).value = .ok later) : later.Recognizes symbols := by
  unfold readLine at reads
  split at reads
  · have goesOn := goesOn_keywordLine reads
    refine ⟨recognizes.interns.trans goesOn.symbols, ?_⟩
    rw [goesOn.invocations]
    exact fun invocation member =>
      (recognizes.known invocation member).later goesOn.symbols.extends.keepsNames
  · rw [← Except.ok.inj reads]
    exact recognizes_symbolLine recognizes

theorem symbols_readLines {lines : List SourceLine}
    (reads : (readLines outline lines draft).value.1 = .ok later) :
    later.symbols = (readLines outline lines draft).value.2 := by
  induction lines generalizing draft with
  | nil =>
      cases reads
      rfl
  | cons line more ih =>
      simp only [readLines, Logged.value_bind] at reads ⊢
      split at reads
      · cases reads
      · exact ih reads

end Parse

theorem Script.interns_parse (name source : String) (symbols : SymbolTable) :
    symbols.Interns (Script.parse name source symbols).value.2 := by
  unfold Script.parse
  split
  · exact .refl
  · next outline _ => exact Parse.interns_readLines outline.lines { symbols }

/-- A script that has been read invokes symbols of the table. -/
theorem Script.known_of_parse {name source : String} {symbols : SymbolTable} {script : Script}
    (reads : (Script.parse name source symbols).value.1 = .ok script) :
    ∀ invocation ∈ script.invocations,
      invocation.IsKnown (Script.parse name source symbols).value.2 := by
  obtain ⟨outline, draft, -, isDraft, -, rfl⟩ := Script.exists_draft reads
  have reached := congrArg Prod.fst isDraft
  have same : draft.symbols = (Script.parse name source symbols).value.2 :=
    (Parse.symbols_readLines reached).trans (congrArg Prod.snd isDraft)
  have recognizes : draft.Recognizes symbols :=
    @Parse.readLines_induction _ [] _ _ (fun _ => Draft.Recognizes symbols)
      Parse.recognizes_readLine _ (.start symbols) reached
  rw [← same]
  exact recognizes.known

end Looper
