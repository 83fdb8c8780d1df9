import Looper.Proofs.Script.Layout
import Looper.Proofs.Script.Shelving
import Mathlib.Data.List.Forall2

/-!
# Reading a source again

Names become symbols and definitions are put on names after a script has been
read.  Bringing the script up to date then comes to the same as reading its
source again: every name that the source has is known by now under the id that it
got, so that nothing but targets and levels can differ.
-/

namespace Looper

namespace SymbolTable

/-- Names have become symbols, and definitions were put on names, in any order. -/
inductive Develops (before : SymbolTable) : SymbolTable → Prop where
  | refl : Develops before before
  | intern {after : SymbolTable} (earlier : Develops before after) (name : String) :
      Develops before (after.intern name).2
  | define {after : SymbolTable} (earlier : Develops before after) (name : String)
      (definition : Definition) : Develops before (after.define name definition).value.2

/-- However a table develops, names keep their places and first spellings. -/
theorem Develops.keepsNames {before after : SymbolTable} (develops : before.Develops after) :
    before.KeepsNames after := by
  induction develops with
  | refl => exact .refl before
  | intern _ name ih => exact ih.trans (extends_intern _ name).keepsNames
  | define _ name definition ih => exact ih.trans (registers_define _ name definition).names

/-- A name that is known has its id, and does not become a symbol again. -/
theorem KeepsNames.intern_eq {before later : SymbolTable} {name : String}
    (keeps : (before.intern name).2.KeepsNames later) :
    later.intern name = ((before.intern name).1, later) :=
  intern_of_idOf? (keeps.idOf? (before.idOf?_intern name))

end SymbolTable

/-! ## What bringing up to date may change -/

/-- A statement stays as it is, but for the target and the level of an invocation. -/
inductive Statement.Updates : Statement → Statement → Prop where
  | same (statement : Statement) : Updates statement statement
  | invoke (invocation : Invocation) (target : Target) (level : SymbolLevel) :
      Updates (.invoke invocation) (.invoke { invocation with target, level })

/-- A script stays as it is, but for targets and levels of its invocations. -/
structure Script.Updates (before after : Script) : Prop where
  same : after = { before with statements := after.statements }
  statements : List.Forall₂ Statement.Updates before.statements after.statements

theorem Invocation.exists_refresh_eq (invocation : Invocation) (symbols : SymbolTable) :
    ∃ target level, invocation.refresh symbols = { invocation with target, level } := by
  unfold refresh
  cases symbols.get? invocation.symbol with
  | none => exact ⟨invocation.target, invocation.level, rfl⟩
  | some symbol => exact ⟨symbol.target, symbol.level, rfl⟩

theorem Statement.updates_refresh (symbols : SymbolTable) (statement : Statement) :
    statement.Updates (statement.refresh symbols) := by
  cases statement with
  | invoke invocation =>
      obtain ⟨target, level, isRefreshed⟩ := invocation.exists_refresh_eq symbols
      have updated := Updates.invoke invocation target level
      rwa [← isRefreshed] at updated
  | _ => exact .same _

theorem Script.updates_refresh (symbols : SymbolTable) (script : Script) :
    script.Updates (script.refresh symbols) where
  same := rfl
  statements :=
    List.forall₂_map_right_iff.2
      (List.forall₂_same.2 fun statement _ => statement.updates_refresh symbols)

theorem Invocation.refresh_same (invocation : Invocation) (symbols : SymbolTable) :
    (invocation.refresh symbols).refresh symbols = invocation.refresh symbols := by
  unfold refresh
  cases found : symbols.get? invocation.symbol with
  | none => simp only [found]
  | some symbol => simp only [found]

theorem Script.refresh_same (script : Script) (symbols : SymbolTable) :
    (script.refresh symbols).refresh symbols = script.refresh symbols := by
  unfold refresh
  rw [List.map_map]
  refine congrArg (fun statements => { script with statements }) ?_
  refine List.map_congr_left fun statement _ => ?_
  cases statement with
  | invoke invocation => exact congrArg Statement.invoke (invocation.refresh_same symbols)
  | _ => rfl

namespace ScriptLibrary

theorem updates_resolve (library : ScriptLibrary) (symbols : SymbolTable) :
    List.Forall₂ Script.Updates library.scripts (library.resolve symbols).value.2.scripts := by
  rw [scripts_resolve]
  exact List.forall₂_map_right_iff.2
    (List.forall₂_same.2 fun script _ => script.updates_refresh symbols)

theorem count_resolve_eq (library : ScriptLibrary) (symbols : SymbolTable) :
    (library.resolve symbols).value.1 =
      (library.scripts.zip (library.resolve symbols).value.2.scripts).countP
        fun script => script.1 ≠ script.2 := by
  have pairs : library.scripts.zip (library.scripts.map (Script.refresh symbols)) =
      library.scripts.map fun script => (script, script.refresh symbols) := by
    simpa using @List.zip_map' _ _ _ id (Script.refresh symbols) library.scripts
  rw [count_resolve, scripts_resolve, pairs, List.countP_map]
  refine List.countP_congr fun script _ => ?_
  simp only [Function.comp_apply, decide_eq_true_eq]
  exact ne_comm

theorem count_resolve_again (library : ScriptLibrary) (symbols : SymbolTable) :
    ((library.resolve symbols).value.2.resolve symbols).value.1 = 0 := by
  rw [count_resolve, scripts_resolve, List.countP_eq_zero]
  intro script member
  obtain ⟨before, -, rfl⟩ := List.mem_map.1 member
  simp only [Script.refresh_same, ne_eq, not_true_eq_false, decide_false, Bool.false_eq_true,
    not_false_eq_true]

/-- What is put into a library stands under the number that is given back. -/
theorem get?_insert (library : ScriptLibrary) (script : Script) :
    (library.insert script).2.get? (library.insert script).1 =
      some { script with id := (library.insert script).1 } := by
  unfold insert
  split
  · next place =>
      obtain ⟨within, -⟩ := List.findIdx?_eq_some_iff_getElem.1 place
      exact List.getElem?_set_self within
  · exact List.getElem?_concat_length

end ScriptLibrary

/-! ## Reading against later symbols -/

def Draft.asOf (later : SymbolTable) (draft : Draft) : Draft :=
  { draft with symbols := later, statements := draft.statements.map (Statement.refresh later) }

namespace Draft

variable (later : SymbolTable) (draft : Draft)

theorem index_asOf : (draft.asOf later).index = draft.index :=
  List.length_map _

theorem opened_asOf : (draft.asOf later).opened = draft.opened := rfl

theorem asOf_push (statement : Statement) :
    (draft.push statement).asOf later = (draft.asOf later).push (statement.refresh later) := by
  unfold asOf push
  simp only [List.map_append, List.map_cons, List.map_nil]

theorem refresh_closeAt (index : Nat) (statement : Statement) :
    (statement.closeAt index).refresh later = (statement.refresh later).closeAt index := by
  cases statement <;> rfl

/-- A block is closed alike, since closing it does not look at invocations. -/
theorem asOf_closeHere (start : Nat) :
    (draft.closeHere start).asOf later = (draft.asOf later).closeHere start := by
  unfold closeHere
  rw [index_asOf]
  unfold asOf
  refine congrArg (fun statements => { draft with symbols := later, statements }) ?_
  refine List.ext_getElem? fun place => ?_
  rw [List.getElem?_map, List.getElem?_modify, List.getElem?_modify, List.getElem?_map]
  cases draft.statements[place]? with
  | none => rfl
  | some statement =>
      simp only [Option.map_eq_map, Option.map_some, Option.some.injEq]
      split
      · exact refresh_closeAt later draft.index statement
      · rfl

/-- Continuing or closing a block reads no more than which blocks are open. -/
theorem asOf_goOn (opened : List (OpenBlock × Nat)) (start : Nat) {statement : Statement}
    (same : statement.refresh later = statement) :
    ((({ draft with opened } : Draft).closeHere start).push statement).asOf later =
      (({ draft.asOf later with opened } : Draft).closeHere start).push statement := by
  rw [asOf_push, asOf_closeHere, same]
  rfl

end Draft

namespace Parse

variable {later : SymbolTable} {outline : Outline} {line : SourceLine} {draft : Draft}

theorem endProc_asOf : endProc (draft.asOf later) = (endProc draft).map (Draft.asOf later) := by
  unfold endProc
  rw [Draft.opened_asOf]
  split
  · next start number opened _ =>
      exact congrArg Except.ok (draft.asOf_goOn later opened start rfl).symm
  · rfl

theorem otherwise_asOf :
    otherwise (draft.asOf later) = (otherwise draft).map (Draft.asOf later) := by
  unfold otherwise
  rw [Draft.opened_asOf, Draft.index_asOf]
  split
  · exact congrArg Except.ok (draft.asOf_goOn later _ _ rfl).symm
  · rfl

theorem endBranch_asOf :
    endBranch (draft.asOf later) = (endBranch draft).map (Draft.asOf later) := by
  unfold endBranch
  rw [Draft.opened_asOf]
  split
  · next start part number opened _ =>
      exact congrArg Except.ok (draft.asOf_goOn later opened (part.getD start) rfl).symm
  · rfl

theorem next_asOf : next (draft.asOf later) = (next draft).map (Draft.asOf later) := by
  unfold next
  rw [Draft.opened_asOf]
  split
  · next start number opened _ =>
      exact congrArg Except.ok (draft.asOf_goOn later opened start rfl).symm
  · rfl

theorem wait_asOf {symbols : SymbolTable}
    (known : ∀ kind grown, wait line symbols = .ok (kind, grown) → grown.KeepsNames later) :
    wait line later = (wait line symbols).map fun read => (read.1, later) := by
  unfold wait at known ⊢
  cases given : require line "a wait type" with
  | error fault => rfl
  | ok rest =>
      rw [given] at known
      simp only [bind, Except.bind, pure, Except.pure] at known ⊢
      split
      · rfl
      · rfl
      · rfl
      · split <;> rfl
      · split
        · rfl
        · next isFunction given =>
            rw [isFunction] at known
            rw [(known _ _ (if_neg given)).intern_eq]
            rfl
      · split <;> rfl

theorem require_asOf {what : String} {first second : String → Except ScriptFault Draft}
    (alike : ∀ operand, first operand = (second operand).map (Draft.asOf later)) :
    require line what >>= first = (require line what >>= second).map (Draft.asOf later) := by
  cases require line what with
  | error fault => rfl
  | ok operand => exact alike operand

/-- A line with a keyword is read alike against later symbols, if its names are known there. -/
theorem keywordLine_asOf (keyword : Keyword)
    (known : ∀ next, keywordLine outline line draft keyword = .ok next →
      next.symbols.KeepsNames later) :
    keywordLine outline line (draft.asOf later) keyword =
      (keywordLine outline line draft keyword).map (Draft.asOf later) := by
  have pushed {statement : Statement} (same : statement.refresh later = statement) :
      (.ok ((draft.asOf later).push statement) : Except ScriptFault Draft) =
        (Except.ok (draft.push statement)).map (Draft.asOf later) := by
    rw [Except.map, Draft.asOf_push, same]
  have opens (block : OpenBlock) {statement : Statement}
      (same : statement.refresh later = statement) :
      (.ok (((draft.asOf later).openBlock block line.number).push statement) :
          Except ScriptFault Draft) =
        (Except.ok ((draft.openBlock block line.number).push statement)).map
          (Draft.asOf later) := by
    rw [Except.map, Draft.asOf_push, same]
    rfl
  have index : (draft.asOf later).index = draft.index := draft.index_asOf later
  cases keyword with
  | label =>
      have labelled := Draft.asOf_push later
        { draft with labels := draft.labels.set (LabelKind.ofName line.rest) draft.index }
        (.label line.rest (LabelKind.ofName line.rest))
      unfold keywordLine
      rw [index]
      exact congrArg Except.ok labelled.symm
  | jump =>
      refine require_asOf fun name => ?_
      cases outline.labelIndex? name with
      | none => rfl
      | some label => exact pushed rfl
  | call =>
      refine require_asOf fun text => ?_
      dsimp only
      cases outline.procIndex? (Outline.split text).1 with
      | none => exact pushed rfl
      | some proc => exact pushed rfl
  | warp =>
      refine require_asOf fun name => ?_
      cases outline.procIndex? name with
      | none => rfl
      | some proc => exact pushed rfl
  | proc =>
      unfold keywordLine
      rw [index]
      exact opens _ rfl
  | endProc => exact endProc_asOf
  | declare =>
      refine require_asOf fun text => ?_
      cases declares : declaration text with
      | error fault => rfl
      | ok statement =>
          obtain ⟨everywhere, name, value, rfl⟩ := declare_of_declaration declares
          exact pushed rfl
  | assign => exact require_asOf fun text => pushed rfl
  | use => exact require_asOf fun text => pushed rfl
  | branch =>
      unfold keywordLine
      rw [index]
      exact require_asOf fun text => opens _ rfl
  | otherwise => exact otherwise_asOf
  | endBranch => exact endBranch_asOf
  | repeatLoop =>
      unfold keywordLine
      rw [index]
      exact require_asOf fun count => opens _ rfl
  | trackLoop =>
      unfold keywordLine
      rw [index]
      exact require_asOf fun tracks => opens _ rfl
  | next => exact next_asOf
  | wait =>
      unfold keywordLine at known ⊢
      have waits : wait line (draft.asOf later).symbols =
          (wait line draft.symbols).map fun read => (read.1, later) := by
        refine wait_asOf fun kind grown reads => ?_
        rw [reads] at known
        exact known _ rfl
      rw [waits]
      cases wait line draft.symbols with
      | error fault => rfl
      | ok read => exact pushed rfl
  | request kind => exact pushed rfl
  | demand kind what => exact require_asOf fun rest => pushed rfl
  | diff =>
      refine require_asOf fun text => ?_
      dsimp only
      split
      · rfl
      · exact pushed rfl
  | finish => exact pushed rfl

/-- An invocation that is brought up to date is made from the symbol as it is now. -/
theorem refresh_invocationOf {id : SymbolId} {symbol current : SymbolEntry}
    (stands : later.get? id = some current) (name : current.name = symbol.name) (args : String) :
    (invocationOf id symbol args).refresh later = invocationOf id current args := by
  unfold Invocation.refresh invocationOf
  rw [stands, name]

theorem symbolLine_asOf (known : (symbolLine line draft).value.symbols.KeepsNames later) :
    (symbolLine line (draft.asOf later)).value = (symbolLine line draft).value.asOf later := by
  rw [value_symbolLine] at known
  obtain ⟨symbol, found⟩ := draft.symbols.get?_intern line.word
  have isLater : (draft.asOf later).symbols.intern line.word =
      ((draft.symbols.intern line.word).1, later) := SymbolTable.KeepsNames.intern_eq known
  -- The name keeps its place and its first spelling.
  have named : later.names[(draft.symbols.intern line.word).1]? = some symbol.name :=
    known.getElem?
      ((SymbolTable.getElem?_names _ _).trans (congrArg (Option.map SymbolEntry.name) found))
  rw [SymbolTable.getElem?_names] at named
  obtain ⟨current, stands, isName⟩ := Option.map_eq_some_iff.1 named
  rw [value_symbolLine, value_symbolLine, Draft.asOf_push, isLater, found, stands,
    Option.getD_some, Option.getD_some, Statement.refresh, refresh_invocationOf stands isName]
  rfl

theorem readLine_asOf
    (known : ∀ next, (readLine outline line draft).value = .ok next →
      next.symbols.KeepsNames later) :
    (readLine outline line (draft.asOf later)).value =
      (readLine outline line draft).value.map (Draft.asOf later) := by
  unfold readLine at known ⊢
  cases isKeyword : line.keyword? with
  | some keyword =>
      rw [isKeyword] at known
      exact keywordLine_asOf keyword known
  | none =>
      rw [isKeyword] at known
      exact congrArg Except.ok (symbolLine_asOf (known _ rfl))

/--
Lines are read alike against later symbols that know the names met in them, and
then none of these names becomes a symbol.
-/
theorem readLines_asOf {lines : List SourceLine}
    (known : (readLines outline lines draft).value.2.KeepsNames later) :
    (readLines outline lines (draft.asOf later)).value =
      ((readLines outline lines draft).value.1.map (Draft.asOf later), later) := by
  induction lines generalizing draft with
  | nil => rfl
  | cons line more ih =>
      have alike : (readLine outline line (draft.asOf later)).value =
          (readLine outline line draft).value.map (Draft.asOf later) := by
        refine readLine_asOf fun next reads => ?_
        rw [value_readLines_cons reads] at known
        exact (interns_readLines more next).extends.keepsNames.trans known
      cases reads : (readLine outline line draft).value with
      | error fault =>
          rw [reads] at alike
          simp only [readLines, Logged.value_bind, reads, alike]
          rfl
      | ok next =>
          rw [reads] at alike
          rw [value_readLines_cons reads] at known ⊢
          exact (value_readLines_cons alike).trans (ih known)

theorem close_asOf : close outline (draft.asOf later) =
    (close outline draft).map (Script.refresh later) := by
  unfold close
  rw [Draft.opened_asOf]
  split <;> rfl

end Parse

/-- Reading a source against later symbols gives the script as it is when brought up to date. -/
theorem Script.parse_later {name source : String} {symbols later : SymbolTable}
    (keeps : (Script.parse name source symbols).value.2.KeepsNames later) :
    (Script.parse name source later).value =
      ((Script.parse name source symbols).value.1.map (Script.refresh later), later) := by
  unfold Script.parse at keeps ⊢
  split
  · rfl
  · next outline outlined =>
      rw [outlined] at keeps
      have reads : (Parse.readLines outline outline.lines { symbols := later }).value =
          _ := @Parse.readLines_asOf _ _ { symbols } _ keeps
      simp only [Logged.value_bind, Logged.value_pure, reads]
      cases (Parse.readLines outline outline.lines { symbols }).value.1 with
      | error error => rfl
      | ok draft => exact congrArg (·, later) Parse.close_asOf

/--
A script that was read against earlier symbols, put into a library and brought up
to date is the script that its source is against the later symbols, apart from
its number; reading it again adds no symbol.  Bringing a library up to date
changes targets and levels of invocations only, counts the scripts that it
changes, and leaves nothing to be changed.
-/
theorem resolving_is_rereading (name source : String) (symbols later : SymbolTable)
    (develops : (Script.parse name source symbols).value.2.Develops later)
    (library : ScriptLibrary) :
    (Script.parse name source later).value.2 = later ∧
      (∀ script, (Script.parse name source symbols).value.1 = .ok script →
        ∃ again, (Script.parse name source later).value.1 = .ok again ∧
          ((library.insert script).2.resolve later).value.2.get? (library.insert script).1 =
            some { again with id := (library.insert script).1 }) ∧
      List.Forall₂ Script.Updates library.scripts (library.resolve later).value.2.scripts ∧
      (library.resolve later).value.1 =
        ((library.scripts.zip (library.resolve later).value.2.scripts).countP
          fun script => script.1 ≠ script.2) ∧
      ((library.resolve later).value.2.resolve later).value.1 = 0 := by
  have again := Script.parse_later develops.keepsNames
  refine ⟨by rw [again], ?_, library.updates_resolve later, library.count_resolve_eq later,
    library.count_resolve_again later⟩
  intro script reads
  refine ⟨script.refresh later, by rw [again, reads]; rfl, ?_⟩
  rw [ScriptLibrary.get?_resolve, ScriptLibrary.get?_insert]
  rfl

def hopeful : Script where
  name := "Outer"
  statements := [.invoke
    { symbol := 0, name := "Inner", target := .unresolved, level := .core, args := "2" }]
  lines := [1]

def fulfilled : SymbolTable :=
  ((Script.parse "Outer" "Inner 2" {}).value.2.define "INNER" (.script 1 {})).value.2

/-- The script reaches the other one after it is brought up to date, as if it were read again. -/
theorem resolving_is_rereading_fulfilled :
    (Script.parse "Outer" "Inner 2" {}).value.2.Develops fulfilled ∧
      (Script.parse "Outer" "Inner 2" {}).value.1 = .ok hopeful ∧
      ((⟨[hopeful]⟩ : ScriptLibrary).resolve fulfilled).value.1 = 1 ∧
      ∃ again, (Script.parse "Outer" "Inner 2" fulfilled).value.1 = .ok again ∧
        again ≠ hopeful ∧
        ((⟨[hopeful]⟩ : ScriptLibrary).resolve fulfilled).value.2.get? 0 = some again := by
  have develops : (Script.parse "Outer" "Inner 2" {}).value.2.Develops fulfilled :=
    .define .refl "INNER" (.script 1 {})
  have reads : (Script.parse "Outer" "Inner 2" {}).value.1 = .ok hopeful := by decide +kernel
  have counted : ((⟨[hopeful]⟩ : ScriptLibrary).resolve fulfilled).value.1 = 1 := by
    decide +kernel
  refine ⟨develops, reads, counted, ?_⟩
  obtain ⟨-, same, -⟩ := resolving_is_rereading "Outer" "Inner 2" {} fulfilled develops {}
  obtain ⟨again, rereads, stands⟩ := same hopeful reads
  have isAgain : again = hopeful.refresh fulfilled := by
    have refreshed := Script.parse_later develops.keepsNames
    rw [reads] at refreshed
    exact Except.ok.inj (rereads.symm.trans (congrArg Prod.fst refreshed))
  subst isAgain
  refine ⟨_, rereads, ?_, stands⟩
  decide +kernel

end Looper
