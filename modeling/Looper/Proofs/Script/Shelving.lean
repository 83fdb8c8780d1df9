import Looper.Proofs.Script.Recognizing

/-!
# The script library and its symbols

A library numbers its scripts by position and has no name twice.  Putting a
script in gives it a number or takes over the one of its name; bringing the
library up to date leaves numbers and names alone.  Afterwards every invocation
has the target and the level of its symbol.
-/

namespace Looper

namespace Invocation

theorem symbol_refresh (invocation : Invocation) (symbols : SymbolTable) :
    (invocation.refresh symbols).symbol = invocation.symbol := by
  unfold refresh
  split <;> rfl

theorem name_refresh (invocation : Invocation) (symbols : SymbolTable) :
    (invocation.refresh symbols).name = invocation.name := by
  unfold refresh
  split <;> rfl

theorem isKnown_refresh {invocation : Invocation} {symbols : SymbolTable}
    (known : invocation.IsKnown symbols) (later : SymbolTable) :
    (invocation.refresh later).IsKnown symbols := by
  unfold IsKnown
  rw [symbol_refresh, name_refresh]
  exact known

/-- An invocation carries the name, the target and the level of its symbol. -/
def IsCurrent (symbols : SymbolTable) (invocation : Invocation) : Prop :=
  ∃ symbol, symbols.get? invocation.symbol = some symbol ∧ invocation.name = symbol.name ∧
    invocation.target = symbol.target ∧ invocation.level = symbol.level

theorem IsKnown.exists_symbol {invocation : Invocation} {symbols : SymbolTable}
    (known : invocation.IsKnown symbols) :
    ∃ symbol, symbols.get? invocation.symbol = some symbol ∧ symbol.name = invocation.name := by
  rw [IsKnown, SymbolTable.getElem?_names] at known
  exact Option.map_eq_some_iff.1 known

theorem isCurrent_refresh {invocation : Invocation} {symbols : SymbolTable}
    (known : invocation.IsKnown symbols) : (invocation.refresh symbols).IsCurrent symbols := by
  obtain ⟨symbol, found, isName⟩ := known.exists_symbol
  unfold IsCurrent refresh
  rw [found]
  exact ⟨symbol, found, isName.symm, rfl, rfl⟩

/-- An invocation that carries what its symbol has is not out of date. -/
theorem IsCurrent.refresh_eq {invocation : Invocation} {symbols : SymbolTable}
    (current : invocation.IsCurrent symbols) : invocation.refresh symbols = invocation := by
  obtain ⟨symbol, found, -, target, level⟩ := current
  unfold refresh
  rw [found]
  dsimp only
  rw [← target, ← level]

/-- What was up to date before does not matter once an invocation is brought up to date. -/
theorem refresh_refresh {invocation : Invocation} {later : SymbolTable}
    (known : invocation.IsKnown later) (earlier : SymbolTable) :
    (invocation.refresh earlier).refresh later = invocation.refresh later := by
  obtain ⟨symbol, found, -⟩ := known.exists_symbol
  unfold refresh
  cases earlier.get? invocation.symbol with
  | none => rfl
  | some old => simp only [found]

end Invocation

namespace Statement

theorem invocation?_refresh (symbols : SymbolTable) (statement : Statement) :
    (statement.refresh symbols).invocation? =
      statement.invocation?.map fun invocation => invocation.refresh symbols := by
  cases statement <;> rfl

/-- A statement is out of date just if bringing it up to date changes it. -/
theorem isStale_iff {symbols : SymbolTable} {statement : Statement} :
    statement.isStale symbols = true ↔ statement.refresh symbols ≠ statement := by
  cases statement with
  | invoke invocation => simp [isStale, Invocation.isStale, refresh]
  | _ => simp [isStale, refresh]

end Statement

namespace Script

def refresh (symbols : SymbolTable) (script : Script) : Script :=
  { script with statements := script.statements.map (Statement.refresh symbols) }

def IsKnown (symbols : SymbolTable) (script : Script) : Prop :=
  ∀ invocation ∈ script.invocations, invocation.IsKnown symbols

/-- The invocations of a script carry what their symbols have. -/
def IsCurrent (symbols : SymbolTable) (script : Script) : Prop :=
  ∀ invocation ∈ script.invocations, invocation.IsCurrent symbols

theorem invocations_refresh (symbols : SymbolTable) (script : Script) :
    (script.refresh symbols).invocations =
      script.invocations.map fun invocation => invocation.refresh symbols := by
  unfold invocations refresh
  rw [List.filterMap_map, List.map_filterMap]
  exact congrArg (List.filterMap · script.statements)
    (funext fun statement => statement.invocation?_refresh symbols)

theorem IsKnown.refresh {script : Script} {symbols : SymbolTable} (known : script.IsKnown symbols)
    (later : SymbolTable) : (script.refresh later).IsKnown symbols := by
  unfold IsKnown
  rw [invocations_refresh]
  intro invocation member
  obtain ⟨before, isBefore, rfl⟩ := List.mem_map.1 member
  exact Invocation.isKnown_refresh (known before isBefore) later

theorem IsKnown.isCurrent_refresh {script : Script} {symbols : SymbolTable}
    (known : script.IsKnown symbols) : (script.refresh symbols).IsCurrent symbols := by
  unfold IsCurrent
  rw [invocations_refresh]
  intro invocation member
  obtain ⟨before, isBefore, rfl⟩ := List.mem_map.1 member
  exact Invocation.isCurrent_refresh (known before isBefore)

/-- In a script that is up to date, no statement is found to be out of date. -/
theorem IsCurrent.fresh {script : Script} {symbols : SymbolTable}
    (current : script.IsCurrent symbols) {statement : Statement}
    (member : statement ∈ script.statements) : statement.isStale symbols = false := by
  cases statement with
  | invoke invocation =>
      have isOne : invocation ∈ script.invocations := List.mem_filterMap.2 ⟨_, member, rfl⟩
      simp [Statement.isStale, Invocation.isStale, (current invocation isOne).refresh_eq]
  | _ => rfl

theorem refresh_refresh {script : Script} {later : SymbolTable} (known : script.IsKnown later)
    (earlier : SymbolTable) : (script.refresh earlier).refresh later = script.refresh later := by
  unfold refresh
  rw [List.map_map]
  refine congrArg (fun statements => { script with statements }) ?_
  refine List.map_congr_left fun statement member => ?_
  cases statement with
  | invoke invocation =>
      have isOne : invocation ∈ script.invocations := List.mem_filterMap.2 ⟨_, member, rfl⟩
      exact congrArg Statement.invoke (Invocation.refresh_refresh (known invocation isOne) earlier)
  | _ => rfl

end Script

/-- A script is found to be out of date just if bringing it up to date changes it. -/
theorem Statement.any_isStale_iff {symbols : SymbolTable} {script : Script} :
    script.statements.any (Statement.isStale symbols) = true ↔ script.refresh symbols ≠ script := by
  rw [List.any_eq_true]
  constructor
  · rintro ⟨statement, member, stale⟩ same
    have kept : script.statements.map (Statement.refresh symbols) = script.statements.map id :=
      (congrArg Script.statements same).trans (List.map_id _).symm
    exact Statement.isStale_iff.1 stale (List.map_inj_left.1 kept statement member)
  · intro changed
    refine Classical.byContradiction fun fresh => changed ?_
    have same : script.statements.map (Statement.refresh symbols) = script.statements := by
      refine (List.map_congr_left fun statement member => ?_).trans (List.map_id _)
      refine Classical.byContradiction fun other => fresh ⟨statement, member, ?_⟩
      exact Statement.isStale_iff.2 other
    rw [Script.refresh, same]

namespace ScriptLibrary

/-! ## Bringing a library up to date -/

theorem value_resolveScript (symbols : SymbolTable) (script : Script) :
    (resolveScript symbols script).value =
      (decide (script.refresh symbols ≠ script), script.refresh symbols) := by
  unfold resolveScript
  split
  · next stale =>
      rw [decide_eq_true (Statement.any_isStale_iff.1 stale)]
      rfl
  · next fresh =>
      have same : script.refresh symbols = script :=
        Classical.byContradiction fun changed => fresh (Statement.any_isStale_iff.2 changed)
      simp [same]

theorem value_resolveScripts (symbols : SymbolTable) (scripts : List Script) :
    (resolveScripts symbols scripts).value =
      (scripts.countP fun script => script.refresh symbols ≠ script,
        scripts.map (Script.refresh symbols)) := by
  induction scripts with
  | nil => rfl
  | cons script rest ih =>
      simp only [resolveScripts, Logged.value_bind, Logged.value_pure, value_resolveScript, ih,
        List.countP_cons, List.map_cons]
      rw [Nat.add_comm]
      cases decide (script.refresh symbols ≠ script) <;> rfl

/-- Bringing a library up to date brings each of its scripts up to date. -/
theorem scripts_resolve (library : ScriptLibrary) (symbols : SymbolTable) :
    (library.resolve symbols).value.2.scripts = library.scripts.map (Script.refresh symbols) :=
  congrArg Prod.snd (value_resolveScripts symbols library.scripts)

theorem count_resolve (library : ScriptLibrary) (symbols : SymbolTable) :
    (library.resolve symbols).value.1 =
      library.scripts.countP fun script => script.refresh symbols ≠ script :=
  congrArg Prod.fst (value_resolveScripts symbols library.scripts)

/-- Where no script was out of date, the library stays as it is. -/
theorem resolve_of_current {library : ScriptLibrary} {symbols : SymbolTable}
    (current : (library.resolve symbols).value.1 = 0) :
    (library.resolve symbols).value.2 = library := by
  rw [count_resolve, List.countP_eq_zero] at current
  have same : library.scripts.map (Script.refresh symbols) = library.scripts :=
    (List.map_congr_left fun script member => by simpa using current script member).trans
      (List.map_id _)
  exact congrArg ScriptLibrary.mk ((scripts_resolve library symbols).trans same)

/-- Resolving reports a change just if the library changes. -/
theorem resolve_changed_iff (library : ScriptLibrary) (symbols : SymbolTable) :
    0 < (library.resolve symbols).value.1 ↔ (library.resolve symbols).value.2 ≠ library := by
  constructor
  · intro stale same
    rw [count_resolve, List.countP_pos_iff] at stale
    obtain ⟨script, member, changed⟩ := stale
    have kept : library.scripts.map (Script.refresh symbols) = library.scripts.map id :=
      (scripts_resolve library symbols).symm.trans
        ((congrArg ScriptLibrary.scripts same).trans (List.map_id _).symm)
    exact of_decide_eq_true changed (List.map_inj_left.1 kept script member)
  · intro changed
    exact Nat.pos_of_ne_zero fun current => changed (resolve_of_current current)

theorem get?_resolve (library : ScriptLibrary) (symbols : SymbolTable) (id : ScriptId) :
    (library.resolve symbols).value.2.get? id = (library.get? id).map (Script.refresh symbols) := by
  rw [get?, scripts_resolve, List.getElem?_map]
  rfl

/-! ## Numbers and names -/

/-- Scripts are numbered by position, and no two have the same name. -/
structure IsInOrder (library : ScriptLibrary) : Prop where
  ids : ∀ id script, library.get? id = some script → script.id = id
  names : library.scripts.Pairwise fun first second =>
    Text.sameName first.name second.name = false

theorem isInOrder_empty : IsInOrder {} where
  ids id script found := by cases found
  names := .nil

def IsKnown (symbols : SymbolTable) (library : ScriptLibrary) : Prop :=
  ∀ script ∈ library.scripts, script.IsKnown symbols

/-- Whoever has a number keeps it, with its name or another spelling of it. -/
def KeepsPlaces (before after : ScriptLibrary) : Prop :=
  ∀ id script, before.get? id = some script →
    ∃ later, after.get? id = some later ∧ Text.sameName later.name script.name = true

theorem KeepsPlaces.refl (library : ScriptLibrary) : KeepsPlaces library library :=
  fun _ script found => ⟨script, found, Text.sameName_refl _⟩

theorem KeepsPlaces.trans {first second third : ScriptLibrary} (earlier : KeepsPlaces first second)
    (later : KeepsPlaces second third) : KeepsPlaces first third := by
  intro id script found
  obtain ⟨next, foundNext, same⟩ := earlier id script found
  obtain ⟨last, foundLast, sameLast⟩ := later id next foundNext
  exact ⟨last, foundLast, Text.sameName_trans sameLast same⟩

theorem keepsPlaces_resolve (library : ScriptLibrary) (symbols : SymbolTable) :
    library.KeepsPlaces (library.resolve symbols).value.2 := by
  intro id script found
  rw [get?_resolve, found]
  exact ⟨_, rfl, Text.sameName_refl script.name⟩

theorem isInOrder_resolve {library : ScriptLibrary} (inOrder : library.IsInOrder)
    (symbols : SymbolTable) : (library.resolve symbols).value.2.IsInOrder where
  ids id script found := by
    rw [get?_resolve] at found
    obtain ⟨before, stood, rfl⟩ := Option.map_eq_some_iff.1 found
    exact inOrder.ids id before stood
  names := by
    rw [scripts_resolve]
    exact List.pairwise_map.2 inOrder.names

theorem isKnown_resolve {library : ScriptLibrary} {symbols : SymbolTable}
    (known : library.IsKnown symbols) (later : SymbolTable) :
    (library.resolve later).value.2.IsKnown symbols := by
  intro script member
  rw [scripts_resolve] at member
  obtain ⟨before, isBefore, rfl⟩ := List.mem_map.1 member
  exact (known before isBefore).refresh later

theorem IsKnown.later {library : ScriptLibrary} {before after : SymbolTable}
    (known : library.IsKnown before) (keeps : before.KeepsNames after) : library.IsKnown after :=
  fun script member invocation isOne => (known script member invocation isOne).later keeps

/-! ## Putting a script in -/

/-- What putting a script into a library does. -/
structure Inserts (library : ScriptLibrary) (script : Script) (id : ScriptId)
    (after : ScriptLibrary) : Prop where
  /-- The script takes over the number of its name, or gets the next one. -/
  place : id = ((library.find? script.name).map Script.id).getD library.size
  stands : after.get? id = some { script with id }
  others : ∀ other, other ≠ id → after.get? other = library.get? other
  size : after.size = if (library.find? script.name).isSome then library.size else library.size + 1

/-- A script of a library in order is found by its name at its number. -/
theorem IsInOrder.find?_eq {library : ScriptLibrary} (inOrder : library.IsInOrder)
    {name : String} {id : ScriptId}
    (place : (library.scripts.findIdx? fun other => Text.sameName other.name name) = some id) :
    ∃ script, library.find? name = some script ∧ library.get? id = some script ∧
      script.id = id ∧ Text.sameName script.name name = true := by
  obtain ⟨within, same, isFirst⟩ := List.findIdx?_eq_some_iff_getElem.1 place
  have stands : library.get? id = some library.scripts[id] :=
    List.getElem?_eq_getElem within
  refine ⟨_, ?_, stands, inOrder.ids id _ stands, same⟩
  exact List.find?_eq_some_iff_getElem.2
    ⟨same, id, within, rfl, fun earlier isEarlier => by simpa using isFirst earlier isEarlier⟩

theorem inserts_insert {library : ScriptLibrary} (inOrder : library.IsInOrder) (script : Script) :
    Inserts library script (library.insert script).1 (library.insert script).2 := by
  unfold insert
  cases place : library.scripts.findIdx? fun other => Text.sameName other.name script.name with
  | some id =>
      obtain ⟨old, found, -, isId, -⟩ := inOrder.find?_eq place
      obtain ⟨within, -⟩ := List.findIdx?_eq_some_iff_getElem.1 place
      refine ⟨?_, ?_, ?_, ?_⟩
      · rw [found]
        exact isId.symm
      · exact List.getElem?_set_self within
      · exact fun other apart => List.getElem?_set_ne (Ne.symm apart)
      · rw [found]
        exact List.length_set
  | none =>
      have unknown : library.find? script.name = none :=
        List.find?_eq_none.2 fun other member => by
          simpa using List.findIdx?_eq_none_iff.1 place other member
      refine ⟨?_, ?_, ?_, ?_⟩
      · rw [unknown]
        rfl
      · exact List.getElem?_concat_length
      · intro other apart
        unfold get? size at *
        rw [List.getElem?_append]
        split
        · rfl
        · next beyond =>
            have past : library.scripts.length < other :=
              Nat.lt_of_le_of_ne (Nat.le_of_not_lt beyond) (Ne.symm apart)
            rw [List.getElem?_eq_none (Nat.le_of_lt past)]
            exact List.getElem?_eq_none (Nat.le_sub_of_add_le (Nat.add_comm 1 _ ▸ past))
      · rw [unknown]
        exact List.length_append

/-- A library without a name twice has no two names that fold to one. -/
theorem pairwise_names_iff (scripts : List Script) :
    (scripts.Pairwise fun first second => Text.sameName first.name second.name = false) ↔
      (scripts.map fun script => Text.fold script.name).Pairwise (· ≠ ·) := by
  rw [List.pairwise_map]
  unfold Text.sameName
  simp only [beq_eq_false_iff_ne]

theorem isInOrder_insert {library : ScriptLibrary} (inOrder : library.IsInOrder)
    (script : Script) : (library.insert script).2.IsInOrder where
  ids other later found := by
    have inserts := inserts_insert inOrder script
    by_cases same : other = (library.insert script).1
    · rw [same, inserts.stands] at found
      cases found
      exact same.symm
    · rw [inserts.others other same] at found
      exact inOrder.ids other later found
  names := by
    have names := (pairwise_names_iff _).1 inOrder.names
    refine (pairwise_names_iff _).2 ?_
    unfold insert
    cases place : library.scripts.findIdx? fun other => Text.sameName other.name script.name with
    | some id =>
        obtain ⟨within, same, -⟩ := List.findIdx?_eq_some_iff_getElem.1 place
        have inside : id < (library.scripts.map fun script => Text.fold script.name).length := by
          rw [List.length_map]
          exact within
        have isFold : Text.fold script.name =
            (library.scripts.map fun script => Text.fold script.name)[id] := by
          rw [List.getElem_map]
          exact (Text.sameName_iff.1 same).symm
        dsimp only
        rw [List.map_set, isFold, List.set_getElem_self]
        exact names
    | none =>
        dsimp only
        rw [List.map_append, List.pairwise_append]
        refine ⟨names, List.pairwise_singleton _ _, ?_⟩
        intro folded member last isLast same
        obtain ⟨other, isOther, rfl⟩ := List.mem_map.1 member
        have apart := List.findIdx?_eq_none_iff.1 place other isOther
        rw [List.mem_singleton.1 isLast] at same
        rw [Text.sameName_iff.2 same] at apart
        cases apart

theorem isKnown_insert {library : ScriptLibrary} {symbols : SymbolTable}
    (known : library.IsKnown symbols) {script : Script} (isKnown : script.IsKnown symbols) :
    (library.insert script).2.IsKnown symbols := by
  intro other member
  unfold insert at member
  split at member
  · rcases List.mem_or_eq_of_mem_set member with earlier | isNew
    · exact known other earlier
    · exact isNew ▸ isKnown
  · rcases List.mem_append.1 member with earlier | isNew
    · exact known other earlier
    · exact List.mem_singleton.1 isNew ▸ isKnown

theorem Inserts.keepsPlaces {library after : ScriptLibrary} (inOrder : library.IsInOrder)
    {script : Script} {id : ScriptId} (inserts : Inserts library script id after) :
    library.KeepsPlaces after := by
  intro other old found
  by_cases same : other = id
  · subst same
    refine ⟨_, inserts.stands, ?_⟩
    have place := inserts.place
    cases known : library.find? script.name with
    | none =>
        rw [known] at place
        obtain ⟨within, -⟩ := List.getElem?_eq_some_iff.1 found
        exact absurd within (place ▸ Nat.lt_irrefl _)
    | some one =>
        rw [known] at place
        have isName : Text.sameName one.name script.name = true := by
          exact @List.find?_some _ _ one _ known
        obtain ⟨position, within, isOne⟩ :=
          List.getElem_of_mem (List.mem_of_find?_eq_some known)
        have stood : library.get? position = some one :=
          List.getElem?_eq_some_iff.2 ⟨within, isOne⟩
        have isOther : other = position := place.trans (inOrder.ids position one stood)
        rw [isOther, stood] at found
        cases found
        exact Text.sameName_symm isName
  · exact ⟨old, (inserts.others other same).trans found, Text.sameName_refl _⟩

end ScriptLibrary

end Looper
