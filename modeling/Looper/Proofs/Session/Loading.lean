import Looper.Engine.Recorder
import Looper.Proofs.Binding.Snapshot
import Looper.Proofs.Session.Registering

/-!
# Loading scripts into a session

Loading a script puts it into the library, registers it under its name, brings
all invocations up to date and compiles every table anew.  So right afterwards
library, symbols, invocations and tables are in step.  The number that the
script has got stays its number, whatever happens later.
-/

namespace Looper

/-! ## Updates -/

/-- An update carries the tables that the live sets compile to, and they are in step. -/
structure TableUpdate.IsInStep (update : TableUpdate) (control : Control) : Prop where
  keyboard : ∃ table, update.keyboard = some table ∧
    (Compile.keyboard control.liveSets control.symbols).value = (table, control.symbols) ∧
    table.Each (Action.IsCurrent control.symbols)
  midi : ∃ tables, update.midi = some tables ∧
    (Compile.midi control.liveSets control.symbols).value = (tables, control.symbols) ∧
    tables.Each (Action.IsCurrent control.symbols)

namespace Control

/-- A full configuration compiles tables that are in step with the symbols it leaves. -/
theorem isInStep_compileAll (control : Control) :
    control.compileAll.value.1.IsInStep control.compileAll.value.2 := by
  have midiKnown : (Compile.midi control.liveSets
      (Compile.keyboard control.liveSets control.symbols).value.2).value.2.Extends
        control.compileAll.value.2.symbols := .refl _
  have keyboardKnown : (Compile.keyboard control.liveSets control.symbols).value.2.Extends
      control.compileAll.value.2.symbols := (Compile.interns_midi control.liveSets _).extends
  exact
    { keyboard :=
        ⟨_, rfl, (Compile.keyboard_again _ keyboardKnown).2,
          Compile.isCurrent_keyboard _ keyboardKnown⟩
      midi := ⟨_, rfl, (Compile.midi_again _ midiKnown).2, Compile.isCurrent_midi _ midiKnown⟩ }

/--
A script, as it was read, is in the library under a number, and its name stands
for it.  Every invocation in the library is known, and brought up to date.
-/
structure Announces (before : Control) (read : Script) (id : ScriptId) (after : Control) :
    Prop where
  inserts : ScriptLibrary.Inserts before.library read id (before.library.insert read).2
  known : (before.library.insert read).2.IsKnown after.symbols
  scripts : after.library.scripts =
    (before.library.insert read).2.scripts.map (Script.refresh after.symbols)
  definition : ∀ spelling, Text.sameName spelling read.name = true →
    after.symbols.definition? spelling = some (.script id read.traits)

namespace Announces

variable {before after : Control} {read : Script} {id : ScriptId}

theorem compileAll (announces : before.Announces read id after) :
    before.Announces read id after.compileAll.value.2 := by
  have interns : after.symbols.Interns after.compileAll.value.2.symbols :=
    after.interns_compileAll
  exact
    { inserts := announces.inserts
      known := announces.known.later interns.extends.keepsNames
      scripts := by
        rw [show after.compileAll.value.2.library.scripts = _ from
          ScriptLibrary.scripts_resolve after.library _, announces.scripts, List.map_map]
        exact List.map_congr_left fun script member =>
          Script.refresh_refresh
            (announces.known.later interns.extends.keepsNames script member) after.symbols
      definition := fun spelling same =>
        (interns.definition? spelling).trans (announces.definition spelling same) }

theorem get? (announces : before.Announces read id after) (other : ScriptId) :
    after.library.get? other =
      ((before.library.insert read).2.get? other).map (Script.refresh after.symbols) := by
  rw [ScriptLibrary.get?, announces.scripts, List.getElem?_map]
  rfl

theorem symbol (announces : before.Announces read id after) {spelling : String}
    (same : Text.sameName spelling read.name = true) :
    ∃ symbol, after.symbols.find? spelling = some symbol ∧
      symbol.target = .script id read.traits := by
  obtain ⟨symbol, found, isScript⟩ :=
    Option.bind_eq_some_iff.1 (announces.definition spelling same)
  exact ⟨symbol, found, by rw [SymbolEntry.target, isScript]; rfl⟩

theorem current (announces : before.Announces read id after) {script : Script}
    (member : script ∈ after.library.scripts) :
    script.IsCurrent after.symbols ∧
      ∀ statement ∈ script.statements, statement.isStale after.symbols = false := by
  obtain ⟨inserted, isInserted, isAfter⟩ := List.mem_map.1 (announces.scripts ▸ member)
  have current : script.IsCurrent after.symbols :=
    isAfter ▸ Script.IsKnown.isCurrent_refresh (announces.known inserted isInserted)
  exact ⟨current, fun statement isOne => current.fresh isOne⟩

end Announces

end Control

namespace Session

/-- What loading a script, as it was read, under a number does to a session. -/
structure Loads (before : Session) (read : Script) (id : ScriptId) (after : Session) : Prop where
  /-- The script takes over the number of its name, or gets the next one. -/
  place : id =
    ((before.control.library.find? read.name).map Script.id).getD before.control.library.size
  /-- Under this number there is what was read, with its invocations up to date. -/
  stands : after.control.library.get? id =
    some (({ read with id } : Script).refresh after.control.symbols)
  others : ∀ other, other ≠ id → after.control.library.get? other =
    (before.control.library.get? other).map (Script.refresh after.control.symbols)
  size : after.control.library.size =
    if (before.control.library.find? read.name).isSome then before.control.library.size
    else before.control.library.size + 1
  /-- The name stands for this script, however it is spelled. -/
  symbol : ∀ spelling, Text.sameName spelling read.name = true →
    ∃ symbol, after.control.symbols.find? spelling = some symbol ∧
      symbol.target = .script id read.traits
  /-- No invocation is out of date. -/
  current : ∀ script ∈ after.control.library.scripts,
    script.IsCurrent after.control.symbols ∧
      ∀ statement ∈ script.statements, statement.isStale after.control.symbols = false
  /-- The last thing to be sent are tables that are in step. -/
  tables : ∃ (sender : Session) (update : TableUpdate), sender.control = after.control ∧
    after = (sender.publish update).value ∧ update.IsInStep after.control

variable {session : Session} {name source : String} {read : Script}

/-- A full configuration ends with an update being sent. -/
theorem value_configureAll (session : Session) :
    session.configureAll.value =
      ((session.withControl session.control.compileAll.value.2).publish
        session.control.compileAll.value.1).value :=
  rfl

theorem announces_of_parse (shelved : session.control.IsShelved)
    (reads : (Script.parse name source session.control.symbols).value.1 = .ok read) :
    ∃ (id : ScriptId) (announced : Control), session.control.Announces read id announced ∧
      (session.loadScript name source).value =
        (.ok id,
          ((session.withControl announced).publish
            { scripts := some announced.library }).value.configureAll.value) := by
  let symbols := (Script.parse name source session.control.symbols).value.2
  let inserted := session.control.library.insert read
  let definition : Definition := .script inserted.1 read.traits
  let defined := (symbols.define read.name definition).value.2
  have interns : session.control.symbols.Interns symbols :=
    Script.interns_parse name source session.control.symbols
  have registers : SymbolTable.Registers [⟨read.name, definition⟩] symbols defined :=
    symbols.registers_define read.name definition
  have known : inserted.2.IsKnown symbols :=
    ScriptLibrary.isKnown_insert (shelved.known.later interns.extends.keepsNames)
      (Script.known_of_parse reads)
  refine ⟨inserted.1,
    { session.control with symbols := defined, library := (inserted.2.resolve defined).value.2 },
    ⟨ScriptLibrary.inserts_insert shelved.inOrder read, known.later registers.names,
      ScriptLibrary.scripts_resolve inserted.2 defined, ?_⟩, ?_⟩
  · intro spelling same
    have last : Registration.last? [⟨read.name, definition⟩] spelling =
        some ⟨read.name, definition⟩ := by
      rw [Registration.last?, List.filter_cons, if_pos (Text.sameName_symm same)]
      rfl
    rw [registers.definitions, last]
    rfl
  · rw [value_loadScript, ScriptLibrary.value_load, reads]
    dsimp only
    rw [Control.value_announce]

/-- Loading a script leaves library, symbols, invocations and tables in step. -/
theorem loads_loadScript (shelved : session.control.IsShelved)
    (reads : (Script.parse name source session.control.symbols).value.1 = .ok read) :
    ∃ id, (session.loadScript name source).value.1 = .ok id ∧
      Loads session read id (session.loadScript name source).value.2 := by
  obtain ⟨id, announced, announces, loads⟩ := announces_of_parse shelved reads
  let sender :=
    ((session.withControl announced).publish { scripts := some announced.library }).value
  have isControl : sender.control = announced := control_publish _ _
  have control : sender.configureAll.value.control = announced.compileAll.value.2 := by
    rw [configureAll, control_publishCompiled, isControl]
  -- The library was brought up to date twice; only the second time counts.
  have after : session.control.Announces read id sender.configureAll.value.control :=
    control ▸ announces.compileAll
  refine ⟨id, by rw [loads], ?_⟩
  rw [loads]
  dsimp only
  exact
    { place := after.inserts.place
      stands := by
        rw [after.get?, after.inserts.stands]
        rfl
      others := fun other apart => by rw [after.get?, after.inserts.others other apart]
      size := by
        rw [ScriptLibrary.size, after.scripts, List.length_map]
        exact after.inserts.size
      symbol := fun spelling same => after.symbol same
      current := fun script member => after.current member
      tables := by
        refine ⟨_, _, ?_, value_configureAll sender, ?_⟩
        · rw [control, isControl]
          rfl
        · rw [control, isControl]
          exact announced.isInStep_compileAll }

theorem parse_of_loadScript {id : ScriptId}
    (loads : (session.loadScript name source).value.1 = .ok id) :
    ∃ read, (Script.parse name source session.control.symbols).value.1 = .ok read := by
  cases reads : (Script.parse name source session.control.symbols).value.1 with
  | ok read => exact ⟨read, rfl⟩
  | error error =>
      rw [value_loadScript, ScriptLibrary.value_load, reads] at loads
      cases loads

/-! ## Sources at fault -/

/--
What an attempt to load a source at fault leaves behind: some names that nothing
is attached to, behind the symbols that there were.
-/
structure Refuses (before after : Session) : Prop where
  /-- Nothing but the symbols of the control half has changed. -/
  same : after = before.withControl
    { before.control with symbols := after.control.symbols }
  added : ∃ added, after.control.symbols.entries = before.control.symbols.entries ++ added ∧
    ∀ symbol ∈ added, symbol.isResolved = false
  resolved : ∀ name,
    after.control.symbols.isResolved name = before.control.symbols.isResolved name

theorem parse_of_refused {error : ScriptError}
    (refused : (session.loadScript name source).value.1 = .error error) :
    (Script.parse name source session.control.symbols).value.1 = .error error := by
  rw [value_loadScript, ScriptLibrary.value_load] at refused
  cases reads : (Script.parse name source session.control.symbols).value.1 with
  | ok read =>
      rw [reads] at refused
      cases refused
  | error fault =>
      rw [reads] at refused
      exact congrArg Except.error (Except.error.inj refused)

/--
Loading a source at fault, wherever the fault is, changes nothing but the symbols:
bindings, selection, threshold and library stay, and nothing is sent.  The symbols
that there were stay as they are, and no name is resolved that was not.
-/
theorem refuses_loadScript (session : Session) (name source : String) (error : ScriptError)
    (refused : (session.loadScript name source).value.1 = .error error) :
    Refuses session (session.loadScript name source).value.2 := by
  have interns := Script.interns_parse name source session.control.symbols
  have outcome : (session.loadScript name source).value.2 = session.withControl
      { session.control with
        symbols := (Script.parse name source session.control.symbols).value.2 } := by
    rw [value_loadScript, ScriptLibrary.value_load, parse_of_refused refused]
  rw [outcome]
  exact
    { same := rfl
      added := interns.exists_added
      resolved := fun name => by
        rw [SymbolTable.isResolved_eq, SymbolTable.isResolved_eq]
        exact congrArg Option.isSome (interns.definition? name) }

/-- Two names are met before the line at fault; one of them is defined, and the other is new. -/
theorem refuses_loadScript_strayEnd :
    let session := new {} ⟨[⟨"Mute", some .interface⟩]⟩
    (session.loadScript "main" "mute\nSolo\nEndif").value.1 = .error ⟨3, .strayEndIf⟩ ∧
      Refuses session (session.loadScript "main" "mute\nSolo\nEndif").value.2 ∧
      (session.loadScript "main" "mute\nSolo\nEndif").value.2.control.symbols.names =
        ["Mute", "Solo"] := by
  intro session
  have refused : (session.loadScript "main" "mute\nSolo\nEndif").value.1 =
      .error ⟨3, .strayEndIf⟩ := by decide +kernel
  exact ⟨refused, refuses_loadScript session "main" "mute\nSolo\nEndif" _ refused,
    by decide +kernel⟩

variable {ε χ : Type} [Engine ε]

/-- What follows the loading of a script keeps the number for its name. -/
theorem loads_and_keeps (shelved : session.control.IsShelved) (settled : session.IsSettled)
    {id : ScriptId} (loads : (session.loadScript name source).value.1 = .ok id) (engine : ε)
    (later : List (Undertaking ε χ)) :
    ∃ read script, (Script.parse name source session.control.symbols).value.1 = .ok read ∧
      Loads session read id (session.loadScript name source).value.2 ∧
      ((session.loadScript name source).value.2.undertakeAll engine
        later).value.1.control.library.get? id = some script ∧
      Text.sameName script.name read.name = true := by
  obtain ⟨read, reads⟩ := parse_of_loadScript loads
  obtain ⟨given, loadsGiven, loaded⟩ := loads_loadScript shelved reads
  obtain rfl : given = id := Except.ok.inj (loadsGiven.symm.trans loads)
  have first := session.advances_loadScript name source
  have settledAfter : (session.loadScript name source).value.2.IsSettled :=
    isSettled_of_loop (decides_loadScript session name source).loop settled
  have rest := (session.loadScript name source).value.2.advances_undertakeAll engine later
    settledAfter
  obtain ⟨script, found, same⟩ :=
    (rest.library (first.library shelved).1).2 given _ loaded.stands
  exact ⟨read, script, reads, loaded, found, same⟩

/--
Through every history the library stays in order.  Whenever a script is loaded,
library, symbols, invocations and tables are in step right afterwards; and the
number that the script was given remains the number of its name.
-/
theorem scripts_stay_in_step (config : Config) (symbols : SymbolTable) (engine : ε)
    (history : List (Undertaking ε χ)) :
    let start := new config symbols
    let reached := (start.undertakeAll engine history).value.1
    reached.control.library.IsInOrder ∧
      ∀ (earlier later : List (Undertaking ε χ)) (name source : String) (id : ScriptId),
        history = earlier ++ .operation (.loadScript name source) :: later →
        let before := (start.undertakeAll engine earlier).value.1
        (before.loadScript name source).value.1 = .ok id →
        ∃ read script, (Script.parse name source before.control.symbols).value.1 = .ok read ∧
          Loads before read id (before.loadScript name source).value.2 ∧
          reached.control.library.get? id = some script ∧ script.id = id ∧
          Text.sameName script.name read.name = true := by
  intro start reached
  have shelved (part : List (Undertaking ε χ)) :
      (start.undertakeAll engine part).value.1.control.IsShelved :=
    ((start.advances_undertakeAll engine part rfl).library (isShelved_new config symbols)).1
  refine ⟨(shelved history).inOrder, ?_⟩
  intro earlier later name source id isHistory before
  have shelvedBefore : before.control.IsShelved := shelved earlier
  have settled : before.IsSettled := start.isSettled_undertakeAll engine earlier rfl
  have isReached : reached = ((before.loadScript name source).value.2.undertakeAll
      (start.undertakeAll engine earlier).value.2 later).value.1 := by
    unfold reached before
    rw [isHistory, undertakeAll_append]
    rfl
  clear_value before
  intro loads
  obtain ⟨read, script, reads, loaded, found, same⟩ :=
    loads_and_keeps shelvedBefore settled loads (start.undertakeAll engine earlier).value.2 later
  rw [← isReached] at found
  have isId : script.id = id := (shelved history).inOrder.ids id script found
  exact ⟨read, script, reads, loaded, found, isId, same⟩

def preluded : List (Undertaking Recorder Unit) :=
  [.operation (.setBindings ⟨[{ name := "Keys", bindings :=
      [{ trigger := .key, value := 100, symbol := "inner" }] }]⟩),
    .operation (.loadScript "Outer" "Inner 2"),
    .operation (.loadScript "Inner" "End")]

def reloaded : Except ScriptError ScriptId × Session :=
  (((new {} {}).undertakeAll ({} : Recorder) preluded).value.1.loadScript "INNER" "Mute").value

/-- The script is given the number that it has. -/
theorem scripts_stay_in_step_reloaded :
    reloaded.1 = .ok 1 ∧
      ∃ read, Loads ((new {} {}).undertakeAll ({} : Recorder) preluded).value.1 read 1
        reloaded.2 := by
  have loads : reloaded.1 = .ok 1 := by decide +kernel
  obtain ⟨read, _, _, loaded, _⟩ :=
    (scripts_stay_in_step {} {} ({} : Recorder)
      (preluded ++ [.operation (.loadScript "INNER" "Mute")])).2
        preluded [] "INNER" "Mute" 1 rfl loads
  exact ⟨loads, read, loaded⟩

end Session

end Looper
