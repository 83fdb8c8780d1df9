import Looper.Binding.Compile

/-!
# Compiling again

Compiling bindings adds the names that are not symbols yet, and nothing else.
With all names known, compiling the same bindings again gives the same tables
and leaves the symbols alone.
-/

namespace Looper

namespace SymbolTable

/-- Later symbols follow the earlier ones, which are as they were. -/
def Extends (before after : SymbolTable) : Prop :=
  ∃ added, after.entries = before.entries ++ added

theorem Extends.refl (table : SymbolTable) : Extends table table :=
  ⟨[], (List.append_nil _).symm⟩

theorem Extends.trans {first second third : SymbolTable} (earlier : Extends first second)
    (later : Extends second third) : Extends first third := by
  obtain ⟨added, isSecond⟩ := earlier
  obtain ⟨more, isThird⟩ := later
  exact ⟨added ++ more, by rw [isThird, isSecond, List.append_assoc]⟩

theorem Extends.get? {before after : SymbolTable} (extension : Extends before after)
    {id : SymbolId} {symbol : SymbolEntry} (found : before.get? id = some symbol) :
    after.get? id = some symbol := by
  obtain ⟨added, isAfter⟩ := extension
  obtain ⟨within, _⟩ := List.getElem?_eq_some_iff.1 found
  unfold SymbolTable.get?
  rw [isAfter, List.getElem?_append_left within]
  exact found

theorem Extends.idOf? {before after : SymbolTable} (extension : Extends before after)
    {name : String} {id : SymbolId} (found : before.idOf? name = some id) :
    after.idOf? name = some id := by
  obtain ⟨added, isAfter⟩ := extension
  unfold SymbolTable.idOf? at found ⊢
  rw [isAfter, List.findIdx?_append, found]
  rfl

theorem extends_intern (table : SymbolTable) (name : String) :
    table.Extends (table.intern name).2 := by
  unfold intern
  split
  · exact .refl table
  · exact ⟨_, rfl⟩

theorem idOf?_intern (table : SymbolTable) (name : String) :
    (table.intern name).2.idOf? name = some (table.intern name).1 := by
  unfold intern
  split
  · next known => exact known
  · next unknown =>
      unfold idOf? at unknown ⊢
      rw [List.findIdx?_append, unknown]
      simp [size, Text.sameName_refl]

theorem get?_intern (table : SymbolTable) (name : String) :
    ∃ symbol, (table.intern name).2.get? (table.intern name).1 = some symbol := by
  have known := idOf?_intern table name
  obtain ⟨within, _⟩ := List.findIdx?_eq_some_iff_getElem.1 known
  exact ⟨_, List.getElem?_eq_getElem within⟩

theorem intern_of_idOf? {table : SymbolTable} {name : String} {id : SymbolId}
    (known : table.idOf? name = some id) : table.intern name = (id, table) := by
  unfold intern
  rw [known]

end SymbolTable

namespace Binding

def symbolName (binding : Binding) : String :=
  String.ofList (Text.trim binding.symbol.toList)

/-- The action of a binding is made from the symbol of its name. -/
theorem value_action? (binding : Binding) (symbols : SymbolTable) :
    (binding.action? symbols).value =
      if binding.symbolName.isEmpty then (none, symbols)
      else
        (((symbols.intern binding.symbolName).2.get? (symbols.intern binding.symbolName).1).map
          (binding.template (symbols.intern binding.symbolName).1),
          (symbols.intern binding.symbolName).2) := by
  unfold action? symbolName
  dsimp only
  split
  · rfl
  · split
    · next missing => rw [missing]; rfl
    · next symbol found =>
        rw [found]
        split <;> rfl

/-- With the name known, a binding has the same action, and no symbol is added. -/
theorem action?_again (binding : Binding) {symbols later : SymbolTable}
    (extension : (binding.action? symbols).value.2.Extends later) :
    symbols.Extends (binding.action? symbols).value.2 ∧
      (binding.action? later).value = ((binding.action? symbols).value.1, later) := by
  rw [value_action?] at extension ⊢
  rw [value_action?]
  split
  · exact ⟨.refl symbols, rfl⟩
  · next named =>
      rw [if_neg named] at extension
      have known := extension.idOf? (symbols.idOf?_intern binding.symbolName)
      obtain ⟨symbol, found⟩ := symbols.get?_intern binding.symbolName
      refine ⟨symbols.extends_intern binding.symbolName, ?_⟩
      rw [SymbolTable.intern_of_idOf? known]
      dsimp only
      rw [found, extension.get? found]

theorem value_compile (binding : Binding) (symbols : SymbolTable) :
    (binding.compile symbols).value =
      match binding.address?.value with
      | none => (none, symbols)
      | some address =>
          ((binding.action? symbols).value.1.map fun action =>
            { trigger := binding.trigger
              index := address.index
              qualifier := address.qualifier
              action := binding.identify address action },
            (binding.action? symbols).value.2) := by
  unfold compile
  rw [Logged.value_bind]
  cases binding.address?.value with
  | none => rfl
  | some address => rw [Logged.value_bind, Logged.value_pure]

/-- With its name known, a binding compiles to the same, and no symbol is added. -/
theorem compile_again (binding : Binding) {symbols later : SymbolTable}
    (extension : (binding.compile symbols).value.2.Extends later) :
    symbols.Extends (binding.compile symbols).value.2 ∧
      (binding.compile later).value = ((binding.compile symbols).value.1, later) := by
  rw [value_compile] at extension ⊢
  rw [value_compile]
  cases place : binding.address?.value with
  | none => exact ⟨.refl symbols, rfl⟩
  | some address =>
      rw [place] at extension
      dsimp only at extension ⊢
      obtain ⟨grown, again⟩ := binding.action?_again extension
      refine ⟨grown, ?_⟩
      rw [again]

end Binding

namespace Compile

theorem bindings_again (list : List Binding) {symbols later : SymbolTable}
    (extension : (bindings list symbols).value.2.Extends later) :
    symbols.Extends (bindings list symbols).value.2 ∧
      (bindings list later).value = ((bindings list symbols).value.1, later) := by
  induction list generalizing symbols with
  | nil => exact ⟨.refl symbols, rfl⟩
  | cons binding rest ih =>
      have restExtension :
          (bindings rest (binding.compile symbols).value.2).value.2.Extends later := extension
      obtain ⟨grownRest, restAgain⟩ := ih restExtension
      obtain ⟨grown, again⟩ := binding.compile_again (grownRest.trans extension)
      refine ⟨grown.trans grownRest, ?_⟩
      unfold bindings
      simp only [Logged.value_bind, Logged.value_pure, again, restAgain]

theorem value_keyboard (sets : List BindingSet) (symbols : SymbolTable) :
    (keyboard sets symbols).value =
      let compiled := (bindings
        ((inOrder sets).filter fun binding => binding.trigger == .key) symbols).value
      (compiled.1.foldl
        (fun table entry => table.add entry.index entry.qualifier entry.action)
        BindingTable.empty, compiled.2) := by
  simp only [keyboard, refillKeyboard, Logged.value_bind, Logged.value_pure,
    BindingTable.prepare_eq_empty]

theorem value_midi (sets : List BindingSet) (symbols : SymbolTable) :
    (midi sets symbols).value =
      let compiled := (bindings
        ((inOrder sets).filter fun binding => binding.trigger.isMidi) symbols).value
      (compiled.1.foldl MidiTables.file {}, compiled.2) := by
  simp only [midi, refillMidi, Logged.value_bind, Logged.value_pure, MidiTables.prepare_eq]

theorem keyboard_again (sets : List BindingSet) {symbols later : SymbolTable}
    (extension : (keyboard sets symbols).value.2.Extends later) :
    symbols.Extends (keyboard sets symbols).value.2 ∧
      (keyboard sets later).value = ((keyboard sets symbols).value.1, later) := by
  rw [value_keyboard] at extension ⊢
  obtain ⟨grown, again⟩ := bindings_again _ extension
  refine ⟨grown, ?_⟩
  rw [value_keyboard, again]

theorem midi_again (sets : List BindingSet) {symbols later : SymbolTable}
    (extension : (midi sets symbols).value.2.Extends later) :
    symbols.Extends (midi sets symbols).value.2 ∧
      (midi sets later).value = ((midi sets symbols).value.1, later) := by
  rw [value_midi] at extension ⊢
  obtain ⟨grown, again⟩ := bindings_again _ extension
  refine ⟨grown, ?_⟩
  rw [value_midi, again]

end Compile

end Looper
