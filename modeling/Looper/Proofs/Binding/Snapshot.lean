import Looper.Proofs.Binding.Interning
import Looper.Proofs.Binding.Sustain

/-!
# Compiled actions and their symbols

Compiling a binding takes a snapshot: the action carries the name of the symbol
as it was first spelled, and what the symbol stands for at the time.  Names that
become symbols later do not make it out of date.
-/

namespace Looper

namespace Action

/-- An action carries the name, the target and the level of a symbol. -/
structure Carries (symbol : SymbolEntry) (action : Action) : Prop where
  name : action.name = symbol.name
  target : action.target = symbol.target
  level : action.level = symbol.level

/-- What an action carries is up to date while name and definition stay the same. -/
theorem Carries.of_kept {known symbol : SymbolEntry} {action : Action}
    (carries : action.Carries known) (name : known.name = symbol.name)
    (definition : known.definition = symbol.definition) : action.Carries symbol where
  name := carries.name.trans name
  target := by rw [carries.target, SymbolEntry.target, SymbolEntry.target, definition]
  level := by rw [carries.level, SymbolEntry.level, SymbolEntry.level, definition]

/-- An action carries what its own symbol has now. -/
def IsCurrent (symbols : SymbolTable) (action : Action) : Prop :=
  ∃ symbol, symbols.get? action.symbol = some symbol ∧ action.Carries symbol

theorem IsCurrent.later {action : Action} {before after : SymbolTable}
    (current : action.IsCurrent before) (extension : before.Extends after) :
    action.IsCurrent after := by
  obtain ⟨symbol, found, carries⟩ := current
  exact ⟨symbol, extension.get? found, carries⟩

end Action

namespace Binding

theorem carries_template (binding : Binding) (id : SymbolId) (symbol : SymbolEntry) :
    (binding.template id symbol).symbol = id ∧ (binding.template id symbol).Carries symbol := by
  unfold template
  dsimp only
  split <;> exact ⟨rfl, rfl, rfl, rfl⟩

theorem carries_identify (binding : Binding) (address : Address) {symbol : SymbolEntry}
    {action : Action} (carries : action.Carries symbol) :
    (binding.identify address action).symbol = action.symbol ∧
      (binding.identify address action).Carries symbol := by
  unfold identify
  dsimp only
  split <;> exact ⟨rfl, carries.name, carries.target, carries.level⟩

/-- A binding compiles to an action that carries what the symbol of its name has. -/
theorem carries_compile (binding : Binding) (symbols : SymbolTable) {compiled : CompiledBinding}
    (compiles : (binding.compile symbols).value.1 = some compiled) :
    ∃ symbol, (binding.compile symbols).value.2 = (symbols.intern binding.symbolName).2 ∧
      compiled.action.symbol = (symbols.intern binding.symbolName).1 ∧
      (symbols.intern binding.symbolName).2.get? (symbols.intern binding.symbolName).1 =
        some symbol ∧
      compiled.action.Carries symbol := by
  rw [value_compile] at compiles ⊢
  split at compiles
  · cases compiles
  · next address _ =>
      dsimp only
      rw [value_action?] at compiles ⊢
      split at compiles
      · cases compiles
      · next named =>
          rw [if_neg named]
          obtain ⟨action, acts, isCompiled⟩ := Option.map_eq_some_iff.1 compiles
          obtain ⟨symbol, found, isTemplate⟩ := Option.map_eq_some_iff.1 acts
          obtain ⟨isId, carries⟩ :=
            binding.carries_template (symbols.intern binding.symbolName).1 symbol
          obtain ⟨sameId, stillCarries⟩ := binding.carries_identify address carries
          rw [← isCompiled, ← isTemplate]
          exact ⟨symbol, rfl, sameId.trans isId, found, stillCarries⟩

/-- If the name of a binding is known, it compiles to an action that carries its symbol. -/
theorem carries_of_find? {binding : Binding} {symbols : SymbolTable} {compiled : CompiledBinding}
    (compiles : (binding.compile symbols).value.1 = some compiled) {symbol : SymbolEntry}
    (found : symbols.find? binding.symbolName = some symbol) : compiled.action.Carries symbol := by
  obtain ⟨other, -, -, foundOther, carries⟩ := binding.carries_compile symbols compiles
  rw [SymbolTable.find?_eq] at found
  obtain ⟨id, place, stands⟩ := Option.bind_eq_some_iff.1 found
  rw [SymbolTable.intern_of_idOf? place] at foundOther
  obtain rfl : other = symbol := Option.some.inj (foundOther.symm.trans stands)
  exact carries

end Binding

namespace Compile

theorem isCurrent_bindings (list : List Binding) {symbols known : SymbolTable}
    (extension : (bindings list symbols).value.2.Extends known) :
    ∀ compiled ∈ (bindings list symbols).value.1, compiled.action.IsCurrent known := by
  induction list generalizing symbols with
  | nil =>
      intro compiled member
      cases member
  | cons binding rest ih =>
      have restExtension :
          (bindings rest (binding.compile symbols).value.2).value.2.Extends known := extension
      have grown := (interns_bindings rest (binding.compile symbols).value.2).extends
      intro compiled member
      rcases List.mem_append.1 member with first | others
      · obtain ⟨symbol, isTable, isId, found, carries⟩ :=
          binding.carries_compile symbols (Option.mem_toList.1 first)
        rw [← isTable, ← isId] at found
        have current : compiled.action.IsCurrent (binding.compile symbols).value.2 :=
          ⟨symbol, found, carries⟩
        exact current.later (grown.trans restExtension)
      · exact ih restExtension compiled others

theorem isCurrent_keyboard (sets : List BindingSet) {symbols known : SymbolTable}
    (extension : (keyboard sets symbols).value.2.Extends known) :
    (keyboard sets symbols).value.1.Each (Action.IsCurrent known) := by
  rw [value_keyboard] at extension
  exact each_keyboard_of sets symbols (isCurrent_bindings _ extension)

theorem isCurrent_midi (sets : List BindingSet) {symbols known : SymbolTable}
    (extension : (midi sets symbols).value.2.Extends known) :
    (midi sets symbols).value.1.Each (Action.IsCurrent known) := by
  rw [value_midi] at extension
  exact each_midi_of sets symbols (isCurrent_bindings _ extension)

end Compile

end Looper
