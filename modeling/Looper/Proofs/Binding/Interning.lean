import Looper.Proofs.Binding.Recompile

/-!
# What becomes of the symbols

A symbol table changes in two ways only: a name becomes a symbol, or a
definition is put on a name, which becomes a symbol if it is not one yet.  So a
name keeps its place and its first spelling, and what is attached to it is what
was registered last, under whatever spelling.
-/

namespace Looper

namespace SymbolTable

/-! ## Places and spellings -/

/-- Names stay in their places, and others may follow. -/
def KeepsNames (before after : SymbolTable) : Prop :=
  before.names <+: after.names

variable {before after third : SymbolTable}

theorem KeepsNames.refl (table : SymbolTable) : KeepsNames table table :=
  List.prefix_refl _

theorem KeepsNames.trans (earlier : KeepsNames before after) (later : KeepsNames after third) :
    KeepsNames before third :=
  List.IsPrefix.trans earlier later

theorem Extends.keepsNames (extension : before.Extends after) : before.KeepsNames after := by
  obtain ⟨added, isAfter⟩ := extension
  exact ⟨added.map SymbolEntry.name, by rw [names, names, isAfter, List.map_append]⟩

theorem KeepsNames.getElem? (keeps : before.KeepsNames after) {id : SymbolId} {name : String}
    (named : before.names[id]? = some name) : after.names[id]? = some name := by
  obtain ⟨within, isName⟩ := List.getElem?_eq_some_iff.1 named
  rw [List.IsPrefix.getElem keeps within] at isName
  exact List.getElem?_eq_some_iff.2 ⟨_, isName⟩

theorem getElem?_names (table : SymbolTable) (id : SymbolId) :
    table.names[id]? = (table.get? id).map SymbolEntry.name :=
  List.getElem?_map

theorem idOf?_eq (table : SymbolTable) (name : String) :
    table.idOf? name = table.names.findIdx? fun known => Text.sameName known name := by
  rw [names, List.findIdx?_map]
  rfl

theorem KeepsNames.idOf? (keeps : before.KeepsNames after) {name : String} {id : SymbolId}
    (known : before.idOf? name = some id) : after.idOf? name = some id := by
  obtain ⟨added, isAfter⟩ := keeps
  rw [idOf?_eq] at known ⊢
  rw [← isAfter, List.findIdx?_append, known]
  rfl

theorem find?_eq (table : SymbolTable) (name : String) :
    table.find? name = (table.idOf? name).bind table.get? := by
  cases place : table.idOf? name with
  | none =>
      refine List.find?_eq_none.2 fun symbol member => ?_
      simpa using List.findIdx?_eq_none_iff.1 place symbol member
  | some id =>
      obtain ⟨within, isOf, isFirst⟩ := List.findIdx?_eq_some_iff_getElem.1 place
      have found : table.get? id = some table.entries[id] :=
        List.getElem?_eq_getElem within
      rw [Option.bind_some, found]
      exact List.find?_eq_some_iff_getElem.2
        ⟨isOf, id, within, rfl, fun earlier isEarlier => by
          simpa using isFirst earlier isEarlier⟩

/-- The symbol that is found for a name is spelled like it, up to case. -/
theorem sameName_of_find? {table : SymbolTable} {name : String} {symbol : SymbolEntry}
    (found : table.find? name = some symbol) : Text.sameName symbol.name name = true :=
  @List.find?_some _ _ symbol _ found

theorem KeepsNames.find? (keeps : before.KeepsNames after) {name : String} {symbol : SymbolEntry}
    (found : before.find? name = some symbol) :
    ∃ later, after.find? name = some later ∧ later.name = symbol.name := by
  rw [find?_eq] at found
  obtain ⟨id, place, stands⟩ := Option.bind_eq_some_iff.1 found
  have named : after.names[id]? = some symbol.name :=
    keeps.getElem? ((getElem?_names before id).trans (congrArg _ stands))
  rw [getElem?_names] at named
  obtain ⟨later, standsLater, isName⟩ := Option.map_eq_some_iff.1 named
  exact ⟨later, by rw [find?_eq, keeps.idOf? place]; exact standsLater, isName⟩

theorem find?_congr (table : SymbolTable) {name spelling : String}
    (same : Text.sameName name spelling = true) : table.find? name = table.find? spelling := by
  unfold SymbolTable.find? Text.sameName
  rw [Text.sameName_iff.1 same]

theorem idOf?_congr (table : SymbolTable) {name spelling : String}
    (same : Text.sameName name spelling = true) : table.idOf? name = table.idOf? spelling := by
  unfold SymbolTable.idOf? Text.sameName
  rw [Text.sameName_iff.1 same]

/-! ## Names that become symbols -/

/-- Names have become symbols, and nothing else has happened. -/
inductive Interns (before : SymbolTable) : SymbolTable → Prop where
  | refl : Interns before before
  | next {after : SymbolTable} (earlier : Interns before after) (name : String) :
      Interns before (after.intern name).2

theorem Interns.intern (table : SymbolTable) (name : String) :
    table.Interns (table.intern name).2 :=
  .next .refl name

theorem Interns.trans (earlier : before.Interns after) (later : after.Interns third) :
    before.Interns third := by
  induction later with
  | refl => exact earlier
  | next _ name ih => exact ih.next name

theorem Interns.extends (interns : before.Interns after) : before.Extends after := by
  induction interns with
  | refl => exact .refl before
  | next _ name ih => exact ih.trans (extends_intern _ name)

/-! ## Definitions that are put on names -/

def definition? (table : SymbolTable) (name : String) : Option Definition :=
  (table.find? name).bind SymbolEntry.definition

theorem definition?_eq (table : SymbolTable) (name : String) :
    table.definition? name =
      ((table.idOf? name).bind table.get?).bind SymbolEntry.definition := by
  rw [definition?, find?_eq]

theorem definition?_intern (table : SymbolTable) (name other : String) :
    (table.intern name).2.definition? other = table.definition? other := by
  unfold SymbolTable.intern
  cases place : table.idOf? name with
  | some id => rfl
  | none =>
      dsimp only
      unfold definition? SymbolTable.find?
      rw [List.find?_append]
      cases table.entries.find? fun symbol => Text.sameName symbol.name other with
      | some symbol => rfl
      | none =>
          rw [Option.none_or, List.find?_cons]
          split <;> rfl

/-- Symbols that were only interned follow the earlier ones, and nothing is attached to them. -/
theorem Interns.exists_added (interns : before.Interns after) :
    ∃ added, after.entries = before.entries ++ added ∧
      ∀ symbol ∈ added, symbol.isResolved = false := by
  induction interns with
  | refl => exact ⟨[], (List.append_nil _).symm, nofun⟩
  | @next after _ name ih =>
      obtain ⟨added, isAfter, unresolved⟩ := ih
      unfold SymbolTable.intern
      split
      · exact ⟨added, isAfter, unresolved⟩
      · refine ⟨added ++ [⟨name, none⟩], by rw [isAfter, List.append_assoc], ?_⟩
        intro symbol member
        rcases List.mem_append.1 member with earlier | isNew
        · exact unresolved symbol earlier
        · rw [List.mem_singleton.1 isNew]
          rfl

theorem Interns.definition? (interns : before.Interns after) (name : String) :
    after.definition? name = before.definition? name := by
  induction interns with
  | refl => rfl
  | next _ other ih => rw [definition?_intern, ih]

theorem isResolved_eq (table : SymbolTable) (name : String) :
    table.isResolved name = (table.definition? name).isSome := by
  unfold SymbolTable.isResolved definition?
  cases table.find? name <;> rfl

theorem names_attach (table : SymbolTable) (id : SymbolId) (definition : Definition) :
    (table.attach id definition).names = table.names := by
  unfold names attach
  refine List.ext_getElem? fun place => ?_
  rw [List.getElem?_map, List.getElem?_map, List.getElem?_modify]
  cases table.entries[place]? with
  | none => rfl
  | some symbol => rw [Option.map_some]; split <;> rfl

theorem get?_attach {table : SymbolTable} {id : SymbolId} {symbol : SymbolEntry}
    (stands : table.get? id = some symbol) (definition : Definition) :
    (table.attach id definition).get? id = some { symbol with definition := some definition } := by
  unfold SymbolTable.get? attach at *
  rw [List.getElem?_modify_eq, stands]
  rfl

theorem get?_attach_of_ne (table : SymbolTable) {id place : SymbolId} (apart : id ≠ place)
    (definition : Definition) : (table.attach id definition).get? place = table.get? place := by
  unfold SymbolTable.get? attach
  exact List.getElem?_modify_ne _ _ apart

/-- A definition that is put on a name is found under every spelling, and under no other name. -/
theorem definition?_attach {table : SymbolTable} {name : String} {id : SymbolId}
    (place : table.idOf? name = some id) (definition : Definition) (other : String) :
    (table.attach id definition).definition? other =
      if Text.sameName name other then some definition else table.definition? other := by
  have placeAfter (other : String) :
      (table.attach id definition).idOf? other = table.idOf? other := by
    rw [idOf?_eq, idOf?_eq, names_attach]
  rw [definition?_eq, definition?_eq, placeAfter]
  obtain ⟨within, isOf, -⟩ := List.findIdx?_eq_some_iff_getElem.1 place
  split
  · next same =>
      have stands : table.get? id = some table.entries[id] :=
        List.getElem?_eq_getElem within
      rw [← table.idOf?_congr same, place, Option.bind_some, get?_attach stands]
      rfl
  · next different =>
      cases placeOther : table.idOf? other with
      | none => rfl
      | some elsewhere =>
          have apart : id ≠ elsewhere := by
            rintro rfl
            obtain ⟨_, isOther, -⟩ := List.findIdx?_eq_some_iff_getElem.1 placeOther
            exact different (Text.sameName_trans (Text.sameName_symm isOf) isOther)
          rw [Option.bind_some, get?_attach_of_ne table apart]
          rfl

theorem value_define (table : SymbolTable) (name : String) (definition : Definition) :
    (table.define name definition).value =
      ((table.intern name).1, (table.intern name).2.attach (table.intern name).1 definition) := by
  unfold define
  dsimp only
  split
  · split <;> rfl
  · rfl

end SymbolTable

structure Registration where
  name : String
  definition : Definition
  deriving DecidableEq, Repr

def Registration.last? (made : List Registration) (name : String) : Option Registration :=
  (made.filter fun each => Text.sameName each.name name).getLast?

theorem Registration.last?_append (made more : List Registration) (name : String) :
    last? (made ++ more) name = (last? more name).or (last? made name) := by
  rw [last?, List.filter_append, List.getLast?_append]
  rfl

namespace SymbolTable

/-- Names have been kept, and what is attached to each is what was registered last. -/
structure Registers (made : List Registration) (before after : SymbolTable) : Prop where
  names : before.KeepsNames after
  definitions : ∀ name, after.definition? name =
    ((Registration.last? made name).map Registration.definition).or (before.definition? name)

variable {made more : List Registration} {before after third : SymbolTable}

theorem Registers.trans (earlier : Registers made before after)
    (later : Registers more after third) : Registers (made ++ more) before third where
  names := earlier.names.trans later.names
  definitions name := by
    rw [later.definitions, earlier.definitions, Registration.last?_append, ← Option.or_assoc]
    cases Registration.last? more name <;> rfl

theorem Interns.registers (interns : before.Interns after) : Registers [] before after :=
  ⟨interns.extends.keepsNames, interns.definition?⟩

theorem Registers.refl (table : SymbolTable) : Registers [] table table :=
  Interns.refl.registers

theorem registers_define (table : SymbolTable) (name : String) (definition : Definition) :
    Registers [⟨name, definition⟩] table (table.define name definition).value.2 := by
  have named := (Interns.intern table name).registers
  have place := table.idOf?_intern name
  rw [value_define]
  refine named.trans ⟨?_, fun other => ?_⟩
  · exact ⟨[], by rw [List.append_nil, names_attach]⟩
  · rw [definition?_attach place, Registration.last?, List.filter_cons]
    split <;> rfl

/-- What was registered last for a name is what its symbol stands for. -/
theorem Registers.find? (registers : Registers made before after) {name : String}
    {registration : Registration} (last : Registration.last? made name = some registration) :
    ∃ symbol, after.find? name = some symbol ∧
      symbol.definition = some registration.definition := by
  have attached := registers.definitions name
  rw [last] at attached
  exact Option.bind_eq_some_iff.1 attached

end SymbolTable

/-! ## Compiling -/

theorem Binding.interns_action? (binding : Binding) (symbols : SymbolTable) :
    symbols.Interns (binding.action? symbols).value.2 := by
  rw [value_action?]
  split
  · exact .refl
  · exact .intern symbols _

theorem Binding.interns_compile (binding : Binding) (symbols : SymbolTable) :
    symbols.Interns (binding.compile symbols).value.2 := by
  rw [value_compile]
  split
  · exact .refl
  · exact binding.interns_action? symbols

namespace Compile

theorem interns_bindings (list : List Binding) (symbols : SymbolTable) :
    symbols.Interns (bindings list symbols).value.2 := by
  induction list generalizing symbols with
  | nil => exact .refl
  | cons binding rest ih =>
      have restInterns := ih (binding.compile symbols).value.2
      exact (binding.interns_compile symbols).trans restInterns

theorem interns_keyboard (sets : List BindingSet) (symbols : SymbolTable) :
    symbols.Interns (keyboard sets symbols).value.2 := by
  rw [value_keyboard]
  exact interns_bindings _ symbols

theorem interns_midi (sets : List BindingSet) (symbols : SymbolTable) :
    symbols.Interns (midi sets symbols).value.2 := by
  rw [value_midi]
  exact interns_bindings _ symbols

end Compile

end Looper
