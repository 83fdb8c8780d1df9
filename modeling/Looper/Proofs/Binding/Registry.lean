import Looper.Proofs.Binding.Interning
import Mathlib.Data.List.Induction
import Mathlib.Data.List.Nodup

/-!
# The symbols after any calls

A name is interned, or a definition is registered for it; these calls come in any order and
in any spelling.  What the symbols are afterwards can be told from the calls: each name is a
symbol under its first spelling, with the last definition that was registered for it.

Finding a name need not go through the symbols one by one.  A `Registry` keeps them in an
array, each with its id, and looks ids up by folded name; it answers as the table does.
-/

namespace Looper

inductive SymbolCall where
  | intern (name : String)
  | register (name : String) (definition : Definition)
  deriving DecidableEq, Repr

namespace SymbolCall

def name : SymbolCall → String
  | intern name => name
  | register name _ => name

def registration? : SymbolCall → Option Registration
  | intern _ => none
  | register name definition => some ⟨name, definition⟩

end SymbolCall

def registrations (calls : List SymbolCall) : List Registration :=
  calls.filterMap SymbolCall.registration?

namespace SymbolTable

def answer (table : SymbolTable) : SymbolCall → SymbolId × SymbolTable
  | .intern name => table.intern name
  | .register name definition => (table.define name definition).value

def after (calls : List SymbolCall) : SymbolTable :=
  calls.foldl (fun table call => (table.answer call).2) {}

theorem after_concat (calls : List SymbolCall) (call : SymbolCall) :
    after (calls ++ [call]) = ((after calls).answer call).2 := by
  simp only [after, List.foldl_append, List.foldl_cons, List.foldl_nil]

/-! ## One call -/

theorem answer_fst (table : SymbolTable) (call : SymbolCall) :
    (table.answer call).1 = (table.intern call.name).1 := by
  cases call with
  | intern name => rfl
  | register name definition =>
      rw [answer, value_define]
      rfl

theorem names_answer (table : SymbolTable) (call : SymbolCall) :
    (table.answer call).2.names = (table.intern call.name).2.names := by
  cases call with
  | intern name => rfl
  | register name definition =>
      rw [answer, value_define]
      exact names_attach _ _ definition

theorem idOf?_answer (table : SymbolTable) (call : SymbolCall) :
    (table.answer call).2.idOf? call.name = some (table.answer call).1 := by
  rw [answer_fst, idOf?_eq, names_answer, ← idOf?_eq]
  exact table.idOf?_intern call.name

theorem registers_answer (table : SymbolTable) (call : SymbolCall) :
    Registers call.registration?.toList table (table.answer call).2 := by
  cases call with
  | intern name => exact (Interns.intern table name).registers
  | register name definition => exact registers_define table name definition

theorem get?_intern_of_ne (table : SymbolTable) {name : String} {id : SymbolId}
    (apart : id ≠ (table.intern name).1) : (table.intern name).2.get? id = table.get? id := by
  unfold SymbolTable.intern at apart ⊢
  cases place : table.idOf? name with
  | some known => rfl
  | none =>
      rw [place] at apart
      dsimp only at apart ⊢
      unfold SymbolTable.get? size at *
      rcases Nat.lt_or_ge id table.entries.length with within | beyond
      · rw [List.getElem?_append_left within]
      · rw [List.getElem?_eq_none beyond, List.getElem?_eq_none]
        rw [List.length_append, List.length_singleton]
        exact Nat.lt_of_le_of_ne beyond (Ne.symm apart)

/-- A call leaves every symbol alone but the one whose id it answers. -/
theorem get?_answer_of_ne (table : SymbolTable) {call : SymbolCall} {id : SymbolId}
    (apart : id ≠ (table.answer call).1) : (table.answer call).2.get? id = table.get? id := by
  rw [answer_fst] at apart
  cases call with
  | intern name => exact table.get?_intern_of_ne apart
  | register name definition =>
      rw [answer, value_define]
      exact (get?_attach_of_ne _ (Ne.symm apart) definition).trans
        (table.get?_intern_of_ne apart)

/-! ## All calls -/

theorem registers_after (calls later : List SymbolCall) :
    Registers (registrations later) (after calls) (after (calls ++ later)) := by
  induction later using List.reverseRecOn with
  | nil =>
      rw [List.append_nil]
      exact .refl _
  | append_singleton later call ih =>
      rw [← List.append_assoc, after_concat, registrations, List.filterMap_append]
      refine ih.trans ?_
      have answered := (after (calls ++ later)).registers_answer call
      cases call <;> exact answered

/-- What is attached to a name is what was registered for it last. -/
theorem definition?_after (calls : List SymbolCall) (name : String) :
    (after calls).definition? name =
      (Registration.last? (registrations calls) name).map Registration.definition := by
  have registered := (registers_after [] calls).definitions name
  rw [List.nil_append] at registered
  rw [registered, show (after []).definition? name = none from rfl, Option.or_none]

/-- A name becomes a symbol unless it is one already, in whatever spelling. -/
theorem names_intern (table : SymbolTable) (name : String) :
    (table.intern name).2.names =
      table.names ++ if (table.idOf? name).isSome then [] else [name] := by
  unfold SymbolTable.intern
  cases table.idOf? name with
  | some id => exact (List.append_nil _).symm
  | none => exact List.map_append

theorem isSome_idOf? (table : SymbolTable) (name : String) :
    (table.idOf? name).isSome = true ↔
      ∃ known ∈ table.names, Text.sameName known name = true := by
  rw [idOf?_eq, List.findIdx?_isSome, List.any_eq_true]

theorem nodup_after (calls : List SymbolCall) : ((after calls).names.map Text.fold).Nodup := by
  induction calls using List.reverseRecOn with
  | nil => exact List.nodup_nil
  | append_singleton calls call ih =>
      rw [after_concat, names_answer, names_intern]
      split
      · rwa [List.append_nil]
      · next unknown =>
          rw [isSome_idOf?] at unknown
          rw [List.map_append, List.map_singleton, List.nodup_append]
          refine ⟨ih, List.nodup_singleton _, ?_⟩
          intro folded isKnown other isNew same
          obtain ⟨known, member, rfl⟩ := List.mem_map.1 isKnown
          rw [List.mem_singleton.1 isNew] at same
          exact unknown ⟨known, member, Text.sameName_iff.2 same⟩

/-- The spelling of a symbol is the one in which its name was called first. -/
theorem find?_names_after (calls : List SymbolCall) (name : String) :
    ((after calls).names.find? fun spelling => Text.sameName spelling name) =
      (calls.map SymbolCall.name).find? fun spelling => Text.sameName spelling name := by
  induction calls using List.reverseRecOn with
  | nil => rfl
  | append_singleton calls call ih =>
      rw [after_concat, names_answer, names_intern, List.map_append, List.map_singleton,
        List.find?_append, List.find?_append, ← ih]
      split
      · next known =>
          obtain ⟨spelling, member, same⟩ := ((after calls).isSome_idOf? call.name).1 known
          rw [List.find?_nil, Option.or_none, List.find?_singleton]
          split
          · next asked =>
              -- The name was called before, so the earlier spelling is found.
              have found : ((after calls).names.find? fun spelling =>
                  Text.sameName spelling name).isSome = true :=
                List.find?_isSome.2 ⟨spelling, member, Text.sameName_trans same asked⟩
              obtain ⟨first, isFirst⟩ := Option.isSome_iff_exists.1 found
              rw [isFirst, Option.some_or]
          · rw [Option.or_none]
      · rfl

/-- A name stands for its first spelling and its definition. -/
theorem find?_eq_spelled (table : SymbolTable) (name : String) :
    table.find? name =
      (table.names.find? fun spelling => Text.sameName spelling name).map fun spelling =>
        ⟨spelling, table.definition? name⟩ := by
  rw [definition?, names, List.find?_map]
  change table.find? name = ((table.find? name).map SymbolEntry.name).map _
  cases table.find? name <;> rfl

end SymbolTable

/-! ## An index of folded names -/

structure NumberedSymbol extends SymbolEntry where
  id : SymbolId
  deriving DecidableEq, Repr

/-- The symbols in the order of their ids, and the ids by folded name. -/
structure Registry where
  symbols : Array NumberedSymbol := #[]
  byName : Std.HashMap String SymbolId := {}

namespace Registry

def get? (registry : Registry) (id : SymbolId) : Option NumberedSymbol :=
  registry.symbols[id]?

def find? (registry : Registry) (name : String) : Option NumberedSymbol :=
  registry.byName[Text.fold name]?.bind registry.get?

def intern (registry : Registry) (name : String) : SymbolId × Registry :=
  match registry.byName[Text.fold name]? with
  | some id => (id, registry)
  | none =>
      let id := registry.symbols.size
      (id, { symbols := registry.symbols.push ⟨⟨name, none⟩, id⟩
             byName := registry.byName.insert (Text.fold name) id })

def attach (registry : Registry) (id : SymbolId) (definition : Definition) : Registry :=
  { registry with
    symbols := registry.symbols.modify id fun symbol =>
      { symbol with definition := some definition } }

def answer (registry : Registry) : SymbolCall → SymbolId × Registry
  | .intern name => registry.intern name
  | .register name definition =>
      let (id, registry) := registry.intern name
      (id, registry.attach id definition)

def after (calls : List SymbolCall) : Registry :=
  calls.foldl (fun registry call => (registry.answer call).2) {}

/-- A registry holds the symbols of a table: each under its place, and all names in the index. -/
structure Represents (registry : Registry) (table : SymbolTable) : Prop where
  symbols : registry.symbols.toList = table.entries.mapIdx fun id symbol => ⟨symbol, id⟩
  byName : ∀ key, registry.byName[key]? =
    table.entries.findIdx? fun symbol => Text.fold symbol.name == key

theorem represents_empty : Represents {} {} where
  symbols := rfl
  byName _ := Std.HashMap.getElem?_empty

namespace Represents

variable {registry : Registry} {table : SymbolTable}

theorem idOf? (represents : Represents registry table) (name : String) :
    registry.byName[Text.fold name]? = table.idOf? name :=
  represents.byName (Text.fold name)

theorem size (represents : Represents registry table) : registry.symbols.size = table.size := by
  have lengths := congrArg List.length represents.symbols
  rwa [List.length_mapIdx] at lengths

theorem get? (represents : Represents registry table) (id : SymbolId) :
    registry.get? id = (table.get? id).map fun symbol => ⟨symbol, id⟩ := by
  rw [Registry.get?, ← Array.getElem?_toList, represents.symbols, List.getElem?_mapIdx]
  rfl

theorem find? (represents : Represents registry table) (name : String) :
    (registry.find? name).map NumberedSymbol.toSymbolEntry = table.find? name := by
  rw [Registry.find?, represents.idOf?, SymbolTable.find?_eq]
  cases table.idOf? name with
  | none => rfl
  | some id =>
      rw [Option.bind_some, Option.bind_some, represents.get?]
      cases table.get? id <;> rfl

theorem intern (represents : Represents registry table) (name : String) :
    (registry.intern name).1 = (table.intern name).1 ∧
      Represents (registry.intern name).2 (table.intern name).2 := by
  unfold Registry.intern SymbolTable.intern
  rw [represents.idOf?]
  cases place : table.idOf? name with
  | some id => exact ⟨rfl, represents⟩
  | none =>
      refine ⟨represents.size, ?_, fun key => ?_⟩
      · dsimp only
        rw [Array.toList_push, List.mapIdx_concat, represents.symbols, represents.size]
        rfl
      · dsimp only
        rw [Std.HashMap.getElem?_insert, List.findIdx?_append, represents.byName,
          List.findIdx?_singleton]
        by_cases isName : (Text.fold name == key) = true
        · have absent : table.entries.findIdx? (fun symbol => Text.fold symbol.name == key) =
              none := by
            rw [← eq_of_beq isName]
            exact place
          rw [if_pos isName, absent, if_pos isName, represents.size, Option.none_or,
            Option.map_some, Nat.zero_add]
          rfl
        · rw [if_neg isName, if_neg isName, Option.map_none, Option.or_none]

theorem attach (represents : Represents registry table) (id : SymbolId)
    (definition : Definition) :
    Represents (registry.attach id definition) (table.attach id definition) where
  symbols := by
    unfold Registry.attach SymbolTable.attach
    rw [Array.toList_modify, represents.symbols]
    refine List.ext_getElem? fun place => ?_
    rw [List.getElem?_modify, List.getElem?_mapIdx, List.getElem?_mapIdx, List.getElem?_modify]
    cases table.entries[place]? with
    | none => rfl
    | some symbol =>
        simp only [Option.map_some]
        split <;> rfl
  byName key := by
    have byNames (symbols : SymbolTable) :
        (symbols.entries.findIdx? fun symbol => Text.fold symbol.name == key) =
          symbols.names.findIdx? fun name => Text.fold name == key := by
      rw [SymbolTable.names, List.findIdx?_map]
      rfl
    rw [byNames, SymbolTable.names_attach, ← byNames]
    exact represents.byName key

/-- Registry and table answer a call with the same id, and hold the same symbols after it. -/
theorem answer (represents : Represents registry table) (call : SymbolCall) :
    (registry.answer call).1 = (table.answer call).1 ∧
      Represents (registry.answer call).2 (table.answer call).2 := by
  cases call with
  | intern name => exact represents.intern name
  | register name definition =>
      obtain ⟨sameId, interned⟩ := represents.intern name
      rw [SymbolTable.answer, SymbolTable.value_define]
      refine ⟨sameId, ?_⟩
      rw [← sameId]
      exact interned.attach _ definition

end Represents

theorem represents_after (calls : List SymbolCall) :
    Represents (after calls) (SymbolTable.after calls) := by
  induction calls using List.reverseRecOn with
  | nil => exact represents_empty
  | append_singleton calls call ih =>
      rw [SymbolTable.after_concat]
      have answered := (ih.answer call).2
      unfold after at answered ⊢
      rwa [List.foldl_append]

end Registry

/--
After any calls, a symbol's id is its place, which no later call changes, and a call is
answered with the id of its name.  No two symbols have the same name.  A name is found just
if it was called in some spelling; then it stands for the first spelling and for what was
registered last in any spelling, or nothing if it was only interned.  A call leaves all
symbols alone but the one whose id it answers.  All this holds of an array of numbered
symbols with an index of folded names as it does of the table, since both answer alike.
-/
theorem symbols_follow_calls (calls : List SymbolCall) :
    let table := SymbolTable.after calls
    let registry := Registry.after calls
    (∀ id, registry.get? id = (table.get? id).map fun symbol => ⟨symbol, id⟩) ∧
    (∀ name, (registry.find? name).map NumberedSymbol.toSymbolEntry = table.find? name) ∧
    (∀ call, (registry.answer call).1 = (table.answer call).1) ∧
    (∀ call, (table.answer call).2.idOf? call.name = some (table.answer call).1) ∧
    (∀ later, table.names <+: (SymbolTable.after (calls ++ later)).names ∧
      ∀ name, table.idOf? name = none ∨
        (SymbolTable.after (calls ++ later)).idOf? name = table.idOf? name) ∧
    (table.names.map Text.fold).Nodup ∧
    (∀ name, table.find? name =
      ((calls.map SymbolCall.name).find? fun spelling => Text.sameName spelling name).map
        fun spelling => ⟨spelling,
          (Registration.last? (registrations calls) name).map Registration.definition⟩) ∧
    ∀ call id, id = (table.answer call).1 ∨ (table.answer call).2.get? id = table.get? id := by
  intro table registry
  have represents : registry.Represents table := Registry.represents_after calls
  refine ⟨represents.get?, represents.find?, fun call => (represents.answer call).1,
    table.idOf?_answer, ?_, SymbolTable.nodup_after calls, ?_, ?_⟩
  · intro later
    have keeps : table.KeepsNames (SymbolTable.after (calls ++ later)) :=
      (SymbolTable.registers_after calls later).names
    refine ⟨keeps, fun name => ?_⟩
    cases place : table.idOf? name with
    | none => exact .inl rfl
    | some id => exact .inr (keeps.idOf? place)
  · intro name
    rw [SymbolTable.find?_eq_spelled, SymbolTable.definition?_after,
      SymbolTable.find?_names_after]
  · intro call id
    by_cases isOf : id = (table.answer call).1
    · exact .inl isOf
    · exact .inr (table.get?_answer_of_ne isOf)

end Looper
