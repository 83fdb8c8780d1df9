import Looper.Proofs.Binding.Interning

/-!
# Rebuilding the tables

The keyboard table and the MIDI tables are rebuilt one after the other, and names that the
first of them meets are symbols for the second.  Once both are built every name is known, so
building them again finds the same symbols and fills whatever tables it is given alike.
-/

namespace Looper.Compile

variable (sets : List BindingSet) (symbols : SymbolTable)

/-- Filling tables that were in use makes symbols of names, and does nothing else to symbols. -/
theorem interns_refillKeyboard (table : BindingTable) :
    symbols.Interns (refillKeyboard table sets symbols).value.2 := by
  rw [refillKeyboard_eq]
  exact interns_keyboard sets symbols

theorem interns_refillMidi (tables : MidiTables) :
    symbols.Interns (refillMidi tables sets symbols).value.2 := by
  rw [refillMidi_eq]
  exact interns_midi sets symbols

/-- As long as its names stay known, a keyboard table is filled as it was before. -/
theorem refillKeyboard_again (table used : BindingTable) {later : SymbolTable}
    (extension : (refillKeyboard table sets symbols).value.2.Extends later) :
    (refillKeyboard used sets later).value =
      ((refillKeyboard table sets symbols).value.1, later) := by
  rw [refillKeyboard_eq] at extension ⊢
  rw [refillKeyboard_eq]
  exact (keyboard_again sets extension).2

theorem refillMidi_again (tables used : MidiTables) {later : SymbolTable}
    (extension : (refillMidi tables sets symbols).value.2.Extends later) :
    (refillMidi used sets later).value =
      ((refillMidi tables sets symbols).value.1, later) := by
  rw [refillMidi_eq] at extension ⊢
  rw [refillMidi_eq]
  exact (midi_again sets extension).2

/--
Whatever is selected, whatever symbols there are and whichever tables are filled, building
the keyboard table and then the MIDI tables a second time gives the same tables and leaves
the symbols as they are.  The first time adds symbols that nothing is attached to; those
that were there before keep name, id and definition.
-/
theorem rebuilding_changes_nothing (selection : BindingSelection)
    (table used : BindingTable) (tables usedMidi : MidiTables) :
    let live := selection.resolve sets
    let keyed := (refillKeyboard table live symbols).value
    let filed := (refillMidi tables live keyed.2).value
    let keyedAgain := (refillKeyboard used live filed.2).value
    let filedAgain := (refillMidi usedMidi live keyedAgain.2).value
    keyedAgain.1 = keyed.1 ∧ filedAgain.1 = filed.1 ∧
    keyedAgain.2 = filed.2 ∧ filedAgain.2 = filed.2 ∧
    (∃ learnt more, keyed.2.entries = symbols.entries ++ learnt ∧
      filed.2.entries = symbols.entries ++ learnt ++ more ∧
      ∀ symbol ∈ learnt ++ more, symbol.isResolved = false) ∧
    ∀ name, filed.2.definition? name = symbols.definition? name := by
  intro live keyed filed keyedAgain filedAgain
  have keyInterns : symbols.Interns keyed.2 := interns_refillKeyboard live symbols table
  have midiInterns : keyed.2.Interns filed.2 := interns_refillMidi live keyed.2 tables
  have sameKeys : keyedAgain = (keyed.1, filed.2) :=
    refillKeyboard_again live symbols table used midiInterns.extends
  have sameMidi : filedAgain = (filed.1, filed.2) := by
    have symbolsAgain : keyedAgain.2 = filed.2 := by rw [sameKeys]
    change (refillMidi usedMidi live keyedAgain.2).value = _
    rw [symbolsAgain]
    exact refillMidi_again live keyed.2 tables usedMidi (.refl filed.2)
  refine ⟨by rw [sameKeys], by rw [sameMidi], by rw [sameKeys], by rw [sameMidi], ?_,
    (keyInterns.trans midiInterns).definition?⟩
  obtain ⟨learnt, isKeyed, unresolved⟩ := keyInterns.exists_added
  obtain ⟨more, isFiled, unresolvedMore⟩ := midiInterns.exists_added
  refine ⟨learnt, more, isKeyed, isKeyed ▸ isFiled, ?_⟩
  intro symbol member
  rcases List.mem_append.1 member with early | late
  · exact unresolved symbol early
  · exact unresolvedMore symbol late

end Looper.Compile
