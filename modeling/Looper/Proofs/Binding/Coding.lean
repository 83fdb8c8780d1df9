import Looper.Proofs.Binding.Identity

/-!
# Trigger ids as a code

A trigger id is the base of its kind plus the key qualifier, or plus the number and the
channel.  The bases are so far apart that no sum reaches the next one.  So an id tells the
kind and all that it was made from, and the number can be read off it.
-/

namespace Looper

/-- The ids of a kind lie from its base on, and before the next base. -/
def TriggerKind.HoldsId (kind : TriggerKind) (id : Nat) : Prop :=
  kind.idBase ≤ id ∧ id < kind.idBase + 0x1000000

namespace PhysicalTrigger.IsBound

variable {trigger : PhysicalTrigger} {channel : Nat} (bound : trigger.IsBound channel)

include bound

theorem idOn_lt : trigger.idOn channel < Text.wordSize := by
  obtain ⟨isSum, inRange⟩ := bound.idOn_eq
  have low : trigger.board.kind.idBase ≤ 0x4000000 := by cases trigger.board <;> decide
  rw [isSum, Text.wordSize]
  omega

/-- An id lies in the range of its own kind, and in no other. -/
theorem holdsId_idOn {kind : TriggerKind} (driven : kind.isTableDriven = true) :
    kind.HoldsId (trigger.idOn channel) ↔ kind = trigger.board.kind := by
  obtain ⟨isSum, inRange⟩ := bound.idOn_eq
  rw [TriggerKind.HoldsId, isSum]
  generalize channel * 128 + trigger.number = offset at inRange
  cases kind <;> cases trigger.board <;> cases driven <;>
    simp only [Board.kind, TriggerKind.idBase, reduceCtorEq, iff_false, iff_true] <;> omega

/-- The code of a key without its modifiers, or a MIDI number, is read off the id. -/
theorem triggerNumber_idOn :
    trigger.board.kind.triggerNumber (trigger.idOn channel) =
      if trigger.board = .keyboard then (Chord.ofQualifier trigger.number).code
      else trigger.number := by
  obtain ⟨isSum, -⟩ := bound.idOn_eq
  unfold TriggerKind.triggerNumber
  rw [if_neg bound.idOn_ne_zero, isSum]
  cases board : trigger.board with
  | keyboard =>
      rw [(bound.key board).2, if_pos rfl]
      simp only [Board.kind, TriggerKind.idBase, Text.wordSize, Chord.codeCount,
        Chord.ofQualifier]
      omega
  | _ =>
      have number := (bound.midi (by simp [board])).1
      rw [if_neg (by simp)]
      simp only [Board.kind, TriggerKind.idBase]
      omega

end PhysicalTrigger.IsBound

namespace Binding

/-- What a binding is for: a key, or a number of one kind of MIDI message and a channel. -/
structure IsFor (binding : Binding) (trigger : PhysicalTrigger) (channel : Nat) : Prop where
  kind : binding.trigger = trigger.board.kind
  key : trigger.board = .keyboard → binding.keyQualifier?.value = some trigger.number
  midi : trigger.board ≠ .keyboard → binding.value = trigger.number ∧ binding.channel = channel
  bound : trigger.IsBound channel

/-- Two bindings are for one trigger: for the same key, or for the same number and channel. -/
def SharesTrigger (binding other : Binding) : Prop :=
  binding.trigger = other.trigger ∧
    (binding.trigger = .key → binding.keyQualifier?.value = other.keyQualifier?.value) ∧
    (binding.trigger ≠ .key → binding.value = other.value ∧ binding.channel = other.channel)

/-- A binding that compiles is for a trigger, and its action has the id of that. -/
theorem isFor_of_compiled? {binding : Binding} {symbols : SymbolTable}
    {compiled : CompiledBinding} (compiles : binding.compiled? symbols = some compiled) :
    ∃ trigger channel, binding.IsFor trigger channel ∧
      compiled.action.triggerId = trigger.idOn channel := by
  obtain ⟨address, found, -, -, isId⟩ := triggerId_of_compiled? compiles
  obtain ⟨⟨board, kind⟩, -⟩ := serves_of_address? found
  by_cases isKey : board = .keyboard
  · subst isKey
    rw [value_address?, ← kind] at found
    obtain ⟨qualifier, isQualifier, rfl⟩ := Option.map_eq_some_iff.1 found
    exact ⟨{ board := .keyboard, number := qualifier }, 0,
      { kind := kind.symm
        key := fun _ => isQualifier
        midi := fun isMidi => absurd rfl isMidi
        bound :=
          ⟨fun _ => ⟨le_of_keyQualifier? isQualifier, rfl⟩, fun isMidi => absurd rfl isMidi⟩ },
      by rw [isId, ← kind]; rfl⟩
  · rw [value_address?_midi isKey kind.symm] at found
    obtain ⟨number, isNumber, rfl⟩ := Option.map_eq_some_iff.1 found
    exact ⟨{ board, number }, binding.channel,
      { kind := kind.symm
        key := fun isKeyboard => absurd isKeyboard isKey
        midi := fun _ => ⟨(value_of_midiNumber? isNumber).1, rfl⟩
        bound := ⟨fun isKeyboard => absurd isKeyboard isKey,
          fun _ => (value_of_midiNumber? isNumber).2⟩ },
      by rw [isId, ← kind]; rfl⟩

namespace IsFor

variable {binding other : Binding} {trigger otherTrigger : PhysicalTrigger}
  {channel otherChannel : Nat} (isFor : binding.IsFor trigger channel)

include isFor

theorem isKey_iff : binding.trigger = .key ↔ trigger.board = .keyboard := by
  rw [isFor.kind]
  cases trigger.board <;> simp [Board.kind]

theorem sharesTrigger_iff (otherIsFor : other.IsFor otherTrigger otherChannel) :
    binding.SharesTrigger other ↔
      trigger.board = otherTrigger.board ∧ trigger.number = otherTrigger.number ∧
        channel = otherChannel := by
  have sameKind : binding.trigger = other.trigger ↔ trigger.board = otherTrigger.board := by
    rw [isFor.kind, otherIsFor.kind]
    cases trigger.board <;> cases otherTrigger.board <;> simp [Board.kind]
  rw [SharesTrigger, sameKind]
  refine and_congr_right fun sameBoard => ?_
  by_cases isKey : trigger.board = .keyboard
  · have otherIsKey := sameBoard ▸ isKey
    rw [isFor.key isKey, otherIsFor.key otherIsKey, (isFor.bound.key isKey).2,
      (otherIsFor.bound.key otherIsKey).2]
    simp [isFor.isKey_iff, isKey]
  · have otherIsMidi : otherTrigger.board ≠ .keyboard := sameBoard ▸ isKey
    obtain ⟨value, onChannel⟩ := isFor.midi isKey
    obtain ⟨otherValue, otherOnChannel⟩ := otherIsFor.midi otherIsMidi
    rw [value, onChannel, otherValue, otherOnChannel]
    simp [isFor.isKey_iff, isKey, Int.natCast_inj]

end IsFor

/--
A binding that compiles gives its action an id, which is not zero, fits into 32 bits and lies
in the range of its kind and of no other.  The id is the base of the kind plus the key
qualifier, or plus 128 times the channel and the number; the code of the key without its
modifiers, or the number, is read off it.  Two bindings have one id just if they are for one
trigger.
-/
theorem id_tells_trigger {binding other : Binding} {symbols known : SymbolTable}
    {compiled otherCompiled : CompiledBinding}
    (compiles : binding.compiled? symbols = some compiled)
    (otherCompiles : other.compiled? known = some otherCompiled) :
    let kind := binding.trigger
    let id := compiled.action.triggerId
    (id = otherCompiled.action.triggerId ↔ binding.SharesTrigger other) ∧
      id ≠ 0 ∧ id < Text.wordSize ∧
      (∀ range : TriggerKind, range.isTableDriven = true → (range.HoldsId id ↔ range = kind)) ∧
      (kind = .key → ∃ qualifier, binding.keyQualifier?.value = some qualifier ∧
        id = kind.idBase + qualifier ∧
        kind.triggerNumber id = (Chord.ofQualifier qualifier).code) ∧
      (kind ≠ .key → ∃ number : Nat, binding.value = number ∧
        id = kind.idBase + (binding.channel * 128 + number) ∧ kind.triggerNumber id = number) := by
  intro kind id
  obtain ⟨trigger, channel, isFor, isId⟩ := isFor_of_compiled? compiles
  obtain ⟨otherTrigger, otherChannel, otherIsFor, isOtherId⟩ := isFor_of_compiled? otherCompiles
  have bound := isFor.bound
  have number := bound.triggerNumber_idOn
  obtain ⟨isSum, -⟩ := bound.idOn_eq
  rw [← isId, ← isFor.kind] at number isSum
  refine ⟨?_, isId.trans_ne bound.idOn_ne_zero, lt_of_eq_of_lt isId bound.idOn_lt,
    fun range driven => ?_, ?_, ?_⟩
  · rw [isFor.sharesTrigger_iff otherIsFor, ← bound.idOn_inj otherIsFor.bound, ← isId,
      ← isOtherId]
  · change range.HoldsId compiled.action.triggerId ↔ range = binding.trigger
    rw [isId, isFor.kind, bound.holdsId_idOn driven]
  · intro isKey
    have onKeyboard := isFor.isKey_iff.1 isKey
    rw [if_pos onKeyboard] at number
    rw [(bound.key onKeyboard).2, Nat.zero_mul, Nat.zero_add] at isSum
    exact ⟨trigger.number, isFor.key onKeyboard, isSum, number⟩
  · intro isMidi
    have onMidi : trigger.board ≠ .keyboard := fun isKey => isMidi (isFor.isKey_iff.2 isKey)
    obtain ⟨value, onChannel⟩ := isFor.midi onMidi
    rw [if_neg onMidi] at number
    rw [← onChannel] at isSum
    exact ⟨trigger.number, value, isSum, number⟩

def recordKey : Binding := { trigger := .key, key := some "Ctrl+r", symbol := "Record" }

def recordNote : Binding := { trigger := .note, value := 36, channel := 3, symbol := "Record" }

theorem compiles_of_recordName {binding : Binding} {address : Address}
    (found : binding.address?.value = some address) (named : binding.symbolName = "Record") :
    ∃ compiled, binding.compiled? {} = some compiled := by
  have interned : SymbolTable.intern {} "Record" = (0, ⟨[{ name := "Record" }]⟩) := by
    decide +kernel
  rw [compiled?, value_compile, found, value_action?, named, interned]
  exact ⟨_, rfl⟩

/-- A key and a note for the same function: their ids differ, and each tells its key or number. -/
theorem record_key_and_note :
    ∃ key note, recordKey.compiled? {} = some key ∧ recordNote.compiled? {} = some note ∧
      key.action.triggerId ≠ note.action.triggerId ∧
      TriggerKind.triggerNumber .key key.action.triggerId = 'r'.toNat ∧
      TriggerKind.triggerNumber .note note.action.triggerId = 36 := by
  have isControlR : recordKey.keyQualifier?.value = some 0x40072 := by decide +kernel
  obtain ⟨key, isKey⟩ : ∃ key, recordKey.compiled? {} = some key :=
    @compiles_of_recordName _ ⟨0x72, 0x40072, 0x40072, 0⟩ (by decide +kernel) (by decide +kernel)
  obtain ⟨note, isNote⟩ : ∃ note, recordNote.compiled? {} = some note :=
    @compiles_of_recordName _ ⟨36, 3, 36, 3⟩ (by decide +kernel) (by decide +kernel)
  obtain ⟨apart, -, -, -, readsKey, -⟩ := id_tells_trigger isKey isNote
  obtain ⟨-, -, -, -, -, readsNote⟩ := id_tells_trigger isNote isKey
  obtain ⟨qualifier, isQualifier, -, code⟩ := readsKey rfl
  obtain ⟨number, isNumber, -, reads⟩ := readsNote (by decide)
  rw [isControlR] at isQualifier
  refine ⟨key, note, isKey, isNote, ?_, code.trans ?_, reads.trans ?_⟩
  · rw [ne_eq, apart]
    rintro ⟨sameKind, -⟩
    cases sameKind
  · rw [← Option.some.inj isQualifier]
    rfl
  · exact (Int.ofNat.inj isNumber).symm

end Binding

end Looper
