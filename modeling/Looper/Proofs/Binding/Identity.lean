import Looper.Proofs.Binding.Filing
import Looper.Proofs.Binding.Sustain

/-!
# What a trigger id identifies

A binding gives its action the id of its trigger when it is compiled; the event that fires
the action later is not asked.  So an id tells which board the trigger is looked up on, its
number, and the channel that the binding is for.  A binding for any channel answers on all
of them under one id, which leaves the channel open.
-/

namespace Looper

/--
What the user acts on: a key with its modifiers, or a number of one kind of MIDI message on
a channel counted from zero.
-/
@[ext] structure PhysicalTrigger where
  board : Board
  number : Nat
  channel : Nat := 0
  deriving DecidableEq, Repr

namespace PhysicalTrigger

/-- The id of a trigger in a binding for a channel counted from one, or for any, as zero. -/
def idOn (trigger : PhysicalTrigger) (channel : Nat) : Nat :=
  trigger.board.kind.triggerId trigger.number channel

/-- A trigger that a binding can be for, and the channel in the binding. -/
structure IsBound (trigger : PhysicalTrigger) (channel : Nat) : Prop where
  key : trigger.board = .keyboard → trigger.number ≤ Chord.maxQualifier ∧ channel = 0
  midi : trigger.board ≠ .keyboard → trigger.number ≤ 127 ∧ channel ≤ 16

section

variable {trigger other : PhysicalTrigger} {channel otherChannel : Nat}
  (bound : trigger.IsBound channel) (otherBound : other.IsBound otherChannel)

include bound

/-- The ids of a board are in the range that starts at the base of its kind. -/
theorem IsBound.idOn_eq :
    trigger.idOn channel = trigger.board.kind.idBase + (channel * 128 + trigger.number) ∧
      channel * 128 + trigger.number < 0x1000000 := by
  obtain ⟨key, midi⟩ := bound
  rw [Chord.maxQualifier] at key
  rw [idOn]
  cases board : trigger.board with
  | keyboard =>
      obtain ⟨number, anywhere⟩ := key board
      simp only [Board.kind, TriggerKind.triggerId, TriggerKind.idBase, Text.wordSize]
      omega
  | _ =>
      obtain ⟨number, within⟩ := midi (by simp [board])
      simp only [Board.kind, TriggerKind.triggerId, TriggerKind.idBase]
      omega

theorem IsBound.idOn_ne_zero : trigger.idOn channel ≠ 0 := by
  have positive : 0 < trigger.board.kind.idBase := by cases trigger.board <;> decide
  have isSum := bound.idOn_eq.1
  omega

include otherBound

theorem IsBound.board_eq (same : trigger.idOn channel = other.idOn otherChannel) :
    trigger.board = other.board := by
  obtain ⟨isSum, inRange⟩ := bound.idOn_eq
  obtain ⟨otherSum, otherInRange⟩ := otherBound.idOn_eq
  rw [isSum, otherSum] at same
  cases board : trigger.board <;> cases otherBoard : other.board <;>
    simp only [board, otherBoard, Board.kind, TriggerKind.idBase, reduceCtorEq] at same ⊢ <;>
    omega

/-- An id tells the board, the number and the channel that it was made from. -/
theorem IsBound.idOn_inj :
    trigger.idOn channel = other.idOn otherChannel ↔
      trigger.board = other.board ∧ trigger.number = other.number ∧ channel = otherChannel := by
  constructor
  · intro same
    have sameBoard := bound.board_eq otherBound same
    have sums := same
    rw [bound.idOn_eq.1, otherBound.idOn_eq.1, sameBoard] at sums
    refine ⟨sameBoard, ?_⟩
    by_cases isKey : trigger.board = .keyboard
    · have anywhere := (bound.key isKey).2
      have otherAnywhere := (otherBound.key (sameBoard ▸ isKey)).2
      omega
    · have number := (bound.midi isKey).1
      have otherNumber := (otherBound.midi (sameBoard ▸ isKey)).1
      omega
  · rintro ⟨sameBoard, sameNumber, sameChannel⟩
    rw [idOn, idOn, sameBoard, sameNumber, sameChannel]

end

/-- Where a trigger is looked up: keys by their low byte, MIDI by number and channel. -/
def place (trigger : PhysicalTrigger) : Desk.Place :=
  if trigger.board = .keyboard then
    ⟨.keyboard, Chord.bucket trigger.number, trigger.number, false⟩
  else ⟨trigger.board, trigger.number, (trigger.channel + 1) % 256, true⟩

/-- The channel that the entry for a trigger is for, counted from one, or any, as zero. -/
def channelIn (trigger : PhysicalTrigger) (entry : TableEntry) : Nat :=
  if trigger.board = .keyboard then 0 else entry.qualifier

end PhysicalTrigger

/-- The trigger that was acted on, if it is one that goes through a table. -/
def Desk.Event.trigger? : Desk.Event → Option PhysicalTrigger
  | key qualifier _ => some { board := .keyboard, number := qualifier }
  | midi (.noteOn channel note _) => some ⟨.note, note.toNat, channel.toNat⟩
  | midi (.noteOff channel note) => some ⟨.note, note.toNat, channel.toNat⟩
  | midi (.program channel number) => some ⟨.program, number.toNat, channel.toNat⟩
  | midi (.control channel controller _) => some ⟨.control, controller.toNat, channel.toNat⟩
  | midi _ => none

theorem Desk.Event.place?_eq (event : Desk.Event) :
    event.place? = event.trigger?.map PhysicalTrigger.place := by
  cases event with
  | key qualifier down => rfl
  | midi event => cases event <;> rfl

theorem Desk.Event.channel_lt {event : Desk.Event} {trigger : PhysicalTrigger}
    (acts : event.trigger? = some trigger) : trigger.channel < 256 := by
  cases event with
  | key qualifier down =>
      cases acts
      exact Nat.zero_lt_succ 255
  | midi event =>
      cases event with
      | noteOn channel | noteOff channel | program channel | control channel =>
          cases acts
          exact channel.toNat_lt
      | _ => cases acts

theorem Desk.Event.channel_of_keyboard {event : Desk.Event} {trigger : PhysicalTrigger}
    (acts : event.trigger? = some trigger) (isKey : trigger.board = .keyboard) :
    trigger.channel = 0 := by
  cases event with
  | key qualifier down =>
      cases acts
      rfl
  | midi event => cases event <;> cases acts <;> cases isKey

/-! ## The ids of compiled bindings -/

theorem Chord.qualifier_le (chord : Chord) : chord.qualifier ≤ maxQualifier := by
  have held := chord.modifiers.bits_lt
  have code : chord.code % codeCount < codeCount := Nat.mod_lt _ (by decide)
  rw [codeCount] at code
  simp only [qualifier, maxQualifier, codeCount]
  omega

namespace Binding

theorem le_of_keyQualifier? {binding : Binding} {qualifier : Nat}
    (found : binding.keyQualifier?.value = some qualifier) : qualifier ≤ Chord.maxQualifier := by
  rw [keyQualifier?] at found
  cases isWritten : binding.key with
  | some written =>
      rw [isWritten] at found
      dsimp only at found
      cases isChord : Chord.parse? written with
      | none =>
          rw [isChord] at found
          cases found
      | some chord =>
          rw [isChord] at found
          rw [← Option.some.inj found]
          exact chord.qualifier_le
  | none =>
      rw [isWritten] at found
      by_cases inRange : 0 ≤ binding.value ∧ binding.value ≤ Chord.maxQualifier
      · simp only [if_pos inRange] at found
        have isValue : binding.value.toNat = qualifier := Option.some.inj found
        omega
      · simp only [if_neg inRange] at found
        cases found

theorem triggerId_identify (binding : Binding) (address : Address) (action : Action) :
    (binding.identify address action).triggerId =
      binding.trigger.triggerId address.value address.channel := by
  rw [identify]
  split <;> rfl

/-- The id is made from the address under which the compiled binding is filed. -/
theorem triggerId_of_compiled? {binding : Binding} {symbols : SymbolTable}
    {compiled : CompiledBinding} (compiles : binding.compiled? symbols = some compiled) :
    ∃ address : Address, binding.address?.value = some address ∧
      compiled.index = address.index ∧ compiled.qualifier = address.qualifier ∧
      compiled.action.triggerId = binding.trigger.triggerId address.value address.channel := by
  obtain ⟨address, action, found, rfl⟩ := eq_of_compiled? compiles
  exact ⟨address, found, rfl, rfl, binding.triggerId_identify address action⟩

/-- A binding for a MIDI board is filed under its number and its channel. -/
theorem value_address?_midi {binding : Binding} {board : Board} (isMidi : board ≠ .keyboard)
    (kind : binding.trigger = board.kind) :
    binding.address?.value =
      binding.midiNumber?.value.map fun n => ⟨n, binding.channel, n, binding.channel⟩ := by
  rw [value_address?, kind]
  cases board with
  | keyboard => exact absurd rfl isMidi
  | _ => rfl

/-- A trigger that finds a compiled binding is the one that the binding's id is made from. -/
theorem isBound_of_compiled? {binding : Binding} {symbols : SymbolTable}
    {compiled : CompiledBinding} (compiles : binding.compiled? symbols = some compiled)
    {trigger : PhysicalTrigger} (kind : binding.trigger = trigger.board.kind)
    (index : compiled.index = trigger.place.index)
    (answers : compiled.entry.answers trigger.place.qualifier trigger.place.wild = true) :
    trigger.IsBound (trigger.channelIn compiled.entry) ∧
      compiled.action.triggerId = trigger.idOn (trigger.channelIn compiled.entry) := by
  obtain ⟨address, found, isIndex, isQualifier, isId⟩ := triggerId_of_compiled? compiles
  rw [isId, PhysicalTrigger.idOn, kind]
  by_cases isKey : trigger.board = .keyboard
  · rw [PhysicalTrigger.channelIn, if_pos isKey]
    rw [isKey] at kind
    rw [value_address?, kind] at found
    obtain ⟨qualifier, isNumber, rfl⟩ := Option.map_eq_some_iff.1 found
    have sameNumber : qualifier = trigger.number := by
      simpa [PhysicalTrigger.place, isKey, TableEntry.answers, CompiledBinding.entry, isQualifier]
        using answers
    rw [sameNumber] at isNumber
    exact ⟨⟨fun _ => ⟨le_of_keyQualifier? isNumber, rfl⟩, fun isMidi => absurd isKey isMidi⟩,
      congrArg (fun number => TriggerKind.triggerId _ number 0) sameNumber⟩
  · rw [PhysicalTrigger.channelIn, if_neg isKey]
    rw [value_address?_midi isKey kind] at found
    obtain ⟨number, isNumber, rfl⟩ := Option.map_eq_some_iff.1 found
    have sameNumber : number = trigger.number := by
      rw [PhysicalTrigger.place, if_neg isKey] at index
      exact isIndex.symm.trans index
    obtain ⟨inRange, within⟩ := (value_of_midiNumber? isNumber).2
    rw [sameNumber] at inRange
    rw [CompiledBinding.entry, isQualifier]
    exact ⟨⟨fun isKey' => absurd isKey' isKey, fun _ => ⟨inRange, within⟩⟩,
      congrArg (fun number => TriggerKind.triggerId _ number binding.channel) sameNumber⟩

end Binding

namespace Desk

/-- A board of a desk whose tables have been compiled holds what a list of bindings compiles to. -/
theorem IsCompiled.filed {desk : Desk} (isCompiled : desk.IsCompiled) (board : Board) :
    ∃ list known, desk.table board = BindingTable.empty.fileAll
      ((Compile.accepted list known).filter fun compiled => compiled.trigger == board.kind) := by
  obtain ⟨⟨keys, keySymbols, keyboard⟩, ⟨sets, symbols, midi⟩⟩ := isCompiled
  have keysFiled := Compile.keyboard_eq_fileAll keys
    (SymbolTable.Extends.refl (Compile.keyboard keys keySymbols).value.2)
  have filed := Compile.midi_eq_fileAll sets
    (SymbolTable.Extends.refl (Compile.midi sets symbols).value.2)
  rw [← keyboard] at keysFiled
  rw [← midi] at filed
  cases board with
  | keyboard => exact ⟨_, _, keysFiled⟩
  | note => exact ⟨_, _, congrArg MidiTables.note filed⟩
  | program => exact ⟨_, _, congrArg MidiTables.program filed⟩
  | control => exact ⟨_, _, congrArg MidiTables.control filed⟩

/--
What answers from compiled tables carries the id of the trigger on the channel that the entry
is for; on a MIDI board that is any channel or the trigger's own.
-/
theorem IsCompiled.triggerId_of_answers {desk : Desk} (isCompiled : desk.IsCompiled)
    {event : Event} {entry : TableEntry} (answers : desk.answering? event = some entry) :
    ∃ trigger, event.trigger? = some trigger ∧ trigger.IsBound (trigger.channelIn entry) ∧
      entry.action.triggerId = trigger.idOn (trigger.channelIn entry) ∧
      (trigger.board ≠ .keyboard → entry.qualifier = 0 ∨
        entry.qualifier = trigger.channel + 1) := by
  rw [answering?, Event.place?_eq] at answers
  obtain ⟨place, isPlace, looksUp⟩ := Option.bind_eq_some_iff.1 answers
  obtain ⟨trigger, acts, rfl⟩ := Option.map_eq_some_iff.1 isPlace
  obtain ⟨list, known, isFiled⟩ := isCompiled.filed trigger.board
  have onBoard : trigger.place.board = trigger.board := by
    rw [PhysicalTrigger.place]
    split
    · next isKey => exact isKey.symm
    · rfl
  rw [onBoard, isFiled, BindingTable.lookup?_fileAll _ (Compile.accepted_inside list known _)]
    at looksUp
  obtain ⟨compiled, isFirst, rfl⟩ := Option.map_eq_some_iff.1 looksUp
  obtain ⟨member, ofKind⟩ := List.mem_filter.1 (List.mem_of_find?_eq_some isFirst)
  obtain ⟨binding, -, compiles⟩ := Compile.mem_accepted member
  have kind : binding.trigger = trigger.board.kind :=
    (Binding.address_of_compiled? compiles).1.symm.trans (eq_of_beq ofKind)
  have isFound := List.find?_some isFirst
  obtain ⟨sameIndex, isAnswer⟩ := Bool.and_eq_true_iff.1 isFound
  obtain ⟨bound, isId⟩ :=
    Binding.isBound_of_compiled? compiles kind (eq_of_beq sameIndex) isAnswer
  refine ⟨trigger, acts, bound, isId, fun isMidi => ?_⟩
  rw [PhysicalTrigger.place, if_neg isMidi] at isAnswer
  simp only [TableEntry.answers, Bool.true_and, Bool.or_eq_true, beq_iff_eq] at isAnswer
  have below := Event.channel_lt acts
  omega

/-- What fires carries the id of the entry that answered at the start. -/
theorem Played.triggerId_of_fires {start desk : Desk} (played : Played start desk)
    {event : Event} {action : Action} (fires : desk.firing? event = some action) :
    ∃ entry, start.answering? event = some entry ∧ action.triggerId = entry.action.triggerId := by
  obtain ⟨entry, answers, refreshed, -⟩ := played.refresh_of_fires fires
  have kept : action.refresh.triggerId = entry.action.refresh.triggerId := by rw [refreshed]
  exact ⟨entry, answers, kept⟩

def AnswersOnAny (desk : Desk) (event : Event) : Prop :=
  ∃ entry, desk.answering? event = some entry ∧ entry.qualifier = 0

/--
However a desk with compiled tables has been played, whatever fires has an id.  Two events
fire under one id just if they come from the same board and number, and from the same
channel too unless both are answered for any channel.
-/
theorem same_id_iff_same_trigger {start desk later : Desk} (isCompiled : start.IsCompiled)
    (played : Played start desk) (playedLater : Played start later) {event other : Event}
    {action otherAction : Action} (fires : desk.firing? event = some action)
    (otherFires : later.firing? other = some otherAction) :
    action.triggerId ≠ 0 ∧ ∃ trigger otherTrigger,
      event.trigger? = some trigger ∧ other.trigger? = some otherTrigger ∧
      (action.triggerId = otherAction.triggerId ↔
        trigger.board = otherTrigger.board ∧ trigger.number = otherTrigger.number ∧
          (trigger.channel = otherTrigger.channel ∨
            start.AnswersOnAny event ∧ start.AnswersOnAny other)) := by
  obtain ⟨entry, answers, kept⟩ := played.triggerId_of_fires fires
  obtain ⟨otherEntry, otherAnswers, otherKept⟩ := playedLater.triggerId_of_fires otherFires
  obtain ⟨trigger, acts, bound, isId, heard⟩ := isCompiled.triggerId_of_answers answers
  obtain ⟨otherTrigger, otherActs, otherBound, isOtherId, otherHeard⟩ :=
    isCompiled.triggerId_of_answers otherAnswers
  rw [kept, otherKept]
  refine ⟨isId ▸ bound.idOn_ne_zero, trigger, otherTrigger, acts, otherActs, ?_⟩
  rw [isId, isOtherId, bound.idOn_inj otherBound]
  refine and_congr_right fun sameBoard => and_congr_right fun sameNumber => ?_
  by_cases isKey : trigger.board = .keyboard
  · -- A key has no channel, and its binding has none either.
    have isOtherKey := sameBoard ▸ isKey
    simp only [PhysicalTrigger.channelIn, isKey, isOtherKey, if_true,
      Event.channel_of_keyboard acts isKey, Event.channel_of_keyboard otherActs isOtherKey,
      true_or]
  · have isOther : otherTrigger.board ≠ .keyboard := sameBoard ▸ isKey
    rw [PhysicalTrigger.channelIn, if_neg isKey, PhysicalTrigger.channelIn, if_neg isOther]
    constructor
    · intro sameQualifier
      rcases heard isKey with onAny | onOwn
      · exact .inr ⟨⟨entry, answers, onAny⟩, otherEntry, otherAnswers, sameQualifier ▸ onAny⟩
      · rcases otherHeard isOther with otherOnAny | otherOnOwn <;> omega
    · rintro (sameChannel | ⟨⟨found, foundAnswers, onAny⟩, otherFound, foundOther, otherOnAny⟩)
      · -- The two events are looked up in one place, so one entry answers both.
        have samePlace : event.place? = other.place? := by
          rw [Event.place?_eq, Event.place?_eq, acts, otherActs]
          congr 2
          exact PhysicalTrigger.ext sameBoard sameNumber sameChannel
        rw [answering?_of_place samePlace, otherAnswers] at answers
        rw [Option.some.inj answers]
      · rw [answers] at foundAnswers
        rw [otherAnswers] at foundOther
        rw [Option.some.inj foundAnswers, Option.some.inj foundOther, onAny, otherOnAny]

theorem firing?_holdNote (channel velocity : UInt8) :
    holdDesk.firing? (.midi (.noteOn channel 36 velocity)) =
      some { (holdAction .note 36).refresh with triggerValue := velocity.toNat } := by
  have answers : holdDesk.answering? (.midi (.noteOn channel 36 velocity)) =
      some ⟨0, holdAction .note 36⟩ := by
    rw [answering?, Event.place?, Option.bind_some, table, midi_holdDesk]
    rw [BindingTable.lookup?, BindingTable.bucket_add _ (by decide)]
    simp [TableEntry.answers]
  rw [firing?_eq, answers]
  rfl

/-- A note and a controller of one desk fire under ids of their own. -/
theorem note_and_controller_apart :
    ∃ pressed turned, holdDesk.firing? (.midi (.noteOn 0 36 90)) = some pressed ∧
      (holdDesk.respond (.midi (.noteOn 0 36 90))).value.1.firing? (.midi (.control 0 20 127)) =
        some turned ∧
      pressed.triggerId ≠ turned.triggerId := by
  have played : Played holdDesk (holdDesk.respond (.midi (.noteOn 0 36 90))).value.1 :=
    .event .start _
  have answers : holdDesk.answering? (.midi (.control 0 20 127)) =
      some ⟨0, holdAction .control 20⟩ := by
    rw [answering?, Event.place?, Option.bind_some, table, midi_holdDesk]
    rfl
  have turns : (holdDesk.respond (.midi (.noteOn 0 36 90))).value.1.firing?
      (.midi (.control 0 20 127)) =
        some { (holdAction .control 20).refresh with triggerValue := 127 } := by
    rw [played.firing?_eq, answers]
    rfl
  refine ⟨_, _, firing?_holdNote 0 90, turns, ?_⟩
  obtain ⟨-, trigger, other, acts, otherActs, sameId⟩ := same_id_iff_same_trigger
    isCompiled_holdDesk .start played (firing?_holdNote 0 90) turns
  rw [ne_eq, sameId]
  rintro ⟨sameBoard, -⟩
  cases acts
  cases otherActs
  cases sameBoard

/-- A binding for any channel fires under one id for the same note on two channels. -/
theorem one_id_on_two_channels :
    holdDesk.IsCompiled ∧
      (holdDesk.firing? (.midi (.noteOn 0 36 90))).map Action.triggerId = some 0x2000024 ∧
      (holdDesk.firing? (.midi (.noteOn 1 36 90))).map Action.triggerId = some 0x2000024 ∧
      Event.trigger? (.midi (.noteOn 0 36 90)) ≠ Event.trigger? (.midi (.noteOn 1 36 90)) := by
  refine ⟨isCompiled_holdDesk, ?_, ?_, by decide⟩
  · rw [firing?_holdNote]
    rfl
  · rw [firing?_holdNote]
    rfl

end Desk

end Looper
