import Looper.Proofs.Binding.Recompile
import Looper.Proofs.Binding.Reuse

/-!
# Sustained triggers

Compiling decides which actions sustain, and the desk decides what a release
does.  The two do not agree on a controller that is bound to a script: its press
opens a sustain that its zero leaves open.
-/

namespace Looper

/-! ## Compiled tables -/

def Target.isScript : Target → Bool
  | script .. => true
  | _ => false

/-- An action that sustains has a target that can be held. -/
def Action.SustainsRightly (action : Action) : Prop :=
  action.sustain = true → action.target.isSustainable = true

namespace Binding

theorem sustain_template (binding : Binding) (id : SymbolId) (symbol : SymbolEntry) :
    (binding.template id symbol).sustain = false := by
  unfold template
  dsimp only
  split <;> rfl

theorem sustainsRightly_identify (binding : Binding) (address : Address) {action : Action}
    (unsustained : action.sustain = false) :
    (binding.identify address action).SustainsRightly := by
  unfold identify
  dsimp only
  split
  · next both =>
      intro _
      exact ((Bool.and_eq_true _ _).mp both).2
  · intro sustains
    exact absurd sustains (by simp [unsustained])

/-- A binding compiles to an action that sustains only what can be held. -/
theorem sustainsRightly_compile (binding : Binding) (symbols : SymbolTable)
    {compiled : CompiledBinding} (compiles : (binding.compile symbols).value.1 = some compiled) :
    compiled.action.SustainsRightly := by
  rw [value_compile] at compiles
  split at compiles
  · cases compiles
  · next address _ =>
      simp only [value_action?] at compiles
      split at compiles
      · cases compiles
      · obtain ⟨action, acts, isCompiled⟩ := Option.map_eq_some_iff.1 compiles
        obtain ⟨symbol, _, isTemplate⟩ := Option.map_eq_some_iff.1 acts
        rw [← isCompiled, ← isTemplate]
        exact binding.sustainsRightly_identify address (binding.sustain_template _ symbol)

end Binding

theorem Compile.sustainsRightly_bindings (list : List Binding) (symbols : SymbolTable) :
    ∀ compiled ∈ (bindings list symbols).value.1, compiled.action.SustainsRightly := by
  induction list generalizing symbols with
  | nil =>
      intro compiled member
      cases member
  | cons binding rest ih =>
      intro compiled member
      rcases List.mem_append.1 member with first | others
      · exact binding.sustainsRightly_compile symbols (Option.mem_toList.1 first)
      · exact ih _ compiled others

def BindingTable.Each (property : Action → Prop) (table : BindingTable) : Prop :=
  ∀ index, ∀ entry ∈ table.bucket index, property entry.action

namespace BindingTable

variable {property : Action → Prop}

theorem each_empty : Each property empty := by
  intro index entry member
  rw [bucket_empty] at member
  cases member

theorem Each.add {table : BindingTable} (each : Each property table) (index qualifier : Nat)
    {action : Action} (holds : property action) :
    Each property (table.add index qualifier action) := by
  intro other entry member
  unfold BindingTable.add at member
  by_cases inside : index < 256
  · rw [bucket_updateBucket table index other _ inside] at member
    split at member
    · rcases List.mem_append.1 member with old | new
      · exact each index entry old
      · rw [List.mem_singleton.1 new]
        exact holds
    · exact each other entry member
  · unfold updateBucket at member
    rw [dif_neg inside] at member
    exact each other entry member

end BindingTable

structure MidiTables.Each (property : Action → Prop) (tables : MidiTables) : Prop where
  note : tables.note.Each property
  program : tables.program.Each property
  control : tables.control.Each property

theorem MidiTables.Each.file {property : Action → Prop} {tables : MidiTables}
    (each : tables.Each property) {compiled : CompiledBinding}
    (holds : property compiled.action) : (tables.file compiled).Each property := by
  unfold MidiTables.file
  split
  · exact ⟨each.note.add _ _ holds, each.program, each.control⟩
  · exact ⟨each.note, each.program.add _ _ holds, each.control⟩
  · exact ⟨each.note, each.program, each.control.add _ _ holds⟩
  · exact each

namespace Compile

/-- What holds of everything that is compiled holds of every action of the keyboard table. -/
theorem each_keyboard_of {property : Action → Prop} (sets : List BindingSet)
    (symbols : SymbolTable)
    (holds : ∀ compiled ∈ (bindings
      ((inOrder sets).filter fun binding => binding.trigger == .key) symbols).value.1,
      property compiled.action) :
    (keyboard sets symbols).value.1.Each property := by
  rw [value_keyboard]
  dsimp only
  generalize (bindings ((inOrder sets).filter fun binding => binding.trigger == .key)
    symbols).value.1 = compiled at holds ⊢
  exact List.foldlRecOn compiled _ BindingTable.each_empty
    fun table each entry member => each.add _ _ (holds entry member)

theorem each_midi_of {property : Action → Prop} (sets : List BindingSet) (symbols : SymbolTable)
    (holds : ∀ compiled ∈ (bindings
      ((inOrder sets).filter fun binding => binding.trigger.isMidi) symbols).value.1,
      property compiled.action) :
    (midi sets symbols).value.1.Each property := by
  rw [value_midi]
  dsimp only
  generalize (bindings ((inOrder sets).filter fun binding => binding.trigger.isMidi)
    symbols).value.1 = compiled at holds ⊢
  have none : ({} : MidiTables).Each property :=
    ⟨BindingTable.each_empty, BindingTable.each_empty, BindingTable.each_empty⟩
  exact List.foldlRecOn compiled _ none fun tables each entry member =>
    each.file (holds entry member)

theorem each_keyboard (sets : List BindingSet) (symbols : SymbolTable) :
    (keyboard sets symbols).value.1.Each Action.SustainsRightly :=
  each_keyboard_of sets symbols (sustainsRightly_bindings _ symbols)

theorem each_midi (sets : List BindingSet) (symbols : SymbolTable) :
    (midi sets symbols).value.1.Each Action.SustainsRightly :=
  each_midi_of sets symbols (sustainsRightly_bindings _ symbols)

end Compile

namespace Desk

/-- A desk whose tables have been compiled, each at some time. -/
structure IsCompiled (desk : Desk) : Prop where
  keyboard : ∃ sets symbols, desk.keyboard = (Compile.keyboard sets symbols).value.1
  midi : ∃ sets symbols, desk.midi = (Compile.midi sets symbols).value.1

/-- What answers from compiled tables sustains rightly. -/
theorem IsCompiled.sustainsRightly {desk : Desk} (isCompiled : desk.IsCompiled) {event : Event}
    {entry : TableEntry} (answers : desk.answering? event = some entry) :
    entry.action.SustainsRightly := by
  obtain ⟨⟨keys, keySymbols, keyboard⟩, ⟨sets, symbols, midi⟩⟩ := isCompiled
  have eachKey := Compile.each_keyboard keys keySymbols
  have eachMidi := Compile.each_midi sets symbols
  rw [← keyboard] at eachKey
  rw [← midi] at eachMidi
  unfold answering? at answers
  obtain ⟨⟨board, index, qualifier, wild⟩, _, found⟩ := Option.bind_eq_some_iff.1 answers
  have member := List.mem_of_find?_eq_some found
  cases board with
  | keyboard => exact eachKey index entry member
  | note => exact eachMidi.note index entry member
  | program => exact eachMidi.program index entry member
  | control => exact eachMidi.control index entry member

/-! ## Opening and closing -/

def Response.Closes (response : Response) : Prop :=
  response.fires = true ∧ response.action.sustainEnd = true

/-- A release closes a sustain, unless it is a controller's and a script is held. -/
theorem closes_of_release (threshold : Nat) {event : Event} {action : Action}
    (isRelease : event.isRelease = true) (sustains : action.sustain = true)
    (rightly : action.SustainsRightly)
    (unscripted : (event.isControl && action.target.isScript) = false) :
    (event.response threshold action.refresh).Closes := by
  have closes (other : Action) (kept : other.sustain = true) : (release other).Closes := by
    unfold release
    rw [if_pos kept]
    exact ⟨rfl, rfl⟩
  cases event with
  | key qualifier down =>
      cases down with
      | true => cases isRelease
      | false => exact closes action.refresh sustains
  | midi event =>
      cases event with
      | noteOff channel note => exact closes action.refresh sustains
      | control channel controller value =>
          have isZero : value = 0 := beq_iff_eq.1 isRelease
          have held := rightly sustains
          rw [isZero]
          simp only [Event.response, turn]
          -- Only functions and scripts can be held, and this is no script.
          cases target : action.target with
          | function traits =>
              simp only [Action.refresh, target, Target.isPassedThrough, Target.isGated]
              exact closes _ sustains
          | script id traits =>
              rw [target] at unscripted
              cases unscripted
          | _ =>
              rw [target] at held
              cases held
      | _ => cases isRelease

/-- The zero of a controller is asked of a script as any other value is, and closes nothing. -/
theorem not_closes_of_script (threshold : Nat) {event : Event} {action : Action}
    (isRelease : event.isRelease = true)
    (scripted : (event.isControl && action.target.isScript) = true) :
    ¬(event.response threshold action.refresh).Closes := by
  obtain ⟨isControl, isScript⟩ := Bool.and_eq_true_iff.1 scripted
  cases event with
  | key qualifier down => cases isControl
  | midi event =>
      cases event with
      | control channel controller value =>
          have isZero : value = 0 := beq_iff_eq.1 isRelease
          rw [isZero]
          cases target : action.target with
          | script id traits =>
              cases continuous : traits.continuous <;>
                simp [Response.Closes, Event.response, turn, Action.refresh, target,
                  Target.isPassedThrough, Target.isGated, continuous]
          | _ =>
              rw [target] at isScript
              cases isScript
      | _ => cases isControl

/-- Only a release closes a sustain, and only one that was opened. -/
theorem isRelease_of_closes {threshold : Nat} {event : Event} {action : Action}
    (closes : (event.response threshold action.refresh).Closes) :
    event.isRelease = true ∧ action.sustain = true := by
  have released (other : Action) (closing : (release other).Closes) :
      other.sustain = true := by
    unfold release at closing
    split at closing
    · next sustains => exact sustains
    · exact absurd closing.1 (by simp)
  cases event with
  | key qualifier down =>
      cases down with
      | true => exact absurd closes.2 (by simp [Event.response, press, Action.refresh])
      | false => exact ⟨rfl, released action.refresh closes⟩
  | midi event =>
      cases event with
      | noteOn channel note velocity =>
          exact absurd closes.2 (by simp [Event.response, press, Action.refresh])
      | program channel number =>
          exact absurd closes.2 (by simp [Event.response, press, Action.refresh])
      | noteOff channel note => exact ⟨rfl, released action.refresh closes⟩
      | control channel controller value =>
          simp only [Event.response, turn] at closes
          split at closes
          · exact absurd closes.2 (by simp [Action.refresh])
          · split at closes
            · split at closes
              · next zero =>
                  have sustains := released _ closes
                  exact ⟨beq_iff_eq.2 (UInt8.toNat_inj.1 zero), sustains⟩
              · exact absurd closes.2 (by simp [Action.refresh])
            · exact absurd closes.2 (by simp [Action.refresh])
      | _ => exact absurd closes.1 (by simp [Event.response])

theorem answering?_of_place {event other : Event} (same : other.place? = event.place?)
    (desk : Desk) : desk.answering? other = desk.answering? event := by
  unfold answering?
  rw [same]

theorem Played.refresh_of_fires {start desk : Desk} (played : Played start desk)
    {event : Event} {action : Action} (fires : desk.firing? event = some action) :
    ∃ entry, start.answering? event = some entry ∧
      action.refresh = entry.action.refresh ∧
      (action.sustainEnd = true → event.isRelease = true ∧ entry.action.sustain = true) := by
  rw [played.firing?_eq] at fires
  obtain ⟨entry, answers, responds⟩ := Option.bind_eq_some_iff.1 fires
  obtain ⟨fired, rfl⟩ := (Response.fired?_eq_some_iff _ _).1 responds
  exact ⟨entry, answers, refresh_response _ event entry.action,
    fun ends => isRelease_of_closes ⟨fired, ends⟩⟩

/-- The release of an entry that sustains closes, but for the zero of a controller of a script. -/
theorem closes_iff (threshold : Nat) {event : Event} {action : Action}
    (isRelease : event.isRelease = true) (sustains : action.sustain = true)
    (rightly : action.SustainsRightly) :
    (event.response threshold action.refresh).Closes ↔
      (event.isControl && action.target.isScript) = false := by
  constructor
  · intro closes
    exact Bool.eq_false_iff.2 fun scripted =>
      not_closes_of_script threshold isRelease scripted closes
  · exact closes_of_release threshold isRelease sustains rightly

/-- Whatever closes fires under the trigger id of every press of its place. -/
theorem Played.triggerId_of_press {start : Desk} {event : Event} {entry : TableEntry}
    (answers : start.answering? event = some entry) {action : Action}
    (isEntry : action.refresh = entry.action.refresh) {earlier : Desk}
    (before : Played start earlier) {press : Event} (same : press.place? = event.place?)
    {pressed : Action} (fires : earlier.firing? press = some pressed) :
    pressed.triggerId = action.triggerId := by
  obtain ⟨other, answersPress, refreshed, _⟩ := before.refresh_of_fires fires
  rw [answering?_of_place same, answers] at answersPress
  cases answersPress
  have sameId := congrArg Action.triggerId (refreshed.trans isEntry.symm)
  exact sameId

/--
However a desk with compiled tables has been played: the release of a trigger
whose entry sustains fires that entry's action and ends the sustain, under the
trigger id of every press, just if it is not the zero of a controller that is
bound to a script.  Nothing but the release of an entry that sustains ends a
sustain.  And what a session hears plays its desk.
-/
theorem release_ends_sustain {start desk : Desk} (isCompiled : start.IsCompiled)
    (played : Played start desk) (event : Event) :
    (∀ entry, start.answering? event = some entry → entry.action.sustain = true →
      event.isRelease = true →
        ((∃ action, desk.firing? event = some action ∧ action.sustainEnd = true ∧
            action.refresh = entry.action.refresh ∧
            ∀ earlier, Played start earlier → ∀ press, press.place? = event.place? →
              ∀ pressed, earlier.firing? press = some pressed →
                pressed.triggerId = action.triggerId) ↔
          (event.isControl && entry.action.target.isScript) = false)) ∧
    (∀ action, desk.firing? event = some action → action.sustainEnd = true →
      event.isRelease = true ∧
        ∃ entry, start.answering? event = some entry ∧ entry.action.sustain = true) ∧
    ∀ (ε : Type) [Engine ε] (session : Session) (engine : ε), session.loop.desk = desk →
      (∀ qualifier down,
        Played start (session.keyEvent qualifier down engine).value.1.loop.desk) ∧
      ∀ message, Played start (session.midiEvent message engine).value.1.loop.desk := by
  refine ⟨?_, ?_, ?_⟩
  · intro entry answers sustains isRelease
    have fires : desk.firing? event =
        (event.response desk.threshold entry.action.refresh).fired? := by
      rw [played.firing?_eq, answers, Option.bind_some]
    rw [← closes_iff desk.threshold isRelease sustains (isCompiled.sustainsRightly answers),
      fires]
    constructor
    · rintro ⟨action, fired, ends, _⟩
      obtain ⟨responds, rfl⟩ := (Response.fired?_eq_some_iff _ _).1 fired
      exact ⟨responds, ends⟩
    · intro closes
      have isEntry := refresh_response desk.threshold event entry.action
      exact ⟨_, (Response.fired?_eq_some_iff _ _).2 ⟨closes.1, rfl⟩, closes.2, isEntry,
        fun _ before _ same _ pressed => before.triggerId_of_press answers isEntry same pressed⟩
  · intro action fires ends
    obtain ⟨entry, answers, _, closing⟩ := played.refresh_of_fires fires
    obtain ⟨isRelease, sustains⟩ := closing ends
    exact ⟨isRelease, entry, answers, sustains⟩
  · intro ε _ session engine isDesk
    rw [← isDesk] at played
    exact ⟨fun qualifier down => session.played_keyEvent played qualifier down engine,
      fun message => session.played_midiEvent played message engine⟩

def holdEntry : SymbolEntry :=
  ⟨"Hold", some (.script 0 { sustainable := true })⟩

def holdBinding (kind : TriggerKind) (number : Nat) : Binding :=
  { trigger := kind, value := number, symbol := "Hold" }

def holdSets : List BindingSet :=
  [{ name := "Common", bindings := [holdBinding .note 36, holdBinding .control 20] }]

def holdDesk : Desk :=
  { midi := (Compile.midi holdSets ⟨[holdEntry]⟩).value.1, threshold := 127 }

theorem isCompiled_holdDesk : holdDesk.IsCompiled where
  keyboard := ⟨[], {}, by rw [Compile.value_keyboard]; rfl⟩
  midi := ⟨holdSets, ⟨[holdEntry]⟩, rfl⟩

def holdAction (kind : TriggerKind) (number : Nat) : Action :=
  (holdBinding kind number).identify ⟨number, 0, number, 0⟩
    ((holdBinding kind number).template 0 holdEntry)

theorem value_action?_hold (kind : TriggerKind) (number : Nat) :
    ((holdBinding kind number).action? ⟨[holdEntry]⟩).value =
      (some ((holdBinding kind number).template 0 holdEntry), ⟨[holdEntry]⟩) := by
  have named : (holdBinding kind number).symbolName = "Hold" :=
    show String.ofList (Text.trim "Hold".toList) = "Hold" by decide +kernel
  have known : SymbolTable.intern ⟨[holdEntry]⟩ "Hold" = (0, ⟨[holdEntry]⟩) := by decide +kernel
  rw [Binding.value_action?, named, known]
  rfl

theorem midi_holdDesk : holdDesk.midi =
    { note := BindingTable.empty.add 36 0 (holdAction .note 36)
      control := BindingTable.empty.add 20 0 (holdAction .control 20) } := by
  have note : ((holdBinding .note 36).address?).value = some ⟨36, 0, 36, 0⟩ := by decide +kernel
  have control : ((holdBinding .control 20).address?).value = some ⟨20, 0, 20, 0⟩ := by
    decide +kernel
  have filed : (Compile.inOrder holdSets).filter (fun binding => binding.trigger.isMidi) =
      [holdBinding .note 36, holdBinding .control 20] := rfl
  unfold holdDesk
  simp only [Compile.value_midi, filed, Compile.bindings, Logged.value_bind, Logged.value_pure,
    Binding.value_compile, note, control, value_action?_hold]
  rfl

theorem answering?_holdDesk_control (value : UInt8) :
    holdDesk.answering? (.midi (.control 0 20 value)) =
      some ⟨0, holdAction .control 20⟩ := by
  unfold answering? table
  rw [midi_holdDesk]
  rfl

/-- The note that started the script ends its sustain. -/
theorem note_ends_sustain :
    ∃ action, (holdDesk.respond (.midi (.noteOn 0 36 90))).value.1.firing?
      (.midi (.noteOff 0 36)) = some action ∧ action.sustainEnd = true := by
  have answers : holdDesk.answering? (.midi (.noteOff 0 36)) =
      some ⟨0, holdAction .note 36⟩ := by
    unfold answering? table
    rw [midi_holdDesk]
    rfl
  obtain ⟨action, fires, ends, _⟩ :=
    ((release_ends_sustain isCompiled_holdDesk (.event .start (.midi (.noteOn 0 36 90)))
      (.midi (.noteOff 0 36))).1 _ answers (by decide +kernel) rfl).2 rfl
  exact ⟨action, fires, ends⟩

/--
The press of the controller fires the script with a sustain that is open under the
controller's id, and the zero that follows fires nothing.
-/
theorem controller_keeps_sustain :
    holdDesk.IsCompiled ∧
      ((holdDesk.firing? (.midi (.control 0 20 127))).map fun action =>
        (action.sustain, action.triggerId)) = some (true, 0x3000014) ∧
      (Event.midi (.control 0 20 0)).isRelease = true ∧
      (holdDesk.respond (.midi (.control 0 20 127))).value.1.firing?
        (.midi (.control 0 20 0)) = none := by
  refine ⟨isCompiled_holdDesk, ?_, rfl, ?_⟩
  · rw [firing?_eq, answering?_holdDesk_control]
    rfl
  · rw [(Played.event .start _).firing?_eq, answering?_holdDesk_control]
    rfl

end Desk

end Looper
