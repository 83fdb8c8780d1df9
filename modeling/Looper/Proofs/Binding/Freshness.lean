import Looper.Proofs.Binding.Recompile
import Looper.Proofs.Binding.Reuse

/-!
# Actions fire as fresh

Each event that fires has its action dispatched and kept for the next use.
However long this goes on, and whoever takes the actions, the next event fires
what it would fire on tables that have just been compiled.
-/

namespace Looper

namespace Desk

/-- One use of a desk: an event, and what takes the action that fires for it. -/
structure Use where
  event : Event
  {Machine : Type}
  {Owner : Type}
  [engine : Engine Machine]
  host : ScriptHost Owner Machine
  state : Owner × Rig Machine

attribute [instance] Use.engine

def use (desk : Desk) (use : Use) : Desk :=
  match (desk.respond use.event).value with
  | (desk, none) => desk
  | (desk, some firing) =>
      desk.store firing.slot (Dispatch.perform use.host firing.action use.state).value.1

def useAll (desk : Desk) (uses : List Use) : Desk :=
  uses.foldl Desk.use desk

theorem Played.use {start desk : Desk} (played : Played start desk) (use : Use) :
    Played start (desk.use use) := by
  unfold Desk.use
  have afterEvent := played.event use.event
  cases responds : (desk.respond use.event).value with
  | mk responding firing =>
      rw [responds] at afterEvent
      cases firing with
      | none => exact afterEvent
      | some firing =>
          have fires : (desk.respond use.event).value.2 = some firing :=
            congrArg Prod.snd responds
          have dispatched := played.dispatched use.event fires
            (Dispatch.refresh_perform use.host firing.action use.state)
          rw [responds] at dispatched
          exact dispatched

theorem Played.useAll {start desk : Desk} (played : Played start desk) (uses : List Use) :
    Played start (desk.useAll uses) := by
  induction uses generalizing desk with
  | nil => exact played
  | cons first rest ih => exact ih (played.use first)

theorem threshold_store (desk : Desk) (slot : Slot) (action : Action) :
    (desk.store slot action).threshold = desk.threshold := by
  obtain ⟨board, index, position⟩ := slot
  cases board <;> rfl

theorem threshold_respond (desk : Desk) (event : Event) :
    (desk.respond event).value.1.threshold = desk.threshold := by
  cases answers : desk.answering? event with
  | none => rw [respond_of_silence answers]
  | some entry =>
      obtain ⟨slot, -, responds⟩ := respond_of_answering answers
      rw [responds]
      exact threshold_store desk slot _

theorem threshold_use (desk : Desk) (use : Use) : (desk.use use).threshold = desk.threshold := by
  have afterEvent := threshold_respond desk use.event
  unfold Desk.use
  cases responds : (desk.respond use.event).value with
  | mk responding firing =>
      rw [responds] at afterEvent
      cases firing with
      | none => exact afterEvent
      | some firing => exact (threshold_store responding _ _).trans afterEvent

theorem threshold_useAll (desk : Desk) (uses : List Use) :
    (desk.useAll uses).threshold = desk.threshold := by
  induction uses generalizing desk with
  | nil => rfl
  | cons first rest ih => exact (ih (desk.use first)).trans (threshold_use desk first)

theorem firing?_useAll (desk : Desk) (uses : List Use) (event : Event) :
    (desk.useAll uses).firing? event = desk.firing? event := by
  rw [(Played.start.useAll uses).firing?_eq, threshold_useAll, ← Desk.firing?_eq]

/-- Compiling again, once more names are known, makes no difference to what fires. -/
theorem firing?_again (keySets midiSets : List BindingSet)
    (keySymbols midiSymbols : SymbolTable) (threshold : Nat)
    (learnt learntMidi : List SymbolEntry) (uses : List Use) (event : Event) :
    let keyed := (Compile.keyboard keySets keySymbols).value
    let filed := (Compile.midi midiSets midiSymbols).value
    let installed : Desk := { keyboard := keyed.1, midi := filed.1, threshold }
    let again := (Compile.keyboard keySets ⟨keyed.2.entries ++ learnt⟩).value
    let filedAgain := (Compile.midi midiSets ⟨filed.2.entries ++ learntMidi⟩).value
    let fresh : Desk := { keyboard := again.1, midi := filedAgain.1, threshold }
    (installed.useAll uses).firing? event = fresh.firing? event := by
  intro keyed filed installed again filedAgain fresh
  have sameKeys := (Compile.keyboard_again keySets
    (⟨learnt, rfl⟩ : keyed.2.Extends ⟨keyed.2.entries ++ learnt⟩)).2
  have sameMidi := (Compile.midi_again midiSets
    (⟨learntMidi, rfl⟩ : filed.2.Extends ⟨filed.2.entries ++ learntMidi⟩)).2
  have isFresh : fresh = installed := by
    change ({ keyboard := again.1, midi := filedAgain.1, threshold } : Desk) = _
    rw [show again = _ from sameKeys, show filedAgain = _ from sameMidi]
  rw [isFresh]
  exact firing?_useAll installed uses event

end Desk

/-! ## In a session -/

namespace Session

variable {ε : Type} [Engine ε]

/-- An event of a session is a use of its desk by its roster. -/
theorem desk_fire (session : Session) (event : Desk.Event) (engine : ε) :
    ({ session with
        loop := { session.loop with desk := (session.loop.desk.respond event).value.1 } }.fire
      (session.loop.desk.respond event).value.2 engine).value.1.loop.desk =
      session.loop.desk.use
        ⟨event, ScriptHost.roster, (session.loop.roster, session.rig engine)⟩ := by
  unfold Desk.use
  cases responds : (session.loop.desk.respond event).value with
  | mk desk firing =>
      cases firing with
      | none => rfl
      | some firing => rfl

end Session

/--
Whatever tables are installed and however they have been used, by any engine and
any script host in any state, the next event fires what it would have fired
without all that; and where the tables were compiled, it fires what they would
fire if compiled again, whichever names have become known meanwhile.  All that a
session does to its desk when it hears an event is such a use.
-/
theorem Desk.fires_as_fresh :
    (∀ (installed : Desk) (uses : List Use) (event : Event),
      (installed.useAll uses).firing? event = installed.firing? event) ∧
    (∀ (keySets midiSets : List BindingSet) (keySymbols midiSymbols : SymbolTable)
      (threshold : Nat) (learnt learntMidi : List SymbolEntry) (uses : List Use)
      (event : Event),
      let keyed := (Compile.keyboard keySets keySymbols).value
      let filed := (Compile.midi midiSets midiSymbols).value
      let installed : Desk := { keyboard := keyed.1, midi := filed.1, threshold }
      let again := (Compile.keyboard keySets ⟨keyed.2.entries ++ learnt⟩).value
      let filedAgain := (Compile.midi midiSets ⟨filed.2.entries ++ learntMidi⟩).value
      let fresh : Desk := { keyboard := again.1, midi := filedAgain.1, threshold }
      (installed.useAll uses).firing? event = fresh.firing? event) ∧
    ∀ (ε : Type) [Engine ε] (session : Session) (engine : ε),
      let owner := (session.loop.roster, session.rig engine)
      (∀ qualifier down, (session.keyEvent qualifier down engine).value.1.loop.desk =
        session.loop.desk.use ⟨.key qualifier down, ScriptHost.roster, owner⟩) ∧
      ∀ message, (session.midiEvent message engine).value.1.loop.desk =
        session.loop.desk.use ⟨.midi message, ScriptHost.roster, owner⟩ :=
  ⟨firing?_useAll, firing?_again, fun _ _ session engine =>
    ⟨fun qualifier down => session.desk_fire (.key qualifier down) engine,
      fun message => session.desk_fire (.midi message) engine⟩⟩

end Looper
