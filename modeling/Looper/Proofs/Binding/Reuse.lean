import Looper.Proofs.Dispatch.Delivery
import Looper.Session.LoopHalf

/-!
# Using the desk again and again

The desk uses the actions of its tables over and over, and each use leaves
something behind.  The next use refreshes that away, so what fires for an event
is decided by the tables as they were installed and by the threshold.
-/

namespace Looper

/-! ## What a use leaves alone -/

/-- Performing an action leaves nothing on it that outlives the next refresh. -/
theorem Dispatch.refresh_perform {ε η : Type} [Engine ε] (host : ScriptHost η ε)
    (action : Action) (state : η × Rig ε) :
    (perform host action state).value.1.refresh = action.refresh := by
  have kept := congrArg Action.refresh (undelivered_perform host action state)
  exact kept

/-- The entry as its next use will find it. -/
def TableEntry.refresh (entry : TableEntry) : TableEntry :=
  { entry with action := entry.action.refresh }

namespace BindingTable

/-- Two tables differ only in what uses have left behind. -/
def Alike (before after : BindingTable) : Prop :=
  ∀ index, (after.bucket index).map TableEntry.refresh =
    (before.bucket index).map TableEntry.refresh

theorem Alike.lookup? {before after : BindingTable} (alike : Alike before after)
    (index qualifier : Nat) (wild : Bool) :
    (after.lookup? index qualifier wild).map TableEntry.refresh =
      (before.lookup? index qualifier wild).map TableEntry.refresh := by
  have throughRefresh (table : BindingTable) :
      (table.lookup? index qualifier wild).map TableEntry.refresh =
        ((table.bucket index).map TableEntry.refresh).find?
          fun entry => entry.answers qualifier wild := by
    rw [List.find?_map]
    rfl
  rw [throughRefresh, throughRefresh, alike index]

theorem position?_of_lookup? {table : BindingTable} {index qualifier : Nat} {wild : Bool}
    {entry : TableEntry} (found : table.lookup? index qualifier wild = some entry) :
    ∃ position, table.position? index qualifier wild = some position ∧
      (table.bucket index)[position]? = some entry := by
  unfold lookup? at found
  unfold position?
  generalize table.bucket index = entries at found ⊢
  induction entries with
  | nil => cases found
  | cons first rest ih =>
      rw [List.find?_cons] at found
      rw [List.findIdx?_cons]
      cases answers : first.answers qualifier wild with
      | true =>
          rw [answers] at found
          exact ⟨0, rfl, found⟩
      | false =>
          rw [answers] at found
          obtain ⟨position, searched, stands⟩ := ih found
          exact ⟨position + 1, by simp [searched], stands⟩

/-- A change that the next refresh undoes leaves a list of entries alike. -/
theorem map_refresh_modify (entries : List TableEntry) (position : Nat)
    (change : TableEntry → TableEntry)
    (within : ∀ entry, entries[position]? = some entry →
      (change entry).refresh = entry.refresh) :
    (entries.modify position change).map TableEntry.refresh =
      entries.map TableEntry.refresh := by
  induction entries generalizing position with
  | nil => simp
  | cons first rest ih =>
      cases position with
      | zero => simpa using within first rfl
      | succ position =>
          simpa using ih position fun entry found => within entry found

theorem alike_modifyEntry (table : BindingTable) (index position : Nat)
    (change : TableEntry → TableEntry)
    (within : ∀ entry, (table.bucket index)[position]? = some entry →
      (change entry).refresh = entry.refresh) :
    Alike table (table.modifyEntry index position change) := by
  intro other
  unfold modifyEntry
  by_cases inside : index < 256
  · rw [bucket_updateBucket table index other _ inside]
    split
    · next same =>
        rw [← same]
        exact map_refresh_modify (table.bucket index) position change within
    · rfl
  · unfold updateBucket
    rw [dif_neg inside]

end BindingTable

namespace Desk

/-- Two desks differ only in what uses have left behind, and in the threshold. -/
def Alike (before after : Desk) : Prop :=
  ∀ board, (before.table board).Alike (after.table board)

theorem Alike.trans {first second third : Desk} (earlier : Alike first second)
    (later : Alike second third) : Alike first third :=
  fun board index => (later board index).trans (earlier board index)

/-- Storing an action that is refreshed to the same leaves the desk alike. -/
theorem alike_store (desk : Desk) (slot : Slot) (action : Action)
    (within : ∀ entry, ((desk.table slot.board).bucket slot.index)[slot.position]? = some entry →
      action.refresh = entry.action.refresh) :
    Alike desk (desk.store slot action) := by
  have kept : (desk.table slot.board).Alike ((desk.table slot.board).modifyEntry slot.index
      slot.position fun entry => { entry with action }) := by
    refine BindingTable.alike_modifyEntry _ _ _ _ fun entry found => ?_
    exact congrArg (fun action => { entry with action }) (within entry found)
  intro board
  obtain ⟨stored, index, position⟩ := slot
  cases stored <;> cases board <;> first | exact kept | exact fun _ => rfl

/-! ## Events -/

inductive Event where
  | key (qualifier : Nat) (down : Bool)
  | midi (event : Midi.Event)

/-- Where the entry that answers an event is looked up. -/
structure Place where
  board : Board
  index : Nat
  qualifier : Nat
  wild : Bool

namespace Event

/-- Where an event is looked up, if anywhere. -/
def place? : Event → Option Place
  | key qualifier _ => some ⟨.keyboard, Chord.bucket qualifier, qualifier, false⟩
  | midi (.noteOn channel note _) => some ⟨.note, note.toNat, (channel.toNat + 1) % 256, true⟩
  | midi (.noteOff channel note) => some ⟨.note, note.toNat, (channel.toNat + 1) % 256, true⟩
  | midi (.program channel number) =>
      some ⟨.program, number.toNat, (channel.toNat + 1) % 256, true⟩
  | midi (.control channel controller _) =>
      some ⟨.control, controller.toNat, (channel.toNat + 1) % 256, true⟩
  | midi _ => none

/-- What the answering entry makes of the event. -/
def response (threshold : Nat) : Event → Action → Response
  | key _ true => press 127
  | midi (.noteOn _ _ velocity) => press (Int.ofNat velocity.toNat)
  | midi (.program _ number) => press (Int.ofNat number.toNat)
  | midi (.control _ _ value) => turn threshold value.toNat
  | key _ false | midi (.noteOff ..) => release
  | midi _ => fun action => ⟨action, false⟩

def isRelease : Event → Bool
  | key _ down => !down
  | midi (.noteOff ..) => true
  | midi (.control _ _ value) => value == 0
  | _ => false

def isControl : Event → Bool
  | midi (.control ..) => true
  | _ => false

end Event

def respond (desk : Desk) : Event → Logged (Desk × Option Firing)
  | .key qualifier down => pure (desk.keyEvent qualifier down)
  | .midi event => desk.midiEvent event

def answering? (desk : Desk) (event : Event) : Option TableEntry :=
  event.place?.bind fun place =>
    (desk.table place.board).lookup? place.index place.qualifier place.wild

theorem value_respond (desk : Desk) (event : Event) :
    (desk.respond event).value =
      match event.place? with
      | some place =>
          desk.consult place.board place.index place.qualifier place.wild
            (event.response desk.threshold)
      | none => (desk, none) := by
  cases event with
  | key qualifier down => cases down <;> rfl
  | midi event => cases event <;> rfl

theorem refresh_response (threshold : Nat) (event : Event) (action : Action) :
    (event.response threshold action.refresh).action.refresh = action.refresh := by
  have released (other : Action) : (release other).action.refresh = other.refresh := by
    unfold release
    split <;> rfl
  have turned (value : Nat) : (turn threshold value action.refresh).action.refresh =
      action.refresh := by
    unfold turn
    dsimp only
    split
    · rfl
    · split
      · split
        · exact released _
        · rfl
      · rfl
  cases event with
  | key qualifier down =>
      cases down with
      | true => rfl
      | false => exact released action.refresh
  | midi event =>
      cases event with
      | noteOn channel note velocity => rfl
      | program channel number => rfl
      | control channel controller value => exact turned value.toNat
      | noteOff channel note => exact released action.refresh
      | _ => rfl

/-- Where an entry answers, it fires or not, and its action is kept. -/
theorem respond_of_answering {desk : Desk} {event : Event} {entry : TableEntry}
    (answers : desk.answering? event = some entry) :
    ∃ slot, (∀ other, ((desk.table slot.board).bucket slot.index)[slot.position]? = some other →
        other = entry) ∧
      (desk.respond event).value =
        (desk.store slot (event.response desk.threshold entry.action.refresh).action,
          if (event.response desk.threshold entry.action.refresh).fires then
            some ⟨slot, (event.response desk.threshold entry.action.refresh).action⟩
          else none) := by
  unfold answering? at answers
  rw [value_respond]
  cases there : event.place? with
  | none =>
      rw [there] at answers
      cases answers
  | some place =>
      rw [there] at answers
      change (desk.table place.board).lookup? place.index place.qualifier place.wild =
        some entry at answers
      obtain ⟨position, searched, stands⟩ := BindingTable.position?_of_lookup? answers
      refine ⟨⟨place.board, place.index, position⟩, fun other found => ?_, ?_⟩
      · exact Option.some.inj (found.symm.trans stands)
      · simp only [consult, searched, answers]

theorem respond_of_silence {desk : Desk} {event : Event}
    (silent : desk.answering? event = none) : (desk.respond event).value = (desk, none) := by
  unfold answering? at silent
  rw [value_respond]
  cases there : event.place? with
  | none => rfl
  | some place =>
      rw [there] at silent
      change (desk.table place.board).lookup? place.index place.qualifier place.wild =
        none at silent
      simp only [consult, silent]
      cases (desk.table place.board).position? place.index place.qualifier place.wild <;> rfl

/-! ## Histories -/

/--
The states of a desk since some start.  An action that has fired may be
dispatched and stored back with whatever that leaves on it.
-/
inductive Played (start : Desk) : Desk → Prop where
  | start : Played start start
  | threshold {desk : Desk} (played : Played start desk) (value : Nat) :
      Played start (desk.setThreshold value)
  | event {desk : Desk} (played : Played start desk) (event : Event) :
      Played start (desk.respond event).value.1
  | dispatched {desk : Desk} (played : Played start desk) (event : Event) {firing : Firing}
      (fires : (desk.respond event).value.2 = some firing) {action : Action}
      (same : action.refresh = firing.action.refresh) :
      Played start ((desk.respond event).value.1.store firing.slot action)

theorem alike_respond (desk : Desk) (event : Event) :
    Alike desk (desk.respond event).value.1 := by
  cases answers : desk.answering? event with
  | none =>
      rw [respond_of_silence answers]
      exact fun _ _ => rfl
  | some entry =>
      obtain ⟨slot, stands, responds⟩ := respond_of_answering answers
      rw [responds]
      refine alike_store desk slot _ fun other found => ?_
      rw [stands other found]
      exact refresh_response _ event entry.action

theorem entry_of_fires {desk : Desk} {event : Event} {firing : Firing}
    (fires : (desk.respond event).value.2 = some firing) :
    ∃ entry, desk.answering? event = some entry ∧
      firing.action = (event.response desk.threshold entry.action.refresh).action ∧
      ∀ other, ((desk.table firing.slot.board).bucket firing.slot.index)[firing.slot.position]? =
        some other → other = entry := by
  cases answers : desk.answering? event with
  | none =>
      rw [respond_of_silence answers] at fires
      cases fires
  | some entry =>
      obtain ⟨slot, stands, responds⟩ := respond_of_answering answers
      rw [responds] at fires
      dsimp only at fires
      split at fires
      · cases fires
        exact ⟨entry, rfl, rfl, stands⟩
      · cases fires

/-- However a desk is played, it stays alike. -/
theorem Played.alike {start desk : Desk} (played : Played start desk) : Alike start desk := by
  induction played with
  | start => exact fun _ _ => rfl
  | threshold played value ih => exact ih.trans fun board _ => by cases board <;> rfl
  | event played event ih => exact ih.trans (alike_respond _ event)
  | @dispatched desk played event firing fires action same ih =>
      refine (ih.trans (alike_respond desk event)).trans ?_
      obtain ⟨entry, _, isResponse, stands⟩ := entry_of_fires fires
      refine alike_store _ _ _ fun other found => ?_
      -- The slot still holds the entry that fired, so nothing but uses is stored there.
      have kept := alike_respond desk event firing.slot.board firing.slot.index
      have here := congrArg (fun entries : List TableEntry => entries[firing.slot.position]?) kept
      simp only [List.getElem?_map, found] at here
      cases was : ((desk.table firing.slot.board).bucket firing.slot.index)[firing.slot.position]?
        with
      | none =>
          rw [was] at here
          cases here
      | some before =>
          rw [was, stands before was] at here
          have sameEntry : other.action.refresh = entry.action.refresh :=
            congrArg TableEntry.action (Option.some.inj here)
          rw [same, isResponse, refresh_response, sameEntry]

theorem Alike.answering? {start desk : Desk} (alike : Alike start desk) (event : Event) :
    (desk.answering? event).map TableEntry.refresh =
      (start.answering? event).map TableEntry.refresh := by
  unfold Desk.answering?
  cases event.place? with
  | none => rfl
  | some place => exact (alike place.board).lookup? place.index place.qualifier place.wild

/-! ## What fires -/

def Response.fired? (response : Response) : Option Action :=
  if response.fires then some response.action else none

theorem Response.fired?_eq_some_iff (response : Response) (action : Action) :
    response.fired? = some action ↔ response.fires = true ∧ response.action = action := by
  unfold Response.fired?
  split
  · next fires => simp [fires]
  · next fires => simp [fires]

def firing? (desk : Desk) (event : Event) : Option Action :=
  (desk.respond event).value.2.map Firing.action

theorem firing?_eq (desk : Desk) (event : Event) :
    desk.firing? event = (desk.answering? event).bind fun entry =>
      (event.response desk.threshold entry.action.refresh).fired? := by
  unfold firing?
  cases answers : desk.answering? event with
  | none =>
      rw [respond_of_silence answers]
      rfl
  | some entry =>
      obtain ⟨slot, _, responds⟩ := respond_of_answering answers
      rw [responds, Option.bind_some]
      unfold Response.fired?
      dsimp only
      split <;> rfl

/-- However a desk has been played, the tables at its start decide what fires. -/
theorem Played.firing?_eq {start desk : Desk} (played : Played start desk) (event : Event) :
    desk.firing? event = (start.answering? event).bind fun entry =>
      (event.response desk.threshold entry.action.refresh).fired? := by
  have alike := played.alike.answering? event
  rw [Desk.firing?_eq]
  cases now : desk.answering? event with
  | none =>
      cases before : start.answering? event with
      | none => rfl
      | some entry =>
          rw [now, before] at alike
          cases alike
  | some current =>
      cases before : start.answering? event with
      | none =>
          rw [now, before] at alike
          cases alike
      | some entry =>
          rw [now, before] at alike
          have same : current.action.refresh = entry.action.refresh :=
            congrArg TableEntry.action (Option.some.inj alike)
          rw [Option.bind_some, Option.bind_some, same]

end Desk

/-! ## In a session -/

namespace Session

variable {ε : Type} [Engine ε] {start : Desk}

theorem played_fire (session : Session) (played : start.Played session.loop.desk)
    (event : Desk.Event) (engine : ε) :
    start.Played
      ({ session with
          loop := { session.loop with desk := (session.loop.desk.respond event).value.1 } }.fire
        (session.loop.desk.respond event).value.2 engine).value.1.loop.desk := by
  cases fires : (session.loop.desk.respond event).value.2 with
  | none => exact played.event event
  | some firing => exact played.dispatched event fires (Dispatch.refresh_perform _ _ _)

theorem played_keyEvent (session : Session) (played : start.Played session.loop.desk)
    (qualifier : Nat) (down : Bool) (engine : ε) :
    start.Played (session.keyEvent qualifier down engine).value.1.loop.desk :=
  session.played_fire played (.key qualifier down) engine

theorem played_midiEvent (session : Session) (played : start.Played session.loop.desk)
    (event : Midi.Event) (engine : ε) :
    start.Played (session.midiEvent event engine).value.1.loop.desk :=
  session.played_fire played (.midi event) engine

end Session

end Looper
