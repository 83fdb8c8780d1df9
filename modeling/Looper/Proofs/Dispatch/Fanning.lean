import Looper.Engine.Recorder
import Looper.Proofs.Dispatch.Reach
import Looper.Proofs.Script.Cancelling
import Looper.Proofs.Session.History

/-!
# Actions fan out to their scope

An action for functions, samples or the parameters of tracks is delivered once to
each track of its scope, in ascending order.  Which tracks these are is settled
before the first delivery, so nothing that the engine does on the way adds or
loses one.  Every delivery carries the action as it was, and the action itself
comes back with what the first one left on it.
-/

namespace Looper

/-- A call by which an engine was told to act, and its answer. -/
structure Delivery where
  track : Option TrackId
  action : Action
  event : Option EventId

/-- An engine, and the deliveries made to it, the first one first. -/
structure Recounted (ε : Type) where
  engine : ε
  deliveries : List Delivery := []

variable {ε η : Type}

instance [Engine ε] : Engine (Recounted ε) where
  trackCount state := Engine.trackCount state.engine
  activeTrack state := Engine.activeTrack state.engine
  trackGroup state := Engine.trackGroup state.engine
  isFocusLocked state := Engine.isFocusLocked state.engine
  groupOrdinal state := Engine.groupOrdinal state.engine
  invoke state track action :=
    let (event, engine) := Engine.invoke state.engine track action
    (event, { engine, deliveries := state.deliveries ++ [⟨track, action, event⟩] })
  parameter state := Engine.parameter state.engine
  setParameter state track name value :=
    { state with engine := Engine.setParameter state.engine track name value }
  scheduleWait state track msec :=
    let (event, engine) := Engine.scheduleWait state.engine track msec
    (event, { state with engine })
  scriptFinished state id := { state with engine := Engine.scriptFinished state.engine id }

theorem Recounted.mirrors_engine [Engine ε] :
    Engine.Mirrors (ε := Recounted ε) Recounted.engine :=
  ⟨fun _ => rfl, fun _ => rfl, fun _ => rfl, fun _ => rfl, fun _ => rfl, fun _ _ _ => rfl⟩

theorem TrackSet.pairwise_toList (set : TrackSet) : set.toList.Pairwise (· < ·) :=
  List.pairwise_lt_range.filter _

/-- The targets that tracks take part in. -/
def Target.isForTracks : Target → Bool
  | .function _ | .sample => true
  | .parameter traits => !traits.isGlobal
  | _ => false

/-- A delivery of an action to a track, whatever the answer. -/
def Delivery.Brings (action : Action) (track : TrackId) (delivery : Delivery) : Prop :=
  delivery.track = some track ∧ delivery.action = { action with track := some track }

/--
An action has been delivered to each track that it designates, once and in
ascending order; it has come back with track and event of the first delivery, or
as it was if there was none.
-/
def Action.FansOut [Engine ε] (action : Action) (before : Recounted ε) (sent : Action)
    (after : Recounted ε) : Prop :=
  ∃ (tracks : List TrackId) (made : List Delivery),
    tracks.Pairwise (· < ·) ∧
    (∀ track, track ∈ tracks ↔ action.Designates before track) ∧
    after.deliveries = before.deliveries ++ made ∧
    List.Forall₂ (Delivery.Brings action) tracks made ∧
    sent = match made with
      | [] => action
      | first :: _ => { action with track := first.track, event := first.event }

namespace ScriptHost

/-- A host that, as long as it rests, stops scripts without telling the engine to act. -/
def IsQuiet (host : ScriptHost η (Recounted ε)) (rests : η → Prop) : Prop :=
  ∀ author track state, rests state.1 →
    rests (host.cancel author track state).value.1 ∧
      (host.cancel author track state).value.2.engine.deliveries = state.2.engine.deliveries

theorem isQuiet_queue : (ScriptHost.queue : ScriptHost _ (Recounted ε)).IsQuiet fun _ => True :=
  fun _ _ _ _ => ⟨trivial, rfl⟩

end ScriptHost

variable [Engine ε]

theorem deliveries_putBack (engine : Recounted ε) (saved : List SavedParameter) :
    (putBack engine saved).deliveries = engine.deliveries := by
  induction saved generalizing engine with
  | nil => rfl
  | cons first rest ih => exact ih _

/-- Between operations, the roster only puts parameters back when it stops scripts. -/
theorem ScriptHost.isQuiet_roster :
    (ScriptHost.roster : ScriptHost Roster (Recounted ε)).IsQuiet
      fun roster => roster.shared.requests = [] := by
  intro author track state settled
  have cancels := Roster.value_cancelScripts state.1 settled author track state.2
  have stops : (ScriptHost.roster.cancel author track state).value = _ := cancels
  rw [stops]
  exact ⟨settled, deliveries_putBack _ _⟩

namespace Dispatch

variable {host : ScriptHost η (Recounted ε)} {rests : η → Prop}

/-- A delivery to a track is a call of the engine, and nothing else is. -/
theorem brings_deliverToEngine (quiet : host.IsQuiet rests) (action : Action) (track : TrackId)
    {state : η × Rig (Recounted ε)} (atRest : rests state.1) :
    ∃ delivery, Delivery.Brings action track delivery ∧
      (deliverToEngine host { action with track := some track } state).value.1 =
        { action with track := delivery.track, event := delivery.event } ∧
      (deliverToEngine host { action with track := some track } state).value.2.2.engine.deliveries =
        state.2.engine.deliveries ++ [delivery] ∧
      rests (deliverToEngine host { action with track := some track } state).value.2.1 := by
  have invokes (cleared : η × Rig (Recounted ε)) (cleanly : rests cleared.1 ∧
      cleared.2.engine.deliveries = state.2.engine.deliveries) :
      ∃ delivery, Delivery.Brings action track delivery ∧
        (invoke { action with track := some track } cleared).1 =
          { action with track := delivery.track, event := delivery.event } ∧
        (invoke { action with track := some track } cleared).2.2.engine.deliveries =
          state.2.engine.deliveries ++ [delivery] ∧
        rests (invoke { action with track := some track } cleared).2.1 := by
    rw [← cleanly.2]
    exact ⟨_, ⟨rfl, rfl⟩, rfl, rfl, cleanly.1⟩
  unfold deliverToEngine
  cases action.target.resetScope with
  | none => exact invokes state ⟨atRest, rfl⟩
  | some scope =>
      cases scope with
      | track => exact invokes _ (quiet action.author (some track) state atRest)
      | everything => exact invokes _ (quiet action.author none state atRest)

theorem brings_deliverCopies (quiet : host.IsQuiet rests) (action : Action)
    (tracks : List TrackId) {state : η × Rig (Recounted ε)} (atRest : rests state.1) :
    ∃ made, List.Forall₂ (Delivery.Brings action) tracks made ∧
      (deliverCopies (deliverToEngine host) action tracks state).value.2.engine.deliveries =
        state.2.engine.deliveries ++ made := by
  induction tracks generalizing state with
  | nil => exact ⟨[], .nil, (List.append_nil _).symm⟩
  | cons track rest ih =>
      obtain ⟨delivery, brings, -, noted, stillRests⟩ :=
        brings_deliverToEngine quiet action track atRest
      obtain ⟨made, bringsRest, notedRest⟩ := ih stillRests
      refine ⟨delivery :: made, .cons brings bringsRest, ?_⟩
      refine notedRest.trans ?_
      rw [noted, List.append_assoc]
      rfl

/-- The first delivery takes the action itself, the others take it as it was before. -/
theorem brings_fanOut (quiet : host.IsQuiet rests) (action : Action) (tracks : List TrackId)
    {state : η × Rig (Recounted ε)} (atRest : rests state.1) :
    ∃ made, List.Forall₂ (Delivery.Brings action) tracks made ∧
      (fanOut (deliverToEngine host) action tracks state).value.2.2.engine.deliveries =
        state.2.engine.deliveries ++ made ∧
      (fanOut (deliverToEngine host) action tracks state).value.1 =
        match made with
        | [] => action
        | first :: _ => { action with track := first.track, event := first.event } := by
  cases tracks with
  | nil => exact ⟨[], .nil, (List.append_nil _).symm, rfl⟩
  | cons track rest =>
      obtain ⟨delivery, brings, returned, noted, stillRests⟩ :=
        brings_deliverToEngine quiet action track atRest
      obtain ⟨made, bringsRest, notedRest⟩ := brings_deliverCopies quiet action rest stillRests
      refine ⟨delivery :: made, .cons brings bringsRest, ?_, returned⟩
      refine notedRest.trans ?_
      rw [noted, List.append_assoc]
      rfl

theorem fansOut_performOnTracks (quiet : host.IsQuiet rests) (action : Action)
    {state : η × Rig (Recounted ε)} (atRest : rests state.1) (core : action.level = .core) :
    action.FansOut state.2.engine (performOnTracks host action state).value.1
      (performOnTracks host action state).value.2.2.engine := by
  let set := (destinations action state.2.engine).value
  obtain ⟨made, brings, noted, returned⟩ := brings_fanOut quiet action set.toList atRest
  rw [value_performOnTracks]
  exact ⟨set.toList, made, TrackSet.pairwise_toList set,
    fun track => mem_destinations action state.2.engine track core, noted, brings, returned⟩

/-- Performing an action that tracks take part in delivers it to its scope. -/
theorem fansOut_perform (quiet : host.IsQuiet rests) (action : Action)
    (state : η × Rig (Recounted ε)) (atRest : rests state.1) (core : action.level = .core)
    (forTracks : action.target.isForTracks = true) :
    action.FansOut state.2.engine (perform host action state).value.1
      (perform host action state).value.2.2.engine := by
  have onTracks := fansOut_performOnTracks quiet action atRest core
  have below : ¬ action.level = .ui := by
    rw [core]
    exact nofun
  unfold perform
  cases kind : action.target with
  | function traits =>
      simpa only [Target.isResolved, Bool.not_true, Bool.false_eq_true, if_false, below]
        using onTracks
  | sample =>
      simpa only [Target.isResolved, Bool.not_true, Bool.false_eq_true, if_false, below]
        using onTracks
  | parameter traits =>
      rw [kind] at forTracks
      have perTrack : traits.isGlobal = false := by simpa [Target.isForTracks] using forTracks
      simpa only [Target.isResolved, Bool.not_true, Bool.false_eq_true, if_false, below,
        perTrack] using onTracks
  | _ => rw [kind] at forTracks; cases forTracks

end Dispatch

/--
An action for functions, samples or the parameters of tracks fans out to its
scope: with any host that stops scripts quietly, as both a running script's host
and the roster between operations do, and so after any history of a session.
-/
theorem Session.fansOut_to_scope {χ : Type} (action : Action) (core : action.level = .core)
    (forTracks : action.target.isForTracks = true) :
    (∀ (host : ScriptHost η (Recounted ε)) (rests : η → Prop), host.IsQuiet rests →
      ∀ state, rests state.1 →
        let performed := (Dispatch.perform host action state).value
        action.FansOut state.2.engine performed.1 performed.2.2.engine) ∧
    (ScriptHost.queue : ScriptHost _ (Recounted ε)).IsQuiet (fun _ => True) ∧
    (ScriptHost.roster : ScriptHost Roster (Recounted ε)).IsQuiet
      (fun roster => roster.shared.requests = []) ∧
    ∀ (config : Config) (symbols : SymbolTable) (engine : Recounted ε)
      (history : List (Session.Operation (Recounted ε) χ)),
      let reached := ((Session.new config symbols).run engine history).value
      let performed := (reached.1.perform action reached.2).value
      action.FansOut reached.2 performed.1 performed.2.2 := by
  refine ⟨?_, ScriptHost.isQuiet_queue, ScriptHost.isQuiet_roster, ?_⟩
  · intro host rests quiet state atRest
    exact Dispatch.fansOut_perform quiet action state atRest core forTracks
  · intro config symbols engine history
    let reached := ((Session.new config symbols).run engine history).value
    have settled : reached.1.IsSettled :=
      (Session.continues_run (.new config symbols) engine history rfl).settled
    exact Dispatch.fansOut_perform ScriptHost.isQuiet_roster action
      (reached.1.loop.roster, reached.1.rig reached.2) settled core forTracks

/-- A held note reaches the active track and the locked ones, and keeps the first event. -/
theorem Session.fansOut_to_active_and_locked :
    let note : Action :=
      { symbol := 0, name := "Note",
        target := .function { sustainable := true, focusLockable := true } }
    let engine : Recounted Recorder :=
      { engine := { active := 1, focus := [true, false, true, false], deferred := ["Note"] } }
    let performed := ((Session.new {} {}).perform note engine).value
    note.level = .core ∧ note.target.isForTracks = true ∧
      note.FansOut engine performed.1 performed.2.2 ∧
      performed.2.2.deliveries.map (fun delivery => (delivery.track, delivery.event)) =
        [(some 0, some 1), (some 1, some 2), (some 2, some 3)] ∧
      performed.1 = { note with track := some 0, event := some 1 } :=
  ⟨rfl, rfl,
    (Session.fansOut_to_scope (ε := Recorder) (η := Unit) (χ := Unit)
      { symbol := 0, name := "Note",
        target := .function { sustainable := true, focusLockable := true } } rfl rfl).2.2.2
      {} {} { engine := { active := 1, focus := [true, false, true, false],
                          deferred := ["Note"] } } [],
    by decide +kernel, by decide +kernel⟩

end Looper
