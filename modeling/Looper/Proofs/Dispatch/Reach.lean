import Looper.Proofs.Dispatch.Mirroring
import Looper.Proofs.Dispatch.Delivery

/-!
# Where a dispatch goes

The scope of an action designates tracks, by what the engine answers at the time
of the dispatch.  A watched engine notes every track that an action is delivered
to: for a script target that is the track its host is asked to run it on, for
any other one the track that the engine is called with.  What a script does in
its turn is not noted.  Watching changes nothing else, and what is noted are the
tracks that the scope designates.
-/

namespace Looper

/-- An engine, and the tracks that actions have been delivered to, the first one first. -/
structure Watched (ε : Type) where
  engine : ε
  reached : List (Option TrackId) := []

variable {ε η : Type}

namespace Watched

def note (watched : Watched ε) (track : Option TrackId) : Watched ε :=
  { watched with reached := watched.reached ++ [track] }

variable [Engine ε]

instance : Engine (Watched ε) where
  trackCount watched := Engine.trackCount watched.engine
  activeTrack watched := Engine.activeTrack watched.engine
  trackGroup watched := Engine.trackGroup watched.engine
  isFocusLocked watched := Engine.isFocusLocked watched.engine
  groupOrdinal watched := Engine.groupOrdinal watched.engine
  invoke watched track action :=
    let (event, engine) := Engine.invoke watched.engine track action
    (event, { watched with engine }.note track)
  parameter watched := Engine.parameter watched.engine
  setParameter watched track name value :=
    { watched with engine := Engine.setParameter watched.engine track name value }
  scheduleWait watched track msec :=
    let (event, engine) := Engine.scheduleWait watched.engine track msec
    (event, { watched with engine })
  scriptFinished watched id :=
    { watched with engine := Engine.scriptFinished watched.engine id }

theorem mirrors_engine : Engine.Mirrors (ε := Watched ε) Watched.engine :=
  ⟨fun _ => rfl, fun _ => rfl, fun _ => rfl, fun _ => rfl, fun _ => rfl, fun _ _ _ => rfl⟩

end Watched

def ScriptHost.beneath (act : η × Rig ε → Logged (η × Rig ε)) (state : η × Rig (Watched ε)) :
    Logged (η × Rig (Watched ε)) := do
  let (taker, rig) ← act (Dispatch.look id Watched.engine state)
  return (taker, rig.look fun engine => { state.2.engine with engine })

def ScriptHost.watched (host : ScriptHost η ε) : ScriptHost η (Watched ε) where
  run action state := do
    let (taker, rig) ← beneath (host.run action) state
    return (taker, rig.look fun engine => engine.note action.track)
  cancel author track state := beneath (host.cancel author track) state

theorem ScriptHost.look_beneath (act : η × Rig ε → Logged (η × Rig ε))
    (state : η × Rig (Watched ε)) :
    Dispatch.look id Watched.engine <$> beneath act state =
      act (Dispatch.look id Watched.engine state) := by
  unfold beneath
  rw [map_bind]
  exact bind_pure _

namespace Dispatch

variable [Engine ε]

theorem mirrors_watched (host : ScriptHost η ε) :
    Mirrors host.watched host id Watched.engine where
  engine := Watched.mirrors_engine
  run action state := by
    have acts := ScriptHost.look_beneath (host.run action) state
    unfold ScriptHost.watched
    rw [map_bind, ← acts]
    rfl
  cancel author track state := ScriptHost.look_beneath (host.cancel author track) state

/-- Performing an action does the same while it is watched. -/
theorem perform_watched (host : ScriptHost η ε) (action : Action)
    (state : η × Rig (Watched ε)) :
    lookSent id Watched.engine <$> perform host.watched action state =
      perform host action (look id Watched.engine state) :=
  look_perform (mirrors_watched host) action state

/-- The tracks that an action is delivered to when it is performed, in order. -/
def reached (host : ScriptHost η ε) (action : Action) (state : η × Rig ε) :
    List (Option TrackId) :=
  (perform host.watched action
    (state.1, state.2.look fun engine => { engine })).value.2.2.engine.reached

/-! ## Fanning out -/

section FanOut

omit [Engine ε]

variable {deliver : Action → η × Rig (Watched ε) → Logged (Action × η × Rig (Watched ε))}

theorem reached_deliverCopies
    (notes : ∀ action state, (deliver action state).value.2.2.engine.reached =
      state.2.engine.reached ++ [action.track])
    (action : Action) (tracks : List TrackId) (state : η × Rig (Watched ε)) :
    (deliverCopies deliver action tracks state).value.2.engine.reached =
      state.2.engine.reached ++ tracks.map some := by
  induction tracks generalizing state with
  | nil => exact (List.append_nil _).symm
  | cons track rest ih =>
      unfold deliverCopies
      rw [Logged.value_bind]
      refine (ih _).trans ?_
      rw [notes, List.append_assoc]
      rfl

theorem reached_fanOut
    (notes : ∀ action state, (deliver action state).value.2.2.engine.reached =
      state.2.engine.reached ++ [action.track])
    (action : Action) (tracks : List TrackId) (state : η × Rig (Watched ε)) :
    (fanOut deliver action tracks state).value.2.2.engine.reached =
      state.2.engine.reached ++ tracks.map some := by
  cases tracks with
  | nil => exact (List.append_nil _).symm
  | cons first rest =>
      unfold fanOut
      dsimp only
      rw [Logged.value_bind]
      refine (reached_deliverCopies notes action rest _).trans ?_
      rw [notes, List.append_assoc]
      rfl

end FanOut

theorem reached_deliverToEngine (host : ScriptHost η ε) (action : Action)
    (state : η × Rig (Watched ε)) :
    (deliverToEngine host.watched action state).value.2.2.engine.reached =
      state.2.engine.reached ++ [action.track] := by
  unfold deliverToEngine
  split <;> rfl

omit [Engine ε] in
theorem reached_deliverToScripts (host : ScriptHost η ε) (action : Action)
    (state : η × Rig (Watched ε)) :
    (deliverToScripts host.watched action state).value.2.2.engine.reached =
      state.2.engine.reached ++ [action.track] := rfl

/-! ## Designated tracks -/

end Dispatch

namespace Action

/-- The tracks that an action is for, by what an engine answers at the time. -/
def Designates [Engine ε] (action : Action) (engine : ε) (track : TrackId) : Prop :=
  action.level = .core ∧ track < trackLimit ∧
    match action.scope with
    | .track wanted => track = wanted ∧ track < Engine.trackCount engine
    | .group name => track < Engine.trackCount engine ∧
        ∃ group, Engine.groupOrdinal engine name = some group ∧
          Engine.trackGroup engine track = some group
    | .active => track = Engine.activeTrack engine ∨
        action.target.isFocusLockable = true ∧ track < Engine.trackCount engine ∧
          Engine.isFocusLocked engine track = true

end Action

theorem TrackSet.contains_single (wanted track : TrackId) :
    (single wanted).contains track = true ↔ track < trackLimit ∧ track = wanted := by
  simp only [single, contains_insert, contains_empty, Bool.false_or, Bool.and_eq_true,
    decide_eq_true_eq, trackLimit]
  grind

theorem TrackSet.contains_insertAll (set : TrackSet) (tracks : List TrackId) (track : TrackId) :
    (set.insertAll tracks).contains track = true ↔
      set.contains track = true ∨ track < trackLimit ∧ track ∈ tracks := by
  induction tracks generalizing set with
  | nil => simp [insertAll]
  | cons first rest ih =>
      change ((set.insert first).insertAll rest).contains track = true ↔ _
      rw [ih, contains_insert, List.mem_cons]
      simp only [Bool.or_eq_true, Bool.and_eq_true, decide_eq_true_eq, trackLimit]
      grind

namespace Dispatch

variable [Engine ε]

theorem contains_insertWhere (set : TrackSet) (count : Nat) (wanted : TrackId → Bool)
    (track : TrackId) :
    (insertWhere set count wanted).contains track = true ↔
      set.contains track = true ∨ track < trackLimit ∧ track < count ∧ wanted track = true := by
  unfold insertWhere
  rw [TrackSet.contains_insertAll, List.mem_filter, List.mem_range]

/-- The destinations of an action for the core are the tracks that it designates. -/
theorem mem_destinations (action : Action) (engine : ε) (track : TrackId)
    (core : action.level = .core) :
    track ∈ (destinations action engine).value.toList ↔ action.Designates engine track := by
  unfold destinations Action.Designates
  rw [TrackSet.mem_toList]
  cases action.scope with
  | track wanted =>
      dsimp only
      split
      · next inside =>
          rw [Logged.value_pure, TrackSet.contains_single]
          constructor
          · rintro ⟨low, rfl⟩
            exact ⟨core, low, rfl, (Nat.lt_min.1 inside).1⟩
          · rintro ⟨-, low, isWanted, -⟩
            exact ⟨low, isWanted⟩
      · next outside =>
          rw [Logged.value_bind, Logged.value_pure, TrackSet.contains_empty]
          constructor
          · intro impossible
            cases impossible
          · rintro ⟨-, low, rfl, below⟩
            exact absurd (Nat.lt_min.2 ⟨below, low⟩) outside
  | group name =>
      dsimp only
      cases Engine.groupOrdinal engine name with
      | some group =>
          dsimp only
          rw [Logged.value_pure, contains_insertWhere, TrackSet.contains_empty, beq_iff_eq,
            Nat.lt_min]
          constructor
          · rintro (impossible | ⟨low, ⟨below, -⟩, belongs⟩)
            · cases impossible
            · exact ⟨core, low, below, group, rfl, belongs⟩
          · rintro ⟨-, low, below, other, isGroup, belongs⟩
            cases isGroup
            exact .inr ⟨low, ⟨below, low⟩, belongs⟩
      | none =>
          dsimp only
          rw [Logged.value_bind, Logged.value_pure, TrackSet.contains_empty]
          constructor
          · intro impossible
            cases impossible
          · rintro ⟨-, -, -, other, isGroup, -⟩
            cases isGroup
  | active =>
      dsimp only
      split
      · next lockable =>
          rw [Logged.value_pure, contains_insertWhere, TrackSet.contains_single, Nat.lt_min]
          constructor
          · rintro (⟨low, isActive⟩ | ⟨low, ⟨below, -⟩, locked⟩)
            · exact ⟨core, low, .inl isActive⟩
            · exact ⟨core, low, .inr ⟨lockable, below, locked⟩⟩
          · rintro ⟨-, low, isActive | ⟨-, below, locked⟩⟩
            · exact .inl ⟨low, isActive⟩
            · exact .inr ⟨low, ⟨below, low⟩, locked⟩
      · next unlockable =>
          rw [Logged.value_pure, TrackSet.contains_single]
          constructor
          · rintro ⟨low, isActive⟩
            exact ⟨core, low, .inl isActive⟩
          · rintro ⟨-, low, isActive | ⟨lockable, -⟩⟩
            · exact ⟨low, isActive⟩
            · exact absurd lockable unlockable

omit [Engine ε] in
theorem engine_sendUp (action : Action) (state : η × Rig ε) :
    (sendUp action state).value.2.engine = state.2.engine := by
  unfold sendUp
  split <;> rfl

/--
Performing an action for a function or a script delivers it to its destinations,
to each of them once and in ascending order; one for the user interface goes there.
-/
theorem reached_eq (host : ScriptHost η ε) (action : Action) (state : η × Rig ε)
    (held : action.target.isSustainable = true) :
    reached host action state =
      if action.level = .ui then []
      else (destinations action state.2.engine).value.toList.map some := by
  let watching : η × Rig (Watched ε) := (state.1, state.2.look fun engine => { engine })
  have sees : destinations action watching.2.engine = destinations action state.2.engine :=
    (destinations_look Watched.mirrors_engine action _).symm
  by_cases above : action.level = .ui
  · rw [if_pos above]
    have resolved : action.target.isResolved = true := by
      cases kind : action.target with
      | unresolved => rw [kind] at held; cases held
      | _ => rfl
    unfold reached perform
    simp only [resolved, above, Bool.not_true, Bool.false_eq_true, if_true, if_false,
      Logged.value_bind, Logged.value_pure]
    rw [engine_sendUp]
    rfl
  · rw [if_neg above, ← sees]
    cases kind : action.target with
    | function traits =>
        have fans := reached_fanOut (reached_deliverToEngine host) action
          (destinations action watching.2.engine).value.toList watching
        rw [← value_performOnTracks] at fans
        unfold reached perform
        simp only [kind, above, Target.isResolved, Bool.not_true, Bool.false_eq_true, if_false]
        exact fans
    | script id traits =>
        have fans := reached_fanOut (reached_deliverToScripts host) action
          (destinations action watching.2.engine).value.toList watching
        unfold reached perform
        simp only [kind, above, Target.isResolved, Bool.not_true, Bool.false_eq_true, if_false,
          Logged.value_bind]
        exact fans
    | _ => rw [kind] at held; cases held

/-- An action that can be held goes where it is meant to go at the time. -/
theorem mem_reached (host : ScriptHost η ε) (action : Action) (state : η × Rig ε)
    (held : action.target.isSustainable = true) (track : TrackId) :
    some track ∈ reached host action state ↔ action.Designates state.2.engine track := by
  rw [reached_eq host action state held]
  by_cases above : action.level = .ui
  · rw [if_pos above]
    constructor
    · intro impossible
      cases impossible
    · rintro ⟨core, -⟩
      rw [above] at core
      cases core
  · have core : action.level = .core := by
      cases level : action.level with
      | core => rfl
      | ui => exact absurd level above
    rw [if_neg above, List.mem_map]
    simp only [Option.some.injEq, exists_eq_right]
    exact mem_destinations action state.2.engine track core

end Dispatch

end Looper
