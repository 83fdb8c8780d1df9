import Looper.Proofs.Script.Evolution

/-!
# What the engine hears of a run

An engine that is overheard keeps the invocations it receives.  While a script has
an action performed, every reset that its engine hears of has been asked for of the
other scripts: the cancellation is queued before the function is invoked.
-/

namespace Looper

/-! ## An engine that is overheard -/

/-- An engine, and the invocations that it has received, the latest first. -/
structure Overheard (ε : Type) where
  engine : ε
  heard : List (Option TrackId × Action) := []

instance {ε : Type} [Engine ε] : Engine (Overheard ε) where
  trackCount state := Engine.trackCount state.engine
  activeTrack state := Engine.activeTrack state.engine
  trackGroup state := Engine.trackGroup state.engine
  isFocusLocked state := Engine.isFocusLocked state.engine
  groupOrdinal state := Engine.groupOrdinal state.engine
  invoke state track action :=
    let (event, engine) := Engine.invoke state.engine track action
    (event, { engine, heard := (track, action) :: state.heard })
  parameter state := Engine.parameter state.engine
  setParameter state track name value :=
    { state with engine := Engine.setParameter state.engine track name value }
  scheduleWait state track msec :=
    let (event, engine) := Engine.scheduleWait state.engine track msec
    (event, { state with engine })
  scriptFinished state id := { state with engine := Engine.scriptFinished state.engine id }

/-- The track on which scripts are stopped, for a function that was applied to a track. -/
def ResetScope.concerned (track : Option TrackId) : ResetScope → Option TrackId
  | .track => track
  | .everything => none

/--
What lies between two states while an author has the engine act: the engine hears
only of the author, and every reset it hears of has been asked for.
-/
def Announces {ε : Type} (author : Option InstanceId)
    (before after : List ScriptRequest × Rig (Overheard ε)) : Prop :=
  ∃ asked fresh, after.1 = before.1 ++ asked ∧
    after.2.engine.heard = fresh ++ before.2.engine.heard ∧
    ∀ heard ∈ fresh, heard.2.author = author ∧
      ∀ scope, heard.2.target.resetScope = some scope →
        .cancel author (scope.concerned heard.1) ∈ asked

namespace Announces

variable {ε : Type} {author : Option InstanceId}

theorem quiet {before after : List ScriptRequest × Rig (Overheard ε)} {asked : List ScriptRequest}
    (asks : after.1 = before.1 ++ asked) (heard : after.2.engine.heard = before.2.engine.heard) :
    Announces author before after :=
  ⟨asked, [], asks, heard, fun _ member => absurd member List.not_mem_nil⟩

theorem refl (state : List ScriptRequest × Rig (Overheard ε)) : Announces author state state :=
  .quiet (List.append_nil _).symm rfl

theorem trans {first second third : List ScriptRequest × Rig (Overheard ε)}
    (earlier : Announces author first second) (later : Announces author second third) :
    Announces author first third := by
  obtain ⟨asked, fresh, asks, hears, announced⟩ := earlier
  obtain ⟨askedLater, freshLater, asksLater, hearsLater, announcedLater⟩ := later
  refine ⟨asked ++ askedLater, freshLater ++ fresh, ?_, ?_, fun heard member => ?_⟩
  · rw [asksLater, asks, List.append_assoc]
  · rw [hearsLater, hears, List.append_assoc]
  · rcases List.mem_append.1 member with isLater | isEarlier
    · obtain ⟨own, resets⟩ := announcedLater heard isLater
      exact ⟨own, fun scope isScope => List.mem_append_right _ (resets scope isScope)⟩
    · obtain ⟨own, resets⟩ := announced heard isEarlier
      exact ⟨own, fun scope isScope => List.mem_append_left _ (resets scope isScope)⟩

variable [Engine ε]

theorem invoke {action : Action} {state : List ScriptRequest × Rig (Overheard ε)}
    (asked : List ScriptRequest)
    (resets : ∀ scope, action.target.resetScope = some scope →
      .cancel action.author (scope.concerned action.track) ∈ asked) :
    Announces action.author state (Dispatch.invoke action (state.1 ++ asked, state.2)).2 := by
  refine ⟨asked, [(action.track, action)], rfl, rfl, fun heard member => ?_⟩
  rw [List.mem_singleton.1 member]
  exact ⟨rfl, resets⟩

theorem invoke_plain (action : Action) (plain : action.target.resetScope = none)
    (state : List ScriptRequest × Rig (Overheard ε)) :
    Announces action.author state (Dispatch.invoke action state).2 := by
  have heard : Announces action.author state (Dispatch.invoke action (state.1 ++ [], state.2)).2 :=
    invoke [] fun scope isScope => by
      rw [plain] at isScope
      cases isScope
  rwa [List.append_nil] at heard

theorem deliverToEngine (action : Action) (state : List ScriptRequest × Rig (Overheard ε)) :
    Announces action.author state
      (Dispatch.deliverToEngine .queue action state).value.2 := by
  unfold Dispatch.deliverToEngine
  split
  · next isTrack =>
      refine invoke [.cancel action.author action.track] fun scope isScope => ?_
      rw [isTrack] at isScope
      rw [← Option.some.inj isScope]
      exact List.mem_singleton_self _
  · next isEverything =>
      refine invoke [.cancel action.author none] fun scope isScope => ?_
      rw [isEverything] at isScope
      rw [← Option.some.inj isScope]
      exact List.mem_singleton_self _
  · next plain => exact invoke_plain action plain state

/-- While a script has an action performed, resets are asked for before the engine hears of them. -/
theorem perform (action : Action) (state : List ScriptRequest × Rig (Overheard ε)) :
    Announces action.author state (Dispatch.perform .queue action state).value.2 := by
  have onTracks : Announces action.author state
      (Dispatch.performOnTracks .queue action state).value.2 := by
    rw [Dispatch.value_performOnTracks]
    exact Dispatch.related_fanOut .refl .trans
      (fun track state => deliverToEngine { action with track := some track } state) _ state
  unfold Dispatch.perform
  split
  · exact .refl state
  · split
    · have sent : Announces action.author state (Dispatch.sendUp action state).value := by
        unfold Dispatch.sendUp
        split
        · exact .quiet (List.append_nil _).symm rfl
        · exact .refl state
      exact sent
    · split
      · next traits target =>
          split
          · exact invoke_plain { action with track := none }
              (by rw [target]; rfl) state
          · exact onTracks
      · exact onTracks
      · exact onTracks
      · exact Dispatch.related_fanOut .refl .trans
          (fun track state => .quiet rfl rfl) _ state
      · exact .quiet (List.append_nil _).symm rfl
      · next kind _ target =>
          refine ⟨[], [(none, action)], (List.append_nil _).symm, rfl, fun heard member => ?_⟩
          rw [List.mem_singleton.1 member]
          refine ⟨rfl, fun scope isScope => ?_⟩
          rw [target] at isScope
          cases isScope
      · exact .refl state

end Announces

/-! ## What the engine hears of a run -/

namespace Run

variable {ε : Type}

/-- What one state of a run has asked for and the engine has heard by a later one. -/
def Announces (run later : Run (Overheard ε)) : Prop :=
  Looper.Announces (some run.self.id) (run.shared.requests, run.rig)
    (later.shared.requests, later.rig)

theorem announces_of_quiet {run later : Run (Overheard ε)}
    (asks : later.shared.requests = run.shared.requests)
    (hears : later.rig.engine.heard = run.rig.engine.heard) : run.Announces later :=
  .quiet (asks.trans (List.append_nil _).symm) hears

variable [Engine ε]

omit [Engine ε] in
theorem author_actionOf (run : Run (Overheard ε)) (invocation : Invocation) (args : String) :
    (run.actionOf invocation args).author = some run.self.id :=
  (run.isFrom_actionOf invocation args).1

/-- Every reset that the engine hears of while a statement is evaluated has been asked for. -/
theorem Effect.announces {run : Run (Overheard ε)} {index : Nat} {statement : Statement}
    {flow : Flow} {later : Run (Overheard ε)} (effect : run.Effect index statement flow later) :
    run.Announces later := by
  cases effect with
  | unscheduled read refuses =>
      exact announces_of_quiet rfl (congrArg (fun scheduled => scheduled.2.heard) refuses).symm
  | scheduled read schedules =>
      exact announces_of_quiet rfl (congrArg (fun scheduled => scheduled.2.heard) schedules).symm
  | @invoked invocation action requests rig resolved performed =>
      have performs := Announces.perform
        (run.actionOf invocation (run.expand invocation.args).value)
        (run.shared.requests, run.rig)
      rw [author_actionOf, performed] at performs
      exact performs
  | _ => exact announces_of_quiet rfl rfl

theorem Step.announces {run later : Run (Overheard ε)} {statement : Option Statement}
    (step : run.Step statement later) : run.Announces later := by
  cases step with
  | wake wakes =>
      obtain ⟨_, _, -, -, rfl⟩ := wake?_eq_some.1 wakes
      exact announces_of_quiet rfl rfl
  | endLevel past opened => exact announces_of_quiet rfl rfl
  | finish past closed => exact announces_of_quiet rfl rfl
  | @evaluate index statement ready stands =>
      have announces := (run.effect_evaluate index statement).announces
      generalize (run.evaluate index statement).value = evaluated at announces ⊢
      obtain ⟨flow, later⟩ := evaluated
      cases flow <;> exact announces

end Run

end Looper
