import Looper.Dispatch.Basic

/-!
# Dispatching seen through a view

A view forgets a part of the engine, or of the state of whoever takes script
actions.  If what is forgotten has no bearing on the answers of either, then it
has none on dispatching: looking first and performing an action then is the same
as performing it and looking afterwards, and the same is logged.
-/

namespace Looper

theorem Logged.map_bind_eq {α β α' β' : Type} {look : α → α'} {lookAfter : β → β'}
    {first : Logged α} {next : α → Logged β} {next' : α' → Logged β'}
    (each : ∀ a, lookAfter <$> next a = next' (look a)) :
    lookAfter <$> (first >>= next) = (look <$> first) >>= next' := by
  rw [map_bind, bind_map_left]
  exact congrArg (first >>= ·) (funext each)

variable {ε ε' η η' : Type}

/-- A view of an engine under which it answers the same and takes the same calls. -/
structure Engine.Mirrors [Engine ε] [Engine ε'] (look : ε → ε') : Prop where
  trackCount : ∀ engine, Engine.trackCount (look engine) = Engine.trackCount engine
  activeTrack : ∀ engine, Engine.activeTrack (look engine) = Engine.activeTrack engine
  trackGroup : ∀ engine, Engine.trackGroup (look engine) = Engine.trackGroup engine
  isFocusLocked : ∀ engine, Engine.isFocusLocked (look engine) = Engine.isFocusLocked engine
  groupOrdinal : ∀ engine, Engine.groupOrdinal (look engine) = Engine.groupOrdinal engine
  invoke : ∀ engine track action, Engine.invoke (look engine) track action =
    ((Engine.invoke engine track action).1, look (Engine.invoke engine track action).2)

def Rig.look (look : ε → ε') (rig : Rig ε) : Rig ε' where
  engine := look rig.engine
  kernel := rig.kernel
  interface := rig.interface

namespace Dispatch

def look (lookHost : η → η') (lookEngine : ε → ε') (state : η × Rig ε) : η' × Rig ε' :=
  (lookHost state.1, state.2.look lookEngine)

def lookSent (lookHost : η → η') (lookEngine : ε → ε') (outcome : Action × η × Rig ε) :
    Action × η' × Rig ε' :=
  (outcome.1, look lookHost lookEngine outcome.2)

/-- Views of a host and an engine under which both answer and act the same. -/
structure Mirrors [Engine ε] [Engine ε'] (host : ScriptHost η ε) (host' : ScriptHost η' ε')
    (lookHost : η → η') (lookEngine : ε → ε') : Prop where
  engine : Engine.Mirrors lookEngine
  run : ∀ action state,
    look lookHost lookEngine <$> host.run action state =
      host'.run action (look lookHost lookEngine state)
  cancel : ∀ author track state,
    look lookHost lookEngine <$> host.cancel author track state =
      host'.cancel author track (look lookHost lookEngine state)

theorem destinations_look [Engine ε] [Engine ε'] {lookEngine : ε → ε'}
    (mirrors : Engine.Mirrors lookEngine) (action : Action) (engine : ε) :
    destinations action (lookEngine engine) = destinations action engine := by
  unfold destinations
  rw [mirrors.trackCount, mirrors.activeTrack, mirrors.trackGroup, mirrors.isFocusLocked,
    mirrors.groupOrdinal]

section FanOut

variable {lookHost : η → η'} {lookEngine : ε → ε'}
  {deliver : Action → η × Rig ε → Logged (Action × η × Rig ε)}
  {deliver' : Action → η' × Rig ε' → Logged (Action × η' × Rig ε')}

theorem look_deliverCopies
    (each : ∀ action state, lookSent lookHost lookEngine <$> deliver action state =
      deliver' action (look lookHost lookEngine state))
    (action : Action) (tracks : List TrackId) (state : η × Rig ε) :
    look lookHost lookEngine <$> deliverCopies deliver action tracks state =
      deliverCopies deliver' action tracks (look lookHost lookEngine state) := by
  induction tracks generalizing state with
  | nil => rfl
  | cons track rest ih =>
      unfold deliverCopies
      rw [← each]
      exact Logged.map_bind_eq fun outcome => ih outcome.2

theorem look_fanOut
    (each : ∀ action state, lookSent lookHost lookEngine <$> deliver action state =
      deliver' action (look lookHost lookEngine state))
    (action : Action) (tracks : List TrackId) (state : η × Rig ε) :
    lookSent lookHost lookEngine <$> fanOut deliver action tracks state =
      fanOut deliver' action tracks (look lookHost lookEngine state) := by
  cases tracks with
  | nil => rfl
  | cons first rest =>
      unfold fanOut
      dsimp only
      rw [← each]
      refine Logged.map_bind_eq fun outcome => ?_
      change _ = deliverCopies deliver' action rest (look lookHost lookEngine outcome.2) >>= _
      rw [← look_deliverCopies each]
      exact Logged.map_bind_eq fun _ => rfl

end FanOut

variable [Engine ε] [Engine ε'] {host : ScriptHost η ε} {host' : ScriptHost η' ε'}
  {lookHost : η → η'} {lookEngine : ε → ε'}

theorem look_invoke (mirrors : Engine.Mirrors lookEngine) (action : Action)
    (state : η × Rig ε) :
    lookSent lookHost lookEngine (invoke action state) =
      invoke action (look lookHost lookEngine state) := by
  unfold invoke look Rig.look
  dsimp only
  rw [mirrors.invoke]
  rfl

theorem look_deliverToEngine (mirrors : Mirrors host host' lookHost lookEngine)
    (action : Action) (state : η × Rig ε) :
    lookSent lookHost lookEngine <$> deliverToEngine host action state =
      deliverToEngine host' action (look lookHost lookEngine state) := by
  have invokes (state : η × Rig ε) :
      lookSent lookHost lookEngine <$> (pure (invoke action state) : Logged _) =
        pure (invoke action (look lookHost lookEngine state)) := by
    rw [map_pure, look_invoke mirrors.engine]
  unfold deliverToEngine
  cases action.target.resetScope with
  | none => exact invokes state
  | some scope =>
      cases scope with
      | track =>
          dsimp only
          rw [← mirrors.cancel]
          exact Logged.map_bind_eq invokes
      | everything =>
          dsimp only
          rw [← mirrors.cancel]
          exact Logged.map_bind_eq invokes

theorem look_deliverToScripts (mirrors : Mirrors host host' lookHost lookEngine)
    (action : Action) (state : η × Rig ε) :
    lookSent lookHost lookEngine <$> deliverToScripts host action state =
      deliverToScripts host' action (look lookHost lookEngine state) := by
  unfold deliverToScripts
  rw [← mirrors.run]
  exact Logged.map_bind_eq fun _ => rfl

omit [Engine ε] [Engine ε'] in
theorem look_sendUp (action : Action) (state : η × Rig ε) :
    look lookHost lookEngine <$> sendUp action state =
      sendUp action (look lookHost lookEngine state) := by
  unfold sendUp look Rig.look
  dsimp only
  cases state.2.interface.post action <;> rfl

omit [Engine ε] [Engine ε'] in
theorem look_requestActivation (action : Action) (state : η × Rig ε) :
    lookSent lookHost lookEngine <$> requestActivation action state =
      requestActivation action (look lookHost lookEngine state) := by
  unfold requestActivation
  rw [map_bind]
  rfl

theorem look_performOnTracks (mirrors : Mirrors host host' lookHost lookEngine)
    (action : Action) (state : η × Rig ε) :
    lookSent lookHost lookEngine <$> performOnTracks host action state =
      performOnTracks host' action (look lookHost lookEngine state) := by
  have fans (tracks : TrackSet) :=
    look_fanOut (look_deliverToEngine mirrors) action tracks.toList state
  unfold performOnTracks
  change _ = destinations action (lookEngine state.2.engine) >>= _
  rw [destinations_look mirrors.engine, map_bind]
  refine congrArg (destinations action state.2.engine >>= ·) (funext fun tracks => ?_)
  cases tracks.isEmpty with
  | false => exact fans tracks
  | true =>
      rw [← fans tracks]
      exact map_bind _ _ _

/-- Performing an action on what is seen is seeing what performing it does. -/
theorem look_perform (mirrors : Mirrors host host' lookHost lookEngine) (action : Action)
    (state : η × Rig ε) :
    lookSent lookHost lookEngine <$> perform host action state =
      perform host' action (look lookHost lookEngine state) := by
  have onTracks := look_performOnTracks mirrors action state
  unfold perform
  cases action.target.isResolved with
  | false => exact map_bind _ _ _
  | true =>
      by_cases atTop : action.level = .ui
      · simp only [atTop, Bool.not_true, Bool.false_eq_true, if_true, if_false]
        rw [← look_sendUp]
        exact Logged.map_bind_eq fun _ => rfl
      · simp only [atTop, Bool.not_true, Bool.false_eq_true, if_false]
        cases target : action.target with
        | parameter traits =>
            dsimp only
            split
            · rw [map_pure, look_invoke mirrors.engine]
            · exact onTracks
        | function traits => exact onTracks
        | sample => exact onTracks
        | script id traits =>
            change _ = destinations action (lookEngine state.2.engine) >>= _
            rw [destinations_look mirrors.engine]
            dsimp only
            rw [map_bind]
            refine congrArg (destinations action state.2.engine >>= ·) (funext fun tracks => ?_)
            exact look_fanOut (look_deliverToScripts mirrors) action _ state
        | activation kind =>
            have invoked := mirrors.engine.invoke state.2.engine none action
            cases kind with
            | bindings => exact look_requestActivation action state
            | preset =>
                dsimp only [look, Rig.look]
                rw [invoked]
                rfl
            | setup =>
                dsimp only [look, Rig.look]
                rw [invoked]
                rfl
        | unresolved => rfl

end Dispatch

end Looper
