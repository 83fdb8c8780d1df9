import Looper.Dispatch.Basic

/-!
# What dispatching can do

Dispatching an action reaches scripts through the host, the engine through
`Engine.invoke`, the control side through kernel requests, and the user
interface through its box.  A relation that respects each of these respects the
whole dispatch.  On the action itself only the traces of delivery change.
-/

namespace Looper

def Action.undelivered (action : Action) : Action :=
  { action with track := none, event := none, kernelEvent := none }

namespace Dispatch

variable {ε η σ : Type}

/-! ## The action -/

theorem undelivered_fanOut {deliver : Action → σ → Logged (Action × σ)}
    (each : ∀ action state,
      (deliver action state).value.1.undelivered = action.undelivered)
    (action : Action) (tracks : List TrackId) (state : σ) :
    (fanOut deliver action tracks state).value.1.undelivered = action.undelivered := by
  cases tracks with
  | nil => rfl
  | cons first rest => exact each { action with track := some first } state

variable [Engine ε]

theorem value_performOnTracks (host : ScriptHost η ε) (action : Action)
    (state : η × Rig ε) :
    (performOnTracks host action state).value =
      (fanOut (deliverToEngine host) action
        (destinations action state.2.engine).value.toList state).value := by
  unfold performOnTracks
  simp only [Logged.value_bind]
  split <;> rfl

theorem undelivered_deliverToEngine (host : ScriptHost η ε) (action : Action)
    (state : η × Rig ε) :
    (deliverToEngine host action state).value.1.undelivered = action.undelivered := by
  unfold deliverToEngine
  split <;> rfl

theorem undelivered_perform (host : ScriptHost η ε) (action : Action) (state : η × Rig ε) :
    (perform host action state).value.1.undelivered = action.undelivered := by
  have onTracks : (performOnTracks host action state).value.1.undelivered =
      action.undelivered := by
    rw [value_performOnTracks]
    exact undelivered_fanOut (undelivered_deliverToEngine host) action _ _
  unfold perform
  split
  · rfl
  · split
    · rfl
    · split
      · split
        · rfl
        · exact onTracks
      · exact onTracks
      · exact onTracks
      · exact undelivered_fanOut (fun _ _ => rfl) action _ _
      · rfl
      · rfl
      · rfl

/-! ## The state -/

omit [Engine ε] in
/-- Delivering to several tracks does what each of the deliveries does. -/
theorem related_fanOut {related : σ → σ → Prop} (refl : ∀ state, related state state)
    (trans : ∀ {first second third}, related first second → related second third →
      related first third)
    {deliver : Action → σ → Logged (Action × σ)} {action : Action}
    (each : ∀ track state,
      related state (deliver { action with track := some track } state).value.2)
    (tracks : List TrackId) (state : σ) :
    related state (fanOut deliver action tracks state).value.2 := by
  have copies (tracks : List TrackId) (state : σ) :
      related state (deliverCopies deliver action tracks state).value := by
    induction tracks generalizing state with
    | nil => exact refl state
    | cons track rest ih => exact trans (each track state) (ih _)
  cases tracks with
  | nil => exact refl state
  | cons first rest => exact trans (each first state) (copies rest _)

/-- A relation that everything respects which dispatching an action may do to the state. -/
structure Respects (host : ScriptHost η ε) (action : Action)
    (related : η × Rig ε → η × Rig ε → Prop) : Prop where
  refl : ∀ state, related state state
  trans : ∀ {first second third}, related first second → related second third →
    related first third
  run : ∀ track state,
    related state (host.run { action with track := some track } state).value
  cancel : ∀ track state, related state (host.cancel action.author track state).value
  invoke : ∀ (state : η × Rig ε) track sent,
    related state
      (state.1, { state.2 with engine := (Engine.invoke state.2.engine track sent).2 })
  request : ∀ (state : η × Rig ε) kind args requestId,
    related state
      (state.1,
        { state.2 with kernel := (state.2.kernel.request kind args requestId).value.2 })
  interface : ∀ (state : η × Rig ε) {box}, state.2.interface.post action = .ok box →
    related state (state.1, { state.2 with interface := box })

section Related

variable {host : ScriptHost η ε} {action : Action}
  {related : η × Rig ε → η × Rig ε → Prop}

theorem Respects.fanOut (respects : Respects host action related)
    {deliver : Action → η × Rig ε → Logged (Action × η × Rig ε)}
    (each : ∀ track state,
      related state (deliver { action with track := some track } state).value.2)
    (tracks : List TrackId) (state : η × Rig ε) :
    related state (fanOut deliver action tracks state).value.2 :=
  related_fanOut respects.refl respects.trans each tracks state

/-- A delivery to the engine first stops the scripts that the action resets. -/
theorem Respects.deliverToEngine (respects : Respects host action related)
    (track : TrackId) (state : η × Rig ε) :
    related state
      (deliverToEngine host { action with track := some track } state).value.2 := by
  unfold Dispatch.deliverToEngine
  split
  · exact respects.trans (respects.cancel _ state) (respects.invoke _ _ _)
  · exact respects.trans (respects.cancel _ state) (respects.invoke _ _ _)
  · exact respects.invoke _ _ _

/-- Performing an action does what its parts do. -/
theorem Respects.perform (respects : Respects host action related) (state : η × Rig ε) :
    related state (perform host action state).value.2 := by
  have onTracks : related state (performOnTracks host action state).value.2 := by
    rw [value_performOnTracks]
    exact respects.fanOut respects.deliverToEngine _ state
  unfold Dispatch.perform
  split
  · exact respects.refl state
  · split
    · have sent : related state (sendUp action state).value := by
        unfold sendUp
        split
        · exact respects.interface state ‹_›
        · exact respects.refl state
      exact sent
    · split
      · split
        · exact respects.invoke state _ _
        · exact onTracks
      · exact onTracks
      · exact onTracks
      · exact respects.fanOut (fun track state => respects.run track state) _ state
      · exact respects.request state _ _ _
      · exact respects.invoke state _ _
      · exact respects.refl state

end Related

end Dispatch

end Looper
