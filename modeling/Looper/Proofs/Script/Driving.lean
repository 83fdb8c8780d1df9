import Looper.Proofs.Script.Upkeep

/-!
# How scripts drive the engine

While scripts run, the engine gets three calls: an action is applied to it, one of
its parameters is set, or it schedules a wait.  That an instance is gone is
reported only when the instance is seen off.
-/

namespace Looper

section

variable {ε : Type} [Engine ε]

/-- What an engine can become while scripts run. -/
inductive Driven (engine : ε) : ε → Prop where
  | refl : Driven engine engine
  | invoke {later : ε} (driven : Driven engine later) (track : Option TrackId) (action : Action) :
      Driven engine (Engine.invoke later track action).2
  | set {later : ε} (driven : Driven engine later) (track : Option TrackId) (name : String)
      (value : Int) : Driven engine (Engine.setParameter later track name value)
  | schedule {later : ε} (driven : Driven engine later) (track : TrackId) (msec : Nat) :
      Driven engine (Engine.scheduleWait later track msec).2

theorem Driven.trans {first second third : ε} (earlier : Driven first second)
    (later : Driven second third) : Driven first third := by
  induction later with
  | refl => exact earlier
  | invoke _ track action ih => exact ih.invoke track action
  | set _ track name value ih => exact ih.set track name value
  | schedule _ track msec ih => exact ih.schedule track msec

theorem ScriptInstance.driven_restoreUses (self : ScriptInstance) (engine : ε) :
    Driven engine (self.restoreUses engine).2 := by
  unfold restoreUses
  dsimp only
  generalize self.uses = uses
  induction uses generalizing engine with
  | nil => exact .refl
  | cons saved rest ih =>
      exact (Driven.refl.set saved.track saved.name saved.value).trans (ih _)

theorem Dispatch.respects_driven (action : Action) :
    Dispatch.Respects (ε := ε) .queue action
      fun before after => Driven before.2.engine after.2.engine where
  refl _ := .refl
  trans earlier later := earlier.trans later
  run _ _ := .refl
  cancel _ _ := .refl
  invoke _ track sent := Driven.refl.invoke track sent
  request _ _ _ _ := .refl
  interface _ _ _ := .refl

end

/-! ## Runs -/

namespace Run

variable {ε : Type} [Engine ε]

def Drives (run later : Run ε) : Prop :=
  Driven run.rig.engine later.rig.engine

/-- Whatever a statement does to the engine, it does by driving it. -/
theorem Effect.drives {run : Run ε} {index : Nat} {statement : Statement} {flow : Flow}
    {later : Run ε} (effect : run.Effect index statement flow later) : run.Drives later := by
  have schedules {msec : Nat} {event : Option EventId} {engine : ε}
      (scheduled : Engine.scheduleWait run.rig.engine run.trackOrActive msec = (event, engine)) :
      Driven run.rig.engine engine := by
    have driven : Driven run.rig.engine
        (Engine.scheduleWait run.rig.engine run.trackOrActive msec).2 :=
      Driven.refl.schedule run.trackOrActive msec
    rwa [scheduled] at driven
  cases effect with
  | used isNumber saves => exact Driven.refl.set _ _ _
  | unscheduled read refuses => exact schedules refuses
  | scheduled read schedule => exact schedules schedule
  | @invoked invocation action requests rig resolved performed =>
      have performs := (Dispatch.respects_driven
        (run.actionOf invocation (run.expand invocation.args).value)).perform
        (run.shared.requests, run.rig)
      rw [performed] at performs
      exact performs
  | _ => exact .refl

theorem respects_drives : Respects (ε := ε) Drives where
  refl _ := .refl
  trans earlier later := Driven.trans earlier later
  wake {run woken} wakes := by
    obtain ⟨_, _, -, -, rfl⟩ := wake?_eq_some.1 wakes
    exact .refl
  endLevel _ := .refl
  finish _ _ _ := .refl
  evaluate run index statement _ := by
    have drives := (run.effect_evaluate index statement).drives
    generalize (run.evaluate index statement).value = evaluated at drives ⊢
    obtain ⟨flow, later⟩ := evaluated
    cases flow <;> exact drives

theorem drives_go (fresh : Bool) (run : Run ε) : run.Drives (run.go fresh).value :=
  respects_drives.go (fun _ => .refl) fresh run

end Run

/-! ## The roster -/

namespace Roster

variable {ε : Type} [Engine ε]

theorem drives_tick (config : ScriptConfig) (msec : Nat) (run : Run ε) :
    run.Drives (tick config msec run).value := by
  have notified (run : Run ε) (isNotified : Bool) (self : ScriptInstance) :
      run.Drives (if isNotified then (run.withSelf self).go false
        else pure (run.withSelf self)).value := by
    cases isNotified with
    | true => exact (run.withSelf self).drives_go false
    | false => exact .refl
  have isHeld := notified (run.go true).value
    ((run.go true).value.self.advanceSustain msec config.longPressMsec).1
    ((run.go true).value.self.advanceSustain msec config.longPressMsec).2
  unfold tick
  simp only [Logged.value_bind]
  refine Driven.trans (Driven.trans (run.drives_go true) isHeld) ?_
  split <;> exact notified _ _ _

theorem driven_tickAll (config : ScriptConfig) (msec : Nat) (active : List ScriptInstance)
    (shared : ScriptShared) (rig : Rig ε) :
    Driven rig.engine (tickAll config msec active shared rig).value.2.2.engine := by
  induction active generalizing shared rig with
  | nil => exact .refl
  | cons self rest ih => exact Driven.trans (drives_tick config msec ⟨self, shared, rig⟩) (ih _ _)

theorem driven_cancelIn (author : Option InstanceId) (track : Option TrackId)
    (active : List ScriptInstance) (engine : ε) :
    Driven engine (cancelIn author track active engine).value.2 := by
  induction active generalizing engine with
  | nil => exact .refl
  | cons self rest ih =>
      refine Driven.trans ?_ (ih (cancelOne author track self engine).value.2)
      unfold cancelOne
      split
      · exact ScriptInstance.driven_restoreUses _ engine
      · exact .refl

end Roster

end Looper
