import Looper.Proofs.Script.Labor

/-!
# Operations in their parts

Carrying out a script action, a block, or the end of all scripts does several things at
a time.  Here they are taken apart: an action reaches an instance that is to run, or
nobody; a block tells what is over, gives every instance a turn of three parts, and
then carries out what has been asked; and stopping everything is a cancellation.
-/

namespace Looper

open Roster (Operation)

/-! ## Whom a script action reaches -/

namespace Roster

/-- Launch a script; the new instance is to run. -/
def enlist (roster : Roster) (script : Script) (action : Action) : Roster × Option Nat :=
  ({ roster with
      active := roster.active ++ [roster.launched script action]
      idle := roster.idle.tail
      lastId := roster.lastId + 1 },
    some roster.active.length)

/-- Enter a running instance; it is to run if that notified it. -/
def visit (roster : Roster) (position : Nat) (notified : Bool × ScriptInstance) :
    Roster × Option Nat :=
  ({ roster with active := roster.active.set position notified.2 },
    if notified.1 then some position else none)

/-- Let go the first instance that is held by the action's trigger. -/
def reachHeld (roster : Roster) (script : Script) (action : Action) : Roster × Option Nat :=
  let held := roster.active.findIdx? (isHeldBy script action)
  match held, held.bind (roster.active[·]?) with
  | some position, some self => roster.visit position self.endSustain
  | _, _ => (roster, none)

/-- Click or enter the first instance that runs the script on the track, or launch one. -/
def reachRunning (roster : Roster) (script : Script) (action : Action) : Roster × Option Nat :=
  let running := roster.active.findIdx? (runsOn script action.track)
  match running, running.bind (roster.active[·]?) with
  | some position, some self =>
      if self.clicking && self.triggerId == action.triggerId then
        roster.visit position self.click
      else
        match self.script.labels.reentry with
        | some label => roster.visit position (true, self.notify label)
        | none => roster.enlist script action
  | _, _ => roster.enlist script action

/-- What a script action does to the roster at once, and the position of whom it sets running. -/
def reach (roster : Roster) (action : Action) : Roster × Option Nat :=
  match action.target with
  | .script id traits =>
      match roster.shared.library.get? id with
      | none => (roster, none)
      | some script =>
          if action.sustainEnd then roster.reachHeld script action
          else if traits.continuous then roster.enlist script action
          else roster.reachRunning script action
  | _ => (roster, none)

/-- What a script action can do at once. -/
inductive Reached (roster : Roster) (action : Action) : Roster × Option Nat → Prop where
  | nobody : Reached roster action (roster, none)
  | visited {position : Nat} {self : ScriptInstance} {notified : Bool × ScriptInstance}
      (stands : roster.active[position]? = some self) (unfinished : self.isFinished = false)
      (entered : self.Entered notified.2) : Reached roster action (roster.visit position notified)
  | enlisted {id : ScriptId} {traits : ScriptTraits} {script : Script}
      (target : action.target = .script id traits)
      (found : roster.shared.library.get? id = some script)
      (pressed : action.sustainEnd = false) : Reached roster action (roster.enlist script action)

theorem runsOn_of_findIdx? {active : List ScriptInstance} {test : ScriptInstance → Bool}
    {script : Script} {track : Option TrackId} {position : Nat} {self : ScriptInstance}
    (implies : ∀ self, test self = true → runsOn script track self = true)
    (searched : active.findIdx? test = some position)
    (read : (active.findIdx? test).bind (active[·]?) = some self) :
    active[position]? = some self ∧ self.isFinished = false := by
  have stands := found_of_findIdx? searched read
  obtain ⟨within, isFound, -⟩ := List.findIdx?_eq_some_iff_getElem.1 searched
  have same : active[position] = self :=
    Option.some.inj ((List.getElem?_eq_getElem within).symm.trans stands)
  have runs := implies self (same ▸ isFound)
  simp only [runsOn, Bool.and_eq_true, Bool.not_eq_true'] at runs
  exact ⟨stands, runs.1.1⟩

theorem runsOn_of_isHeldBy {script : Script} {action : Action} {self : ScriptInstance}
    (held : isHeldBy script action self = true) :
    runsOn script action.track self = true := by
  simp only [isHeldBy, Bool.and_eq_true] at held
  exact held.1.1

theorem reached_reach (roster : Roster) (action : Action) :
    Reached roster action (roster.reach action) := by
  unfold reach
  split
  · next id traits target =>
      split
      · exact .nobody
      · next script found =>
          split
          · unfold reachHeld
            dsimp only
            split
            · next position self searched read =>
                obtain ⟨stands, unfinished⟩ := runsOn_of_findIdx?
                  (fun _ held => runsOn_of_isHeldBy held) searched read
                exact .visited stands unfinished .release
            · exact .nobody
          · next unreleased =>
              have launches : Reached roster action (roster.enlist script action) :=
                .enlisted target found (Bool.eq_false_iff.2 unreleased)
              split
              · exact launches
              · unfold reachRunning
                dsimp only
                split
                · next position self searched read =>
                    obtain ⟨stands, unfinished⟩ :=
                      runsOn_of_findIdx? (fun _ runs => runs) searched read
                    split
                    · exact .visited stands unfinished .click
                    · split
                      · next label slot => exact .visited stands unfinished (.reentry slot)
                      · exact launches
                · exact launches
  · exact .nobody

theorem Reached.shared {roster : Roster} {action : Action} {reached : Roster × Option Nat}
    (reaches : Reached roster action reached) : reached.1.shared = roster.shared := by
  cases reaches <;> rfl

theorem Reached.stands {roster : Roster} {action : Action} {reached : Roster × Option Nat}
    (reaches : Reached roster action reached) {position : Nat} (runs : reached.2 = some position) :
    ∃ self, reached.1.active[position]? = some self := by
  cases reaches with
  | nobody => cases runs
  | @visited place self notified stands unfinished entered =>
      obtain ⟨within, -⟩ := List.getElem?_eq_some_iff.1 stands
      unfold visit at runs
      split at runs
      · cases runs
        exact ⟨notified.2, List.getElem?_set_self within⟩
      · cases runs
  | enlisted target found pressed =>
      cases runs
      exact ⟨_, List.getElem?_concat_length⟩

variable {ε : Type} [Engine ε]

def letRun (reached : Roster × Option Nat) (rig : Rig ε) : Roster × Rig ε :=
  match reached.2, reached.2.bind (reached.1.active[·]?) with
  | some position, some self => (reached.1.runAt position self rig).value
  | _, _ => (reached.1, rig)

theorem letRun_enlist (roster : Roster) (script : Script) (action : Action) (rig : Rig ε) :
    letRun (roster.enlist script action) rig = (roster.launch script action rig).value := by
  rw [value_launch]
  unfold letRun enlist
  simp only [Option.bind_some, List.getElem?_append_right (Nat.le_refl _), Nat.sub_self,
    List.getElem?_cons_zero]
  unfold runAt
  simp only [Logged.value_bind, Logged.value_pure, List.set_append_right _ _ (Nat.le_refl _),
    Nat.sub_self, List.set_cons_zero]

theorem letRun_visit (roster : Roster) {position : Nat} {self : ScriptInstance}
    (stands : roster.active[position]? = some self) (notified : Bool × ScriptInstance)
    (rig : Rig ε) :
    letRun (roster.visit position notified) rig =
      (roster.runIfNotified position notified rig).value := by
  obtain ⟨within, -⟩ := List.getElem?_eq_some_iff.1 stands
  obtain ⟨runs, later⟩ := notified
  cases runs with
  | false => rfl
  | true =>
      unfold letRun visit runIfNotified
      simp only [if_true, Option.bind_some, List.getElem?_set_self within]
      unfold runAt
      simp only [Logged.value_bind, Logged.value_pure, List.set_set]

theorem value_release (roster : Roster) (script : Script) (action : Action) (rig : Rig ε) :
    (roster.release script action rig).value = letRun (roster.reachHeld script action) rig := by
  unfold release
  dsimp only
  split
  · next position self searched read =>
      have stands := found_of_findIdx? searched read
      simp only [reachHeld, searched, Option.bind_some, stands]
      exact (letRun_visit roster stands _ rig).symm
  · next absent =>
      unfold reachHeld
      dsimp only
      split
      · next position self searched read => exact absurd read (absent position self searched)
      · rfl

theorem value_press (roster : Roster) (script : Script) (action : Action) (rig : Rig ε) :
    (roster.press script action rig).value = letRun (roster.reachRunning script action) rig := by
  unfold press
  dsimp only
  split
  · next position self searched read =>
      have stands := found_of_findIdx? searched read
      simp only [reachRunning, searched, Option.bind_some, stands]
      split
      · exact (letRun_visit roster stands _ rig).symm
      · cases self.script.labels.reentry with
        | some label => exact (letRun_visit roster stands (true, self.notify label) rig).symm
        | none => exact (letRun_enlist roster script action rig).symm
  · next absent =>
      unfold reachRunning
      dsimp only
      split
      · next position self searched read => exact absurd read (absent position self searched)
      · exact (letRun_enlist roster script action rig).symm

/-- A script action reaches an instance or launches one, which then runs. -/
theorem value_route (roster : Roster) (action : Action) (rig : Rig ε) :
    (roster.route action rig).value = letRun (roster.reach action) rig := by
  cases target : action.target with
  | script id traits =>
      cases found : roster.shared.library.get? id with
      | none => simp only [route, reach, target, found]; rfl
      | some script =>
          simp only [route, reach, target, found]
          split
          · exact roster.value_release script action rig
          · split
            · exact (letRun_enlist roster script action rig).symm
            · exact roster.value_press script action rig
  | _ => simp only [route, reach, target]; rfl

end Roster

/-! ## The turn of an instance -/

/-- A part of the turn that an instance has in a block. -/
inductive TurnPart where
  /-- Waits for the block are over, and the instance runs on. -/
  | waking
  /-- Time passes for a trigger that is held. -/
  | held
  /-- Time passes for the click window. -/
  | clicking
  deriving DecidableEq

/-- Whether an instance is to run in a part of its turn, and what has become of it by then. -/
def TurnPart.pass (part : TurnPart) (config : ScriptConfig) (msec block : Nat)
    (self : ScriptInstance) : Bool × ScriptInstance :=
  match part with
  | waking => (true, self.releaseBlock block)
  | held => self.advanceSustain msec config.longPressMsec
  | clicking => self.advanceClick msec config.doubleClickMsec

theorem TurnPart.id_pass (part : TurnPart) (config : ScriptConfig) (msec block : Nat)
    (self : ScriptInstance) : (part.pass config msec block self).2.id = self.id := by
  cases part with
  | waking => rfl
  | held => exact (self.elapses_advanceSustain msec config.longPressMsec).continues.1.id
  | clicking => exact (self.elapses_advanceClick msec config.doubleClickMsec).continues.1.id

variable {ε : Type} [Engine ε]

def TurnPart.take (part : TurnPart) (config : ScriptConfig) (msec : Nat) (run : Run ε) :
    Logged (Run ε) :=
  let passed := part.pass config msec run.shared.block run.self
  if passed.1 then (run.withSelf passed.2).go false else pure (run.withSelf passed.2)

theorem TurnPart.id_take (part : TurnPart) (config : ScriptConfig) (msec : Nat) (run : Run ε) :
    (part.take config msec run).value.self.id = run.self.id := by
  have passed := part.id_pass config msec run.shared.block run.self
  unfold take
  dsimp only
  split
  · exact (Run.evolves_go false _).id_eq.trans passed
  · exact passed

theorem Roster.tick_eq_take (config : ScriptConfig) (msec : Nat) (run : Run ε) :
    tick config msec run =
      (TurnPart.waking.take config msec run >>= fun run =>
        TurnPart.held.take config msec run >>= TurnPart.clicking.take config msec) := by
  refine congrArg (run.go true >>= ·) (funext fun run => ?_)
  unfold TurnPart.take TurnPart.pass
  dsimp only
  split <;> rfl

/-! ## Blocks -/

namespace Roster

/-- The roster once the completions that have arrived are told. -/
def hearCompletions (roster : Roster) (rig : Rig ε) : Roster × Rig ε :=
  let (completions, completed) := rig.kernel.completed.drain
  let (roster, kernel) :=
    roster.deliverCompletions { rig.kernel with completed } completions
  (roster, { rig with kernel })

omit [Engine ε] in
/-- Telling of completions changes neither the number of instances nor what is shared. -/
theorem deliverCompletions_spec (roster : Roster) (kernel : KernelChannel)
    (events : List KernelEvent) :
    (roster.deliverCompletions kernel events).1.active.length = roster.active.length ∧
      (roster.deliverCompletions kernel events).1.shared = roster.shared := by
  induction events generalizing roster kernel with
  | nil => exact ⟨rfl, rfl⟩
  | cons event rest ih =>
      obtain ⟨active, shared⟩ := ih
        (roster.mapActive fun self => self.finishKernel event.id event.returnCode)
        (kernel.recycle event)
      exact ⟨active.trans (List.length_map _), shared⟩

/-- What is done in a block once completions have been told. -/
def upkeep (roster : Roster) (frames rate : Nat) (rig : Rig ε) : Logged (Roster × Rig ε) := do
  let (active, shared, rig) ←
    tickAll roster.config (blockMsec frames rate) roster.active roster.shared rig
  let (roster, rig) ← { roster with active, shared }.settle rig maxRounds
  let (roster, rig) ← roster.reclaim rig
  return ({ roster with
    shared := { roster.shared with block := roster.shared.block + 1 } }, rig)

def wrapUp (roster : Roster) (rig : Rig ε) : Logged (Roster × Rig ε) := do
  let (roster, rig) ← roster.settle rig maxRounds
  let (roster, rig) ← roster.reclaim rig
  return ({ roster with
    shared := { roster.shared with block := roster.shared.block + 1 } }, rig)

theorem value_upkeep (roster : Roster) (frames rate : Nat) (rig : Rig ε) :
    (roster.upkeep frames rate rig).value =
      let ticked := (tickAll roster.config (blockMsec frames rate) roster.active roster.shared
        rig).value
      ({ roster with active := ticked.1, shared := ticked.2.1 }.wrapUp ticked.2.2).value := rfl

theorem maintain_eq_upkeep (roster : Roster) (frames rate : Nat) (rig : Rig ε) :
    roster.maintain frames rate rig =
      (roster.hearCompletions rig).1.upkeep frames rate (roster.hearCompletions rig).2 := rfl

end Roster

namespace Moment

def heard (moment : Moment ε) : Operation ε → Moment ε
  | .maintain .. => moment.arrive (moment.roster.hearCompletions moment.rig)
  | _ => moment

def informed (moment : Moment ε) : Operation ε → Moment ε
  | .finishEvent event => { moment with roster := moment.roster.finishEvent event }
  | .finishFunction symbol => { moment with roster := moment.roster.finishFunction symbol }
  | operation => moment.heard operation

end Moment

/-! ## Stopping everything -/

namespace Moment

theorem foldl_stop (active done : List ScriptInstance) (engine : ε) :
    active.foldl (fun (done : List ScriptInstance × ε) self =>
      let (self, engine) := self.stop done.2
      (done.1 ++ [self], engine)) (done, engine) =
    (done ++ (Roster.cancelIn none none active engine).value.1,
      (Roster.cancelIn none none active engine).value.2) := by
  induction active generalizing done engine with
  | nil => exact congrArg (·, engine) (List.append_nil done).symm
  | cons self others ih =>
      rw [List.foldl_cons, ih, List.append_assoc]
      rfl

end Moment

end Looper
