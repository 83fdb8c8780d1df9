import Looper.Engine.Recorder
import Looper.Proofs.Script.Upkeep

/-!
# Releasing a trigger

A session starts with nothing running, and every state of its roster is reached
by operations that follow each other in any order.  Whoever is held in such a
state was launched by a press, and is let go by a release: one instance at a
time, in the order of launch.
-/

namespace Looper

namespace Roster

/-! ## Histories -/

/-- What a session does to its roster, each time with whatever else it can reach. -/
inductive Operation (ε : Type) where
  | run (action : Action) (rig : Rig ε)
  | cancel (author : Option InstanceId) (track : Option TrackId) (rig : Rig ε)
  | finishEvent (event : EventId)
  | finishFunction (symbol : SymbolId)
  | install (library : ScriptLibrary)
  | maintain (frames rate : Nat) (rig : Rig ε)
  | stopAll (rig : Rig ε)

variable {ε : Type} [Engine ε]

/-- The roster after an operation. -/
def operate (roster : Roster) : Operation ε → Roster
  | .run action rig => (roster.runScript action rig).value.1
  | .cancel author track rig => (roster.cancelScripts author track rig).value.1
  | .finishEvent event => roster.finishEvent event
  | .finishFunction symbol => roster.finishFunction symbol
  | .install library => (roster.install library).2
  | .maintain frames rate rig => (roster.maintain frames rate rig).value.1
  | .stopAll rig => (roster.stopAll rig).value.1

def after (config : ScriptConfig) (history : List (Operation ε)) : Roster :=
  history.foldl operate (new config {})

/-- What an operation gives back. -/
def outcome (state : Roster × Rig ε) : Operation ε → Roster × Rig ε
  | .run action rig => (state.1.runScript action rig).value
  | .cancel author track rig => (state.1.cancelScripts author track rig).value
  | .finishEvent event => (state.1.finishEvent event, state.2)
  | .finishFunction symbol => (state.1.finishFunction symbol, state.2)
  | .install library => ((state.1.install library).2, state.2)
  | .maintain frames rate rig => (state.1.maintain frames rate rig).value
  | .stopAll rig => (state.1.stopAll rig).value

theorem outcome_operate (state : Roster × Rig ε) (operation : Operation ε) :
    (outcome state operation).1 = state.1.operate operation := by
  cases operation <;> rfl

/-- A session: every operation begins where the one before it has left the roster. -/
def outcomes (config : ScriptConfig) (rig : Rig ε) (history : List (Operation ε)) :
    Roster × Rig ε :=
  history.foldl outcome (.new config {}, rig)

theorem outcomes_after (config : ScriptConfig) (rig : Rig ε)
    (history : List (Operation ε)) :
    (outcomes config rig history).1 = after config history := by
  induction history using List.reverseRecOn with
  | nil => rfl
  | append_singleton history operation ih =>
      unfold outcomes after at ih ⊢
      rw [List.foldl_append, List.foldl_append, List.foldl_cons, List.foldl_cons,
        List.foldl_nil, List.foldl_nil, outcome_operate, ih]

theorem settled_after (config : ScriptConfig) (history : List (Operation ε)) :
    (after config history).shared.requests = [] := by
  induction history using List.reverseRecOn with
  | nil => rfl
  | append_singleton history operation ih =>
      rw [after, List.foldl_append]
      change ((after config history).operate operation).shared.requests = []
      cases operation with
      | run action rig => exact requests_settle _ _ _
      | cancel author track rig => exact requests_settle _ _ _
      | finishEvent event => exact ih
      | finishFunction symbol => exact ih
      | install library => exact ih
      | maintain frames rate rig =>
          obtain ⟨_, none, _⟩ : Keeps _ _ ∧ _ ∧ Inherits (fun _ => False) _ _ :=
            maintain_spec (after config history) frames rate rig ih
          exact none
      | stopAll rig =>
          exact (congrArg ScriptShared.requests (stopAll_spec _ rig).2.1).trans ih

/-- Who is held after an operation was held before, or has just been launched by a press. -/
theorem inherits_operate (roster : Roster) (operation : Operation ε)
    (settled : roster.shared.requests = []) :
    Inherits
      (fun first => ∃ action rig, operation = .run action rig ∧
        Launches roster.shared.library action first)
      roster (roster.operate operation) := by
  cases operation with
  | run action rig =>
      intro later member holds
      obtain ⟨first, origin, continues⟩ :=
        (evolves_runScript roster action rig settled).inherits later member holds
      refine ⟨first, origin.imp id fun launches => ?_, continues⟩
      exact ⟨action, rig, rfl, launches⟩
  | cancel author track rig =>
      refine Evolves.inherits
        (?_ : Evolves True _ (roster, rig) (roster.cancelScripts author track rig))
      exact evolves_cancelScripts roster author track rig settled
  | finishEvent event =>
      exact inherits_mapActive roster fun self => (self.continues_finishEvent event).1
  | finishFunction symbol =>
      exact inherits_mapActive roster fun self => (self.continues_finishFunction symbol).1
  | install library => exact fun later member holds => ⟨later, .inl member, .refl later⟩
  | maintain frames rate rig => exact (maintain_spec roster frames rate rig settled).2.2
  | stopAll rig =>
      intro later member holds
      have released := (stopAll_spec roster rig).2.2 later member
      rw [released] at holds
      cases holds

/--
Whoever is held was launched by a press: of the script it runs, delivered to the
track that it belongs to, with the trigger id that it waits for.
-/
theorem held_after (config : ScriptConfig) (history : List (Operation ε))
    {self : ScriptInstance} (member : self ∈ (after config history).active)
    (holds : self.sustaining = true) :
    ∃ earlier action rig later first, history = earlier ++ .run action rig :: later ∧
      Launches (after config earlier).shared.library action first ∧ first.Continues self := by
  -- The induction goes back from the last operation: it launched the instance, or found it held.
  induction history using List.reverseRecOn generalizing self with
  | nil => cases member
  | append_singleton history operation ih =>
      rw [after, List.foldl_append] at member
      obtain ⟨first, origin, continues⟩ := inherits_operate (after config history) operation
        (settled_after config history) self member holds
      rcases origin with before | ⟨action, rig, isRun, launches⟩
      · obtain ⟨earlier, action, rig, later, launched, split, launches, further⟩ :=
          ih before (continues.held holds).1
        refine ⟨earlier, action, rig, later ++ [operation], launched, ?_, launches,
          further.trans continues⟩
        rw [split, List.append_assoc, List.cons_append]
      · exact ⟨history, action, rig, [], first, by rw [isRun], launches, continues⟩

/-! ## Releases -/

/-- Whether an instance was launched for a script, a track and a trigger, and is held. -/
def isHeldFor (script : ScriptId) (track : Option TrackId) (triggerId : Nat)
    (self : ScriptInstance) : Bool :=
  self.sustaining && self.script.id == script && self.homeTrack == track &&
    self.triggerId == triggerId

omit [Engine ε] in
theorem isHeldFor_of_continues {script : ScriptId} {track : Option TrackId} {triggerId : Nat}
    {before after : ScriptInstance} (continues : before.Continues after)
    (held : isHeldFor script track triggerId after = true) :
    isHeldFor script track triggerId before = true := by
  simp only [isHeldFor, Bool.and_eq_true, beq_iff_eq] at held ⊢
  obtain ⟨⟨⟨holds, sameScript⟩, home⟩, sameTrigger⟩ := held
  obtain ⟨holdsBefore, sameHome⟩ := continues.held holds
  refine ⟨⟨⟨holdsBefore, ?_⟩, ?_⟩, ?_⟩
  · rw [← continues.script, sameScript]
  · rw [← sameHome, home]
  · rw [← continues.triggerId, sameTrigger]

/--
One release: the first instance that is held for the trigger is let go, the others
are as they were, except that cancellations are reported, and no one else is held.
-/
structure LetsGo (held : ScriptInstance → Bool) (before : List ScriptInstance)
    (outcome : Logged (Roster × Rig ε)) : Prop where
  first : ∀ {position : Nat}, before.findIdx? held = some position →
    ∃ later, outcome.value.1.active[position]? = some later ∧ later.sustaining = false
  others : ∀ {position : Nat} {self : ScriptInstance}, before[position]? = some self →
    before.findIdx? held ≠ some position →
    ∃ later, outcome.value.1.active[position]? = some later ∧ self.Continues later ∧
      (self.sustaining = true → later.sustaining = true ∨ cancelRecord self ∈ outcome.records)
  joined : ∀ {position : Nat} {later : ScriptInstance},
    outcome.value.1.active[position]? = some later → before[position]? = none →
    later.sustaining = false
  left : ∀ {position : Nat} {later : ScriptInstance},
    outcome.value.1.active[position]? = some later → held later = true →
    before.findIdx? held ≠ some position ∧
      ∃ self, before[position]? = some self ∧ held self = true

omit [Engine ε] in
/-- Where no one is launched to be held, whoever joins is not held. -/
theorem Evolves.unheld_of_joins {plain : Prop} {before : Roster × Rig ε}
    {outcome : Logged (Roster × Rig ε)} {position : Nat} {later : ScriptInstance}
    (evolves : Evolves plain (fun _ => False) before outcome)
    (found : outcome.value.1.active[position]? = some later)
    (missing : before.1.active[position]? = none) : later.sustaining = false := by
  cases holds : later.sustaining with
  | false => rfl
  | true =>
      obtain ⟨_, isNew, _⟩ := evolves.joins found missing holds
      exact isNew.elim

omit [Engine ε] in
/-- Where no one is launched to be held, whoever is held for a trigger was there and held for it. -/
theorem Evolves.held_before {plain : Prop} {before : Roster × Rig ε}
    {outcome : Logged (Roster × Rig ε)} {script : ScriptId} {track : Option TrackId}
    {triggerId position : Nat} {later : ScriptInstance}
    (evolves : Evolves plain (fun _ => False) before outcome)
    (found : outcome.value.1.active[position]? = some later)
    (held : isHeldFor script track triggerId later = true) :
    ∃ self, before.1.active[position]? = some self ∧
      isHeldFor script track triggerId self = true := by
  cases was : before.1.active[position]? with
  | none =>
      have unheld := evolves.unheld_of_joins found was
      simp [isHeldFor, unheld] at held
  | some self =>
      obtain ⟨kept, foundKept, continues, _⟩ := evolves.stays was
      have same : kept = later := Option.some.inj (foundKept.symm.trans found)
      exact ⟨self, rfl, isHeldFor_of_continues continues (same ▸ held)⟩

omit [Engine ε] in
/-- Where no one is held for the trigger, nothing happens to who is held. -/
theorem letsGo_of_none {script : ScriptId} {track : Option TrackId} {triggerId : Nat}
    {roster : Roster} {rig : Rig ε} {outcome : Logged (Roster × Rig ε)}
    (none : roster.active.findIdx? (isHeldFor script track triggerId) = none)
    (evolves : Evolves True (fun _ => False) (roster, rig) outcome) :
    LetsGo (isHeldFor script track triggerId) roster.active outcome where
  first found := by
    rw [none] at found
    cases found
  others found _ := by
    obtain ⟨later, foundLater, continues, flag⟩ := evolves.stays found
    exact ⟨later, foundLater, continues, flag trivial⟩
  joined := evolves.unheld_of_joins
  left found held := by
    obtain ⟨self, was, heldBefore⟩ := evolves.held_before found held
    have unheld := List.findIdx?_eq_none_iff.1 none self (List.mem_of_getElem? was)
    rw [heldBefore] at unheld
    cases unheld

omit [Engine ε] in
/-- Where the first instance that is held for the trigger is let go, the others are as they were. -/
theorem letsGo_of_some {script : ScriptId} {track : Option TrackId} {triggerId : Nat}
    {roster : Roster} {rig : Rig ε} {outcome : Logged (Roster × Rig ε)} {position : Nat}
    {released : ScriptInstance}
    (firstHeld : roster.active.findIdx? (isHeldFor script track triggerId) = some position)
    (letGo : released.sustaining = false)
    (evolves : Evolves True (fun _ => False)
      ({ roster with active := roster.active.set position released }, rig) outcome) :
    LetsGo (isHeldFor script track triggerId) roster.active outcome := by
  obtain ⟨within, _⟩ := List.findIdx?_eq_some_iff_getElem.1 firstHeld
  have inPlace : (roster.active.set position released)[position]? = some released :=
    List.getElem?_set_self within
  refine ⟨?_, ?_, ?_, ?_⟩
  · intro place found
    have same : position = place := Option.some.inj (firstHeld.symm.trans found)
    subst same
    obtain ⟨later, foundLater, continues, _⟩ := evolves.stays inPlace
    refine ⟨later, foundLater, ?_⟩
    cases holds : later.sustaining with
    | false => rfl
    | true => exact absurd (continues.held holds).1 (by simp [letGo])
  · intro place self found other
    have apart : position ≠ place := fun same => other (same ▸ firstHeld)
    obtain ⟨later, foundLater, continues, flag⟩ :=
      evolves.stays ((List.getElem?_set_ne apart).trans found)
    exact ⟨later, foundLater, continues, flag trivial⟩
  · intro place later found missing
    refine evolves.unheld_of_joins found ?_
    rw [List.getElem?_eq_none_iff] at missing ⊢
    rw [List.length_set]
    exact missing
  · intro place later found held
    obtain ⟨self, was, heldBefore⟩ := evolves.held_before found held
    -- Whoever was let go is not held again, so this is someone else.
    have apart : position ≠ place := by
      intro same
      subst same
      have isReleased : released = self := Option.some.inj (inPlace.symm.trans was)
      rw [← isReleased] at heldBefore
      simp [isHeldFor, letGo] at heldBefore
    exact ⟨fun isFirst => apart (Option.some.inj (firstHeld.symm.trans isFirst)), self,
      (List.getElem?_set_ne apart).symm.trans was, heldBefore⟩

theorem evolves_runIfNotified_set (roster : Roster) (rig : Rig ε) {position : Nat}
    {news : ScriptInstance → Prop} (notified : Bool × ScriptInstance)
    (within : position < roster.active.length) :
    Evolves True news ({ roster with active := roster.active.set position notified.2 }, rig)
      (roster.runIfNotified position notified rig) := by
  have inPlace : roster.runIfNotified position notified rig =
      { roster with active := roster.active.set position notified.2 }.runIfNotified
        position notified rig := by
    simp only [runIfNotified, runAt, List.set_set]
  rw [inPlace]
  exact evolves_runIfNotified _ rig (List.getElem?_set_self within) (.refl _) fun _ => rfl

omit [Engine ε] in
theorem findIdx?_eq_of_agree {active : List ScriptInstance} {test other : ScriptInstance → Bool}
    (agree : ∀ self ∈ active, test self = other self) :
    active.findIdx? test = active.findIdx? other := by
  induction active with
  | nil => rfl
  | cons first rest ih =>
      have restAgree := ih fun self member => agree self (List.mem_cons_of_mem first member)
      rw [List.findIdx?_cons, List.findIdx?_cons, agree first List.mem_cons_self, restAgree]

omit [Engine ε] in
/-- On its own track, an instance is found by the trigger that it was launched for. -/
theorem isHeldBy_eq_isHeldFor {script : Script} {action : Action} {self : ScriptInstance}
    (atHome : self.sustaining = true → self.script.id = script.id →
      self.triggerId = action.triggerId → self.track = self.homeTrack) :
    isHeldBy script action self =
      isHeldFor script.id action.track action.triggerId self := by
  rw [Bool.eq_iff_iff]
  simp only [isHeldBy, isHeldFor, runsOn, Bool.and_eq_true, beq_iff_eq]
  constructor
  · rintro ⟨⟨⟨⟨_, sameScript⟩, sameTrack⟩, holds⟩, sameTrigger⟩
    rw [atHome holds sameScript sameTrigger] at sameTrack
    exact ⟨⟨⟨holds, sameScript⟩, sameTrack⟩, sameTrigger⟩
  · rintro ⟨⟨⟨holds, sameScript⟩, home⟩, sameTrigger⟩
    rw [← atHome holds sameScript sameTrigger] at home
    refine ⟨⟨⟨⟨?_, sameScript⟩, home⟩, holds⟩, sameTrigger⟩
    simp [ScriptInstance.isFinished, holds]

/--
Whoever is held was launched by a press for its script, track and trigger.  A
release lets go of the first of those that are held for its trigger, as long as
they are on the track that they were launched on.  All this is so in a session, in
which every operation begins where the one before it has left the roster.
-/
theorem runScript_release (config : ScriptConfig) (history : List (Operation ε))
    (action : Action) (rig : Rig ε) {id : ScriptId} {traits : ScriptTraits} {script : Script}
    (target : action.target = .script id traits) (releases : action.sustainEnd = true)
    (loaded : (after config history).shared.library.get? id = some script)
    (atHome : ∀ self ∈ (after config history).active, self.sustaining = true →
      self.script.id = script.id → self.triggerId = action.triggerId →
      self.track = self.homeTrack) :
    (∀ self ∈ (after config history).active, self.sustaining = true →
      ∃ earlier press rig later first, history = earlier ++ .run press rig :: later ∧
        Launches (after config earlier).shared.library press first ∧ first.Continues self) ∧
    LetsGo (isHeldFor script.id action.track action.triggerId) (after config history).active
      ((after config history).runScript action rig) ∧
    ∀ first : Rig ε, (outcomes config first history).1 = after config history := by
  refine ⟨fun self member holds => held_after config history member holds, ?_,
    fun first => outcomes_after config first history⟩
  have settled := settled_after config history
  generalize after config history = roster at loaded atHome settled ⊢
  -- The search reads the current track; with everyone at home it finds who was launched there.
  have sameSearch : roster.active.findIdx? (isHeldBy script action) =
      roster.active.findIdx? (isHeldFor script.id action.track action.triggerId) :=
    findIdx?_eq_of_agree fun self member => isHeldBy_eq_isHeldFor (atHome self member)
  have routes : roster.route action rig = roster.release script action rig := by
    simp only [route, target, loaded, releases, if_true]
  have noRequest : ∀ request ∈ roster.shared.requests, request.IsAsked := by
    simp [settled]
  unfold runScript
  rw [routes]
  cases search : roster.active.findIdx? (isHeldBy script action) with
  | none =>
      have released : Evolves True (fun _ => False) (roster, rig)
          (roster.release script action rig) := by
        simp only [release, search]
        exact .logged (.pure _) _
      exact letsGo_of_none (sameSearch.symm.trans search)
        (released.bind (evolves_settle _ _ maxRounds (released.asked noRequest)))
  | some position =>
      obtain ⟨within, _⟩ := List.findIdx?_eq_some_iff_getElem.1 search
      have released : Evolves True (fun _ => False)
          ({ roster with
            active := roster.active.set position roster.active[position].endSustain.2 }, rig)
          (roster.release script action rig) := by
        simp only [release, search, Option.bind_some, List.getElem?_eq_getElem within]
        exact evolves_runIfNotified_set roster rig _ within
      exact letsGo_of_some (sameSearch.symm.trans search)
        (ScriptInstance.continues_endSustain _).2
        (released.bind (evolves_settle _ _ maxRounds (released.asked noRequest)))

/-! ## Two runs -/

def holdScript : Script where
  name := "Hold"
  traits := { sustainable := true }

/-- A script that can be held, and resets everything when it is let go. -/
def resetScript : Script where
  id := 1
  name := "Reset"
  traits := { sustainable := true }
  statements :=
    [.finish,
     .label "EndSustain" .endSustain,
     .invoke
      { symbol := 0
        name := "GlobalReset"
        target := .function { reset := some .everything }
        level := .core
        args := "" }]
  labels := { endSustain := some 1 }

def holdLibrary : ScriptLibrary := ⟨[holdScript, resetScript]⟩

def smallRig : Rig Recorder where
  engine := {}
  kernel := .new { poolSize := 1, poolMax := 1 }
  interface := .new 1

/-- The press or the release of one script on the first track by one trigger. -/
def touch (id : ScriptId) (triggerId : Nat) (sustainEnd : Bool) : Action where
  symbol := 0
  name := "Touch"
  target := .script id { sustainable := true }
  triggerId := triggerId
  sustainId := triggerId
  sustainEnd := sustainEnd
  track := some 0

def pressedTwice : List (Operation Recorder) :=
  [.install holdLibrary, .run (touch 0 7 false) smallRig, .run (touch 0 7 false) smallRig]

/-- Two instances are held for the trigger that is released, and one of them is let go. -/
theorem release_after_two_presses :
    (after { maxActive := 0 } pressedTwice).active.map (isHeldFor 0 (some 0) 7) = [true, true] ∧
    LetsGo (isHeldFor 0 (some 0) 7) (after { maxActive := 0 } pressedTwice).active
      ((after { maxActive := 0 } pressedTwice).runScript (touch 0 7 true) smallRig) := by
  have loaded : (after { maxActive := 0 } pressedTwice).shared.library.get? 0 =
      some holdScript := by decide +kernel
  have everyoneHome : (after { maxActive := 0 } pressedTwice).active.all
      (fun self => self.track == self.homeTrack) = true := by decide +kernel
  refine ⟨by decide +kernel,
    (runScript_release _ _ (touch 0 7 true) smallRig rfl rfl loaded ?_).2.1⟩
  intro self member _ _ _
  exact beq_iff_eq.1 (List.all_eq_true.1 everyoneHome self member)

/--
After one release the second press still holds an instance for the same script,
track and trigger; and a release may let go of another trigger, by a reset.
-/
theorem release_leaves_second_press :
    ((after { maxActive := 0 } pressedTwice).runScript (touch 0 7 true) smallRig).value.1.active.map
        (isHeldFor 0 (some 0) 7) = [false, true] ∧
    (after { maxActive := 0 } [.install holdLibrary, .run (touch 0 7 false) smallRig,
        .run (touch 1 8 false) smallRig]).active.map (isHeldFor 0 (some 0) 7) = [true, false] ∧
    ((after { maxActive := 0 } [.install holdLibrary, .run (touch 0 7 false) smallRig,
        .run (touch 1 8 false) smallRig]).runScript (touch 1 8 true) smallRig).value.1.active.map
        (isHeldFor 0 (some 0) 7) = [false, false] := by
  refine ⟨?_, ?_, ?_⟩
  · decide +kernel
  · decide +kernel
  · decide +kernel

end Roster

end Looper
