import Looper.Proofs.Script.Evolution
import Looper.Script.Roster

/-!
# What operations on the roster can do

Whatever happens on the roster, an instance keeps its launch for as long as it is
there.  It is held from its launch on or never, and stops being held when its
trigger is released or when it is cancelled, which the log reports.  The library
is replaced by installing another one and by nothing else.
-/

namespace Looper

namespace ScriptInstance

/-- What one instance keeps; while it is held, that includes the track it belongs to. -/
structure Continues (before after : ScriptInstance) : Prop where
  id : after.id = before.id
  script : after.script = before.script
  triggerId : after.triggerId = before.triggerId
  held : after.sustaining = true →
    before.sustaining = true ∧ after.homeTrack = before.homeTrack

namespace Continues

theorem refl (self : ScriptInstance) : Continues self self :=
  ⟨rfl, rfl, rfl, fun held => ⟨held, rfl⟩⟩

theorem trans {first second third : ScriptInstance} (earlier : Continues first second)
    (later : Continues second third) : Continues first third where
  id := later.id.trans earlier.id
  script := later.script.trans earlier.script
  triggerId := later.triggerId.trans earlier.triggerId
  held holds := by
    obtain ⟨holdsSecond, homeSecond⟩ := later.held holds
    obtain ⟨holdsFirst, homeFirst⟩ := earlier.held holdsSecond
    exact ⟨holdsFirst, homeSecond.trans homeFirst⟩

/-- An instance that is not held any more continues whatever has its launch. -/
theorem ofReleased {before after : ScriptInstance} (id : after.id = before.id)
    (script : after.script = before.script) (triggerId : after.triggerId = before.triggerId)
    (released : after.sustaining = false) : Continues before after where
  id := id
  script := script
  triggerId := triggerId
  held holds := by
    rw [released] at holds
    cases holds

end Continues

/-- What running leaves alone can be read off an instance at any time. -/
theorem read_of_steady {β : Type} {before after : ScriptInstance} (read : ScriptInstance → β)
    (reads : ∀ self : ScriptInstance, read self.steady = read self)
    (steady : after.steady = before.steady) : read after = read before := by
  rw [← reads after, steady, reads before]

theorem continues_of_steady {before after : ScriptInstance}
    (steady : after.steady = before.steady) (home : after.homeTrack = before.homeTrack) :
    before.Continues after ∧ after.sustaining = before.sustaining := by
  have held : after.sustaining = before.sustaining :=
    read_of_steady sustaining (fun _ => rfl) steady
  refine ⟨⟨?_, ?_, ?_, fun holds => ⟨held ▸ holds, home⟩⟩, held⟩
  · exact read_of_steady ScriptInstance.id (fun _ => rfl) steady
  · exact read_of_steady script (fun _ => rfl) steady
  · exact read_of_steady triggerId (fun _ => rfl) steady

theorem steady_notifyKind (self : ScriptInstance) (kind : LabelKind) :
    (self.notifyKind kind).2.steady = self.steady ∧
      (self.notifyKind kind).2.homeTrack = self.homeTrack := by
  unfold notifyKind
  split <;> exact ⟨rfl, rfl⟩

/-- Time passes for a trigger: it is counted, and a label may be entered then. -/
inductive Elapses (self : ScriptInstance) : ScriptInstance → Prop where
  | count (sustainElapsed sustainCount clickElapsed : Nat) (clicking : Bool) :
      Elapses self { self with sustainElapsed, sustainCount, clickElapsed, clicking }
  | enter (sustainElapsed sustainCount clickElapsed : Nat) (clicking : Bool)
      (kind : LabelKind) :
      Elapses self
        ({ self with sustainElapsed, sustainCount, clickElapsed, clicking }.notifyKind kind).2

theorem elapses_advanceSustain (self : ScriptInstance) (msec holdTime : Nat) :
    self.Elapses (self.advanceSustain msec holdTime).2 := by
  unfold advanceSustain
  split
  · exact .count self.sustainElapsed self.sustainCount self.clickElapsed self.clicking
  · dsimp only
    split
    · exact .count _ self.sustainCount self.clickElapsed self.clicking
    · exact .enter 0 (self.sustainCount + 1) self.clickElapsed self.clicking .sustain

theorem elapses_advanceClick (self : ScriptInstance) (msec window : Nat) :
    self.Elapses (self.advanceClick msec window).2 := by
  unfold advanceClick
  split
  · exact .count self.sustainElapsed self.sustainCount self.clickElapsed self.clicking
  · dsimp only
    split
    · exact .count self.sustainElapsed self.sustainCount _ self.clicking
    · exact .enter self.sustainElapsed self.sustainCount _ false .endClick

theorem Elapses.continues {self later : ScriptInstance} (elapses : self.Elapses later) :
    self.Continues later ∧ later.sustaining = self.sustaining := by
  cases elapses with
  | count => exact ⟨⟨rfl, rfl, rfl, fun held => ⟨held, rfl⟩⟩, rfl⟩
  | enter sustainElapsed sustainCount clickElapsed clicking kind =>
      obtain ⟨kept, home⟩ := steady_notifyKind
        { self with sustainElapsed, sustainCount, clickElapsed, clicking } kind
      obtain ⟨continues, held⟩ := continues_of_steady kept home
      exact ⟨⟨continues.id, continues.script, continues.triggerId, continues.held⟩, held⟩

theorem continues_endSustain (self : ScriptInstance) :
    self.Continues self.endSustain.2 ∧ self.endSustain.2.sustaining = false := by
  obtain ⟨kept, home⟩ := steady_notifyKind
    { self with sustaining := false, sustainElapsed := 0 } .endSustain
  obtain ⟨continues, released⟩ := continues_of_steady kept home
  exact ⟨.ofReleased continues.id continues.script continues.triggerId released, released⟩

theorem continues_stop {ε : Type} [Engine ε] (self : ScriptInstance) (engine : ε) :
    self.Continues (self.stop engine).1 :=
  .ofReleased rfl rfl rfl rfl

theorem continues_click (self : ScriptInstance) :
    self.Continues self.click.2 ∧ self.click.2.sustaining = self.sustaining := by
  obtain ⟨kept, home⟩ := steady_notifyKind
    { self with clickCount := self.clickCount + 1, clickElapsed := 0 } .click
  obtain ⟨continues, held⟩ := continues_of_steady kept home
  exact ⟨⟨continues.id, continues.script, continues.triggerId, continues.held⟩, held⟩

theorem continues_notify (self : ScriptInstance) (label : Nat) :
    self.Continues (self.notify label) ∧ (self.notify label).sustaining = self.sustaining :=
  continues_of_steady rfl rfl

/-- Once an event is over, nothing waits for it and it is not the last one. -/
theorem finishEvent_eq (self : ScriptInstance) (event : EventId) :
    self.finishEvent event =
      { self.mapWaits (Wait.finishEvent event) with
        lastEvent := if self.lastEvent = some event then none else self.lastEvent } := by
  by_cases last : self.lastEvent = some event
  · simp [finishEvent, mapWaits, last]
  · simp [finishEvent, mapWaits, last]

/-- Once a kernel event is over, nothing waits for it and it is not the last one. -/
theorem finishKernel_eq (self : ScriptInstance) (event : KernelEventId) (returnCode : Int) :
    self.finishKernel event returnCode =
      { self.mapWaits (Wait.finishKernel event) with
        lastKernelEvent :=
          if self.lastKernelEvent = some event then none else self.lastKernelEvent
        returnCode :=
          if self.lastKernelEvent = some event ∨
              (self.stack.any fun frame => frame.awaitedKernel? == some event) = true then
            returnCode
          else self.returnCode } := by
  unfold finishKernel
  generalize (self.stack.any fun frame => frame.awaitedKernel? == some event) = isAwaited
  by_cases last : self.lastKernelEvent = some event
  · simp [mapWaits, last]
  · cases isAwaited <;> simp [mapWaits, last]

theorem continues_finishEvent (self : ScriptInstance) (event : EventId) :
    self.Continues (self.finishEvent event) ∧
      (self.finishEvent event).sustaining = self.sustaining := by
  rw [finishEvent_eq]
  exact continues_of_steady rfl
    (homeFrom_map_mapWait (Wait.finishEvent event) self.track self.stack)

theorem continues_finishFunction (self : ScriptInstance) (symbol : SymbolId) :
    self.Continues (self.finishFunction symbol) ∧
      (self.finishFunction symbol).sustaining = self.sustaining :=
  continues_of_steady rfl
    (homeFrom_map_mapWait (Wait.finishFunction symbol) self.track self.stack)

theorem continues_finishKernel (self : ScriptInstance) (event : KernelEventId)
    (returnCode : Int) :
    self.Continues (self.finishKernel event returnCode) ∧
      (self.finishKernel event returnCode).sustaining = self.sustaining := by
  rw [finishKernel_eq]
  exact continues_of_steady rfl
    (homeFrom_map_mapWait (Wait.finishKernel event) self.track self.stack)

end ScriptInstance

/-- Running an instance keeps its launch and whether it is held. -/
theorem Run.Evolves.continues {ε : Type} {before after : Run ε} (evolves : Evolves before after) :
    before.self.Continues after.self ∧ after.self.sustaining = before.self.sustaining :=
  ScriptInstance.continues_of_steady evolves.steady evolves.home

def ScriptRequest.IsAsked (request : ScriptRequest) : Prop :=
  ∃ author, request.IsFrom author

/-- The action neither holds a trigger nor releases one. -/
def Action.IsPlain (action : Action) : Prop :=
  action.sustainEnd = false ∧ action.sustainId = 0

/-- The instance was launched by an action whose trigger holds it. -/
structure ScriptInstance.IsHeldFor (script : Script) (action : Action)
    (launched : ScriptInstance) : Prop where
  script : launched.script = script
  triggerId : launched.triggerId = action.triggerId
  home : launched.homeTrack = action.track
  sustaining : launched.sustaining = true
  pressed : action.sustainId ≠ 0

/-- What running instances launch is plain. -/
theorem ScriptRequest.IsAsked.isPlain {action : Action}
    (asked : (ScriptRequest.launch action).IsAsked) : action.IsPlain := by
  obtain ⟨author, _, released, held, _⟩ := asked
  exact ⟨released, held⟩

namespace Roster

variable {ε : Type}

def cancelRecord (self : ScriptInstance) : LogRecord :=
  ⟨.debug, .scripts, s!"cancelling {self.script.name} {instanceLabel self.id}"⟩

theorem cancelRecord_of_continues {before after : ScriptInstance}
    (continues : before.Continues after) : cancelRecord after = cancelRecord before := by
  unfold cancelRecord
  rw [continues.script, continues.id]

/-- What every operation on the roster keeps but for installing a library. -/
structure Keeps (before after : Roster × Rig ε) : Prop where
  config : after.1.config = before.1.config
  library : after.1.shared.library = before.1.shared.library
  kernel : before.2.kernel.Carries after.2.kernel

theorem Keeps.refl (state : Roster × Rig ε) : Keeps state state :=
  ⟨rfl, rfl, .refl _⟩

theorem Keeps.trans {first second third : Roster × Rig ε} (earlier : Keeps first second)
    (later : Keeps second third) : Keeps first third where
  config := later.config.trans earlier.config
  library := later.library.trans earlier.library
  kernel := earlier.kernel.trans later.kernel

/--
What lies between two states of the roster while no instance leaves it.  In plain
operations no trigger is released from outside; who is held and joins is news.
-/
structure Evolves (plain : Prop) (news : ScriptInstance → Prop) (before : Roster × Rig ε)
    (outcome : Logged (Roster × Rig ε)) : Prop extends Keeps before outcome.value where
  asked : (∀ request ∈ before.1.shared.requests, request.IsAsked) →
    ∀ request ∈ outcome.value.1.shared.requests, request.IsAsked
  stays : ∀ {position : Nat} {self : ScriptInstance},
    before.1.active[position]? = some self →
    ∃ later, outcome.value.1.active[position]? = some later ∧ self.Continues later ∧
      (plain → self.sustaining = true →
        later.sustaining = true ∨ cancelRecord self ∈ outcome.records)
  joins : ∀ {position : Nat} {later : ScriptInstance},
    outcome.value.1.active[position]? = some later →
    before.1.active[position]? = none → later.sustaining = true →
    ∃ first, news first ∧ first.Continues later

namespace Evolves

variable {plain : Prop} {news : ScriptInstance → Prop}

/-- Where the list of running instances and the requests stay, nothing happens to an instance. -/
theorem ofSame {before : Roster × Rig ε} {outcome : Logged (Roster × Rig ε)}
    (keeps : Keeps before outcome.value)
    (active : outcome.value.1.active = before.1.active)
    (asked : (∀ request ∈ before.1.shared.requests, request.IsAsked) →
      ∀ request ∈ outcome.value.1.shared.requests, request.IsAsked) :
    Evolves plain news before outcome where
  toKeeps := keeps
  asked := asked
  stays {position self} found :=
    ⟨self, by rw [active]; exact found, .refl self, fun _ holds => .inl holds⟩
  joins {position later} found missing := by
    rw [active, missing] at found
    cases found

theorem pure (state : Roster × Rig ε) : Evolves plain news state (pure state) :=
  ofSame (.refl state) rfl fun asked => asked

theorem bind {before : Roster × Rig ε} {outcome : Logged (Roster × Rig ε)}
    {next : Roster × Rig ε → Logged (Roster × Rig ε)}
    (earlier : Evolves plain news before outcome)
    (later : Evolves plain news outcome.value (next outcome.value)) :
    Evolves plain news before (outcome >>= next) where
  toKeeps := earlier.toKeeps.trans later.toKeeps
  asked asks := later.asked (earlier.asked asks)
  stays found := by
    obtain ⟨second, foundSecond, continues, flag⟩ := earlier.stays found
    obtain ⟨third, foundThird, continuesFurther, further⟩ := later.stays foundSecond
    refine ⟨third, foundThird, continues.trans continuesFurther, fun isPlain holds => ?_⟩
    rw [Logged.records_bind, List.mem_append]
    rcases flag isPlain holds with holdsSecond | cancelled
    · rcases further isPlain holdsSecond with holdsThird | cancelled
      · exact .inl holdsThird
      · exact .inr (.inr (cancelRecord_of_continues continues ▸ cancelled))
    · exact .inr (.inl cancelled)
  joins {position third} found missing holds := by
    cases middle : outcome.value.1.active[position]? with
    | none => exact later.joins found middle holds
    | some second =>
        obtain ⟨kept, foundKept, continues, _⟩ := later.stays middle
        have same : kept = third := Option.some.inj (foundKept.symm.trans found)
        subst same
        obtain ⟨first, isNew, continuesFirst⟩ :=
          earlier.joins middle missing (continues.held holds).1
        exact ⟨first, isNew, continuesFirst.trans continues⟩

theorem after {before middle : Roster × Rig ε} {outcome : Logged (Roster × Rig ε)}
    (earlier : Evolves plain news before (Pure.pure middle))
    (later : Evolves plain news middle outcome) :
    Evolves plain news before outcome :=
  @Evolves.bind ε plain news before (Pure.pure middle) (fun _ => outcome) earlier later

theorem logged {before : Roster × Rig ε} {outcome : Logged (Roster × Rig ε)}
    (evolves : Evolves plain news before outcome) (report : Logged Unit) :
    Evolves plain news before (report >>= fun _ => outcome) where
  toKeeps := evolves.toKeeps
  asked := evolves.asked
  stays found := by
    obtain ⟨later, foundLater, continues, flag⟩ := evolves.stays found
    refine ⟨later, foundLater, continues, fun isPlain holds => ?_⟩
    rw [Logged.records_bind, List.mem_append]
    exact (flag isPlain holds).imp id .inr
  joins := evolves.joins

theorem mono {stricter : Prop} {wider : ScriptInstance → Prop} {before : Roster × Rig ε}
    {outcome : Logged (Roster × Rig ε)} (evolves : Evolves plain news before outcome)
    (implies : stricter → plain) (widens : ∀ self, news self → wider self) :
    Evolves stricter wider before outcome where
  toKeeps := evolves.toKeeps
  asked := evolves.asked
  stays found := by
    obtain ⟨later, foundLater, continues, flag⟩ := evolves.stays found
    exact ⟨later, foundLater, continues, fun isStricter => flag (implies isStricter)⟩
  joins found missing holds := by
    obtain ⟨first, isNew, continues⟩ := evolves.joins found missing holds
    exact ⟨first, widens first isNew, continues⟩

end Evolves

section Operations

variable [Engine ε] {plain : Prop} {news : ScriptInstance → Prop}

/-! ## Running instances -/

omit [Engine ε] in
theorem stays_of_set {active : List ScriptInstance} {position : Nat}
    {self replaced : ScriptInstance} {records : List LogRecord}
    (there : active[position]? = some self) (continues : self.Continues replaced)
    (flag : plain → replaced.sustaining = self.sustaining)
    {place : Nat} {old : ScriptInstance} (found : active[place]? = some old) :
    ∃ later, (active.set position replaced)[place]? = some later ∧ old.Continues later ∧
      (plain → old.sustaining = true →
        later.sustaining = true ∨ cancelRecord old ∈ records) := by
  obtain ⟨within, _⟩ := List.getElem?_eq_some_iff.1 there
  by_cases same : position = place
  · have isSelf : self = old := Option.some.inj (there.symm.trans (same ▸ found))
    refine ⟨replaced, ?_, isSelf ▸ continues, fun isPlain holds => .inl ?_⟩
    · rw [← same, List.getElem?_set_self within]
    · rw [flag isPlain, isSelf, holds]
  · exact ⟨old, by rw [List.getElem?_set_ne same, found], .refl old,
      fun _ holds => .inl holds⟩

omit [Engine ε] in
theorem joins_of_set {active : List ScriptInstance} {position place : Nat}
    {replaced later : ScriptInstance}
    (found : (active.set position replaced)[place]? = some later) :
    active[place]? ≠ none := by
  intro missing
  rw [List.getElem?_eq_none_iff] at missing
  obtain ⟨within, _⟩ := List.getElem?_eq_some_iff.1 found
  rw [List.length_set] at within
  omega

omit [Engine ε] in
theorem asked_of_evolves {before after : Run ε} (evolves : Run.Evolves before after)
    (asked : ∀ request ∈ before.shared.requests, request.IsAsked) :
    ∀ request ∈ after.shared.requests, request.IsAsked := by
  obtain ⟨more, adds, own⟩ := evolves.requests
  intro request member
  rw [adds] at member
  rcases List.mem_append.1 member with old | new
  · exact asked request old
  · exact ⟨_, own request new⟩

theorem evolves_runAt (roster : Roster) (rig : Rig ε) {position : Nat}
    {self entered : ScriptInstance} (there : roster.active[position]? = some self)
    (continues : self.Continues entered)
    (flag : plain → entered.sustaining = self.sustaining) :
    Evolves plain news (roster, rig) (roster.runAt position entered rig) := by
  have evolves := Run.evolves_go false { self := entered, shared := roster.shared, rig := rig }
  obtain ⟨continuesRun, flagRun⟩ := evolves.continues
  exact {
    config := rfl
    library := evolves.library
    kernel := evolves.kernel
    asked := asked_of_evolves evolves
    stays := stays_of_set there (continues.trans continuesRun)
      fun isPlain => flagRun.trans (flag isPlain)
    joins := fun found missing _ => absurd missing (joins_of_set found) }

/-- An instance may be entered at a label, or only have its timers changed. -/
theorem evolves_runIfNotified (roster : Roster) (rig : Rig ε) {position : Nat}
    {self : ScriptInstance} {notified : Bool × ScriptInstance}
    (there : roster.active[position]? = some self) (continues : self.Continues notified.2)
    (flag : plain → notified.2.sustaining = self.sustaining) :
    Evolves plain news (roster, rig) (roster.runIfNotified position notified rig) := by
  unfold runIfNotified
  split
  · exact evolves_runAt roster rig there continues flag
  · exact {
      config := rfl
      library := rfl
      kernel := .refl _
      asked := id
      stays := stays_of_set there continues flag
      joins := fun found missing _ => absurd missing (joins_of_set found) }

/-! ## Launching and routing -/

def launched (roster : Roster) (script : Script) (action : Action) : ScriptInstance :=
  (match roster.idle with
    | self :: _ => self.reset (roster.lastId + 1) script
    | [] => ScriptInstance.new (roster.lastId + 1) script).start action

omit [Engine ε] in
theorem launched_eq (roster : Roster) (script : Script) (action : Action) :
    (roster.launched script action).id = roster.lastId + 1 ∧
      (roster.launched script action).script = script ∧
      (roster.launched script action).triggerId = action.triggerId ∧
      (roster.launched script action).homeTrack = action.track ∧
      (roster.launched script action).sustaining =
        (script.traits.sustainable && action.sustainId != 0) := by
  unfold launched
  split <;> exact ⟨rfl, rfl, rfl, rfl, rfl⟩

/-- A launch runs the new instance and puts it behind the others. -/
theorem value_launch (roster : Roster) (script : Script) (action : Action) (rig : Rig ε) :
    (roster.launch script action rig).value =
      (let run := (runInstance false (roster.launched script action) roster.shared rig).value
       ({ roster with
          shared := run.shared
          active := roster.active ++ [run.self]
          idle := roster.idle.tail
          lastId := roster.lastId + 1 }, run.rig)) := by
  cases kept : roster.idle with
  | nil =>
      simp only [launch, launched, kept]
      rfl
  | cons self rest =>
      simp only [launch, launched, kept]
      rfl

/-- A launch adds an instance, which is held only if the action holds a trigger. -/
theorem evolves_launch (roster : Roster) (script : Script) (action : Action) (rig : Rig ε) :
    Evolves plain (ScriptInstance.IsHeldFor script action) (roster, rig)
      (roster.launch script action rig) := by
  have launches := value_launch roster script action rig
  have evolves := Run.evolves_go false
    { self := roster.launched script action, shared := roster.shared, rig := rig }
  obtain ⟨continues, _⟩ := evolves.continues
  obtain ⟨_, sameScript, triggerId, home, held⟩ := launched_eq roster script action
  exact {
    config := by rw [launches]
    library := by
      rw [launches]
      exact evolves.library
    kernel := by
      rw [launches]
      exact evolves.kernel
    asked := by
      rw [launches]
      exact asked_of_evolves evolves
    stays := by
      intro position self found
      obtain ⟨within, _⟩ := List.getElem?_eq_some_iff.1 found
      refine ⟨self, ?_, .refl self, fun _ holds => .inl holds⟩
      rw [launches]
      exact (List.getElem?_append_left within).trans found
    joins := by
      intro position later found missing holds
      -- Nobody else stands where nobody stood before.
      rw [launches] at found
      rw [List.getElem?_append_right (List.getElem?_eq_none_iff.1 missing)] at found
      have isNew := List.mem_singleton.1 (List.mem_of_getElem? found)
      subst isNew
      have holdsFirst := (continues.held holds).1
      refine ⟨_, ⟨sameScript, triggerId, home, holdsFirst, fun unpressed => ?_⟩, continues⟩
      rw [held, unpressed] at holdsFirst
      simp at holdsFirst }

omit [Engine ε] in
theorem found_of_findIdx? {active : List ScriptInstance} {test : ScriptInstance → Bool}
    {position : Nat} {self : ScriptInstance} (searched : active.findIdx? test = some position)
    (read : (active.findIdx? test).bind (active[·]?) = some self) :
    active[position]? = some self := by
  rw [searched] at read
  exact read

theorem evolves_release (roster : Roster) (script : Script) (action : Action) (rig : Rig ε)
    (outside : ¬ plain) :
    Evolves plain news (roster, rig) (roster.release script action rig) := by
  unfold release
  dsimp only
  split
  · next position self searched read =>
      exact evolves_runIfNotified roster rig (found_of_findIdx? searched read)
        self.continues_endSustain.1 fun isPlain => absurd isPlain outside
  · exact .logged (.pure _) _

theorem evolves_press (roster : Roster) (script : Script) (action : Action) (rig : Rig ε) :
    Evolves plain (ScriptInstance.IsHeldFor script action) (roster, rig)
      (roster.press script action rig) := by
  unfold press
  dsimp only
  split
  · next position self searched read =>
      have there := found_of_findIdx? searched read
      split
      · exact evolves_runIfNotified roster rig there self.continues_click.1
          fun _ => self.continues_click.2
      · split
        · next label _ =>
            exact evolves_runAt roster rig there (self.continues_notify label).1
              fun _ => (self.continues_notify label).2
        · exact evolves_launch roster script action rig
  · exact evolves_launch roster script action rig

/-- The action launches an instance of a loaded script, and its trigger holds it. -/
def Launches (library : ScriptLibrary) (action : Action) (self : ScriptInstance) : Prop :=
  action.sustainEnd = false ∧ ∃ id traits script, action.target = .script id traits ∧
    library.get? id = some script ∧ self.IsHeldFor script action

/-- A plain action launches nothing that is held. -/
theorem not_launches_of_isPlain {library : ScriptLibrary} {action : Action}
    (isPlain : action.IsPlain) (self : ScriptInstance) : ¬ Launches library action self := by
  rintro ⟨_, id, traits, script, _, _, held⟩
  exact held.pressed isPlain.2

theorem evolves_route (roster : Roster) (action : Action) (rig : Rig ε) :
    Evolves action.IsPlain (Launches roster.shared.library action) (roster, rig)
      (roster.route action rig) := by
  unfold route
  split
  · next id traits target =>
      split
      · exact .logged (.pure _) _
      · next script found =>
          split
          · next released =>
              refine evolves_release roster script action rig fun isPlain => ?_
              rw [isPlain.1] at released
              cases released
          · next unreleased =>
              have widens (self : ScriptInstance) (held : self.IsHeldFor script action) :
                  Launches roster.shared.library action self :=
                ⟨by simpa using unreleased, id, traits, script, target, found, held⟩
              split
              · exact (evolves_launch roster script action rig).mono (fun isPlain => isPlain) widens
              · exact (evolves_press roster script action rig).mono (fun isPlain => isPlain) widens
  · exact .pure _

/-! ## Stopping -/

theorem stays_of_cancelIn (author : Option InstanceId) (track : Option TrackId)
    (active : List ScriptInstance) (engine : ε) {position : Nat} {self : ScriptInstance}
    (found : active[position]? = some self) :
    ∃ later, (cancelIn author track active engine).value.1[position]? = some later ∧
      self.Continues later ∧
      (self.sustaining = true → later.sustaining = true ∨
        cancelRecord self ∈ (cancelIn author track active engine).records) := by
  induction active generalizing position engine with
  | nil => simp at found
  | cons first rest ih =>
      cases position with
      | zero =>
          have isFirst : first = self := Option.some.inj found
          subst isFirst
          refine ⟨(cancelOne author track first engine).value.1, rfl, ?_⟩
          unfold cancelIn
          rw [Logged.records_bind, List.mem_append]
          unfold cancelOne
          split
          · exact ⟨first.continues_stop engine, fun _ => .inr (.inl (List.mem_singleton.2 rfl))⟩
          · exact ⟨.refl first, .inl⟩
      | succ position =>
          obtain ⟨later, foundLater, continues, flag⟩ :=
            ih (cancelOne author track first engine).value.2 found
          refine ⟨later, foundLater, continues, fun holds => (flag holds).imp id ?_⟩
          intro cancelled
          unfold cancelIn
          rw [Logged.records_bind, List.mem_append]
          exact .inr (List.mem_append.2 (.inl cancelled))

theorem length_cancelIn (author : Option InstanceId) (track : Option TrackId)
    (active : List ScriptInstance) (engine : ε) :
    (cancelIn author track active engine).value.1.length = active.length := by
  induction active generalizing engine with
  | nil => rfl
  | cons first rest ih => exact congrArg (· + 1) (ih (cancelOne author track first engine).value.2)

theorem evolves_stopOthers (roster : Roster) (author : Option InstanceId)
    (track : Option TrackId) (rig : Rig ε) :
    Evolves plain news (roster, rig) (roster.stopOthers author track rig) where
  config := rfl
  library := rfl
  kernel := .refl _
  asked := id
  stays found := by
    obtain ⟨later, foundLater, continues, flag⟩ :=
      stays_of_cancelIn author track roster.active rig.engine found
    refine ⟨later, foundLater, continues, fun _ holds => (flag holds).imp id ?_⟩
    intro cancelled
    unfold stopOthers
    rw [Logged.records_bind, List.mem_append]
    exact .inl cancelled
  joins {position later} found missing _ := by
    rw [List.getElem?_eq_none_iff] at missing
    obtain ⟨within, _⟩ := List.getElem?_eq_some_iff.1 found
    have kept := length_cancelIn author track roster.active rig.engine
    change position < (cancelIn author track roster.active rig.engine).value.1.length at within
    dsimp only at missing
    omega

/-! ## Requests of scripts to each other -/

theorem evolves_carryOut (roster : Roster) (request : ScriptRequest) (rig : Rig ε)
    (asked : request.IsAsked) :
    Evolves plain news (roster, rig) (roster.carryOut request rig) := by
  cases request with
  | launch action =>
      refine (evolves_route roster action rig).mono (fun _ => asked.isPlain) ?_
      exact fun self launches => absurd launches (not_launches_of_isPlain asked.isPlain self)
  | cancel author track => exact evolves_stopOthers roster author track rig

theorem evolves_carryOutAll (roster : Roster) (rig : Rig ε) (requests : List ScriptRequest)
    (asked : ∀ request ∈ requests, request.IsAsked) :
    Evolves plain news (roster, rig) (roster.carryOutAll rig requests) := by
  induction requests generalizing roster rig with
  | nil => exact .pure _
  | cons request rest ih =>
      have first : Evolves plain news _ _ := evolves_carryOut roster request rig
        (asked request List.mem_cons_self)
      exact .bind first (ih _ _ fun other member =>
        asked other (List.mem_cons_of_mem request member))

omit [Engine ε] in
theorem evolves_withRequests (roster : Roster) (rig : Rig ε) (requests : List ScriptRequest)
    (asked : ∀ request ∈ requests, request.IsAsked) :
    Evolves plain news (roster, rig) (pure (roster.withRequests requests, rig)) :=
  .ofSame ⟨rfl, rfl, .refl _⟩ rfl fun _ => asked

theorem evolves_settle (roster : Roster) (rig : Rig ε) (rounds : Nat)
    (asked : ∀ request ∈ roster.shared.requests, request.IsAsked) :
    Evolves plain news (roster, rig) (roster.settle rig rounds) := by
  induction rounds generalizing roster rig with
  | zero =>
      have dropped : Evolves plain news (roster, rig) (pure (roster.withRequests [], rig)) :=
        evolves_withRequests roster rig [] (by simp)
      unfold settle
      split
      · exact dropped.logged _
      · exact dropped
  | succ rounds ih =>
      unfold settle
      split
      · exact .pure _
      · have taken : Evolves plain news (roster, rig) (pure (roster.withRequests [], rig)) :=
          evolves_withRequests roster rig [] (by simp)
        -- What a round asks for is asked by running instances again, as the next round needs.
        have round : Evolves plain news _ _ := evolves_carryOutAll (roster.withRequests []) rig
          roster.shared.requests asked
        refine .bind (taken.after round) (ih _ _ (round.asked ?_))
        simp [withRequests]

theorem requests_settle (roster : Roster) (rig : Rig ε) (rounds : Nat) :
    (roster.settle rig rounds).value.1.shared.requests = [] := by
  induction rounds generalizing roster rig with
  | zero =>
      unfold settle
      split <;> rfl
  | succ rounds ih =>
      unfold settle
      split
      · next none => exact List.isEmpty_iff.1 none
      · exact ih _ _

/-! ## Script actions from outside -/

theorem evolves_runScript (roster : Roster) (action : Action) (rig : Rig ε)
    (settled : roster.shared.requests = []) :
    Evolves action.IsPlain (Launches roster.shared.library action) (roster, rig)
      (roster.runScript action rig) := by
  have routed := evolves_route roster action rig
  refine .bind routed (evolves_settle _ _ maxRounds (routed.asked ?_))
  simp [settled]

theorem evolves_cancelScripts (roster : Roster) (author : Option InstanceId)
    (track : Option TrackId) (rig : Rig ε) (settled : roster.shared.requests = []) :
    Evolves plain news (roster, rig) (roster.cancelScripts author track rig) := by
  have stopped : Evolves plain news _ _ := evolves_stopOthers roster author track rig
  refine .bind stopped (evolves_settle _ _ maxRounds (stopped.asked ?_))
  simp [settled]

/-! ## Once per block -/

omit [Engine ε] in
theorem evolves_mapActive (roster : Roster) (rig : Rig ε)
    {change : ScriptInstance → ScriptInstance}
    (continues : ∀ self : ScriptInstance,
      self.Continues (change self) ∧ (change self).sustaining = self.sustaining) :
    Evolves plain news (roster, rig) (pure (roster.mapActive change, rig)) where
  config := rfl
  library := rfl
  kernel := .refl _
  asked := id
  stays {position self} found := by
    refine ⟨change self, ?_, (continues self).1, fun _ holds => .inl ?_⟩
    · change (roster.active.map change)[position]? = some (change self)
      rw [List.getElem?_map]
      exact congrArg (Option.map change) found
    · rw [(continues self).2, holds]
  joins {position later} found missing _ := by
    change (roster.active.map change)[position]? = some later at found
    change roster.active[position]? = none at missing
    rw [List.getElem?_map, missing] at found
    cases found

omit [Engine ε] in
theorem evolves_deliverCompletions (roster : Roster) (rig : Rig ε) (kernel : KernelChannel)
    (events : List KernelEvent) :
    Evolves plain news (roster, rig) (pure ((roster.deliverCompletions kernel events).1, rig)) := by
  induction events generalizing roster kernel with
  | nil => exact .pure _
  | cons event rest ih =>
      have told : Evolves plain news (roster, rig) (pure (roster.mapActive
          fun self => self.finishKernel event.id event.returnCode, rig)) := by
        exact evolves_mapActive roster rig fun self => self.continues_finishKernel _ _
      exact told.after (ih _ _)

omit [Engine ε] in
theorem carries_deliverCompletions (roster : Roster) (kernel : KernelChannel)
    (events taken held : List KernelEvent) :
    Traffic.Steps ⟨kernel, taken ++ events, held⟩
      ⟨(roster.deliverCompletions kernel events).2, taken, held⟩ := by
  induction events generalizing roster kernel with
  | nil =>
      rw [List.append_nil]
      exact .refl
  | cons event rest ih =>
      exact .head (.recycle kernel taken rest held event) (ih _ _)

end Operations

end Roster

end Looper
