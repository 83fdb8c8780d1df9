import Looper.Proofs.Dispatch.Mirroring
import Looper.Proofs.Script.Unfolding

/-!
# Idle instances

Instances that have left are kept to be used again.  Nothing of what they were
is left when they are: a launch that finds one does what it does without.  So
what scripts do is told by the roster without its idle instances, whatever these
have run and however they have ended.
-/

namespace Looper

open Roster (Operation)

theorem ScriptInstance.reset_eq_new (self : ScriptInstance) (id : InstanceId) (script : Script) :
    self.reset id script = .new id script := rfl

namespace Roster

def withoutPool (roster : Roster) : Roster :=
  { roster with config := { roster.config with maxActive := 0 }, idle := [] }

theorem shared_withoutPool (roster : Roster) :
    roster.withoutPool.shared = roster.shared := rfl

theorem withRequests_withoutPool (roster : Roster) (requests : List ScriptRequest) :
    roster.withoutPool.withRequests requests = (roster.withRequests requests).withoutPool := rfl

variable {ε : Type}

def unpooled (state : Roster × Rig ε) : Roster × Rig ε :=
  (state.1.withoutPool, state.2)

variable [Engine ε]

/-! ## Script actions -/

theorem unpooled_runAt (roster : Roster) (position : Nat) (self : ScriptInstance)
    (rig : Rig ε) :
    unpooled <$> roster.runAt position self rig = roster.withoutPool.runAt position self rig := by
  unfold runAt
  rw [map_bind]
  rfl

theorem unpooled_runIfNotified (roster : Roster) (position : Nat)
    (notified : Bool × ScriptInstance) (rig : Rig ε) :
    unpooled <$> roster.runIfNotified position notified rig =
      roster.withoutPool.runIfNotified position notified rig := by
  unfold runIfNotified
  split
  · exact roster.unpooled_runAt position notified.2 rig
  · rfl

theorem unpooled_launch (roster : Roster) (script : Script) (action : Action) (rig : Rig ε) :
    unpooled <$> roster.launch script action rig =
      roster.withoutPool.launch script action rig := by
  unfold launch
  cases roster.idle with
  | nil => simp only [map_bind, map_pure]; rfl
  | cons self idle =>
      simp only [ScriptInstance.reset_eq_new, map_bind, map_pure]
      rfl

theorem unpooled_release (roster : Roster) (script : Script) (action : Action) (rig : Rig ε) :
    unpooled <$> roster.release script action rig =
      roster.withoutPool.release script action rig := by
  unfold release
  dsimp only [withoutPool]
  split
  · exact roster.unpooled_runIfNotified _ _ rig
  · exact map_bind _ _ _

theorem unpooled_press (roster : Roster) (script : Script) (action : Action) (rig : Rig ε) :
    unpooled <$> roster.press script action rig =
      roster.withoutPool.press script action rig := by
  unfold press
  dsimp only [withoutPool]
  split
  · split
    · exact roster.unpooled_runIfNotified _ _ rig
    · split
      · exact roster.unpooled_runAt _ _ rig
      · exact roster.unpooled_launch script action rig
  · exact roster.unpooled_launch script action rig

theorem unpooled_route (roster : Roster) (action : Action) (rig : Rig ε) :
    unpooled <$> roster.route action rig = roster.withoutPool.route action rig := by
  unfold route
  dsimp only [withoutPool]
  split
  · split
    · exact map_bind _ _ _
    · split
      · exact roster.unpooled_release _ action rig
      · split
        · exact roster.unpooled_launch _ action rig
        · exact roster.unpooled_press _ action rig
  · rfl

theorem unpooled_stopOthers (roster : Roster) (author : Option InstanceId)
    (track : Option TrackId) (rig : Rig ε) :
    unpooled <$> roster.stopOthers author track rig =
      roster.withoutPool.stopOthers author track rig := by
  unfold stopOthers
  rw [map_bind]
  rfl

/-! ## Requests -/

theorem unpooled_carryOut (roster : Roster) (request : ScriptRequest) (rig : Rig ε) :
    unpooled <$> roster.carryOut request rig = roster.withoutPool.carryOut request rig := by
  cases request with
  | launch action => exact roster.unpooled_route action rig
  | cancel author track => exact roster.unpooled_stopOthers author track rig

theorem unpooled_carryOutAll (roster : Roster) (rig : Rig ε) (requests : List ScriptRequest) :
    unpooled <$> roster.carryOutAll rig requests =
      roster.withoutPool.carryOutAll rig requests := by
  induction requests generalizing roster rig with
  | nil => rfl
  | cons request rest ih =>
      unfold carryOutAll
      rw [← unpooled_carryOut]
      exact Logged.map_bind_eq fun state => ih state.1 state.2

theorem unpooled_settle (roster : Roster) (rig : Rig ε) (rounds : Nat) :
    unpooled <$> roster.settle rig rounds = roster.withoutPool.settle rig rounds := by
  induction rounds generalizing roster rig with
  | zero =>
      unfold settle
      rw [shared_withoutPool]
      cases roster.shared.requests.isEmpty with
      | true => exact map_pure _ _
      | false => exact map_bind _ _ _
  | succ rounds ih =>
      unfold settle
      rw [shared_withoutPool]
      cases roster.shared.requests.isEmpty with
      | true => exact map_pure _ _
      | false =>
          have carried :=
            unpooled_carryOutAll (roster.withRequests []) rig roster.shared.requests
          dsimp only [Bool.false_eq_true, if_false]
          rw [withRequests_withoutPool, ← carried]
          exact Logged.map_bind_eq fun state => ih state.1 state.2

theorem unpooled_runScript (roster : Roster) (action : Action) (rig : Rig ε) :
    unpooled <$> roster.runScript action rig = roster.withoutPool.runScript action rig := by
  unfold runScript
  rw [← unpooled_route]
  exact Logged.map_bind_eq fun state => state.1.unpooled_settle state.2 maxRounds

theorem unpooled_cancelScripts (roster : Roster) (author : Option InstanceId)
    (track : Option TrackId) (rig : Rig ε) :
    unpooled <$> roster.cancelScripts author track rig =
      roster.withoutPool.cancelScripts author track rig := by
  unfold cancelScripts
  rw [← unpooled_stopOthers]
  exact Logged.map_bind_eq fun state => state.1.unpooled_settle state.2 maxRounds

/-! ## Blocks -/

omit [Engine ε] in
theorem withoutPool_deliverCompletions (roster : Roster) (kernel : KernelChannel)
    (completions : List KernelEvent) :
    roster.withoutPool.deliverCompletions kernel completions =
      ((roster.deliverCompletions kernel completions).1.withoutPool,
        (roster.deliverCompletions kernel completions).2) := by
  induction completions generalizing roster kernel with
  | nil => rfl
  | cons event rest ih => exact ih (roster.mapActive _) (kernel.recycle event)

/-- How long a block lasts for an instance does not depend on the room for idle ones. -/
theorem tickAll_withoutPool (config : ScriptConfig) (msec room : Nat)
    (active : List ScriptInstance) (shared : ScriptShared) (rig : Rig ε) :
    tickAll { config with maxActive := room } msec active shared rig =
      tickAll config msec active shared rig := by
  induction active generalizing shared rig with
  | nil => rfl
  | cons self rest ih =>
      unfold tickAll
      refine congrArg (tick config msec { self, shared, rig } >>= ·) (funext fun run => ?_)
      exact congrArg (· >>= _) (ih run.shared run.rig)

/-- Who leaves, and what is done at that, does not depend on who is kept as idle. -/
theorem reclaimFrom_withoutPool (room : Nat) (active idle : List ScriptInstance)
    (rig : Rig ε) :
    (fun left : List ScriptInstance × List ScriptInstance × Rig ε =>
        (left.1, ([] : List ScriptInstance), left.2.2)) <$> reclaimFrom room active idle rig =
      reclaimFrom 0 active [] rig := by
  induction active generalizing idle rig with
  | nil => rfl
  | cons self rest ih =>
      unfold reclaimFrom
      split
      · rw [map_bind]
        exact congrArg (seeOff self rig >>= ·) (funext fun seen => ih _ seen.2)
      · rw [← ih idle rig]
        exact Logged.map_bind_eq fun _ => rfl

theorem unpooled_reclaim (roster : Roster) (rig : Rig ε) :
    unpooled <$> roster.reclaim rig = roster.withoutPool.reclaim rig := by
  unfold reclaim
  dsimp only [withoutPool]
  rw [← reclaimFrom_withoutPool roster.config.maxActive roster.active roster.idle rig]
  exact Logged.map_bind_eq fun _ => rfl

theorem unpooled_maintain (roster : Roster) (frames rate : Nat) (rig : Rig ε) :
    unpooled <$> roster.maintain frames rate rig =
      roster.withoutPool.maintain frames rate rig := by
  unfold maintain
  dsimp only
  rw [withoutPool_deliverCompletions]
  generalize roster.deliverCompletions _ rig.kernel.completed.drain.1 = told
  have ticks := tickAll_withoutPool told.1.config (blockMsec frames rate) 0 told.1.active
    told.1.shared { rig with kernel := told.2 }
  change _ = tickAll { told.1.config with maxActive := 0 } _ told.1.active told.1.shared
    { rig with kernel := told.2 } >>= _
  rw [ticks, map_bind]
  refine congrArg (tickAll told.1.config _ _ _ _ >>= ·) (funext fun ticked => ?_)
  let working : Roster := { told.1 with active := ticked.1, shared := ticked.2.1 }
  change _ = working.withoutPool.settle ticked.2.2 maxRounds >>= _
  rw [← unpooled_settle]
  refine Logged.map_bind_eq fun settled => ?_
  change _ = settled.1.withoutPool.reclaim settled.2 >>= _
  rw [← unpooled_reclaim]
  exact Logged.map_bind_eq fun _ => rfl

theorem unpooled_stopAll (roster : Roster) (rig : Rig ε) :
    unpooled <$> roster.stopAll rig = roster.withoutPool.stopAll rig :=
  unpooled_reclaim _ _

/-! ## Histories -/

/-- Carry out an operation, with what it logs. -/
def carry (state : Roster × Rig ε) : Operation ε → Logged (Roster × Rig ε)
  | .run action rig => state.1.runScript action rig
  | .cancel author track rig => state.1.cancelScripts author track rig
  | .finishEvent event => pure (state.1.finishEvent event, state.2)
  | .finishFunction symbol => pure (state.1.finishFunction symbol, state.2)
  | .install library => pure ((state.1.install library).2, state.2)
  | .maintain frames rate rig => state.1.maintain frames rate rig
  | .stopAll rig => state.1.stopAll rig

theorem value_carry (state : Roster × Rig ε) (operation : Operation ε) :
    (carry state operation).value = outcome state operation := by
  cases operation <;> rfl

/-- An operation does the same without idle instances. -/
theorem unpooled_carry (state : Roster × Rig ε) (operation : Operation ε) :
    unpooled <$> carry state operation = carry (unpooled state) operation := by
  cases operation with
  | run action rig => exact state.1.unpooled_runScript action rig
  | cancel author track rig => exact state.1.unpooled_cancelScripts author track rig
  | finishEvent event => exact map_pure _ _
  | finishFunction symbol => exact map_pure _ _
  | install library => exact map_pure _ _
  | maintain frames rate rig => exact state.1.unpooled_maintain frames rate rig
  | stopAll rig => exact state.1.unpooled_stopAll rig

/--
Operations that follow each other.  Each of them is chosen by all that has become
of the ones before it, idle instances apart; so whoever chooses can answer the
scripts, let the engine go on, or do anything else in between.
-/
def conduct : List (Roster × Rig ε → Operation ε) → Roster × Rig ε → Logged (Roster × Rig ε)
  | [], state => pure state
  | choose :: rest, state => do
      let state ← carry state (choose (unpooled state))
      conduct rest state

theorem unpooled_conduct (choices : List (Roster × Rig ε → Operation ε))
    (state : Roster × Rig ε) :
    unpooled <$> conduct choices state = conduct choices (unpooled state) := by
  induction choices generalizing state with
  | nil => exact map_pure _ _
  | cons choose rest ih =>
      unfold conduct
      change _ = carry (unpooled state) (choose (unpooled state)) >>= _
      rw [← unpooled_carry]
      exact Logged.map_bind_eq ih

/-- With choices that were made beforehand, a history is conducted. -/
theorem value_conduct (history : List (Operation ε)) (state : Roster × Rig ε) :
    (conduct (history.map fun operation _ => operation) state).value =
      history.foldl outcome state := by
  induction history generalizing state with
  | nil => rfl
  | cons operation rest ih =>
      rw [List.map_cons, conduct, Logged.value_bind, ih, value_carry]
      rfl

/-- Two rosters, and what they reached, of which only the idle instances may differ. -/
structure AgreesButPool (first second : Logged (Roster × Rig ε)) : Prop where
  active : second.value.1.active = first.value.1.active
  shared : second.value.1.shared = first.value.1.shared
  lastId : second.value.1.lastId = first.value.1.lastId
  rig : second.value.2 = first.value.2
  records : second.records = first.records

omit [Engine ε] in
theorem AgreesButPool.of_unpooled {first second : Logged (Roster × Rig ε)}
    (same : unpooled <$> second = unpooled <$> first) : AgreesButPool first second := by
  have values : unpooled second.value = unpooled first.value := congrArg Logged.value same
  obtain ⟨rosters, rigs⟩ := Prod.ext_iff.1 values
  have active := congrArg Roster.active rosters
  have shared := congrArg Roster.shared rosters
  have lastId := congrArg Roster.lastId rosters
  have records := congrArg Logged.records same
  exact ⟨active, shared, lastId, rigs, by simpa [Functor.map] using records⟩

/--
How many idle instances are kept is never seen, in no history and whoever chooses what
comes next.  Two rosters that differ in
nothing else, with the same operations, have the same running instances, shared
state and launches at every step; they have called the engine alike, sent the
same requests and actions, and logged the same.  An instance that is used again
is a new one, and a launch that takes one up, whatever it was and however it
ended, does what a launch does that finds none.
-/
theorem pooling_unobservable :
    (∀ (config : ScriptConfig) (rig : Rig ε) (history : List (Operation ε)),
      (conduct (history.map fun operation _ => operation) (.new config {}, rig)).value =
        outcomes config rig history) ∧
    (∀ (config : ScriptConfig) (library : ScriptLibrary) (rig : Rig ε) (room room' : Nat)
      (choices : List (Roster × Rig ε → Operation ε)),
      AgreesButPool
        (conduct choices (.new { config with maxActive := room } library, rig))
        (conduct choices (.new { config with maxActive := room' } library, rig))) ∧
    (∀ (self : ScriptInstance) (id : InstanceId) (script : Script),
      self.reset id script = .new id script) ∧
    (∀ (roster : Roster) (self : ScriptInstance) (idle : List ScriptInstance)
      (script : Script) (action : Action) (rig : Rig ε),
      AgreesButPool
        ({ roster with idle := [] }.launch script action rig)
        ({ roster with idle := self :: idle }.launch script action rig)) := by
  refine ⟨fun _ _ history => value_conduct history _, ?conducted, ScriptInstance.reset_eq_new,
    ?launched⟩
  case conducted =>
    intro config library rig room room' choices
    refine .of_unpooled ?_
    rw [unpooled_conduct, unpooled_conduct]
    rfl
  case launched =>
    intro roster self idle script action rig
    refine .of_unpooled ?_
    rw [unpooled_launch, unpooled_launch]
    rfl

end Roster

end Looper
