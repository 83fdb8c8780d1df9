import Looper.Proofs.Script.Driving
import Looper.Proofs.Script.Unfolding

/-!
# Joining and leaving the roster

Launched instances join the roster at its end, each with the number after the
last.  Nobody leaves until a block ends or everything is stopped.  Then those that
have finished leave together, and the engine is told of each, in the order of
their launch.
-/

namespace Looper

open Roster (Operation)

/-! ## Joining -/

namespace Roster

def numbers (roster : Roster) : List InstanceId :=
  roster.active.map ScriptInstance.id

variable {ε : Type} [Engine ε]

/--
What lies between two states of the roster while nobody leaves: instances join at
the end, with the next numbers, and the engine is driven by scripts.
-/
structure Enlists (before after : Roster × Rig ε) : Prop where
  config : after.1.config = before.1.config
  joined : ∃ count, after.1.lastId = before.1.lastId + count ∧
    after.1.numbers = before.1.numbers ++ List.range' (before.1.lastId + 1) count
  idle : after.1.idle.length ≤ before.1.idle.length
  engine : Driven before.2.engine after.2.engine

namespace Enlists

theorem ofSame {before after : Roster × Rig ε} (config : after.1.config = before.1.config)
    (lastId : after.1.lastId = before.1.lastId) (numbers : after.1.numbers = before.1.numbers)
    (idle : after.1.idle = before.1.idle) (engine : Driven before.2.engine after.2.engine) :
    Enlists before after where
  config := config
  joined := ⟨0, lastId, numbers.trans (List.append_nil _).symm⟩
  idle := by rw [idle]
  engine := engine

theorem refl (state : Roster × Rig ε) : Enlists state state :=
  .ofSame rfl rfl rfl rfl .refl

theorem trans {first second third : Roster × Rig ε} (earlier : Enlists first second)
    (later : Enlists second third) : Enlists first third where
  config := later.config.trans earlier.config
  joined := by
    obtain ⟨count, lastId, numbers⟩ := earlier.joined
    obtain ⟨more, lastIdLater, numbersLater⟩ := later.joined
    refine ⟨count + more, ?_, ?_⟩
    · rw [lastIdLater, lastId, Nat.add_assoc]
    · rw [numbersLater, numbers, lastId, List.append_assoc, Nat.add_right_comm,
        List.range'_append_1]
  idle := later.idle.trans earlier.idle
  engine := earlier.engine.trans later.engine

end Enlists

/-- Changing an instance on a list, but not its number, keeps the numbers of the list. -/
theorem map_id_set {active : List ScriptInstance} {position : Nat}
    {self later : ScriptInstance} (there : active[position]? = some self)
    (same : later.id = self.id) :
    (active.set position later).map ScriptInstance.id = active.map ScriptInstance.id := by
  obtain ⟨within, isSelf⟩ := List.getElem?_eq_some_iff.1 there
  rw [List.map_set, same, ← isSelf, ← List.getElem_map ScriptInstance.id (h := by simpa),
    List.set_getElem_self]

theorem enlists_runAt (roster : Roster) (rig : Rig ε) {position : Nat}
    {self entered : ScriptInstance} (there : roster.active[position]? = some self)
    (same : entered.id = self.id) :
    Enlists (roster, rig) (roster.runAt position entered rig).value := by
  have kept := (Run.evolves_go false { self := entered, shared := roster.shared, rig }).id_eq
  apply Enlists.ofSame
  · rfl
  · rfl
  · exact map_id_set there (kept.trans same)
  · rfl
  · exact Run.drives_go false { self := entered, shared := roster.shared, rig }

theorem enlists_runIfNotified (roster : Roster) (rig : Rig ε) {position : Nat}
    {self : ScriptInstance} {notified : Bool × ScriptInstance}
    (there : roster.active[position]? = some self) (same : notified.2.id = self.id) :
    Enlists (roster, rig) (roster.runIfNotified position notified rig).value := by
  unfold runIfNotified
  split
  · exact enlists_runAt roster rig there same
  · exact .ofSame rfl rfl (map_id_set there same) rfl .refl

/-- A launched instance joins with the next number, and may have been idle before. -/
theorem enlists_launch (roster : Roster) (script : Script) (action : Action) (rig : Rig ε) :
    Enlists (roster, rig) (roster.launch script action rig).value := by
  rw [value_launch]
  have kept := (Run.evolves_go false
    { self := roster.launched script action, shared := roster.shared, rig }).id_eq
  constructor
  · rfl
  · refine ⟨1, rfl, ?_⟩
    have isNext := kept.trans (roster.launched_eq script action).1
    change (roster.active ++ [_]).map ScriptInstance.id = _
    rw [List.map_append, List.map_singleton]
    exact congrArg (fun id => roster.numbers ++ [id]) isNext
  · exact (List.length_tail ▸ Nat.sub_le _ _ : roster.idle.tail.length ≤ roster.idle.length)
  · exact Run.drives_go false
      { self := roster.launched script action, shared := roster.shared, rig }

theorem enlists_release (roster : Roster) (script : Script) (action : Action) (rig : Rig ε) :
    Enlists (roster, rig) (roster.release script action rig).value := by
  unfold release
  dsimp only
  split
  · next position self searched read =>
      exact enlists_runIfNotified roster rig (found_of_findIdx? searched read)
        self.continues_endSustain.1.id
  · exact .refl _

theorem enlists_press (roster : Roster) (script : Script) (action : Action) (rig : Rig ε) :
    Enlists (roster, rig) (roster.press script action rig).value := by
  unfold press
  dsimp only
  split
  · next position self searched read =>
      have there := found_of_findIdx? searched read
      split
      · exact enlists_runIfNotified roster rig there self.continues_click.1.id
      · split
        · next label _ => exact enlists_runAt roster rig there (self.continues_notify label).1.id
        · exact enlists_launch roster script action rig
  · exact enlists_launch roster script action rig

theorem enlists_route (roster : Roster) (action : Action) (rig : Rig ε) :
    Enlists (roster, rig) (roster.route action rig).value := by
  unfold route
  split
  · split
    · exact .refl _
    · split
      · exact enlists_release roster _ action rig
      · split
        · exact enlists_launch roster _ action rig
        · exact enlists_press roster _ action rig
  · exact .refl _

theorem enlists_stopOthers (roster : Roster) (author : Option InstanceId)
    (track : Option TrackId) (rig : Rig ε) :
    Enlists (roster, rig) (roster.stopOthers author track rig).value := by
  have stays (active : List ScriptInstance) (engine : ε) :
      (cancelIn author track active engine).value.1.map ScriptInstance.id =
        active.map ScriptInstance.id := by
    induction active generalizing engine with
    | nil => rfl
    | cons self rest ih =>
        have first : (cancelOne author track self engine).value.1.id = self.id := by
          unfold cancelOne
          split <;> rfl
        have others := ih (cancelOne author track self engine).value.2
        change (cancelOne author track self engine).value.1.id :: _ = self.id :: _
        rw [first]
        exact congrArg (self.id :: ·) others
  apply Enlists.ofSame
  · rfl
  · rfl
  · exact stays roster.active rig.engine
  · rfl
  · exact driven_cancelIn author track roster.active rig.engine

theorem enlists_carryOutAll (roster : Roster) (rig : Rig ε) (requests : List ScriptRequest) :
    Enlists (roster, rig) (roster.carryOutAll rig requests).value := by
  induction requests generalizing roster rig with
  | nil => exact .refl _
  | cons request rest ih =>
      refine .trans ?_ (ih _ _)
      cases request with
      | launch action => exact enlists_route roster action rig
      | cancel author track => exact enlists_stopOthers roster author track rig

theorem enlists_settle (roster : Roster) (rig : Rig ε) (rounds : Nat) :
    Enlists (roster, rig) (roster.settle rig rounds).value := by
  have taken (roster : Roster) : Enlists (roster, rig) (roster.withRequests [], rig) :=
    .ofSame rfl rfl rfl rfl .refl
  induction rounds generalizing roster rig with
  | zero =>
      unfold settle
      split <;> exact taken roster
  | succ rounds ih =>
      unfold settle
      split
      · exact .refl _
      · exact ((taken roster).trans (enlists_carryOutAll _ rig _)).trans
          (ih _ _ fun _ => .ofSame rfl rfl rfl rfl .refl)

theorem enlists_mapActive (roster : Roster) (rig : Rig ε)
    {change : ScriptInstance → ScriptInstance}
    (continues : ∀ self : ScriptInstance, (change self).id = self.id) :
    Enlists (roster, rig) (roster.mapActive change, rig) := by
  apply Enlists.ofSame
  · rfl
  · rfl
  · change (roster.active.map change).map ScriptInstance.id = _
    rw [List.map_map]
    exact List.map_congr_left fun self _ => continues self
  · rfl
  · exact .refl

theorem enlists_deliverCompletions (roster : Roster) (rig : Rig ε) (kernel : KernelChannel)
    (events : List KernelEvent) :
    Enlists (roster, rig)
      ((roster.deliverCompletions kernel events).1,
        { rig with kernel := (roster.deliverCompletions kernel events).2 }) := by
  induction events generalizing roster kernel with
  | nil => exact .ofSame rfl rfl rfl rfl .refl
  | cons event rest ih =>
      exact (enlists_mapActive roster rig fun self =>
        (self.continues_finishKernel event.id event.returnCode).1.id).trans (ih _ _)

/-! ## Until somebody leaves -/

/-- All that maintaining the scripts does until the finished ones leave. -/
def work (roster : Roster) (frames rate : Nat) (rig : Rig ε) : Roster × Rig ε :=
  let told := roster.deliverCompletions
    { rig.kernel with completed := rig.kernel.completed.drain.2 } rig.kernel.completed.drain.1
  let ticked := (tickAll roster.config (blockMsec frames rate) told.1.active told.1.shared
    { rig with kernel := told.2 }).value
  ({ told.1 with active := ticked.1, shared := ticked.2.1 }.settle ticked.2.2 maxRounds).value

omit [Engine ε] in
theorem config_deliverCompletions (roster : Roster) (kernel : KernelChannel)
    (events : List KernelEvent) :
    (roster.deliverCompletions kernel events).1.config = roster.config := by
  induction events generalizing roster kernel with
  | nil => rfl
  | cons event rest ih => exact ih _ _

theorem maintain_eq (roster : Roster) (frames rate : Nat) (rig : Rig ε) :
    (roster.maintain frames rate rig).value =
      (let left := ((roster.work frames rate rig).1.reclaim (roster.work frames rate rig).2).value
       ({ left.1 with shared := { left.1.shared with block := left.1.shared.block + 1 } },
         left.2)) := by
  unfold maintain work
  simp only [Logged.value_bind, Logged.value_pure, config_deliverCompletions]

omit [Engine ε] in
theorem LastsAll.numbers {active : List ScriptInstance} {shared : ScriptShared} {rig : Rig ε}
    {after : List ScriptInstance × ScriptShared × Rig ε}
    (lasts : LastsAll active shared rig after) :
    after.1.map ScriptInstance.id = active.map ScriptInstance.id := by
  obtain ⟨later, rest⟩ := after
  have each := lasts.each
  dsimp only at each ⊢
  clear lasts
  induction each with
  | nil => rfl
  | cons continues _ ih => rw [List.map_cons, List.map_cons, continues.1.id, ih]

theorem enlists_work (roster : Roster) (frames rate : Nat) (rig : Rig ε) :
    Enlists (roster, rig) (roster.work frames rate rig) := by
  unfold work
  dsimp only
  have delivers := enlists_deliverCompletions roster rig
    { rig.kernel with completed := rig.kernel.completed.drain.2 } rig.kernel.completed.drain.1
  generalize roster.deliverCompletions
    { rig.kernel with completed := rig.kernel.completed.drain.2 }
    rig.kernel.completed.drain.1 = told at delivers ⊢
  have lasts := lastsAll_tickAll roster.config (blockMsec frames rate) told.1.active
    told.1.shared { rig with kernel := told.2 }
  have driven := driven_tickAll roster.config (blockMsec frames rate) told.1.active
    told.1.shared { rig with kernel := told.2 }
  generalize (tickAll roster.config (blockMsec frames rate) told.1.active told.1.shared
    { rig with kernel := told.2 }).value = ticked at lasts driven ⊢
  have ticks : Enlists (told.1, { rig with kernel := told.2 })
      ({ told.1 with active := ticked.1, shared := ticked.2.1 }, ticked.2.2) := by
    apply Enlists.ofSame
    · rfl
    · rfl
    · exact lasts.numbers
    · rfl
    · exact driven
  exact (delivers.trans ticks).trans (enlists_settle _ _ maxRounds)

/-- Whether the finished instances leave at the end of an operation. -/
def Operation.dismisses : Operation ε → Bool
  | .maintain .. | .stopAll _ => true
  | _ => false

/-- All that an operation does until the finished instances leave. -/
def untilLeaving (state : Roster × Rig ε) : Operation ε → Roster × Rig ε
  | .maintain frames rate rig => state.1.work frames rate rig
  | .stopAll rig => (state.1.stopOthers none none rig).value
  | operation => outcome state operation

def Operation.reached (state : Roster × Rig ε) : Operation ε → Rig ε
  | .run _ rig | .cancel _ _ rig | .maintain _ _ rig | .stopAll rig => rig
  | _ => state.2

theorem enlists_untilLeaving (state : Roster × Rig ε) (operation : Operation ε) :
    Enlists (state.1, operation.reached state) (untilLeaving state operation) := by
  cases operation with
  | run action rig => exact (enlists_route state.1 action rig).trans (enlists_settle _ _ maxRounds)
  | cancel author track rig =>
      exact (enlists_stopOthers state.1 author track rig).trans (enlists_settle _ _ maxRounds)
  | finishEvent event =>
      exact enlists_mapActive state.1 state.2 fun self => (self.continues_finishEvent event).1.id
  | finishFunction symbol =>
      exact enlists_mapActive state.1 state.2 fun self =>
        (self.continues_finishFunction symbol).1.id
  | install library => exact .ofSame rfl rfl rfl rfl .refl
  | maintain frames rate rig => exact enlists_work state.1 frames rate rig
  | stopAll rig => exact enlists_stopOthers state.1 none none rig

/-- An operation ends there, or the finished instances leave; then the block may be over. -/
theorem outcome_eq (state : Roster × Rig ε) (operation : Operation ε) :
    ∃ blocks, outcome state operation =
      (let ready := untilLeaving state operation
       let left := if operation.dismisses then (ready.1.reclaim ready.2).value else ready
       ({ left.1 with shared := { left.1.shared with block := left.1.shared.block + blocks } },
         left.2)) := by
  cases operation with
  | maintain frames rate rig => exact ⟨1, maintain_eq state.1 frames rate rig⟩
  | stopAll rig =>
      refine ⟨0, ?_⟩
      change (state.1.stopAll rig).value = _
      unfold stopAll
      rw [Moment.foldl_stop]
      rfl
  | _ => exact ⟨0, rfl⟩

/-! ## Leaving -/

/-- With no more idle instances than are kept, there are no more after others have left. -/
theorem length_idle_reclaimFrom (maxIdle : Nat) (active idle : List ScriptInstance)
    (rig : Rig ε) (bounded : idle.length ≤ maxIdle) :
    (reclaimFrom maxIdle active idle rig).value.2.1.length ≤ maxIdle := by
  induction active generalizing idle rig with
  | nil => exact bounded
  | cons self rest ih =>
      unfold reclaimFrom
      split
      · apply ih
        split
        · next room => exact room
        · exact bounded
      · exact ih idle rig bounded

end Roster

/-! ## Reports -/

/-- An engine, and the instances that it has been told are gone, in the order of the reports. -/
structure Attended (ε : Type) where
  engine : ε
  gone : List InstanceId := []

instance {ε : Type} [Engine ε] : Engine (Attended ε) where
  trackCount state := Engine.trackCount state.engine
  activeTrack state := Engine.activeTrack state.engine
  trackGroup state := Engine.trackGroup state.engine
  isFocusLocked state := Engine.isFocusLocked state.engine
  groupOrdinal state := Engine.groupOrdinal state.engine
  invoke state track action :=
    let (event, engine) := Engine.invoke state.engine track action
    (event, { state with engine })
  parameter state := Engine.parameter state.engine
  setParameter state track name value :=
    { state with engine := Engine.setParameter state.engine track name value }
  scheduleWait state track msec :=
    let (event, engine) := Engine.scheduleWait state.engine track msec
    (event, { state with engine })
  scriptFinished state id :=
    { engine := Engine.scriptFinished state.engine id, gone := state.gone ++ [id] }

variable {ε : Type} [Engine ε]

theorem Driven.gone_eq {before after : Attended ε} (driven : Driven before after) :
    after.gone = before.gone := by
  induction driven with
  | refl => rfl
  | invoke _ track action ih => exact ih
  | set _ track name value ih => exact ih
  | schedule _ track msec ih => exact ih

namespace Roster

theorem gone_reclaimFrom (maxIdle : Nat) (active idle : List ScriptInstance)
    (rig : Rig (Attended ε)) :
    (reclaimFrom maxIdle active idle rig).value.2.2.engine.gone =
      rig.engine.gone ++ (active.filter ScriptInstance.isFinished).map ScriptInstance.id := by
  induction active generalizing idle rig with
  | nil => exact (List.append_nil _).symm
  | cons self rest ih =>
      unfold reclaimFrom
      split
      · next finished =>
          have reported : (seeOff self rig).value.2.engine.gone = rig.engine.gone ++ [self.id] := by
            rw [engine_seeOff]
            exact (self.driven_restoreUses (Engine.scriptFinished rig.engine self.id)).gone_eq
          refine (ih _ _).trans ?_
          rw [reported, List.filter_cons_of_pos finished, List.map_cons, List.append_assoc]
          rfl
      · next unfinished =>
          rw [List.filter_cons_of_neg unfinished]
          exact ih idle rig

/-! ## Attended histories -/

/-- An operation on an engine that has received some reports before. -/
def Operation.attended (gone : List InstanceId) : Operation ε → Operation (Attended ε)
  | .run action rig => .run action (attend rig)
  | .cancel author track rig => .cancel author track (attend rig)
  | .finishEvent event => .finishEvent event
  | .finishFunction symbol => .finishFunction symbol
  | .install library => .install library
  | .maintain frames rate rig => .maintain frames rate (attend rig)
  | .stopAll rig => .stopAll (attend rig)
where
  attend (rig : Rig ε) : Rig (Attended ε) :=
    { engine := ⟨rig.engine, gone⟩, kernel := rig.kernel, interface := rig.interface }

def attend (state : Roster × Rig (Attended ε)) (operation : Operation ε) :
    Roster × Rig (Attended ε) :=
  outcome state (operation.attended state.2.engine.gone)

def attended (config : ScriptConfig) (rig : Rig ε) (history : List (Operation ε)) :
    Roster × Rig (Attended ε) :=
  history.foldl attend (.new config {}, Operation.attended.attend [] rig)

omit [Engine ε] in
theorem gone_reached (state : Roster × Rig (Attended ε)) (operation : Operation ε) :
    ((operation.attended state.2.engine.gone).reached state).engine.gone =
      state.2.engine.gone := by
  cases operation <;> rfl

def leaving (operation : Operation ε) (active : List ScriptInstance) : List ScriptInstance :=
  if operation.dismisses then active.filter ScriptInstance.isFinished else []

def staying (operation : Operation ε) (active : List ScriptInstance) : List ScriptInstance :=
  if operation.dismisses then active.filter fun self => !self.isFinished else active

omit [Engine ε] in
theorem staying_sublist (operation : Operation ε) (active : List ScriptInstance) :
    (staying operation active).Sublist active := by
  unfold staying
  split
  · exact List.filter_sublist
  · exact .refl _

omit [Engine ε] in
theorem leaving_sublist (operation : Operation ε) (active : List ScriptInstance) :
    (leaving operation active).Sublist active := by
  unfold leaving
  split
  · exact List.filter_sublist
  · exact List.nil_sublist _

omit [Engine ε] in
theorem perm_staying_leaving (operation : Operation ε) (active : List ScriptInstance) :
    (staying operation active ++ leaving operation active).Perm active := by
  unfold staying leaving
  cases operation.dismisses with
  | true =>
      exact List.perm_append_comm.trans (List.filter_append_perm ScriptInstance.isFinished active)
  | false => exact .of_eq (List.append_nil active)

def ready (state : Roster × Rig (Attended ε)) (operation : Operation ε) : Roster :=
  (untilLeaving state (operation.attended state.2.engine.gone)).1

/-- One operation: some join, and then those who have finished leave and are reported. -/
structure Passed (state : Roster × Rig (Attended ε)) (operation : Operation ε) : Prop where
  config : (attend state operation).1.config = state.1.config
  joined : ∃ count, (attend state operation).1.lastId = state.1.lastId + count ∧
    (ready state operation).numbers =
      state.1.numbers ++ List.range' (state.1.lastId + 1) count
  active : (attend state operation).1.active = staying operation (ready state operation).active
  gone : (attend state operation).2.engine.gone = state.2.engine.gone ++
    (leaving operation (ready state operation).active).map ScriptInstance.id
  idle : state.1.idle.length ≤ state.1.config.maxActive →
    (attend state operation).1.idle.length ≤ state.1.config.maxActive

theorem passed_attend (state : Roster × Rig (Attended ε)) (operation : Operation ε) :
    Passed state operation := by
  have enlists := enlists_untilLeaving state (operation.attended state.2.engine.gone)
  have unreported := enlists.engine.gone_eq.trans (gone_reached state operation)
  obtain ⟨blocks, isOutcome⟩ := outcome_eq state (operation.attended state.2.engine.gone)
  have sameKind : (operation.attended state.2.engine.gone).dismisses = operation.dismisses := by
    cases operation <;> rfl
  rw [sameKind] at isOutcome
  generalize isBefore : untilLeaving state (operation.attended state.2.engine.gone) = before
    at enlists unreported isOutcome
  have isReady : ready state operation = before.1 := congrArg Prod.fst isBefore
  change attend state operation = _ at isOutcome
  have config := enlists.config
  dsimp only at config unreported isOutcome
  cases dismisses : operation.dismisses with
  | true =>
      rw [dismisses, if_pos rfl] at isOutcome
      have gone := gone_reclaimFrom before.1.config.maxActive before.1.active before.1.idle before.2
      constructor
      · rw [isOutcome]
        exact config
      · rw [isOutcome, isReady]
        exact enlists.joined
      · rw [isOutcome, isReady, staying, dismisses]
        exact (reclaim_spec before.1 before.2).2.2
      · rw [isOutcome, isReady, leaving, dismisses, if_pos rfl, ← unreported]
        exact gone
      · intro bounded
        rw [isOutcome, ← config]
        exact length_idle_reclaimFrom _ _ _ _ (config ▸ enlists.idle.trans bounded)
  | false =>
      rw [dismisses] at isOutcome
      constructor
      · rw [isOutcome]
        exact config
      · rw [isOutcome, isReady]
        exact enlists.joined
      · rw [isOutcome, isReady, staying, dismisses]
        rfl
      · rw [isOutcome, isReady, leaving, dismisses, ← unreported]
        exact (List.append_nil _).symm
      · intro bounded
        rw [isOutcome]
        exact enlists.idle.trans bounded

/-- What holds of the roster and the reports between operations. -/
structure InOrder (config : ScriptConfig) (state : Roster × Rig (Attended ε)) : Prop where
  kept : state.1.config = config
  ordered : state.1.numbers.Pairwise (· < ·)
  accounted : (state.1.numbers ++ state.2.engine.gone).Perm (List.range' 1 state.1.lastId)
  idle : state.1.idle.length ≤ config.maxActive

section

variable {config : ScriptConfig} {state : Roster × Rig (Attended ε)}

omit [Engine ε] in
/-- Those who join come after all who are there. -/
theorem InOrder.ordered_joined (inOrder : InOrder config state) (count : Nat) :
    (state.1.numbers ++ List.range' (state.1.lastId + 1) count).Pairwise (· < ·) := by
  refine List.pairwise_append.2 ⟨inOrder.ordered, List.pairwise_lt_range', ?_⟩
  intro id there later joins
  have launched := inOrder.accounted.subset (List.mem_append_left _ there)
  have bound := (List.mem_range'_1.1 launched).2
  rw [Nat.add_comm] at bound
  exact Nat.lt_of_lt_of_le bound (List.mem_range'_1.1 joins).1

/-- Just before anybody leaves, all stand in the order of their launch. -/
theorem InOrder.ordered_ready (inOrder : InOrder config state) {operation : Operation ε}
    (passed : Passed state operation) :
    (ready state operation).numbers.Pairwise (· < ·) := by
  obtain ⟨count, -, numbers⟩ := passed.joined
  rw [numbers]
  exact inOrder.ordered_joined count

/-- An operation keeps the order and the account. -/
theorem InOrder.attend (inOrder : InOrder config state) (operation : Operation ε) :
    InOrder config (attend state operation) := by
  have passed := passed_attend state operation
  obtain ⟨count, lastId, numbers⟩ := passed.joined
  have before := perm_staying_leaving operation (ready state operation).active
  have isActive : (Roster.attend state operation).1.numbers =
      (staying operation (ready state operation).active).map ScriptInstance.id :=
    congrArg (List.map ScriptInstance.id) passed.active
  constructor
  · exact passed.config.trans inOrder.kept
  · rw [isActive]
    exact (inOrder.ordered_ready passed).sublist ((staying_sublist operation _).map _)
  · rw [isActive, passed.gone, lastId]
    calc
      _ = (staying operation (ready state operation).active).map ScriptInstance.id ++
            (state.2.engine.gone ++
              (leaving operation (ready state operation).active).map ScriptInstance.id) := rfl
      List.Perm _ ((staying operation (ready state operation).active).map ScriptInstance.id ++
            ((leaving operation (ready state operation).active).map ScriptInstance.id ++
              state.2.engine.gone)) := List.perm_append_comm.append_left _
      _ = (staying operation (ready state operation).active ++
            leaving operation (ready state operation).active).map ScriptInstance.id ++
              state.2.engine.gone := by rw [List.map_append, List.append_assoc]
      List.Perm _ ((ready state operation).numbers ++ state.2.engine.gone) :=
          (before.map ScriptInstance.id).append_right _
      _ = state.1.numbers ++ (List.range' (state.1.lastId + 1) count ++ state.2.engine.gone) := by
          rw [numbers, List.append_assoc]
      List.Perm _ (state.1.numbers ++
            (state.2.engine.gone ++ List.range' (state.1.lastId + 1) count)) :=
          List.perm_append_comm.append_left _
      _ = (state.1.numbers ++ state.2.engine.gone) ++
            List.range' (state.1.lastId + 1) count := (List.append_assoc ..).symm
      List.Perm _ (List.range' 1 state.1.lastId ++ List.range' (state.1.lastId + 1) count) :=
          inOrder.accounted.append_right _
      _ = List.range' 1 (state.1.lastId + count) := by
          rw [Nat.add_comm state.1.lastId 1, List.range'_append_1]
  · rw [← inOrder.kept]
    exact passed.idle (inOrder.kept ▸ inOrder.idle)

theorem inOrder_attended (config : ScriptConfig) (rig : Rig ε) (history : List (Operation ε)) :
    InOrder config (attended config rig history) := by
  have starts : InOrder config (new config {}, Operation.attended.attend [] rig) :=
    ⟨rfl, .nil, .nil, Nat.le_of_eq (List.length_replicate ..)⟩
  exact List.foldlRecOn history _ starts fun _ inOrder operation _ => inOrder.attend operation

end

/--
After every history: the running instances stand in the order of their launch; of
all numbers given out so far, each is that of a running instance or has been
reported once; and no more instances are idle than are kept.  In every further
operation those launched come last and have the next numbers, and then, if a block
ends or everything is stopped, exactly those who have finished leave, and they are
reported in the order of their launch.
-/
theorem roster_in_launch_order (config : ScriptConfig) (rig : Rig ε)
    (history : List (Operation ε)) :
    let state := attended config rig history
    state.1.numbers.Pairwise (· < ·) ∧
    (state.1.numbers ++ state.2.engine.gone).Perm (List.range' 1 state.1.lastId) ∧
    state.1.idle.length ≤ config.maxActive ∧
    ∀ operation,
      let next := attended config rig (history ++ [operation])
      let there := (ready state operation).active
      let reported := (leaving operation there).map ScriptInstance.id
      (∃ count, next.1.lastId = state.1.lastId + count ∧
        there.map ScriptInstance.id =
          state.1.numbers ++ List.range' (state.1.lastId + 1) count) ∧
      next.1.active = staying operation there ∧
      next.2.engine.gone = state.2.engine.gone ++ reported ∧
      reported.Pairwise (· < ·) ∧
      (operation.dismisses && next.1.active.any ScriptInstance.isFinished) = false := by
  intro state
  have inOrder := inOrder_attended config rig history
  refine ⟨inOrder.ordered, inOrder.accounted, inOrder.idle, ?_⟩
  intro operation next there reported
  have isNext : next = attend state operation := List.foldl_append
  have passed := passed_attend state operation
  rw [isNext]
  refine ⟨passed.joined, passed.active, passed.gone, ?_, ?_⟩
  · exact (inOrder.ordered_ready passed).sublist ((leaving_sublist operation there).map _)
  · rw [passed.active]
    unfold staying
    cases operation.dismisses with
    | true => simp
    | false => rfl

end Roster

end Looper
