import Looper.Proofs.Script.Enlisting
import Looper.Proofs.Script.Reset

/-!
# What a cancellation does

A cancellation between operations stops exactly the instances that it concerns: it
puts back the parameters that they saved, and changes nothing else.  Whoever it has
stopped does nothing any more.  It stays on the roster until finished instances
leave, and is reported then.
-/

namespace Looper

/-! ## Stopping -/

/-- An instance that has been stopped and has nothing left to put back. -/
def ScriptInstance.stopped (self : ScriptInstance) : ScriptInstance :=
  { self with stack := [], pc := none, sustaining := false, clicking := false, uses := [] }

def putBack {ε : Type} [Engine ε] (engine : ε) (saved : List SavedParameter) : ε :=
  saved.foldl (fun engine saved => Engine.setParameter engine saved.track saved.name saved.value)
    engine

theorem putBack_append {ε : Type} [Engine ε] (engine : ε) (front back : List SavedParameter) :
    putBack engine (front ++ back) = putBack (putBack engine front) back :=
  List.foldl_append

/-- To put parameters back is all the same to an engine that keeps the reports. -/
theorem putBack_attended {ε : Type} [Engine ε] (state : Attended ε) (saved : List SavedParameter) :
    putBack state saved = { state with engine := putBack state.engine saved } := by
  induction saved generalizing state with
  | nil => rfl
  | cons first rest ih => exact ih _

namespace Roster

/-- A cancellation concerns everyone but its author, or those of them that are on its track. -/
theorem isCancelled_iff (author : Option InstanceId) (track : Option TrackId)
    (self : ScriptInstance) :
    isCancelled author track self = true ↔
      author ≠ some self.id ∧ (track = none ∨ self.track = track) := by
  simp [isCancelled, Option.isNone_iff_eq_none]

def afterCancel (author : Option InstanceId) (track : Option TrackId)
    (active : List ScriptInstance) : List ScriptInstance :=
  active.map fun self => if isCancelled author track self then self.stopped else self

/-- The parameters that are put back by a cancellation, in order. -/
def savedByCancelled (author : Option InstanceId) (track : Option TrackId)
    (active : List ScriptInstance) : List SavedParameter :=
  (active.filter (isCancelled author track)).flatMap ScriptInstance.uses

variable {ε : Type} [Engine ε]

theorem value_cancelIn (author : Option InstanceId) (track : Option TrackId)
    (active : List ScriptInstance) (engine : ε) :
    (cancelIn author track active engine).value =
      (afterCancel author track active,
        putBack engine (savedByCancelled author track active)) := by
  induction active generalizing engine with
  | nil => rfl
  | cons self others ih =>
      unfold cancelIn cancelOne
      simp only [Logged.value_bind, Logged.value_pure, ih]
      by_cases concerned : isCancelled author track self = true
      · have first : savedByCancelled author track (self :: others) =
            self.uses ++ savedByCancelled author track others := by
          unfold savedByCancelled
          rw [List.filter_cons_of_pos concerned, List.flatMap_cons]
        have stopped : afterCancel author track (self :: others) =
            self.stopped :: afterCancel author track others :=
          congrArg (· :: afterCancel author track others) (if_pos concerned)
        rw [if_pos concerned, first, stopped, putBack_append]
        rfl
      · have none : savedByCancelled author track (self :: others) =
            savedByCancelled author track others := by
          unfold savedByCancelled
          rw [List.filter_cons_of_neg concerned]
        have spared : afterCancel author track (self :: others) =
            self :: afterCancel author track others :=
          congrArg (· :: afterCancel author track others) (if_neg concerned)
        rw [if_neg concerned, none, spared]
        rfl

theorem value_stopOthers (roster : Roster) (author : Option InstanceId) (track : Option TrackId)
    (rig : Rig ε) :
    (roster.stopOthers author track rig).value =
      ({ roster with active := afterCancel author track roster.active },
        { rig with
          engine := putBack rig.engine (savedByCancelled author track roster.active) }) := by
  unfold stopOthers
  simp only [Logged.value_bind, Logged.value_pure, value_cancelIn]

theorem value_settle_of_settled (roster : Roster) (rig : Rig ε)
    (settled : roster.shared.requests = []) (rounds : Nat) :
    (roster.settle rig rounds).value = (roster, rig) := by
  unfold settle
  cases rounds with
  | zero =>
      have same : roster.withRequests [] = roster := by rw [← settled]; rfl
      rw [settled, same]
      rfl
  | succ rounds =>
      rw [settled]
      rfl

theorem value_cancelScripts (roster : Roster) (settled : roster.shared.requests = [])
    (author : Option InstanceId) (track : Option TrackId) (rig : Rig ε) :
    (roster.cancelScripts author track rig).value =
      ({ roster with active := afterCancel author track roster.active },
        { rig with
          engine := putBack rig.engine (savedByCancelled author track roster.active) }) := by
  unfold cancelScripts
  rw [Logged.value_bind, value_stopOthers]
  exact value_settle_of_settled { roster with active := afterCancel author track roster.active }
    { rig with engine := putBack rig.engine (savedByCancelled author track roster.active) } settled
    maxRounds

end Roster

/-! ## Whoever has been stopped -/

def Moment.between {ε : Type} (state : Roster × Rig ε) : Moment ε :=
  { roster := state.1, rig := state.2 }

theorem Moment.IsSilenced.between {ε : Type} {moment : Moment ε} {id : InstanceId}
    (silenced : moment.IsSilenced id) : (Moment.between moment.state).IsSilenced id :=
  ⟨silenced.launched, silenced.stopped⟩

namespace Roster

variable {ε : Type} [Engine ε]

theorem settled_outcome {state : Roster × Rig ε} (settled : state.1.shared.requests = [])
    (operation : Operation ε) : (outcome state operation).1.shared.requests = [] := by
  obtain ⟨last, -, rests, isLast⟩ := (Moment.between state).passes_operate ⟨rfl, settled⟩ operation
  change last.state = outcome state operation at isLast
  rw [← isLast]
  exact rests.2

theorem moves_attend {state : Roster × Rig (Attended ε)}
    (settled : state.1.shared.requests = []) (later : List (Operation ε)) :
    ∃ steps last, Moves (.between state) steps last ∧ last.IsAtRest ∧
      last.state = later.foldl attend state := by
  induction later using List.reverseRecOn with
  | nil => exact ⟨[], _, .nil _, ⟨rfl, settled⟩, rfl⟩
  | append_singleton later operation ih =>
      obtain ⟨front, middle, earlier, rests, isMiddle⟩ := ih
      obtain ⟨last, ⟨back, passes, -⟩, atRest, isLast⟩ := middle.passes_operate rests
        (operation.attended middle.state.2.engine.gone)
      refine ⟨_, last, earlier.append (.cons (.begin rests _) passes), atRest, ?_⟩
      rw [isLast, List.foldl_append, ← isMiddle]
      rfl

theorem settled_attended (config : ScriptConfig) (rig : Rig ε) (history : List (Operation ε)) :
    (attended config rig history).1.shared.requests = [] :=
  List.foldlRecOn (motive := fun state : Roster × Rig (Attended ε) =>
    state.1.shared.requests = []) history _ rfl fun _ settled _ _ => settled_outcome settled _

theorem silenced_attend {state : Roster × Rig (Attended ε)}
    (settled : state.1.shared.requests = []) {id : InstanceId}
    (silenced : (Moment.between state).IsSilenced id) (later : List (Operation ε)) :
    (Moment.between (later.foldl attend state)).IsSilenced id := by
  obtain ⟨steps, last, moves, -, isLast⟩ := moves_attend settled later
  rw [← isLast]
  exact (moves.keeps (fun _ move silenced => (move.silenced silenced).1) silenced).between

section

variable {config : ScriptConfig} {state : Roster × Rig (Attended ε)}

omit [Engine ε] in
theorem InOrder.nodup (inOrder : InOrder config state) :
    (state.1.numbers ++ state.2.engine.gone).Nodup :=
  inOrder.accounted.nodup_iff.2 List.nodup_range'

omit [Engine ε] in
theorem InOrder.mem_iff (inOrder : InOrder config state) (id : InstanceId) :
    id ∈ state.1.numbers ++ state.2.engine.gone ↔ 1 ≤ id ∧ id ≤ state.1.lastId := by
  rw [inOrder.accounted.mem_iff, List.mem_range'_1, Nat.add_comm, Nat.lt_succ_iff]

omit [Engine ε] in
theorem InOrder.numbered (inOrder : InOrder config state) :
    (Moment.between state).IsNumbered := by
  refine ⟨inOrder.ordered.imp Nat.ne_of_lt, fun self member => ?_⟩
  exact ((inOrder.mem_iff self.id).1
    (List.mem_append_left _ (List.mem_map_of_mem (f := ScriptInstance.id) member))).2

theorem stays_attend {id : InstanceId} (there : id ∈ state.1.numbers)
    (later : List (Operation ε)) (nobody : ∀ operation ∈ later, operation.dismisses = false) :
    id ∈ (later.foldl attend state).1.numbers := by
  induction later generalizing state with
  | nil => exact there
  | cons operation later ih =>
      refine ih ?_ fun other member => nobody other (List.mem_cons_of_mem _ member)
      have passed := passed_attend state operation
      have active := passed.active
      unfold staying at active
      rw [nobody operation List.mem_cons_self] at active
      obtain ⟨count, -, numbers⟩ := passed.joined
      change id ∈ (attend state operation).1.active.map ScriptInstance.id
      rw [active]
      change id ∈ (ready state operation).numbers
      rw [numbers]
      exact List.mem_append_left _ there

theorem gone_attend {id : InstanceId} (gone : id ∈ state.2.engine.gone)
    (later : List (Operation ε)) : id ∈ (later.foldl attend state).2.engine.gone := by
  induction later generalizing state with
  | nil => exact gone
  | cons operation later ih =>
      refine ih ?_
      rw [(passed_attend state operation).gone]
      exact List.mem_append_left _ gone

/-- Whoever has been stopped leaves, and is reported, as soon as finished instances leave. -/
theorem leaves_attend (inOrder : InOrder config state) {id : InstanceId}
    (silenced : (Moment.between state).IsSilenced id) (launched : 1 ≤ id)
    (settled : state.1.shared.requests = []) {operation : Operation ε}
    (dismisses : operation.dismisses = true) : id ∈ (attend state operation).2.engine.gone := by
  have stillSilenced := silenced_attend settled silenced [operation]
  have accounted := ((inOrder.attend operation).mem_iff id).2 ⟨launched, stillSilenced.launched⟩
  rcases List.mem_append.1 accounted with there | gone
  · obtain ⟨self, member, isId⟩ := List.mem_map.1 there
    have finished := (stillSilenced.stopped self member isId).1
    have active := (passed_attend state operation).active
    unfold staying at active
    rw [dismisses, if_pos rfl] at active
    rw [active] at member
    have unfinished := (List.mem_filter.1 member).2
    rw [finished] at unfinished
    cases unfinished
  · exact gone

end

/-! ## Cancellations between operations -/

/-- What a cancellation does to a roster on which nothing waits. -/
theorem attend_cancel {state : Roster × Rig (Attended ε)}
    (settled : state.1.shared.requests = []) (author : Option InstanceId)
    (track : Option TrackId) (rig : Rig ε) :
    attend state (.cancel author track rig) =
      ({ state.1 with active := afterCancel author track state.1.active },
        { engine :=
            { engine := putBack rig.engine (savedByCancelled author track state.1.active)
              gone := state.2.engine.gone }
          kernel := rig.kernel
          interface := rig.interface }) := by
  change (state.1.cancelScripts author track
    (Operation.attended.attend state.2.engine.gone rig)).value = _
  rw [value_cancelScripts state.1 settled, putBack_attended]
  rfl

/-- Whomever a cancellation concerns is silenced by it. -/
theorem silenced_of_cancel {state : Roster × Rig (Attended ε)}
    (settled : state.1.shared.requests = []) (numbered : (Moment.between state).IsNumbered)
    {author : Option InstanceId} {track : Option TrackId} {self : ScriptInstance}
    (member : self ∈ state.1.active) (concerned : isCancelled author track self = true)
    (rig : Rig ε) :
    (Moment.between (attend state (.cancel author track rig))).IsSilenced self.id := by
  rw [attend_cancel settled]
  refine ⟨numbered.launched self member, fun later isLater sameId => ?_⟩
  obtain ⟨before, there, rfl⟩ := List.mem_map.1 isLater
  have isSelf : before = self := by
    refine numbered.unique there member ?_
    rw [← sameId]
    split <;> rfl
  rw [isSelf, if_pos concerned]
  exact ⟨rfl, rfl⟩

/--
A cancellation between operations is exact.

After every history, it concerns the instances other than its author that are on its
track, or all others if it names no track.  Each of them is stopped where it stands,
and what it has saved is put back once, in the order in which it was saved, one
instance after another.  Nothing else is changed: not the author, nor the other
instances, nor anything that the scripts share, and nobody is reported.  In whatever
follows, no stopped instance evaluates a statement, and all that the engine hears of
it is that it has left.  It stays on the roster until finished instances leave, when
a block ends or everything is stopped, and then it has been reported once.
-/
theorem cancellation_is_exact (config : ScriptConfig) (rig : Rig ε)
    (history : List (Operation ε)) (author : Option InstanceId) (track : Option TrackId)
    (reach : Rig ε) :
    let state := attended config rig history
    let next := attended config rig (history ++ [.cancel author track reach])
    (∀ self, isCancelled author track self = true ↔
      author ≠ some self.id ∧ (track = none ∨ self.track = track)) ∧
    next.1 =
      { state.1 with
        active := state.1.active.map fun self =>
          if isCancelled author track self then self.stopped else self } ∧
    next.2 =
      { engine :=
          { engine := ((state.1.active.filter (isCancelled author track)).flatMap
              ScriptInstance.uses).foldl (fun engine saved =>
                Engine.setParameter engine saved.track saved.name saved.value) reach.engine
            gone := state.2.engine.gone }
        kernel := reach.kernel
        interface := reach.interface } ∧
    ∀ self ∈ state.1.active, isCancelled author track self = true →
      self.stopped.isFinished = true ∧ self.stopped.uses = [] ∧
      (∀ {steps : List (Deed (Attended ε) × Moment (Attended ε))} {last : Moment (Attended ε)},
        Moves (.between next) steps last → Silent self.id (.between next) steps) ∧
      ∀ later : List (Operation ε),
        let reached := attended config rig (history ++ .cancel author track reach :: later)
        (∃ steps last, Moves (.between next) steps last ∧ last.IsAtRest ∧ last.state = reached) ∧
        ((∀ operation ∈ later, operation.dismisses = false) →
          self.id ∈ reached.1.numbers ∧ self.id ∉ reached.2.engine.gone) ∧
        ((∃ operation ∈ later, operation.dismisses = true) →
          self.id ∉ reached.1.numbers ∧ reached.2.engine.gone.count self.id = 1) := by
  intro state next
  have settled := settled_attended config rig history
  have inOrder := inOrder_attended config rig history
  have isNext : next = attend state (.cancel author track reach) := List.foldl_append
  have exact_cancel := attend_cancel settled author track reach
  refine ⟨isCancelled_iff author track, ?_, ?_, ?_⟩
  · rw [isNext, exact_cancel]
    rfl
  · rw [isNext, exact_cancel]
    rfl
  intro self member concerned
  have silenced := silenced_of_cancel settled inOrder.numbered member concerned reach
  have nextSettled := settled_outcome settled
    ((Operation.cancel author track reach).attended state.2.engine.gone)
  rw [← isNext] at silenced
  change (attend state (.cancel author track reach)).1.shared.requests = [] at nextSettled
  rw [← isNext] at nextSettled
  have nextInOrder : InOrder config next := inOrder_attended config rig _
  refine ⟨rfl, rfl, fun moves => moves.silent silenced, fun later => ?_⟩
  intro reached
  have isReached : reached = later.foldl attend next := by
    rw [isNext]
    exact List.foldl_append
  have reachedInOrder : InOrder config reached := inOrder_attended config rig _
  have nodup := List.nodup_append.1 reachedInOrder.nodup
  refine ⟨isReached ▸ moves_attend nextSettled later, fun nobody => ?_, ?_⟩
  · have there : self.id ∈ next.1.numbers := by
      rw [isNext, exact_cancel]
      refine List.mem_map.2 ⟨self.stopped, ?_, rfl⟩
      exact List.mem_map.2 ⟨self, member, if_pos concerned⟩
    have stays := stays_attend there later nobody
    rw [← isReached] at stays
    exact ⟨stays, fun gone => nodup.2.2 _ stays _ gone rfl⟩
  · rintro ⟨operation, isLater, dismisses⟩
    obtain ⟨front, back, rfl⟩ := List.append_of_mem isLater
    rw [List.foldl_append, List.foldl_cons] at isReached
    have launched : 1 ≤ self.id := ((inOrder.mem_iff self.id).1 (List.mem_append_left _
      (List.mem_map_of_mem (f := ScriptInstance.id) member))).1
    have frontSettled : (front.foldl attend next).1.shared.requests = [] := by
      obtain ⟨-, last, -, rests, isLast⟩ := moves_attend nextSettled front
      rw [← isLast]
      exact rests.2
    have frontInOrder : InOrder config (front.foldl attend next) :=
      List.foldlRecOn front _ nextInOrder fun _ inOrder operation _ => inOrder.attend operation
    have gone := gone_attend (leaves_attend frontInOrder
      (silenced_attend nextSettled silenced front) launched frontSettled dismisses) back
    rw [← isReached] at gone
    exact ⟨fun there => nodup.2.2 _ there _ gone rfl,
      List.count_eq_one_of_mem nodup.2.1 gone⟩

def lendingScript : Script where
  statements := [.use "level" "30", .use "pan" "5", .wait .block, functionCall 0 "Mute" none]

def lendingRig : Rig Recorder :=
  { smallRig with engine := { parameters := [⟨some 0, "level", 10⟩, ⟨some 0, "pan", 0⟩] } }

def lendingPressed : List (Operation Recorder) :=
  [.install ⟨[lendingScript]⟩, .run (touch 0 7 false) lendingRig]

/-- A script that has changed two parameters is stopped: they are put back, and it leaves. -/
theorem cancelled_script_puts_back :
    ∃ self ∈ (attended {} lendingRig lendingPressed).1.active,
      isCancelled none (some 0) self = true ∧
      self.uses = [⟨some 0, "level", 10⟩, ⟨some 0, "pan", 0⟩] ∧
      (attended {} lendingRig
        (lendingPressed ++ [.cancel none (some 0) lendingRig])).2.engine.engine.calls =
        [.set (some 0) "level" 10, .set (some 0) "pan" 0] ∧
      ∀ later : List (Operation Recorder), (∃ operation ∈ later, operation.dismisses = true) →
        (attended {} lendingRig
          (lendingPressed ++ .cancel none (some 0) lendingRig :: later)).2.engine.gone.count
            self.id = 1 := by
  obtain ⟨concerns, -, engine, each⟩ :=
    cancellation_is_exact {} lendingRig lendingPressed none (some 0) lendingRig
  have tracks : (attended {} lendingRig lendingPressed).1.active.map
      (fun self => (self.track, self.uses)) =
        [(some 0, [⟨some 0, "level", 10⟩, ⟨some 0, "pan", 0⟩])] := by
    decide +kernel
  obtain ⟨self, isActive, sameTrack⟩ := List.map_eq_singleton_iff.1 tracks
  obtain ⟨isTrack, isSaved⟩ := Prod.mk.inj sameTrack
  have member : self ∈ (attended {} lendingRig lendingPressed).1.active := by
    rw [isActive]
    exact List.mem_singleton_self self
  have concerned := (concerns self).2 ⟨by simp, .inr isTrack⟩
  refine ⟨self, member, concerned, isSaved, ?_, ?_⟩
  · have only : (attended {} lendingRig lendingPressed).1.active.filter
        (isCancelled none (some 0)) = [self] := by
      rw [isActive, List.filter_cons_of_pos concerned, List.filter_nil]
    rw [engine, only, List.flatMap_singleton, isSaved]
    rfl
  · intro later leaves
    exact (((each self member concerned).2.2.2 later).2.2 leaves).2

end Roster

end Looper
