import Looper.Proofs.Script.Cancelling
import Looper.Proofs.Script.Proceeding
import Looper.Proofs.Script.Waking
import Looper.Script.Parse

/-!
# Waits for the next block

An instance that waits for the next block is let go on at one place only: at the
beginning of the turn that it has in the block after the one in which it began to
wait.  Up to there it waits, wherever in its stack the wait sits by then and whatever
is done meanwhile, unless it is stopped.
-/

namespace Looper

open Roster (Operation)

/-! ## Numbers of instances -/

theorem Roster.deliverCompletions_eq (roster : Roster) (kernel : KernelChannel)
    (events : List KernelEvent) :
    (roster.deliverCompletions kernel events).1 =
      { roster with active := (roster.deliverCompletions kernel events).1.active } := by
  induction events generalizing roster kernel with
  | nil => rfl
  | cons event rest ih =>
      exact ih (roster.mapActive fun self => self.finishKernel event.id event.returnCode)
        (kernel.recycle event)

variable {ε : Type}

theorem Moment.lastId_informed [Engine ε] (moment : Moment ε) (operation : Operation ε) :
    ((moment.begin operation).informed operation).roster.lastId = moment.roster.lastId := by
  cases operation with
  | maintain frames rate rig =>
      have kept := moment.roster.deliverCompletions_eq
        { rig.kernel with completed := rig.kernel.completed.drain.2 } rig.kernel.completed.drain.1
      exact (congrArg Roster.lastId kept :)
  | _ => rfl

theorem Moment.block_informed [Engine ε] (moment : Moment ε) (operation : Operation ε) :
    ((moment.begin operation).informed operation).roster.shared.block =
      moment.roster.shared.block := by
  cases operation with
  | maintain frames rate rig =>
      have kept := moment.roster.deliverCompletions_eq
        { rig.kernel with completed := rig.kernel.completed.drain.2 } rig.kernel.completed.drain.1
      exact (congrArg (fun roster => roster.shared.block) kept :)
  | _ => rfl

namespace Moment.IsNumbered

variable {moment : Moment ε} (numbered : moment.IsNumbered)

include numbered

theorem informed [Engine ε] (operation : Operation ε) :
    ((moment.begin operation).informed operation).IsNumbered := by
  have told := numbered.map fun self => self.id_hearAll operation.completions
  constructor
  · rw [moment.active_informed]
    exact told.distinct
  · rw [moment.active_informed, moment.lastId_informed]
    exact told.launched

end Moment.IsNumbered

variable [Engine ε]

theorem LaborsWithin.numbered {first last : Moment ε} {most : Nat}
    (labors : LaborsWithin first most last) (numbered : first.IsNumbered) : last.IsNumbered := by
  obtain ⟨_, -, all⟩ := labors
  induction all with
  | refl => exact numbered
  | tail _ labor ih => exact labor.work.move.numbered ih

theorem Proceeds.numbered {before after : Stage ε} {act : Act ε}
    (proceeds : Proceeds before act after) (numbered : before.moment.IsNumbered) :
    after.moment.IsNumbered := by
  cases isBegin : act.operation? with
  | none => exact (proceeds.labors isBegin).numbered numbered
  | some operation =>
      cases proceeds with
      | begin rests operation => exact numbered.informed operation
      | _ => cases isBegin

theorem Proceedings.numbered {first last : Stage ε} {acts : List (Stage ε × Act ε)}
    (proceedings : Proceedings first acts last) (numbered : first.moment.IsNumbered) :
    last.moment.IsNumbered :=
  proceedings.keeps (fun proceeds => proceeds.numbered) numbered

/-! ## One instance -/

/-- What an act makes of a running instance and of what it can reach, and what it is told. -/
inductive Undergoes (run : Run ε) : Act ε → List Completion → Run ε → Prop where
  | hear (operation : Operation ε) (shared : ScriptShared) (rig : Rig ε) :
      Undergoes run (.begin operation) operation.completions
        { self := run.self.hearAll operation.completions, shared, rig }
  | wake :
      Undergoes run (.turn run.self.id .waking) [.block run.shared.block]
        (run.withSelf (run.self.releaseBlock run.shared.block))
  | elapse {part : TurnPart} {later : ScriptInstance} (timed : part ≠ .waking)
      (elapses : run.self.Elapses later) :
      Undergoes run (.turn run.self.id part) [] (run.withSelf later)
  | step {statement : Option Statement} {asked : List ScriptRequest} {later : Run ε}
      (due : run.Due statement later) :
      Undergoes run (.step run.self.id statement asked) [] later
  | enter {action : Action} {later : ScriptInstance} (unfinished : run.self.isFinished = false)
      (entered : run.self.Entered later) (shared : ScriptShared) :
      Undergoes run (.carryOut (.launch action)) [] { run with self := later, shared }
  | stop {author : Option InstanceId} {track : Option TrackId} (rig : Rig ε)
      (concerned : Roster.isCancelled author track run.self = true) :
      Undergoes run (.carryOut (.cancel author track)) [] { run with self := run.self.stopped, rig }
  | others {act : Act ε} (shared : ScriptShared) (rig : Rig ε)
      (awake : act ≠ .turn run.self.id .waking)
      (apart : ∀ statement asked, act ≠ .step run.self.id statement asked) :
      Undergoes run act [] { run with shared, rig }

/-- What an act makes of a running instance, unless it leaves. -/
theorem Proceeds.undergoes {before after : Stage ε} {act : Act ε}
    (proceeds : Proceeds before act after) (numbered : before.moment.IsNumbered)
    {self : ScriptInstance} (member : self ∈ before.moment.roster.active) :
    (act = .leave ∧ self.isFinished = true) ∨
      ∃ later ∈ after.moment.roster.active, later.id = self.id ∧
        ∃ heard, Undergoes (before.moment.runOf self) act heard (after.moment.runOf later) := by
  have bystands {act : Act ε} {after : Stage ε} (there : self ∈ after.moment.roster.active)
      (awake : act ≠ .turn self.id .waking)
      (apart : ∀ statement asked, act ≠ .step self.id statement asked) :
      ∃ later ∈ after.moment.roster.active, later.id = self.id ∧
        ∃ heard, Undergoes (before.moment.runOf self) act heard (after.moment.runOf later) :=
    ⟨self, there, rfl, [], .others after.moment.roster.shared after.moment.rig awake apart⟩
  cases proceeds with
  | @begin moment rests operation =>
      refine .inr ⟨self.hearAll operation.completions, ?_, self.id_hearAll _, _,
        .hear operation _ _⟩
      change _ ∈ ((moment.begin operation).informed operation).roster.active
      rw [moment.active_informed]
      exact List.mem_map_of_mem (f := fun self => self.hearAll operation.completions) member
  | @turn moment agenda position other carriedOut stands msec part =>
      right
      rcases numbered.changed_or_stays stands member
          (part.pass moment.roster.config msec moment.roster.shared.block other).2 with
        ⟨rfl, there⟩ | ⟨apart, stays⟩
      · refine ⟨_, there, part.id_pass _ _ _ _, ?_⟩
        cases part with
        | waking => exact ⟨_, .wake⟩
        | held =>
            exact ⟨_, .elapse (by simp)
              (self.elapses_advanceSustain msec moment.roster.config.longPressMsec)⟩
        | clicking =>
            exact ⟨_, .elapse (by simp)
              (self.elapses_advanceClick msec moment.roster.config.doubleClickMsec)⟩
      · refine bystands stays ?_ (by simp)
        rintro isTurn
        injection isTurn with sameId
        exact apart sameId
  | @step moment agenda position left other statement later asked stands due asks =>
      right
      rcases numbered.changed_or_stays stands member later.self with ⟨rfl, there⟩ | ⟨apart, stays⟩
      · exact ⟨later.self, there, due.step.evolves.id_eq, _, .step due⟩
      · refine bystands stays (by simp) fun otherStatement otherAsked isStep => ?_
        injection isStep with sameId
        exact apart sameId
  | @launch moment agenda action others front =>
      right
      have reaches := moment.roster.reached_reach action
      generalize moment.roster.reach action = reached at reaches ⊢
      cases reaches with
      | nobody => exact bystands member (by simp) (by simp)
      | @visited position other notified stands unfinished entered =>
          rcases numbered.changed_or_stays stands member notified.2 with ⟨rfl, there⟩ | ⟨-, stays⟩
          · exact ⟨notified.2, there, entered.continues.id, _, .enter unfinished entered _⟩
          · exact bystands stays (by simp) (by simp)
      | enlisted target found pressed =>
          exact bystands (List.mem_append_left _ member) (by simp) (by simp)
  | @cancel moment agenda author track others front =>
      right
      rw [Roster.value_stopOthers]
      by_cases concerned : Roster.isCancelled author track self = true
      · refine ⟨self.stopped, ?_, rfl, _, .stop _ concerned⟩
        exact List.mem_map.2 ⟨self, member, if_pos concerned⟩
      · refine bystands ?_ (by simp) (by simp)
        exact List.mem_map.2 ⟨self, member, if_neg concerned⟩
  | @leave moment agenda rests =>
      have active := (Roster.reclaim_spec moment.roster moment.rig).2.2
      cases finished : self.isFinished with
      | true => exact .inl ⟨rfl, rfl⟩
      | false =>
          refine .inr (bystands ?_ (by simp) (by simp))
          change self ∈ (moment.roster.reclaim moment.rig).value.1.active
          rw [active]
          exact List.mem_filter.2 ⟨member, by simp [finished]⟩
  | _ => exact .inr (bystands member (by simp) (by simp))

def Stops (id : InstanceId) (passage : Stage ε × Act ε) : Prop :=
  ∃ author track, passage.2 = .carryOut (.cancel author track) ∧
    ∃ self ∈ passage.1.moment.roster.active, self.id = id ∧
      Roster.isCancelled author track self = true

/--
As long as an instance is not stopped, it comes back to a position whatever is done,
or stays above it, and leaves it only by a step of its own from there.
-/
theorem Undergoes.backOrAbove {run later : Run ε} {act : Act ε} {heard : List Completion}
    (undergoes : Undergoes run act heard later)
    (goesOn : ∀ author track, act = .carryOut (.cancel author track) →
      Roster.isCancelled author track run.self = false)
    {position : Position} (back : run.self.BackOrAbove position) :
    later.self.BackOrAbove (position.hearAll heard) ∨
      run.self.position = position ∧ ∃ statement asked, act = .step run.self.id statement asked ∧
        run.Due statement later := by
  cases undergoes with
  | hear operation shared rig => exact .inl (back.hearAll operation.completions)
  | wake => exact .inl (back.hear (.block run.shared.block))
  | elapse timed elapses =>
      rcases back with rfl | ⟨above, isAbove⟩
      · exact .inl elapses.backOrAbove
      · exact .inl (.inr (isAbove.covered elapses.grows.covers))
  | @step statement asked _ due =>
      rcases back with isBack | ⟨above, isAbove⟩
      · exact .inr ⟨isBack, statement, asked, rfl, due⟩
      · exact .inl (due.step.above isAbove)
  | enter unfinished entered shared =>
      rcases back with rfl | ⟨above, isAbove⟩
      · exact .inl entered.backOrAbove
      · exact .inl (.inr (isAbove.covered entered.grows.covers))
  | stop rig concerned =>
      have spared := goesOn _ _ rfl
      rw [concerned] at spared
      cases spared
  | others shared rig awake apart => exact .inl back

/-- Only the beginning of its turn in a later block ends an instance's wait for a block. -/
theorem Undergoes.ends_block {run later : Run ε} {act : Act ε} {heard : List Completion}
    (undergoes : Undergoes run act heard later) {began : Nat}
    (ended : endedBy heard (.block began) = true) :
    act = .turn run.self.id .waking ∧ began < run.shared.block := by
  cases undergoes with
  | hear operation shared rig =>
      obtain ⟨completion, told, ends⟩ := List.any_eq_true.1 ended
      cases operation with
      | finishEvent event => cases List.mem_singleton.1 told; cases ends
      | finishFunction symbol => cases List.mem_singleton.1 told; cases ends
      | maintain frames rate rig =>
          obtain ⟨event, -, rfl⟩ := List.mem_map.1 told
          cases ends
      | _ => cases told
  | wake => exact ⟨rfl, by simpa [endedBy, Completion.ends] using ended⟩
  | _ => cases ended

/-- An instance hears in the beginning of its turn that the block has begun. -/
theorem Undergoes.of_waking {run later : Run ε} {heard : List Completion}
    (undergoes : Undergoes run (.turn run.self.id .waking) heard later) :
    heard = [.block run.shared.block] := by
  generalize isTurn : Act.turn run.self.id .waking = act at undergoes
  cases undergoes with
  | wake => rfl
  | elapse timed elapses =>
      injection isTurn with _ isWaking
      exact absurd isWaking.symm timed
  | others shared rig awake apart => exact absurd isTurn.symm awake
  | _ => cases isTurn

theorem Undergoes.due {run later : Run ε} {statement : Option Statement}
    {asked : List ScriptRequest} {heard : List Completion}
    (undergoes : Undergoes run (.step run.self.id statement asked) heard later) :
    run.Due statement later := by
  generalize isStep : Act.step run.self.id statement asked = act at undergoes
  cases undergoes with
  | step due =>
      cases isStep
      exact due
  | others shared rig awake apart => exact absurd isStep.symm (apart statement asked)
  | _ => cases isStep

/-! ## The order of an operation -/

def Task.isTurn : Task → Bool
  | turn .. => true
  | _ => false

namespace Stage

def clock {ε : Type} (stage : Stage ε) : Nat :=
  stage.moment.roster.shared.block

def IsOrdered {ε : Type} (stage : Stage ε) : Prop :=
  stage.agenda.Pairwise fun earlier later =>
    earlier.isTurn = true ∨ earlier = .leave ∧ later = .block

omit [Engine ε] in
theorem ordered_agenda (operation : Operation ε) (active : List ScriptInstance) :
    (operation.agenda active).Pairwise fun earlier later =>
      earlier.isTurn = true ∨ earlier = .leave ∧ later = .block := by
  cases operation with
  | maintain frames rate rig =>
      have turns (task : Task)
          (member : task ∈ active.flatMap (Task.wholeTurn (Roster.blockMsec frames rate))) :
          task.isTurn = true := by
        obtain ⟨self, -, isTurn⟩ := List.mem_flatMap.1 member
        simp only [Task.wholeTurn, List.mem_cons, List.not_mem_nil, or_false] at isTurn
        rcases isTurn with rfl | rfl | rfl <;> rfl
      refine List.pairwise_append.2 ⟨?_, by simp, fun earlier isTurn later _ => .inl ?_⟩
      · exact List.Pairwise.imp_of_mem (fun isTurn _ _ => .inl (turns _ isTurn))
          (List.pairwise_of_forall (fun _ _ => trivial))
      · exact turns earlier isTurn
  | stopAll rig => exact List.pairwise_singleton _ _
  | _ => exact .nil

end Stage

theorem Proceeds.ordered {before after : Stage ε} {act : Act ε}
    (proceeds : Proceeds before act after) (ordered : before.IsOrdered) : after.IsOrdered := by
  cases proceeds with
  | begin rests operation => exact Stage.ordered_agenda operation _
  | turn carriedOut stands msec part => exact ordered.tail
  | leave rests => exact ordered.tail
  | block rests => exact ordered.tail
  | _ => exact ordered

theorem Proceedings.ordered {first last : Stage ε} {acts : List (Stage ε × Act ε)}
    (proceedings : Proceedings first acts last) (ordered : first.IsOrdered) : last.IsOrdered :=
  proceedings.keeps (fun proceeds => proceeds.ordered) ordered

theorem Proceeds.clock {before after : Stage ε} {act : Act ε}
    (proceeds : Proceeds before act after) :
    after.clock = before.clock ∨ act = .block ∧ after.clock = before.clock + 1 := by
  cases proceeds with
  | @begin moment rests operation => exact .inl (moment.block_informed operation)
  | step stands due asks => exact .inl due.step.evolves.block
  | @launch moment agenda action others front =>
      exact .inl (congrArg ScriptShared.block (moment.roster.reached_reach action).shared)
  | block rests => exact .inr ⟨rfl, rfl⟩
  | _ => exact .inl rfl

theorem Proceedings.clock_le {first last : Stage ε} {acts : List (Stage ε × Act ε)}
    (proceedings : Proceedings first acts last) : first.clock ≤ last.clock := by
  induction proceedings with
  | nil => exact Nat.le_refl _
  | snoc _ proceeds ih =>
      rcases proceeds.clock with same | ⟨-, next⟩ <;> omega

/-- At the beginning of its turn an instance is told of the block, and then it is to run. -/
theorem Proceeds.wakes {before after : Stage ε} {id : InstanceId}
    (proceeds : Proceeds before (.turn id .waking) after) :
    ∃ (position : Nat) (self : ScriptInstance),
      before.moment.roster.active[position]? = some self ∧ self.id = id ∧
      after.runner = some (position, Run.budget) ∧
      after.moment.roster.active[position]? = some (self.releaseBlock before.clock) := by
  generalize isTurn : Act.turn id .waking = act at proceeds
  cases proceeds with
  | @turn moment agenda position self carriedOut stands msec part =>
      injection isTurn with sameId isWaking
      subst isWaking
      obtain ⟨within, -⟩ := List.getElem?_eq_some_iff.1 stands
      exact ⟨position, self, stands, sameId.symm, rfl, List.getElem?_set_self within⟩
  | _ => cases isTurn

/-! ## Waiting for the next block -/

namespace Stage

/--
An instance that has begun to wait in a block has its turn in the next block still
to come.
-/
def HasTurnToCome {ε : Type} (stage : Stage ε) (id : InstanceId) (began : Nat) : Prop :=
  stage.clock = began ∨ stage.clock = began + 1 ∧
    (.block ∈ stage.agenda → ∃ msec, .turn msec id .waking ∈ stage.agenda)

/-- An instance stands where it has begun to wait in a block, or above that, and still waits. -/
def Waits {ε : Type} (stage : Stage ε) (id : InstanceId) (place : Position) (began : Nat) : Prop :=
  ∃ self ∈ stage.moment.roster.active, self.id = id ∧
    ∃ heard, endedBy heard (.block began) = false ∧ self.BackOrAbove (place.hearAll heard)

/-- An instance stands there or above, its wait is over, and it begins to run. -/
def RunsOn {ε : Type} (stage : Stage ε) (id : InstanceId) (place : Position) (began : Nat) :
    Prop :=
  ∃ position self, stage.runner = some (position, Run.budget) ∧
    stage.moment.roster.active[position]? = some self ∧ self.id = id ∧
    ∃ heard, endedBy heard (.block began) = true ∧ self.BackOrAbove (place.hearAll heard)

end Stage

omit [Engine ε] in
def StepsAbove (acts : List (Stage ε × Act ε)) (id : InstanceId) (place : Position) : Prop :=
  ∀ before statement asked, (before, Act.step id statement asked) ∈ acts →
    ∃ self ∈ before.moment.roster.active, self.id = id ∧
      ∃ heard above, self.Above above (place.hearAll heard)

/--
An instance that began to wait in a block has been let go on: it waited up to the
beginning of its turn in the next block, and ran from there.
-/
def LetGo (acts : List (Stage ε × Act ε)) (id : InstanceId) (place : Position) (began : Nat) :
    Prop :=
  ∃ front stage back next, acts = front ++ (stage, .turn id .waking) :: back ∧
    StepsAbove front id place ∧ stage.clock = began + 1 ∧ stage.Waits id place began ∧
    Proceeds stage (.turn id .waking) next ∧ next.RunsOn id place began

theorem LetGo.snoc {acts : List (Stage ε × Act ε)} {id : InstanceId} {place : Position}
    {began : Nat} (letGo : LetGo acts id place began) (passage : Stage ε × Act ε) :
    LetGo (acts ++ [passage]) id place began := by
  obtain ⟨front, stage, back, next, rfl, goesOn⟩ := letGo
  refine ⟨front, stage, back ++ [passage], next, ?_, goesOn⟩
  rw [List.append_assoc, List.cons_append]

/-- Until its turn in the next block has begun, an instance has it still to come. -/
theorem Proceeds.hasTurnToCome {before after : Stage ε} {act : Act ε}
    (proceeds : Proceeds before act after) (ordered : before.IsOrdered) {self : ScriptInstance}
    (member : self ∈ before.moment.roster.active) {began : Nat}
    (toCome : before.HasTurnToCome self.id began)
    (notNow : act = .turn self.id .waking → before.clock ≠ began + 1) :
    after.HasTurnToCome self.id began := by
  have stays (clock : after.clock = before.clock)
      (agenda : before.clock = began + 1 → .block ∈ after.agenda →
        ∃ msec, .turn msec self.id .waking ∈ after.agenda) :
      after.HasTurnToCome self.id began := by
    rcases toCome with now | ⟨next, -⟩
    · exact .inl (clock.trans now)
    · exact .inr ⟨clock.trans next, agenda next⟩
  have ahead (next : before.clock = began + 1) (ends : .block ∈ before.agenda) :
      ∃ msec, .turn msec self.id .waking ∈ before.agenda := by
    rcases toCome with now | ⟨-, turn⟩
    · omega
    · exact turn ends
  cases proceeds with
  | @begin moment rests operation =>
      refine stays (moment.block_informed operation) fun _ ends => ?_
      cases operation with
      | maintain frames rate rig =>
          refine ⟨Roster.blockMsec frames rate, List.mem_append_left _ (List.mem_flatMap.2 ?_)⟩
          refine ⟨self.hearAll (Operation.maintain frames rate rig).completions, ?_, ?_⟩
          · rw [moment.active_informed]
            exact List.mem_map_of_mem (f := fun self => self.hearAll
              (Operation.maintain frames rate rig).completions) member
          · rw [Task.wholeTurn, self.id_hearAll]
            exact List.mem_cons_self
      | stopAll rig => cases List.mem_singleton.1 ends
      | _ => cases ends
  | @turn moment agenda position other carriedOut stands msec part =>
      refine stays rfl fun next ends => ?_
      obtain ⟨length, turn⟩ := ahead next (List.mem_cons_of_mem _ ends)
      rcases List.mem_cons.1 turn with isNow | later
      · injection isNow with _ sameId isPart
        subst isPart
        exact absurd next (notNow (by rw [sameId]))
      · exact ⟨length, later⟩
  | step stands due asks => exact stays due.step.evolves.block ahead
  | @launch moment agenda action others front =>
      exact stays (congrArg ScriptShared.block (moment.roster.reached_reach action).shared) ahead
  | leave rests =>
      refine stays rfl fun next ends => ?_
      obtain ⟨length, turn⟩ := ahead next (List.mem_cons_of_mem _ ends)
      rcases List.mem_cons.1 turn with isLeave | later
      · cases isLeave
      · exact ⟨length, later⟩
  | @block moment agenda rests =>
      have last (task : Task) : task ∉ agenda := by
        intro later
        rcases List.rel_of_pairwise_cons ordered later with isTurn | ⟨isLeave, -⟩
        · cases isTurn
        · cases isLeave
      rcases toCome with now | ⟨next, -⟩
      · exact .inr ⟨congrArg (· + 1) now, fun ends => absurd ends (last _)⟩
      · obtain ⟨length, turn⟩ := ahead next List.mem_cons_self
        rcases List.mem_cons.1 turn with isBlock | later
        · cases isBlock
        · exact absurd later (last _)
  | _ => exact stays rfl ahead

/--
An instance that waits for the next block and is not stopped waits until it is let go
on in its turn, and meanwhile takes steps only above the wait.
-/
theorem Proceedings.boundary {first last : Stage ε} {acts : List (Stage ε × Act ε)}
    (proceedings : Proceedings first acts last) (numbered : first.moment.IsNumbered)
    (ordered : first.IsOrdered) {id : InstanceId} {place : Position} {began : Nat}
    (isBlocked : place.IsBlockedOn (.block began)) (waits : first.Waits id place began)
    (toCome : first.HasTurnToCome id began) (unstopped : ∀ passage ∈ acts, ¬ Stops id passage) :
    last.Waits id place began ∧ last.HasTurnToCome id began ∧ StepsAbove acts id place ∨
      LetGo acts id place began := by
  induction proceedings with
  | nil => exact .inl ⟨waits, toCome, fun _ _ _ step => absurd step List.not_mem_nil⟩
  | @snoc acts before after act earlier proceeds ih =>
      rcases ih fun passage member => unstopped passage (List.mem_append_left _ member) with
        ⟨stillWaits, stillToCome, stepsAbove⟩ | letGo
      · obtain ⟨self, member, rfl, heard, unended, back⟩ := stillWaits
        obtain ⟨rest, top, free⟩ := isBlocked.hearAll heard
        rw [unended] at top
        -- Nothing is due at the wait itself, so every step is above it.
        have above {statement : Option Statement} {next : Run ε}
            (due : (before.moment.runOf self).Due statement next) :
            ∃ above, self.Above above (place.hearAll heard) := by
          rcases back with isBack | isAbove
          · cases (@Run.Due.at_wait _ _ _ _ _ due _ isBack false _ _ top).1
          · exact isAbove
        have numberedBefore := Proceedings.numbered earlier numbered
        rcases proceeds.undergoes numberedBefore member with
          ⟨-, finished⟩ | ⟨later, isLater, laterId, told, undergoes⟩
        · rw [back.unfinished top] at finished
          cases finished
        · have goesOn (author : Option InstanceId) (track : Option TrackId)
              (isCancel : act = .carryOut (.cancel author track)) :
              Roster.isCancelled author track self = false := by
            refine Bool.eq_false_iff.2 fun concerned => unstopped (before, act) (by simp) ?_
            exact ⟨author, track, isCancel, self, member, rfl, concerned⟩
          rcases undergoes.backOrAbove goesOn back with
            laterBack | ⟨isAt, statement, asked, rfl, due⟩
          · rw [← Position.hearAll_append] at laterBack
            by_cases now : act = .turn self.id .waking ∧ before.clock = began + 1
            · obtain ⟨rfl, next⟩ := now
              obtain rfl := undergoes.of_waking
              obtain ⟨position, released, -, sameId, runs, stands⟩ := proceeds.wakes
              have isReleased : later = released.releaseBlock before.clock :=
                (proceeds.numbered numberedBefore).unique isLater (List.mem_of_getElem? stands)
                  (laterId.trans sameId.symm)
              rw [← isReleased] at stands
              refine .inr ⟨acts, before, [], after, rfl, stepsAbove, next,
                ⟨self, member, rfl, heard, unended, back⟩, proceeds, position, later, runs,
                stands, laterId, _, ?_, laterBack⟩
              rw [endedBy_append, unended, Bool.false_or]
              change decide (began < before.clock) || false = true
              simp [next]
            · have notEnded : endedBy told (.block began) = false := by
                refine Bool.eq_false_iff.2 fun ended => now ?_
                obtain ⟨isTurn, past⟩ := undergoes.ends_block ended
                refine ⟨isTurn, ?_⟩
                rcases stillToCome with same | ⟨next, -⟩
                · exact absurd past (Nat.not_lt_of_le (Nat.le_of_eq same))
                · exact next
              refine .inl ⟨⟨later, isLater, laterId, _, ?_, laterBack⟩, ?_, ?_⟩
              · rw [endedBy_append, unended, notEnded]
                rfl
              · have orderedBefore := Proceedings.ordered earlier ordered
                exact proceeds.hasTurnToCome orderedBefore member stillToCome
                  fun isTurn next => now ⟨isTurn, next⟩
              · intro moment statement asked passage
                rcases List.mem_append.1 passage with before | isLast
                · exact stepsAbove moment statement asked before
                · cases List.mem_singleton.1 isLast
                  obtain ⟨more, isAbove⟩ := above undergoes.due
                  exact ⟨self, member, rfl, heard, more, isAbove⟩
          · obtain ⟨more, isAbove⟩ := above due
            have higher := isAbove.length_lt
            rw [← isAt] at higher
            exact absurd higher (Nat.lt_irrefl _)
      · exact .inr (letGo.snoc _)

/-- By the time an instance has been let go on, the next block has begun. -/
theorem LetGo.clock_lt {first last : Stage ε} {acts : List (Stage ε × Act ε)} {id : InstanceId}
    {place : Position} {began : Nat} (letGo : LetGo acts id place began)
    (proceedings : Proceedings first acts last) : began < last.clock := by
  obtain ⟨front, stage, back, next, rfl, -, clock, -⟩ := letGo
  obtain ⟨after, -, proceeds, later⟩ := proceedings.split
  have turned := proceeds.clock
  have onward := Proceedings.clock_le later
  omega

/--
A wait for the next block lasts until the instance's turn in that block.

Every history of operations is a proceeding.  When in a proceeding an instance begins
to wait for the next block, then as long as it is not stopped it still waits, and
takes steps only above the wait, up to its turn in the block after; that turn begins
by letting it go on, wherever in its stack the wait is by then, and it runs from
there.  So it waits as long as the block has the same number, and when the block
after is over it has been let go on.  And it gets past the wait only in a later block
than the one in which it has come to it.
-/
theorem block_wait_ends_in_next_block (config : ScriptConfig) (rig : Rig ε) :
    (∀ history : List (Operation ε), ∃ acts last, Proceedings (.start config rig) acts last ∧
      opened acts = history ∧ last.IsIdle ∧
      last.moment.state = Roster.outcomes config rig history) ∧
    ∀ {past : List (Stage ε × Act ε)} {before after : Stage ε} {self : ScriptInstance}
      {asked : List ScriptRequest},
      Proceedings (.start config rig) past before → self ∈ before.moment.roster.active →
      Proceeds before (.step self.id (some (.wait .block)) asked) after →
      let began := before.clock
      let place := self.position.waitingFor (.block began)
      (∃ waiting ∈ after.moment.roster.active,
        waiting.id = self.id ∧ waiting.position = place) ∧
      ∀ {acts : List (Stage ε × Act ε)} {last : Stage ε}, Proceedings after acts last →
        (∀ passage ∈ acts, ¬ Stops self.id passage) →
        (last.Waits self.id place began ∧ last.clock ≤ began + 1 ∧
            StepsAbove acts self.id place ∨
          LetGo acts self.id place began) ∧
        (last.clock = began → last.Waits self.id place began ∧ StepsAbove acts self.id place) ∧
        (began + 1 < last.clock → LetGo acts self.id place began) ∧
        ∀ front stage statement asked back,
          acts = front ++ (stage, .step self.id statement asked) :: back →
          (∃ there ∈ stage.moment.roster.active, there.id = self.id ∧
            ∃ heard, there.position = place.hearAll heard) →
          began < stage.clock := by
  refine ⟨proceedings_outcomes config rig, ?_⟩
  intro past before after self asked earlier member waits began place
  have numbered := earlier.numbered (Moment.numbered_start config rig)
  have ordered := earlier.ordered .nil
  obtain ⟨waiting, isWaiting, sameId, isPlace, isBlocked⟩ :
      ∃ waiting ∈ after.moment.roster.active, waiting.id = self.id ∧
        waiting.position = place ∧ place.IsBlockedOn (.block began) := by
    rcases waits.undergoes numbered member with ⟨isLeave, -⟩ | ⟨later, there, sameId, _, undergoes⟩
    · cases isLeave
    · have due : (before.moment.runOf self).Due (some (.wait .block)) (after.moment.runOf later) :=
        Undergoes.due undergoes
      obtain ⟨isPlace, isBlocked⟩ := @Run.Due.begins_to_wait _ _ _ _ _ due (.block began) rfl
      rw [isPlace] at isBlocked
      exact ⟨later, there, sameId, isPlace, isBlocked⟩
  have firstWaits : after.Waits self.id place began :=
    ⟨waiting, isWaiting, sameId, [], rfl, .inl isPlace⟩
  have sameClock : after.clock = began := by
    rcases waits.clock with same | ⟨isBlock, -⟩
    · exact same
    · cases isBlock
  have goesOn {acts : List (Stage ε × Act ε)} {last : Stage ε}
      (proceedings : Proceedings after acts last)
      (unstopped : ∀ passage ∈ acts, ¬ Stops self.id passage) :=
    proceedings.boundary (waits.numbered numbered) (waits.ordered ordered) isBlocked firstWaits
      (.inl sameClock) unstopped
  refine ⟨⟨waiting, isWaiting, sameId, isPlace⟩, ?_⟩
  intro acts last proceedings unstopped
  refine ⟨?_, fun still => ?_, fun past => ?_, ?_⟩
  · rcases goesOn proceedings unstopped with ⟨stillWaits, now | ⟨next, -⟩, above⟩ | letGo
    · exact .inl ⟨stillWaits, by omega, above⟩
    · exact .inl ⟨stillWaits, by omega, above⟩
    · exact .inr letGo
  · rcases goesOn proceedings unstopped with ⟨stillWaits, -, above⟩ | letGo
    · exact ⟨stillWaits, above⟩
    · exact absurd still (Nat.ne_of_gt (letGo.clock_lt proceedings))
  · rcases goesOn proceedings unstopped with ⟨-, now | ⟨next, -⟩, -⟩ | letGo
    · omega
    · omega
    · exact letGo
  · rintro front stage statement asked back rfl ⟨there, isThere, isSelf, heard, isAt⟩
    obtain ⟨next, toStage, steps, -⟩ := proceedings.split
    have unstoppedFront : ∀ passage ∈ front ++ [(stage, Act.step self.id statement asked)],
        ¬ Stops self.id passage := by
      intro passage isPassage
      refine unstopped passage ?_
      rcases List.mem_append.1 isPassage with inFront | isStep
      · exact List.mem_append_left _ inFront
      · exact List.mem_append_right _ (List.mem_cons.2 (.inl (List.mem_singleton.1 isStep)))
    rcases goesOn (toStage.snoc steps) unstoppedFront with ⟨-, -, above⟩ | letGo
    · -- A step from the wait itself does not lie above it.
      obtain ⟨other, isOther, otherId, told, frames, isAbove⟩ :=
        above stage statement asked (by simp)
      have same : other = there :=
        (Proceedings.numbered toStage (waits.numbered numbered)).unique isOther isThere
          (otherId.trans isSelf.symm)
      have higher := isAbove.length_lt
      rw [same, stack_of_position isAt, Position.length_hearAll, Position.length_hearAll]
        at higher
      exact absurd higher (Nat.lt_irrefl _)
    · have past := letGo.clock_lt (toStage.snoc steps)
      rcases steps.clock with same | ⟨isBlock, -⟩
      · omega
      · cases isBlock

/-- A script that waits for the next block has been launched on the first track, and is to run. -/
def bystanderLaunched : Stage Recorder where
  moment :=
    { (Moment.start {} Roster.smallRig) with
      roster := ((Roster.new {} panicLibrary).reach (Roster.touch 0 7 false)).1 }
  runner := some (0, Run.budget)

/-- A script waits for a block, and once the next block is over it has been let go on. -/
theorem bystander_is_let_go :
    ∃ past after place, Proceedings (.start {} Roster.smallRig) past bystanderLaunched ∧
      Proceeds bystanderLaunched (.step 1 (some (.wait .block)) []) after ∧
      ∀ acts last, Proceedings after acts last → (∀ passage ∈ acts, ¬ Stops 1 passage) →
        1 < last.clock → LetGo acts 1 place 0 := by
  have launched : Proceedings (.start {} Roster.smallRig) _ bystanderLaunched :=
    ((Trace.nil.snoc (.begin ⟨rfl, rfl⟩ (.install panicLibrary))).snoc
      (.begin ⟨rfl, rfl⟩ (.run (Roster.touch 0 7 false) Roster.smallRig))).snoc (.launch rfl)
  have waits : Proceeds bystanderLaunched (.step 1 (some (.wait .block)) []) _ :=
    @Proceeds.step _ _ bystanderLaunched.moment [] 0 999 _ (some (.wait .block)) _ [] rfl
      (.evaluate ⟨rfl, rfl⟩ rfl) rfl
  have lasts := (block_wait_ends_in_next_block {} Roster.smallRig).2
    launched (List.mem_singleton_self _) waits
  exact ⟨_, _, _, launched, waits, fun acts last proceedings unstopped isOver =>
    (lasts.2 proceedings unstopped).2.2.1 isOver⟩

def muteSymbols : SymbolTable :=
  ⟨[{ name := "Mute", definition := some (.function {} .core) }]⟩

/-- A script that loops around a wait, and enters the loop anew when it is notified. -/
def roundsScript : Script where
  name := "Rounds"
  statements :=
    [.label "top" .plain, .repeatLoop "2" 4, .wait .block, functionCall 0 "Mute" none, .next 1,
     .finish, .label "reentry" .reentry, .jump 0]
  lines := [1, 2, 3, 4, 5, 6, 7, 8]
  labels := { reentry := some 6 }

/-- The script is pressed twice, and two blocks pass. -/
def roundsPressed : List (Operation Recorder) :=
  [.install ⟨[roundsScript]⟩,
   .run (Roster.touch 0 7 false) Roster.smallRig, .run (Roster.touch 0 7 false) Roster.smallRig,
   .maintain 64 48000 Roster.smallRig, .maintain 64 48000 Roster.smallRig]

/--
A loop around one wait may get past it twice in a block.  The label block enters the
loop anew while a round of it waits: when the last round of the label block is over,
the round that it interrupted goes on, and both have waited since an earlier block.
-/
theorem loop_passes_wait_twice :
    (Script.parse "Rounds"
        "Label top\nRepeat 2\nWait block\nMute\nNext\nEnd\nLabel reentry\nJump top\n"
        muteSymbols).value.1 = .ok roundsScript ∧
    roundsScript.statements.count (.wait .block) = 1 ∧
    (Roster.outcomes {} Roster.smallRig roundsPressed).1.active.map
        (fun self => (self.id, self.isWaiting)) = [(1, true)] ∧
    (Roster.outcomes {} Roster.smallRig
        (roundsPressed ++ [.maintain 64 48000 Roster.smallRig])).1.active.map
          (fun self => (self.id, self.isWaiting)) = [(1, true)] ∧
    (Roster.outcomes {} Roster.smallRig
        (roundsPressed ++ [.maintain 64 48000 Roster.smallRig])).2.engine.calls.filterMap
          EngineCall.invoked? = [("Mute", none, some 1), ("Mute", none, some 1)] := by
  exact ⟨by decide +kernel, by decide, by decide +kernel, by decide +kernel, by decide +kernel⟩

end Looper
