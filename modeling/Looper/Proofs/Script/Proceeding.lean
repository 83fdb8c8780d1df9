import Looper.Proofs.Script.Parts
import Looper.Proofs.Trace
import Mathlib.Algebra.GroupWithZero.Nat

/-!
# Proceedings of a session

A stage of a session is a moment together with what is in progress: who is in the
middle of a run, and what the operation has still to see to.  From a stage the
session proceeds act by act, and as long as somebody runs the next act is a step of
that run.  A request is carried out when nobody runs, the oldest first; what is
asked meanwhile belongs to the next round.  Every operation proceeds from its
opening to a stage at which nothing is in progress, and every act is a stretch of
the labor of scripts.
-/

namespace Looper

open Roster (Operation)

/-! ## Stages and acts -/

/-- Something that an operation has still to see to. -/
inductive Task where
  /-- An instance has a part of its turn in a block of some length. -/
  | turn (msec : Nat) (id : InstanceId) (part : TurnPart)
  /-- Finished instances leave. -/
  | leave
  /-- The block is over. -/
  | block
  deriving DecidableEq

/-- The whole turn of an instance in a block. -/
def Task.wholeTurn (msec : Nat) (self : ScriptInstance) : List Task :=
  [.turn msec self.id .waking, .turn msec self.id .held, .turn msec self.id .clicking]

/-- What an operation has to see to, besides the requests that it brings. -/
def Roster.Operation.agenda {ε : Type} (operation : Operation ε) (active : List ScriptInstance) :
    List Task :=
  match operation with
  | .maintain frames rate _ =>
      active.flatMap (Task.wholeTurn (Roster.blockMsec frames rate)) ++ [.leave, .block]
  | .stopAll _ => [.leave]
  | _ => []

/-- A moment of a session, and what is in progress. -/
structure Stage (ε : Type) where
  moment : Moment ε
  /-- The position of who is in the middle of a run, and the statements left to that run. -/
  runner : Option (Nat × Nat) := none
  agenda : List Task := []

namespace Stage

variable {ε : Type}

def IsTurned (agenda : List Task) : Prop :=
  ∀ msec id part rest, agenda ≠ .turn msec id part :: rest

/-- Nothing is in progress, and nothing waits. -/
structure IsIdle (stage : Stage ε) : Prop where
  nobody : stage.runner = none
  nothing : stage.agenda = []
  rests : stage.moment.IsAtRest

def opening [Engine ε] (moment : Moment ε) (operation : Operation ε) : Stage ε :=
  let moment := (moment.begin operation).informed operation
  { moment, agenda := operation.agenda moment.roster.active }

end Stage

/-- One thing that is done in a session. -/
inductive Act (ε : Type) where
  | begin (operation : Operation ε)
  | turn (id : InstanceId) (part : TurnPart)
  /-- An instance takes a step of its run, and asks others for something. -/
  | step (id : InstanceId) (statement : Option Statement) (asked : List ScriptRequest)
  /-- The run of an instance is over. -/
  | rest (id : InstanceId)
  | carryOut (request : ScriptRequest)
  | round
  | drop (requests : List ScriptRequest)
  | leave
  | block

namespace Act

variable {ε : Type}

def operation? : Act ε → Option (Operation ε)
  | begin operation => some operation
  | _ => none

def cost : Act ε → Nat
  | step _ statement _ => statement.toList.length
  | _ => 0

end Act

variable {ε : Type} [Engine ε]

/-- How a session proceeds from one stage to the next. -/
inductive Proceeds : Stage ε → Act ε → Stage ε → Prop where
  | begin {moment : Moment ε} (rests : moment.IsAtRest) (operation : Operation ε) :
      Proceeds { moment } (.begin operation) (.opening moment operation)
  | turn {moment : Moment ε} {agenda : List Task} {position : Nat} {self : ScriptInstance}
      (carriedOut : moment.pending = []) (stands : moment.roster.active[position]? = some self)
      (msec : Nat) (part : TurnPart) :
      Proceeds { moment, agenda := .turn msec self.id part :: agenda } (.turn self.id part)
        (let passed := part.pass moment.roster.config msec moment.roster.shared.block self
         { moment := moment.replace position passed.2
           runner := if passed.1 then some (position, Run.budget) else none
           agenda })
  | step {moment : Moment ε} {agenda : List Task} {position left : Nat} {self : ScriptInstance}
      {statement : Option Statement} {later : Run ε} {asked : List ScriptRequest}
      (stands : moment.roster.active[position]? = some self)
      (due : (moment.runOf self).Due statement later)
      (asks : later.shared.requests = moment.roster.shared.requests ++ asked) :
      Proceeds { moment, runner := some (position, left + statement.toList.length), agenda }
        (.step self.id statement asked)
        { moment := moment.withRun position later, runner := some (position, left), agenda }
  | rest {moment : Moment ε} {agenda : List Task} {position left : Nat} {self : ScriptInstance}
      (stands : moment.roster.active[position]? = some self)
      (stops : (moment.runOf self).IsHalted ∨
        left = 0 ∧ ∃ statement next, (moment.runOf self).Due (some statement) next) :
      Proceeds { moment, runner := some (position, left), agenda } (.rest self.id)
        { moment, agenda }
  | launch {moment : Moment ε} {agenda : List Task} {action : Action}
      {others : List ScriptRequest} (front : moment.pending = .launch action :: others) :
      Proceeds { moment, agenda } (.carryOut (.launch action))
        { moment :=
            { moment with roster := (moment.roster.reach action).1, pending := others }
          runner := (moment.roster.reach action).2.map (·, Run.budget)
          agenda }
  | cancel {moment : Moment ε} {agenda : List Task} {author : Option InstanceId}
      {track : Option TrackId} {others : List ScriptRequest}
      (front : moment.pending = .cancel author track :: others) :
      Proceeds { moment, agenda } (.carryOut (.cancel author track))
        { moment :=
            (moment.arrive (moment.roster.stopOthers author track moment.rig).value).withPending
              others
          agenda }
  | round {moment : Moment ε} {agenda : List Task} (carriedOut : moment.pending = [])
      (turned : Stage.IsTurned agenda) (asked : moment.roster.shared.requests ≠ [])
      (more : moment.rounds < Roster.maxRounds) :
      Proceeds { moment, agenda } .round { moment := moment.nextRound, agenda }
  | drop {moment : Moment ε} {agenda : List Task} (carriedOut : moment.pending = [])
      (turned : Stage.IsTurned agenda) (asked : moment.roster.shared.requests ≠ [])
      (last : moment.rounds = Roster.maxRounds) :
      Proceeds { moment, agenda } (.drop moment.roster.shared.requests)
        { moment := { moment with roster := moment.roster.withRequests [] }, agenda }
  | leave {moment : Moment ε} {agenda : List Task} (rests : moment.IsAtRest) :
      Proceeds { moment, agenda := .leave :: agenda } .leave
        { moment := moment.arrive (moment.roster.reclaim moment.rig).value, agenda }
  | block {moment : Moment ε} {agenda : List Task} (rests : moment.IsAtRest) :
      Proceeds { moment, agenda := .block :: agenda } .block
        { moment := { moment with
            roster := { moment.roster with
              shared := { moment.roster.shared with block := moment.roster.shared.block + 1 } } }
          agenda }

abbrev Proceedings : Stage ε → List (Stage ε × Act ε) → Stage ε → Prop :=
  Trace Proceeds

/-- The operations that begin in some acts. -/
def opened {ε : Type} (acts : List (Stage ε × Act ε)) : List (Operation ε) :=
  acts.filterMap fun passage => passage.2.operation?

omit [Engine ε] in
theorem opened_append (front back : List (Stage ε × Act ε)) :
    opened (front ++ back) = opened front ++ opened back :=
  List.filterMap_append

omit [Engine ε] in
theorem opened_singleton (stage : Stage ε) (act : Act ε) :
    opened [(stage, act)] = act.operation?.toList := by
  cases isBegin : act.operation? <;> simp [opened, isBegin]

/-! ## Acts as labor -/

/-- Whom a script action reaches is entered or launched, and the action is answered. -/
theorem Roster.Reached.labors {moment : Moment ε} {action : Action}
    {others : List ScriptRequest} (front : moment.pending = .launch action :: others)
    {reached : Roster × Option Nat} (reaches : Roster.Reached moment.roster action reached) :
    LaborsWithin moment 0 { moment with roster := reached.1, pending := others } := by
  cases reaches with
  | nobody => exact .act (.answer front) rfl
  | visited stands unfinished entered =>
      have enters := LaborsWithin.act (.enter front stands unfinished entered) rfl
      exact enters.trans (.act (.answer front) rfl)
  | enlisted target found pressed =>
      have launches := LaborsWithin.labor (.launch front target pressed found)
      exact launches.trans (.act (.answer front) rfl)

/-- Within an operation, every act is labor of the scripts, at the same cost. -/
theorem Proceeds.labors {before after : Stage ε} {act : Act ε}
    (proceeds : Proceeds before act after) (inside : act.operation? = none) :
    LaborsWithin before.moment act.cost after.moment := by
  cases proceeds with
  | begin rests operation => cases inside
  | turn carriedOut stands msec part =>
      refine .labor (.age stands ?_)
      cases part with
      | waking => exact .block _
      | held => exact .held _ _
      | clicking => exact .clicking _ _
  | @step moment agenda position left self statement later asked stands due asks =>
      have steps := LaborsWithin.labor (.step stands due)
      cases statement <;> exact steps
  | rest stands stops => exact .refl _ _
  | launch front => exact (Roster.reached_reach _ _).labors front
  | cancel front => exact Moment.labors_stopOthers _ front
  | round carriedOut turned asked more => exact .act (.round carriedOut more) rfl
  | drop carriedOut turned asked last => exact .act (.drop carriedOut last) rfl
  | leave rests => exact Moment.labors_reclaim _ rests
  | block rests => exact .act (.block rests) rfl

/-- One stage leads to another within an operation, and evaluates no more than some statements. -/
def Leads (first : Stage ε) (most : Nat) (last : Stage ε) : Prop :=
  ∃ acts, Proceedings first acts last ∧ opened acts = [] ∧
    (acts.map fun passage => passage.2.cost).sum ≤ most

namespace Leads

variable {first middle last : Stage ε} {most more : Nat}

theorem refl (stage : Stage ε) (most : Nat) : Leads stage most stage :=
  ⟨[], .nil, rfl, Nat.zero_le most⟩

theorem trans (earlier : Leads first most middle) (later : Leads middle more last) :
    Leads first (most + more) last := by
  obtain ⟨front, toMiddle, noneEarlier, within⟩ := earlier
  obtain ⟨back, toLast, noneLater, withinToo⟩ := later
  refine ⟨front ++ back, toMiddle.append toLast, ?_, ?_⟩
  · rw [opened_append, noneEarlier, noneLater, List.append_nil]
  · rw [List.map_append, List.sum_append]
    exact Nat.add_le_add within withinToo

theorem mono (leads : Leads first most last) (less : most ≤ more) : Leads first more last := by
  obtain ⟨acts, proceedings, none, within⟩ := leads
  exact ⟨acts, proceedings, none, Nat.le_trans within less⟩

theorem act {act : Act ε} (proceeds : Proceeds first act last)
    (inside : act.operation? = none) : Leads first act.cost last :=
  ⟨[(first, act)], .of_step proceeds, by simp [opened, inside], by simp⟩

theorem labors (leads : Leads first most last) :
    LaborsWithin first.moment most last.moment := by
  obtain ⟨acts, proceedings, none, within⟩ := leads
  refine LaborsWithin.mono ?_ within
  clear within
  induction proceedings with
  | nil => exact .refl _ _
  | snoc _ proceeds ih =>
      rw [opened_append, List.append_eq_nil_iff] at none
      rw [List.map_append, List.sum_append]
      have inside := List.filterMap_eq_nil_iff.1 none.2 _ (List.mem_singleton_self _)
      exact (ih none.1).trans ((proceeds.labors inside).mono (by simp))

end Leads

/-! ## Runs -/

/-- A run takes the steps that are due, one act for each. -/
theorem Run.Course.leads {run last : Run ε} {moves : Nat} {visits : List (Run ε)}
    (course : Course run moves visits last) (moment : Moment ε) {position : Nat}
    (within : position < moment.roster.active.length) (agenda : List Task) (left : Nat) :
    Leads
      { moment := moment.withRun position run
        runner := some (position, left + visits.length)
        agenda }
      visits.length
      { moment := moment.withRun position last, runner := some (position, left), agenda } := by
  have stepped {run next : Run ε} {statement : Option Statement} (due : run.Due statement next)
      (left : Nat) :
      Leads
        { moment := moment.withRun position run
          runner := some (position, left + statement.toList.length)
          agenda }
        statement.toList.length
        { moment := moment.withRun position next, runner := some (position, left), agenda } := by
    obtain ⟨asked, asks, -⟩ := (Run.respects_evolves.step due.step).requests
    have proceeds := @Proceeds.step _ _ _ agenda _ left _ _ _ _
      (stands_withRun moment run within) due asks
    rw [withRun_withRun] at proceeds
    exact .act proceeds rfl
  induction course with
  | refl run => exact .refl _ _
  | @pass run next last moves visits due rest ih =>
      have goesOn := (stepped due _).trans ih
      exact goesOn.mono (Nat.le_of_eq (Nat.zero_add _))
  | @visit run next last statement moves visits due rest ih =>
      have goesOn := (stepped due (left + visits.length)).trans ih
      exact goesOn.mono (Nat.le_of_eq (Nat.add_comm 1 _))

theorem leads_go (moment : Moment ε) {position : Nat}
    (within : position < moment.roster.active.length) (agenda : List Task) (run : Run ε) :
    Leads { moment := moment.withRun position run, runner := some (position, Run.budget), agenda }
      Run.budget { moment := moment.withRun position (run.go false).value, agenda } := by
  obtain ⟨visits, spends⟩ := Run.spends_advance Run.budget run
  rw [show run.advance Run.budget = run.go false from rfl] at spends
  obtain ⟨moves, course⟩ := spends.course
  have runs := course.leads moment within agenda (Run.budget - visits.length)
  rw [Nat.sub_add_cancel spends.within] at runs
  have rests := Leads.act (@Proceeds.rest _ _ _ agenda _ (Run.budget - visits.length) _
    (Run.stands_withRun moment _ within)
    (spends.stops.imp id fun spent => ⟨by rw [spent.1, Nat.sub_self], spent.2⟩)) rfl
  exact (runs.trans rests).mono spends.within

/--
The most statements that are evaluated in some rounds, the first of which carries
out a number of requests.
-/
def Roster.settleCost : Nat → Nat → Nat
  | 0, _ => 0
  | rounds + 1, requests =>
      Run.budget * requests + settleCost rounds (trackLimit * (Run.budget * requests))

theorem Roster.settleCost_mono {rounds requests more : Nat} (less : requests ≤ more) :
    settleCost rounds requests ≤ settleCost rounds more := by
  induction rounds generalizing requests more with
  | zero => exact Nat.le_refl _
  | succ rounds ih =>
      have first := Nat.mul_le_mul_left Run.budget less
      exact Nat.add_le_add first (ih (Nat.mul_le_mul_left _ first))

namespace Roster

def upkeepCost (instances requests : Nat) : Nat :=
  3 * Run.budget * instances +
    settleCost maxRounds (requests + trackLimit * (3 * Run.budget * instances))

end Roster

namespace Stage

/-! ## Requests -/

/-- The request in front is carried out, and whoever it sets running takes a whole run. -/
theorem leads_carryOut (moment : Moment ε) (agenda : List Task) {request : ScriptRequest}
    {others : List ScriptRequest} (front : moment.pending = request :: others) :
    Leads { moment, agenda } Run.budget
      { moment :=
          (moment.arrive (moment.roster.carryOut request moment.rig).value).withPending others
        agenda } := by
  cases request with
  | cancel author track => exact (Leads.act (.cancel front) rfl).mono (Nat.zero_le _)
  | launch action =>
      refine ((Leads.act (.launch front) rfl).trans ?_).mono (Nat.le_of_eq (Nat.zero_add _))
      rw [show moment.roster.carryOut (.launch action) moment.rig =
        moment.roster.route action moment.rig from rfl, Roster.value_route]
      have reaches := moment.roster.reached_reach action
      generalize moment.roster.reach action = reached at reaches ⊢
      obtain ⟨roster, target⟩ := reached
      cases target with
      | none => exact .refl _ _
      | some position =>
          obtain ⟨self, stands⟩ := reaches.stands rfl
          dsimp only at stands
          obtain ⟨within, isSelf⟩ := List.getElem?_eq_some_iff.1 stands
          have same : roster.active.set position self = roster.active := by
            rw [← isSelf, List.set_getElem_self]
          have runs := leads_go { moment with roster, pending := others } within agenda
            { self, shared := roster.shared, rig := moment.rig }
          simp only [Moment.withRun, same] at runs
          simp only [Roster.letRun, Option.bind_some, stands]
          exact runs

theorem leads_carryOutAll (moment : Moment ε) (agenda : List Task)
    {requests : List ScriptRequest} (waiting : moment.pending = requests) :
    Leads { moment, agenda } (Run.budget * requests.length)
      { moment :=
          (moment.arrive (moment.roster.carryOutAll moment.rig requests).value).withPending []
        agenda } := by
  induction requests generalizing moment with
  | nil =>
      have same : moment.withPending [] = moment := by rw [← waiting]; rfl
      exact same ▸ .refl { moment, agenda } _
  | cons request others ih =>
      have all := (leads_carryOut moment agenda waiting).trans (ih _ rfl)
      rwa [Nat.add_comm, ← Nat.mul_succ] at all

/-- Requests are carried out in rounds until there are none, or no round is left. -/
theorem leads_settle (moment : Moment ε) {agenda : List Task} (turned : IsTurned agenda)
    {rounds : Nat} (carriedOut : moment.pending = [])
    (left : moment.rounds + rounds = Roster.maxRounds) :
    ∃ last, Leads { moment, agenda }
        (Roster.settleCost rounds moment.roster.shared.requests.length)
        { moment := last, agenda } ∧
      last.IsAtRest ∧ last.state = (moment.roster.settle moment.rig rounds).value := by
  induction rounds generalizing moment with
  | zero =>
      unfold Roster.settle
      by_cases none : moment.roster.shared.requests = []
      · refine ⟨moment, .refl _ _, ⟨carriedOut, none⟩, ?_⟩
        have same : moment.roster.withRequests [] = moment.roster := by rw [← none]; rfl
        rw [none, same]
        rfl
      · refine ⟨_, .act (.drop carriedOut turned none left) rfl, ⟨carriedOut, rfl⟩, ?_⟩
        split <;> rfl
  | succ rounds ih =>
      unfold Roster.settle
      split
      · next none => exact ⟨moment, .refl _ _, ⟨carriedOut, List.isEmpty_iff.1 none⟩, rfl⟩
      · next some_requests =>
          have asked : moment.roster.shared.requests ≠ [] :=
            fun none => some_requests (List.isEmpty_iff.2 none)
          have begins := Leads.act (.round carriedOut turned asked (by omega)) rfl
          have round := leads_carryOutAll moment.nextRound agenda rfl
          have queued := round.labors.length_requests_le
          obtain ⟨last, goesOn, rests, isLast⟩ := ih
            ((moment.nextRound.arrive
              ((moment.roster.withRequests []).carryOutAll moment.rig
                moment.roster.shared.requests).value).withPending []) rfl
            (by change moment.rounds + 1 + rounds = _; omega)
          -- The queue was empty when the round began.
          have bounded : _ ≤ trackLimit * (Run.budget * moment.roster.shared.requests.length) :=
            Nat.le_trans queued (Nat.le_of_eq (Nat.zero_add _))
          refine ⟨last, ((begins.trans round).trans goesOn).mono ?_, rests, isLast⟩
          change 0 + _ + _ ≤ _
          rw [Nat.zero_add]
          exact Nat.add_le_add_left (Roster.settleCost_mono bounded) _

/-! ## Turns -/

theorem leads_take (moment : Moment ε) (carriedOut : moment.pending = []) {position : Nat}
    (within : position < moment.roster.active.length) (agenda : List Task) (msec : Nat)
    (part : TurnPart) (run : Run ε) :
    Leads
      { moment := moment.withRun position run, agenda := .turn msec run.self.id part :: agenda }
      Run.budget
      { moment := moment.withRun position (part.take moment.roster.config msec run).value
        agenda } := by
  have turns := Leads.act (@Proceeds.turn _ _ (moment.withRun position run) agenda _ _ carriedOut
    (Run.stands_withRun moment run within) msec part) rfl
  refine (turns.trans ?_).mono (Nat.le_of_eq (Nat.zero_add _))
  unfold TurnPart.take
  have same (later : ScriptInstance) :
      (moment.withRun position run).replace position later =
        moment.withRun position (run.withSelf later) := by
    simp only [Moment.withRun, Moment.replace, Moment.withActive, Run.withSelf, List.set_set]
  dsimp only
  rw [same]
  change Leads { moment := _, runner := if (part.pass moment.roster.config msec run.shared.block
    run.self).1 then _ else none, agenda := _ } _ _
  split
  · exact leads_go moment within agenda _
  · exact .refl _ _

/-- Once it has run on, time passes for an instance. -/
theorem leads_elapse (moment : Moment ε) (carriedOut : moment.pending = []) {position : Nat}
    (within : position < moment.roster.active.length) (agenda : List Task) (msec : Nat)
    (run : Run ε) :
    Leads
      { moment := moment.withRun position run
        agenda := .turn msec run.self.id .held :: .turn msec run.self.id .clicking :: agenda }
      (2 * Run.budget)
      { moment := moment.withRun position
          (TurnPart.held.take moment.roster.config msec run >>=
            TurnPart.clicking.take moment.roster.config msec).value
        agenda } := by
  have holds := leads_take moment carriedOut within (.turn msec run.self.id .clicking :: agenda)
    msec .held run
  have clicks := leads_take moment carriedOut within agenda msec .clicking
    (TurnPart.held.take moment.roster.config msec run).value
  rw [TurnPart.id_take] at clicks
  exact (holds.trans clicks).mono (Nat.le_of_eq (Nat.two_mul _).symm)

/-- An instance has its whole turn. -/
theorem leads_tick (moment : Moment ε) (carriedOut : moment.pending = []) {position : Nat}
    (within : position < moment.roster.active.length) (agenda : List Task) (msec : Nat)
    (run : Run ε) :
    Leads
      { moment := moment.withRun position run
        agenda := Task.wholeTurn msec run.self ++ agenda }
      (3 * Run.budget)
      { moment := moment.withRun position (Roster.tick moment.roster.config msec run).value
        agenda } := by
  have wakes := leads_take moment carriedOut within
    (.turn msec run.self.id .held :: .turn msec run.self.id .clicking :: agenda) msec .waking run
  have elapses := leads_elapse moment carriedOut within agenda msec
    (TurnPart.waking.take moment.roster.config msec run).value
  rw [TurnPart.id_take] at elapses
  rw [Roster.tick_eq_take, Logged.value_bind]
  exact (wakes.trans elapses).mono (by omega)

theorem leads_tickAll (moment : Moment ε) (carriedOut : moment.pending = []) (msec : Nat)
    (agenda : List Task) (active done behind : List ScriptInstance) (shared : ScriptShared)
    (rig : Rig ε) :
    let ticked := (Roster.tickAll moment.roster.config msec active shared rig).value
    Leads
      { moment :=
          { moment with
            roster := { moment.roster with active := done ++ (active ++ behind), shared }
            rig }
        agenda := active.flatMap (Task.wholeTurn msec) ++ agenda }
      (3 * Run.budget * active.length)
      { moment :=
          { moment with
            roster := { moment.roster with
              active := done ++ (ticked.1 ++ behind), shared := ticked.2.1 }
            rig := ticked.2.2 }
        agenda } := by
  induction active generalizing done shared rig with
  | nil => exact .refl _ _
  | cons self others ih =>
      let standing : Moment ε :=
        { moment with
          roster := { moment.roster with active := done ++ self :: (others ++ behind), shared }
          rig }
      have within : done.length < standing.roster.active.length := by simp [standing]
      have turn := leads_tick standing carriedOut within
        (others.flatMap (Task.wholeTurn msec) ++ agenda) msec { self, shared, rig }
      simp only [standing, Moment.withRun, set_behind] at turn
      have goesOn := ih
        (done ++ [(Roster.tick moment.roster.config msec { self, shared, rig }).value.self])
        (Roster.tick moment.roster.config msec { self, shared, rig }).value.shared
        (Roster.tick moment.roster.config msec { self, shared, rig }).value.rig
      simp only [List.append_assoc, List.singleton_append] at goesOn
      rw [List.flatMap_cons, List.append_assoc]
      refine (turn.trans goesOn).mono (Nat.le_of_eq ?_)
      rw [List.length_cons, Nat.mul_succ]
      omega

/-! ## Operations -/

/-- When every instance has had its turn, requests are carried out and finished ones leave. -/
theorem leads_wrapUp (moment : Moment ε) (carriedOut : moment.pending = [])
    (fresh : moment.rounds = 0) :
    ∃ last : Stage ε, Leads { moment, agenda := [.leave, .block] }
        (Roster.settleCost Roster.maxRounds moment.roster.shared.requests.length) last ∧
      last.IsIdle ∧ last.moment.state = (moment.roster.wrapUp moment.rig).value := by
  obtain ⟨settled, settles, rests, isSettled⟩ := @leads_settle ε _ moment [.leave, .block]
    (by rintro _ _ _ _ ⟨⟩) Roster.maxRounds carriedOut (by rw [fresh, Nat.zero_add])
  have sameShared := (Roster.reclaim_spec settled.roster settled.rig).2.1
  have stillRests : (settled.arrive (settled.roster.reclaim settled.rig).value).IsAtRest :=
    ⟨rests.1, (congrArg ScriptShared.requests sameShared).trans rests.2⟩
  have leaves := Leads.act (@Proceeds.leave _ _ settled [.block] rests) rfl
  have ends := Leads.act (@Proceeds.block _ _ _ [] stillRests) rfl
  refine ⟨_, ((settles.trans leaves).trans ends).mono (Nat.le_of_eq ?_),
    ⟨rfl, rfl, stillRests.1, stillRests.2⟩, ?_⟩
  · exact (Nat.add_zero _).trans (Nat.add_zero _)
  unfold Roster.wrapUp
  simp only [Logged.value_bind, Logged.value_pure, ← isSettled]
  rfl

/-- The scripts keep up with a block. -/
theorem leads_upkeep (moment : Moment ε) (carriedOut : moment.pending = [])
    (fresh : moment.rounds = 0) (frames rate : Nat) :
    ∃ last : Stage ε, Leads
        { moment
          agenda := moment.roster.active.flatMap
            (Task.wholeTurn (Roster.blockMsec frames rate)) ++ [.leave, .block] }
        (Roster.upkeepCost moment.roster.active.length moment.roster.shared.requests.length)
        last ∧
      last.IsIdle ∧
      last.moment.state = (moment.roster.upkeep frames rate moment.rig).value := by
  have ticks := leads_tickAll moment carriedOut (Roster.blockMsec frames rate) [.leave, .block]
    moment.roster.active [] [] moment.roster.shared moment.rig
  simp only [List.nil_append, List.append_nil] at ticks
  have queued := ticks.labors.length_requests_le
  rw [Roster.value_upkeep]
  generalize (Roster.tickAll moment.roster.config (Roster.blockMsec frames rate)
    moment.roster.active moment.roster.shared moment.rig).value = ticked at ticks queued ⊢
  obtain ⟨last, wraps, idle, isLast⟩ := leads_wrapUp
    { moment with
      roster := { moment.roster with active := ticked.1, shared := ticked.2.1 }
      rig := ticked.2.2 } carriedOut fresh
  have bounded := @Roster.settleCost_mono Roster.maxRounds _ _ queued
  exact ⟨last, (ticks.trans wraps).mono (Nat.add_le_add_left bounded _), idle, isLast⟩

/-- A request from outside is carried out, and whatever the scripts then ask of each other. -/
theorem leads_request (moment : Moment ε) {request : ScriptRequest}
    (front : moment.pending = [request]) (fresh : moment.rounds = 0) :
    ∃ last : Stage ε, Leads { moment }
        (Run.budget + Roster.settleCost Roster.maxRounds
          (moment.roster.shared.requests.length + trackLimit * Run.budget)) last ∧
      last.IsIdle ∧
      last.moment.state =
        (do
          let (roster, rig) ← moment.roster.carryOut request moment.rig
          roster.settle rig Roster.maxRounds : Logged (Roster × Rig ε)).value := by
  have carries := leads_carryOut moment [] front
  obtain ⟨last, settles, rests, isLast⟩ := @leads_settle ε _
    ((moment.arrive (moment.roster.carryOut request moment.rig).value).withPending []) []
    (by rintro _ _ _ _ ⟨⟩) Roster.maxRounds rfl
    (by change moment.rounds + _ = _; rw [fresh, Nat.zero_add])
  refine ⟨{ moment := last }, (carries.trans settles).mono ?_, ⟨rfl, rfl, rests⟩, isLast⟩
  exact Nat.add_le_add_left (Roster.settleCost_mono carries.labors.length_requests_le) _

theorem leads_stopAll (moment : Moment ε) (front : moment.pending = [.cancel none none])
    (settled : moment.roster.shared.requests = []) :
    ∃ last : Stage ε, Leads { moment, agenda := [.leave] } 0 last ∧ last.IsIdle ∧
      last.moment.state = (moment.roster.stopAll moment.rig).value := by
  have stops : Leads { moment, agenda := [.leave] } 0 _ := .act (.cancel front) rfl
  have leaves : Leads _ 0 _ := .act (@Proceeds.leave _ _
    ((moment.arrive (moment.roster.stopOthers none none moment.rig).value).withPending []) []
    ⟨rfl, settled⟩) rfl
  have sameShared := (Roster.reclaim_spec
    (moment.roster.stopOthers none none moment.rig).value.1
    (moment.roster.stopOthers none none moment.rig).value.2).2.1
  refine ⟨_, stops.trans leaves, ⟨rfl, rfl, rfl, ?_⟩, ?_⟩
  · exact (congrArg ScriptShared.requests sameShared).trans settled
  · unfold Roster.stopAll
    rw [Moment.foldl_stop]
    rfl

/-- From its opening, an operation proceeds until nothing is in progress. -/
theorem leads_operate (moment : Moment ε) (rests : moment.IsAtRest) (operation : Operation ε) :
    ∃ most last, Leads (opening moment operation) most last ∧ last.IsIdle ∧
      last.moment.state = Roster.outcome moment.state operation := by
  cases operation with
  | run action rig => exact ⟨_, leads_request (moment.begin (.run action rig)) rfl rfl⟩
  | cancel author track rig =>
      exact ⟨_, leads_request (moment.begin (.cancel author track rig)) rfl rfl⟩
  | finishEvent event => exact ⟨0, _, .refl _ _, ⟨rfl, rfl, rests.1, rests.2⟩, rfl⟩
  | finishFunction symbol => exact ⟨0, _, .refl _ _, ⟨rfl, rfl, rests.1, rests.2⟩, rfl⟩
  | install library => exact ⟨0, _, .refl _ _, ⟨rfl, rfl, rests.1, rests.2⟩, rfl⟩
  | maintain frames rate rig =>
      exact ⟨_, leads_upkeep
        ((moment.begin (.maintain frames rate rig)).informed (.maintain frames rate rig))
        rests.1 rfl frames rate⟩
  | stopAll rig => exact ⟨_, leads_stopAll (moment.begin (.stopAll rig)) rfl rests.2⟩

end Stage

/-- Every operation on a roster at rest is a proceeding that ends with nothing in progress. -/
theorem proceedings_operate {stage : Stage ε} (idle : stage.IsIdle) (operation : Operation ε) :
    ∃ acts last, Proceedings stage acts last ∧ opened acts = [operation] ∧ last.IsIdle ∧
      last.moment.state = Roster.outcome stage.moment.state operation := by
  obtain ⟨moment, runner, agenda⟩ := stage
  obtain ⟨rfl, rfl, rests⟩ := idle
  obtain ⟨most, last, ⟨acts, proceedings, none, -⟩, idle, isLast⟩ :=
    Stage.leads_operate moment rests operation
  refine ⟨_, last, (Trace.of_step (.begin rests operation)).append proceedings, ?_, idle, isLast⟩
  rw [opened_append, none]
  rfl

def Stage.start {ε : Type} (config : ScriptConfig) (rig : Rig ε) : Stage ε :=
  { moment := .start config rig }

/-- Every history of operations is a proceeding. -/
theorem proceedings_outcomes (config : ScriptConfig) (rig : Rig ε)
    (history : List (Operation ε)) :
    ∃ acts last, Proceedings (.start config rig) acts last ∧ opened acts = history ∧
      last.IsIdle ∧ last.moment.state = Roster.outcomes config rig history := by
  induction history using List.reverseRecOn with
  | nil => exact ⟨[], _, .nil, rfl, ⟨rfl, rfl, rfl, rfl⟩, rfl⟩
  | append_singleton history operation ih =>
      obtain ⟨front, middle, earlier, isHistory, idle, isMiddle⟩ := ih
      obtain ⟨back, last, later, isOperation, stillIdle, isLast⟩ :=
        proceedings_operate idle operation
      refine ⟨front ++ back, last, earlier.append later, ?_, stillIdle, ?_⟩
      · rw [opened_append, isHistory, isOperation]
      · rw [isLast, isMiddle, Roster.outcomes, Roster.outcomes, List.foldl_append]
        rfl

end Looper
