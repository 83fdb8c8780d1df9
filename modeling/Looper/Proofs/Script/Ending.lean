import Looper.Proofs.Script.Proceeding

/-!
# Scripts come to an end

What an operation sets going is labor, and it is over after a number of statements
that depends on the instances and the requests alone.  So is a run, which resumes
later where it has stopped, and in a block every instance has its turn as it stands.
-/

namespace Looper

open Roster (Operation)

variable {ε : Type} [Engine ε]

namespace Moment

/-- Requests are carried out in rounds until there are none, or no round is left. -/
theorem labors_settle (moment : Moment ε) {rounds : Nat} (carriedOut : moment.pending = [])
    (left : moment.rounds + rounds = Roster.maxRounds) :
    ∃ last, LaborsWithin moment
        (Roster.settleCost rounds moment.roster.shared.requests.length) last ∧
      last.IsAtRest ∧ last.state = (moment.roster.settle moment.rig rounds).value := by
  obtain ⟨last, settles, rests, isLast⟩ := @Stage.leads_settle ε _ moment []
    (by rintro _ _ _ _ ⟨⟩) rounds carriedOut left
  exact ⟨last, settles.labors, rests, isLast⟩

/-- What an operation does to a roster at rest, besides telling what is over, is labor. -/
theorem labors_operate (moment : Moment ε) (rests : moment.IsAtRest) (operation : Operation ε) :
    ∃ most last, LaborsWithin ((moment.begin operation).informed operation) most last ∧
      last.IsAtRest ∧ last.state = Roster.outcome moment.state operation := by
  obtain ⟨most, last, leads, idle, isLast⟩ := Stage.leads_operate moment rests operation
  exact ⟨most, last.moment, leads.labors, idle.rests, isLast⟩

theorem value_tickAll_cons (config : ScriptConfig) (msec : Nat) (self : ScriptInstance)
    (others : List ScriptInstance) (shared : ScriptShared) (rig : Rig ε) :
    (Roster.tickAll config msec (self :: others) shared rig).value =
      let run := (Roster.tick config msec { self, shared, rig }).value
      let rest := (Roster.tickAll config msec others run.shared run.rig).value
      (run.self :: rest.1, rest.2) := rfl

theorem value_tickAll_append (config : ScriptConfig) (msec : Nat)
    (front back : List ScriptInstance) (shared : ScriptShared) (rig : Rig ε) :
    (Roster.tickAll config msec (front ++ back) shared rig).value =
      let first := (Roster.tickAll config msec front shared rig).value
      let second := (Roster.tickAll config msec back first.2.1 first.2.2).value
      (first.1 ++ second.1, second.2) := by
  induction front generalizing shared rig with
  | nil => rfl
  | cons self others ih =>
      rw [List.cons_append, value_tickAll_cons, value_tickAll_cons]
      dsimp only
      rw [ih]
      rfl

/-- In a block every instance has its turn as it stands, whatever the others do before. -/
theorem labors_turn (moment : Moment ε) (carriedOut : moment.pending = [])
    (fresh : moment.rounds = 0) (frames rate : Nat) {position : Nat} {self : ScriptInstance}
    (stands : moment.roster.active[position]? = some self) :
    ∃ turn last before after, LaborsWithin moment before turn ∧
      turn.roster.active[position]? = some self ∧
      LaborsWithin (turn.withRun position ((turn.runOf self).go true).value) after last ∧
      last.IsAtRest ∧ last.state = (moment.roster.upkeep frames rate moment.rig).value := by
  obtain ⟨within, isSelf⟩ := List.getElem?_eq_some_iff.1 stands
  have active : moment.roster.active =
      moment.roster.active.take position ++ self :: moment.roster.active.drop (position + 1) := by
    rw [← isSelf, ← List.drop_eq_getElem_cons within, List.take_append_drop]
  generalize isFront : moment.roster.active.take position = front at active
  generalize moment.roster.active.drop (position + 1) = others at active
  have place : position = front.length := by
    rw [← isFront, List.length_take, Nat.min_eq_left (Nat.le_of_lt within)]
  subst place
  have earlier := (Stage.leads_tickAll moment carriedOut (Roster.blockMsec frames rate) []
    front [] (self :: others) moment.roster.shared moment.rig).labors
  rw [List.nil_append, List.nil_append, ← active] at earlier
  have kept := (Roster.lastsAll_tickAll moment.roster.config (Roster.blockMsec frames rate) front
    moment.roster.shared moment.rig).each.length_eq
  rw [Roster.value_upkeep, active, value_tickAll_append]
  dsimp only
  generalize (Roster.tickAll moment.roster.config (Roster.blockMsec frames rate) front
    moment.roster.shared moment.rig).value = first at earlier kept ⊢
  obtain ⟨done, shared, rig⟩ := first
  dsimp only at earlier kept ⊢
  let turn : Moment ε :=
    { moment with
      roster := { moment.roster with active := done ++ self :: others, shared }
      rig }
  have stillThere : turn.roster.active[front.length]? = some self := by
    rw [kept]
    exact getElem?_behind done others self
  have passes := (Stage.leads_elapse turn carriedOut (by simp [turn, kept] :
    front.length < turn.roster.active.length) [] (Roster.blockMsec frames rate)
    (Run.go true ({ self, shared, rig } : Run ε)).value).labors
  have isTick : TurnPart.waking.take moment.roster.config (Roster.blockMsec frames rate)
    { self, shared, rig } = Run.go true ({ self, shared, rig } : Run ε) := rfl
  rw [value_tickAll_cons, Roster.tick_eq_take, Logged.value_bind, isTick]
  generalize isTimed : (TurnPart.held.take moment.roster.config (Roster.blockMsec frames rate)
      (Run.go true ({ self, shared, rig } : Run ε)).value >>=
    TurnPart.clicking.take moment.roster.config (Roster.blockMsec frames rate)).value = timed
      at passes ⊢
  dsimp only at passes ⊢
  have timedTurn : turn.withRun front.length timed =
      { moment with
        roster := { moment.roster with
          active := done ++ [timed.self] ++ (others ++ []), shared := timed.shared }
        rig := timed.rig } := by
    simp only [withRun, turn, kept, set_behind, List.append_nil, List.append_assoc,
      List.singleton_append]
  have ticks := (Stage.leads_tickAll moment carriedOut (Roster.blockMsec frames rate) []
    others (done ++ [timed.self]) [] timed.shared timed.rig).labors
  dsimp only at ticks
  rw [← timedTurn] at ticks
  rw [List.append_nil, List.append_assoc, List.singleton_append] at ticks
  generalize (Roster.tickAll moment.roster.config (Roster.blockMsec frames rate) others
    timed.shared timed.rig).value = ticked at ticks ⊢
  obtain ⟨last, wraps, idle, isLast⟩ := Stage.leads_wrapUp
    { moment with
      roster := { moment.roster with
        active := done ++ timed.self :: ticked.1, shared := ticked.2.1 }
      rig := ticked.2.2 } carriedOut fresh
  exact ⟨turn, last.moment, _, _, earlier, stillThere, (passes.trans ticks).trans wraps.labors,
    idle.rests, isLast⟩

end Moment

/--
Whatever scripts there are and whatever state they are in, they come to an end
and lose nothing on the way.

A run evaluates the statements of one course, at most as many as its budget
allows and with few steps in between; it stops where it waits or has ended, or
with its budget used up before the next statement.  Runs one after another, where
only the first may begin a block, evaluate in the same states the same statements
as one run with the sum of their budgets.  And carrying out the requests that are
queued, a script action or a block ends after a number of statements that depends
on the instances and the requests alone, with no request left.
-/
theorem runs_end_and_resume :
    (∀ (fresh : Bool) (run : Run ε), ∃ visits,
      Run.Spends (run.released fresh) Run.budget visits (run.go fresh) ∧
      (∃ moves ≤ 2 * visits.length + run.self.stack.length + 1,
        Run.Course (run.released fresh) moves visits (run.go fresh).value) ∧
      ∀ {others : List (Run ε)} {outcome : Logged (Run ε)},
        Run.Spends (run.released fresh) Run.budget others outcome →
        others = visits ∧ outcome = run.go fresh) ∧
    (∀ (fresh : Bool) (calls : List Bool) (run : Run ε), (true ∈ calls → fresh = true) →
      ∃ visits, Run.Sequel (fresh :: calls) run visits ∧
        run.goAll (fresh :: calls) =
          ((run.released fresh).advance (Run.budget * (calls.length + 1))).value ∧
        Run.Spends (run.released fresh) (Run.budget * (calls.length + 1)) visits
          ((run.released fresh).advance (Run.budget * (calls.length + 1)))) ∧
    ∀ (roster : Roster) (rig : Rig ε),
      (∃ last, LaborsWithin { roster, rig }
          (Roster.settleCost Roster.maxRounds roster.shared.requests.length) last ∧
        last.IsAtRest ∧ last.state = (roster.settle rig Roster.maxRounds).value) ∧
      (∀ action : Action, ∃ last, LaborsWithin { roster, rig, pending := [.launch action] }
          (Run.budget + Roster.settleCost Roster.maxRounds
            (roster.shared.requests.length + trackLimit * Run.budget)) last ∧
        last.IsAtRest ∧ last.state = (roster.runScript action rig).value) ∧
      ∀ frames rate : Nat, ∃ last, LaborsWithin
          { roster := (roster.hearCompletions rig).1, rig := (roster.hearCompletions rig).2 }
          (Roster.upkeepCost roster.active.length roster.shared.requests.length) last ∧
        last.IsAtRest ∧ last.state = (roster.maintain frames rate rig).value := by
  refine ⟨?_, ?_, ?_⟩
  · intro fresh run
    have opened : (run.released fresh).self.stack.length = run.self.stack.length := by
      cases fresh with
      | false => rfl
      | true => exact List.length_map _
    obtain ⟨visits, spends⟩ := Run.spends_advance Run.budget (run.released fresh)
    rw [← Run.go_eq_advance] at spends
    obtain ⟨moves, course⟩ := spends.course
    exact ⟨visits, spends, ⟨moves, opened ▸ course.moves_le, course⟩, fun other =>
      spends.unique other⟩
  · intro fresh calls run known
    exact run.sequel_go fresh calls known
  · intro roster rig
    refine ⟨?_, ?_, ?_⟩
    · exact Moment.labors_settle { roster, rig } rfl rfl
    · intro action
      obtain ⟨last, leads, idle, isLast⟩ :=
        Stage.leads_request { roster, rig, pending := [.launch action] } rfl rfl
      exact ⟨last.moment, leads.labors, idle.rests, isLast⟩
    · intro frames rate
      have active : (roster.hearCompletions rig).1.active.length = roster.active.length :=
        (roster.deliverCompletions_spec _ _).1
      have shared : (roster.hearCompletions rig).1.shared = roster.shared :=
        (roster.deliverCompletions_spec _ _).2
      rw [← active, ← shared]
      obtain ⟨last, leads, idle, isLast⟩ := Stage.leads_upkeep
        { roster := (roster.hearCompletions rig).1, rig := (roster.hearCompletions rig).2 }
        rfl rfl frames rate
      exact ⟨last.moment, leads.labors, idle.rests, isLast⟩

end Looper
