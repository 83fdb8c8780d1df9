import Looper.Proofs.Script.Course
import Looper.Proofs.Script.Moment
import Looper.Proofs.Script.Queueing

/-!
# The labor of scripts

All that an operation sets going is done one thing after another: an instance
takes the step of its run that is due, time passes for it, a request reaches it,
or one round of requests follows another.  Each statement asks other scripts for
a bounded number of things, so the queue of requests grows no faster than
statements are evaluated.
-/

namespace Looper

variable {ε : Type} [Engine ε]

/-! ## Labor -/

inductive ScriptInstance.Ages (self : ScriptInstance) : ScriptInstance → Prop where
  | block (block : Nat) : Ages self (self.releaseBlock block)
  | held (msec holdTime : Nat) : Ages self (self.advanceSustain msec holdTime).2
  | clicking (msec window : Nat) : Ages self (self.advanceClick msec window).2

/-- Whether scripts do this by themselves, without an operation or the kernel channel. -/
def Deed.isOwn {ε : Type} : Deed ε → Bool
  | .begin _ | .tell _ | .mail => false
  | _ => true

/-- Whether a move is neither a step of a run nor a launch, which labor tells more of. -/
def Deed.isRoutine {ε : Type} : Deed ε → Bool
  | .step .. | .launch _ => false
  | deed => deed.isOwn

/-- The statements that are evaluated in one move. -/
def Deed.cost {ε : Type} : Deed ε → Nat
  | .step _ (some _) => 1
  | _ => 0

/--
One thing that scripts do by themselves; of a run it is the step that is due, and
a launch is that of the script which the action in front is for.
-/
inductive Labor : Moment ε → Deed ε → Moment ε → Prop where
  | step {moment : Moment ε} {position : Nat} {self : ScriptInstance}
      {statement : Option Statement} {later : Run ε}
      (stands : moment.roster.active[position]? = some self)
      (due : (moment.runOf self).Due statement later) :
      Labor moment (.step self.id statement) (moment.withRun position later)
  | age {moment : Moment ε} {position : Nat} {self later : ScriptInstance}
      (stands : moment.roster.active[position]? = some self) (ages : self.Ages later) :
      Labor moment (.tell self.id) (moment.replace position later)
  | launch {moment : Moment ε} {action : Action} {rest : List ScriptRequest} {id : ScriptId}
      {traits : ScriptTraits} {script : Script} (front : moment.pending = .launch action :: rest)
      (target : action.target = .script id traits) (pressed : action.sustainEnd = false)
      (found : moment.roster.shared.library.get? id = some script) :
      Labor moment (.launch (moment.roster.lastId + 1))
        { moment with
          roster := { moment.roster with
            active := moment.roster.active ++ [moment.roster.launched script action]
            idle := moment.roster.idle.tail
            lastId := moment.roster.lastId + 1 } }
  | act {before after : Moment ε} {deed : Deed ε} (move : Move before deed after)
      (routine : deed.isRoutine = true) : Labor before deed after

/-- One moment leads to another by labor in which a number of statements are evaluated. -/
inductive Labors : Moment ε → Nat → Moment ε → Prop where
  | refl (moment : Moment ε) : Labors moment 0 moment
  | tail {first before after : Moment ε} {spent : Nat} {deed : Deed ε}
      (labors : Labors first spent before) (labor : Labor before deed after) :
      Labors first (spent + deed.cost) after

theorem Labors.trans {first middle last : Moment ε} {spent more : Nat}
    (earlier : Labors first spent middle) (later : Labors middle more last) :
    Labors first (spent + more) last := by
  induction later with
  | refl => exact earlier
  | tail _ labor ih =>
      rw [← Nat.add_assoc]
      exact ih.tail labor

/-- One moment leads to another by labor in which no more than some statements are evaluated. -/
def LaborsWithin (first : Moment ε) (most : Nat) (last : Moment ε) : Prop :=
  ∃ spent ≤ most, Labors first spent last

namespace LaborsWithin

theorem refl (moment : Moment ε) (most : Nat) : LaborsWithin moment most moment :=
  ⟨0, Nat.zero_le most, .refl moment⟩

theorem trans {first middle last : Moment ε} {most more : Nat}
    (earlier : LaborsWithin first most middle) (later : LaborsWithin middle more last) :
    LaborsWithin first (most + more) last := by
  obtain ⟨spent, within, front⟩ := earlier
  obtain ⟨further, withinToo, back⟩ := later
  exact ⟨spent + further, Nat.add_le_add within withinToo, front.trans back⟩

theorem mono {first last : Moment ε} {most more : Nat} (labors : LaborsWithin first most last)
    (less : most ≤ more) : LaborsWithin first more last := by
  obtain ⟨spent, within, all⟩ := labors
  exact ⟨spent, Nat.le_trans within less, all⟩

theorem labor {first last : Moment ε} {deed : Deed ε} (labor : Labor first deed last) :
    LaborsWithin first deed.cost last :=
  ⟨deed.cost, Nat.le_refl _, Nat.zero_add deed.cost ▸ (Labors.refl first).tail labor⟩

theorem act {first last : Moment ε} {deed : Deed ε} (move : Move first deed last)
    (routine : deed.isRoutine = true) : LaborsWithin first 0 last := by
  have free : deed.cost = 0 := by
    cases deed with
    | step id statement => cases routine
    | _ => rfl
  exact free ▸ labor (.act move routine)

end LaborsWithin

/-! ## What labor does to the queue -/

namespace Run

theorem Due.length_requests_le {run next : Run ε} {statement : Option Statement}
    (due : run.Due statement next) (id : InstanceId) :
    next.shared.requests.length ≤
      run.shared.requests.length + trackLimit * (Deed.step (ε := ε) id statement).cost := by
  cases due with
  | wake wakes =>
      obtain ⟨_, _, -, -, rfl⟩ := wake?_eq_some.1 wakes
      exact Nat.le_refl _
  | endLevel free past opened => exact Nat.le_refl _
  | finish past closed goesOn => exact Nat.le_refl _
  | evaluate free stands =>
      rw [requests_follow]
      exact (run.effect_evaluate _ _).length_requests_le

end Run

theorem Labor.length_requests_le {before after : Moment ε} {deed : Deed ε}
    (labor : Labor before deed after) :
    after.roster.shared.requests.length ≤
      before.roster.shared.requests.length + trackLimit * deed.cost := by
  cases labor with
  | step stands due => exact due.length_requests_le _
  | age stands ages => exact Nat.le_add_right _ _
  | launch front target pressed found => exact Nat.le_add_right _ _
  | act move routine =>
      cases move with
      | begin rests operation => cases routine
      | step stands steps => cases routine
      | round carriedOut more => exact Nat.zero_le _
      | drop carriedOut last => exact Nat.zero_le _
      | _ => exact Nat.le_add_right _ _

/-- The queue grows no faster than statements are evaluated. -/
theorem LaborsWithin.length_requests_le {first last : Moment ε} {most : Nat}
    (labors : LaborsWithin first most last) :
    last.roster.shared.requests.length ≤
      first.roster.shared.requests.length + trackLimit * most := by
  obtain ⟨spent, within, all⟩ := labors
  refine Nat.le_trans ?_ (Nat.add_le_add_left (Nat.mul_le_mul_left _ within) _)
  clear within
  induction all with
  | refl => exact Nat.le_add_right _ _
  | tail _ labor ih =>
      have once := labor.length_requests_le
      rw [Nat.mul_add]
      omega

/-! ## Instances in place -/

namespace Run

omit [Engine ε] in
theorem stands_withRun (moment : Moment ε) {position : Nat} (run : Run ε)
    (within : position < moment.roster.active.length) :
    (moment.withRun position run).roster.active[position]? = some run.self :=
  List.getElem?_set_self within

omit [Engine ε] in
theorem withRun_withRun (moment : Moment ε) (position : Nat) (run later : Run ε) :
    (moment.withRun position run).withRun position later = moment.withRun position later := by
  simp only [Moment.withRun, List.set_set]

end Run

namespace Moment

def arrive (moment : Moment ε) (state : Roster × Rig ε) : Moment ε :=
  { moment with roster := state.1, rig := state.2 }

def state (moment : Moment ε) : Roster × Rig ε :=
  (moment.roster, moment.rig)

end Moment

theorem set_behind {α : Type} (done rest : List α) (self later : α) :
    (done ++ self :: rest).set done.length later = done ++ later :: rest := by
  rw [List.set_append_right _ _ (Nat.le_refl _), Nat.sub_self, List.set_cons_zero]

theorem getElem?_behind {α : Type} (done rest : List α) (self : α) :
    (done ++ self :: rest)[done.length]? = some self := by
  rw [List.getElem?_append_right (Nat.le_refl _), Nat.sub_self, List.getElem?_cons_zero]

theorem eraseIdx_behind {α : Type} (done rest : List α) (self : α) :
    (done ++ self :: rest).eraseIdx done.length = done ++ rest := by
  rw [List.eraseIdx_append_of_length_le (Nat.le_refl _), Nat.sub_self, List.eraseIdx_cons_zero]

/-! ## Cancellations and departures -/

namespace Moment

theorem labors_cancelIn (moment : Moment ε) {author : Option InstanceId}
    {track : Option TrackId} {rest : List ScriptRequest}
    (front : moment.pending = .cancel author track :: rest)
    (active done : List ScriptInstance) (engine : ε) :
    LaborsWithin ((moment.withActive (done ++ active)).withEngine engine) 0
      ((moment.withActive (done ++ (Roster.cancelIn author track active engine).value.1)).withEngine
        (Roster.cancelIn author track active engine).value.2) := by
  induction active generalizing done engine with
  | nil => exact .refl _ _
  | cons self others ih =>
      have goesOn := ih (done ++ [(Roster.cancelOne author track self engine).value.1])
        (Roster.cancelOne author track self engine).value.2
      simp only [List.append_assoc, List.singleton_append] at goesOn
      refine @LaborsWithin.trans ε _ _ _ _ 0 0 ?_ goesOn
      unfold Roster.cancelOne
      split
      · next concerns =>
          have stops : LaborsWithin _ 0 _ := .act
            (@Move.stop ε _ ((moment.withActive (done ++ self :: others)).withEngine engine) _ _ _
              _ _ front (getElem?_behind done others self) concerns) rfl
          simp only [replace, withActive, withEngine, set_behind] at stops ⊢
          exact stops
      · exact .refl _ _

theorem stopped_of_cancelIn {author : Option InstanceId} {track : Option TrackId}
    {active : List ScriptInstance} {engine : ε} {later : ScriptInstance}
    (member : later ∈ (Roster.cancelIn author track active engine).value.1)
    (concerns : Roster.isCancelled author track later = true) :
    later.isFinished = true ∧ later.uses = [] := by
  induction active generalizing engine with
  | nil => cases member
  | cons self others ih =>
      rcases List.mem_cons.1 member with isFirst | isOther
      · subst isFirst
        unfold Roster.cancelOne at concerns ⊢
        split
        · exact ⟨rfl, rfl⟩
        · next unconcerned =>
            rw [if_neg unconcerned] at concerns
            exact absurd concerns unconcerned
      · exact ih isOther

theorem labors_stopOthers (moment : Moment ε) {author : Option InstanceId}
    {track : Option TrackId} {rest : List ScriptRequest}
    (front : moment.pending = .cancel author track :: rest) :
    LaborsWithin moment 0
      ((moment.arrive (moment.roster.stopOthers author track moment.rig).value).withPending
        rest) := by
  have stops := moment.labors_cancelIn front moment.roster.active [] moment.rig.engine
  exact stops.trans
    (.act (.cancelled front fun _ member concerns => stopped_of_cancelIn member concerns) rfl)

/-- Finished instances leave in order. -/
theorem labors_reclaimFrom (moment : Moment ε) (rests : moment.IsAtRest)
    (active done idle : List ScriptInstance) (rig : Rig ε) :
    LaborsWithin
      { moment with roster := { moment.roster with active := done ++ active, idle }, rig } 0
      { moment with
        roster := { moment.roster with
          active := done ++
            (Roster.reclaimFrom moment.roster.config.maxActive active idle rig).value.1
          idle := (Roster.reclaimFrom moment.roster.config.maxActive active idle rig).value.2.1 }
        rig :=
          (Roster.reclaimFrom moment.roster.config.maxActive active idle rig).value.2.2 } := by
  induction active generalizing done idle rig with
  | nil => exact .refl _ _
  | cons self others ih =>
      unfold Roster.reclaimFrom
      split
      · next finished =>
          have leaves : LaborsWithin _ 0 _ := .act
            (@Move.leave ε _
              { moment with
                roster := { moment.roster with active := done ++ self :: others, idle }, rig }
              _ _ rests (getElem?_behind done others self) finished) rfl
          simp only [eraseIdx_behind] at leaves
          exact leaves.trans (ih done _ _)
      · have goesOn := ih (done ++ [self]) idle rig
        simp only [List.append_assoc, List.singleton_append] at goesOn
        exact goesOn

theorem labors_reclaim (moment : Moment ε) (rests : moment.IsAtRest) :
    LaborsWithin moment 0 (moment.arrive (moment.roster.reclaim moment.rig).value) :=
  moment.labors_reclaimFrom rests moment.roster.active [] moment.roster.idle moment.rig

end Moment

end Looper
