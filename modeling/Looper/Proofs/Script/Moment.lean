import Looper.Proofs.Script.Release
import Mathlib.Data.List.Nodup

/-!
# Moments of a session

Between two operations of a session the scripts go through many moments: an
instance takes one step of its run, is told of something, is stopped or leaves,
and requests wait in a queue until their round comes.  `Move` says how one moment
leads to the next, and `Moves` is a stretch of moments with what was done in each.
That every history of operations is such a stretch is shown in `Unfolding`.
-/

namespace Looper

open Roster (Operation)

/-! ## What happens to an instance -/

namespace ScriptInstance

/-- An instance is told of what it waits for, or time passes for it. -/
inductive Told (self : ScriptInstance) : ScriptInstance → Prop where
  | event (event : EventId) : Told self (self.finishEvent event)
  | function (symbol : SymbolId) : Told self (self.finishFunction symbol)
  | kernel (event : KernelEventId) (returnCode : Int) :
      Told self (self.finishKernel event returnCode)
  | block (block : Nat) : Told self (self.releaseBlock block)
  | held (msec holdTime : Nat) : Told self (self.advanceSustain msec holdTime).2
  | clicking (msec window : Nat) : Told self (self.advanceClick msec window).2

inductive Entered (self : ScriptInstance) : ScriptInstance → Prop where
  | release : Entered self self.endSustain.2
  | click : Entered self self.click.2
  | reentry {label : Nat} (slot : self.script.labels.reentry = some label) :
      Entered self (self.notify label)

end ScriptInstance

/-! ## Moments and moves -/

/-- The scripts at one moment. -/
structure Moment (ε : Type) where
  roster : Roster
  rig : Rig ε
  /-- The requests that the round in progress has still to carry out, the next one first. -/
  pending : List ScriptRequest := []
  /-- The rounds that the operation in progress has begun. -/
  rounds : Nat := 0
  deriving DecidableEq, Repr

namespace Moment

variable {ε : Type}

def start (config : ScriptConfig) (rig : Rig ε) : Moment ε :=
  { roster := .new config {}, rig }

/-- No request waits to be carried out. -/
def IsAtRest (moment : Moment ε) : Prop :=
  moment.pending = [] ∧ moment.roster.shared.requests = []

def runOf (moment : Moment ε) (self : ScriptInstance) : Run ε :=
  { self, shared := moment.roster.shared, rig := moment.rig }

def withActive (moment : Moment ε) (active : List ScriptInstance) : Moment ε :=
  { moment with roster := { moment.roster with active } }

def withEngine (moment : Moment ε) (engine : ε) : Moment ε :=
  { moment with rig := { moment.rig with engine } }

def withPending (moment : Moment ε) (pending : List ScriptRequest) : Moment ε :=
  { moment with pending }

def replace (moment : Moment ε) (position : Nat) (self : ScriptInstance) : Moment ε :=
  moment.withActive (moment.roster.active.set position self)

def withRun (moment : Moment ε) (position : Nat) (run : Run ε) : Moment ε :=
  { moment with
    roster := { moment.roster with
      shared := run.shared
      active := moment.roster.active.set position run.self }
    rig := run.rig }

/-- The requests made so far become those of the next round. -/
def nextRound (moment : Moment ε) : Moment ε :=
  { moment with
    roster := moment.roster.withRequests []
    pending := moment.roster.shared.requests
    rounds := moment.rounds + 1 }

/-- The operation that begins brings what it can reach, and what it asks of the scripts. -/
def begin (moment : Moment ε) : Operation ε → Moment ε
  | .run action rig => { moment with rig, pending := [.launch action], rounds := 0 }
  | .cancel author track rig =>
      { moment with rig, pending := [.cancel author track], rounds := 0 }
  | .finishEvent _ => { moment with rounds := 0 }
  | .finishFunction _ => { moment with rounds := 0 }
  | .install library =>
      { moment with roster := (moment.roster.install library).2, rounds := 0 }
  | .maintain _ _ rig => { moment with rig, rounds := 0 }
  | .stopAll rig => { moment with rig, pending := [.cancel none none], rounds := 0 }

end Moment

/-- No two running instances have the same number, and launches count on from there. -/
structure Moment.IsNumbered {ε : Type} (moment : Moment ε) : Prop where
  distinct : (moment.roster.active.map ScriptInstance.id).Nodup
  launched : ∀ self ∈ moment.roster.active, self.id ≤ moment.roster.lastId

inductive Deed (ε : Type) where
  | begin (operation : Operation ε)
  /-- An instance takes a step of its run; without a statement it costs nothing. -/
  | step (id : InstanceId) (statement : Option Statement)
  | tell (id : InstanceId)
  /-- The script action in front reaches a running instance. -/
  | enter (id : InstanceId)
  /-- The script action in front launches an instance. -/
  | launch (id : InstanceId)
  /-- The script action in front has been carried out. -/
  | answer
  /-- The cancellation in front stops an instance. -/
  | stop (id : InstanceId)
  /-- The cancellation in front has been carried out. -/
  | cancelled (author : Option InstanceId) (track : Option TrackId)
  /-- A round begins. -/
  | round
  /-- Requests that are left after the last round are dropped. -/
  | drop
  /-- A finished instance leaves. -/
  | leave (id : InstanceId)
  /-- Envelopes of the kernel channel go round. -/
  | mail
  /-- The block is over. -/
  | block

def Deed.operation? {ε : Type} : Deed ε → Option (Operation ε)
  | .begin operation => some operation
  | _ => none

def begun {ε : Type} (steps : List (Deed ε × Moment ε)) : List (Operation ε) :=
  steps.filterMap fun step => step.1.operation?

variable {ε : Type} [Engine ε]

/-- How one moment leads to the next. -/
inductive Move : Moment ε → Deed ε → Moment ε → Prop where
  | begin {moment : Moment ε} (rests : moment.IsAtRest) (operation : Operation ε) :
      Move moment (.begin operation) (moment.begin operation)
  | step {moment : Moment ε} {position : Nat} {self : ScriptInstance}
      {statement : Option Statement} {later : Run ε}
      (stands : moment.roster.active[position]? = some self)
      (steps : (moment.runOf self).Step statement later) :
      Move moment (.step self.id statement) (moment.withRun position later)
  | tell {moment : Moment ε} {position : Nat} {self later : ScriptInstance}
      (stands : moment.roster.active[position]? = some self) (told : self.Told later) :
      Move moment (.tell self.id) (moment.replace position later)
  | enter {moment : Moment ε} {action : Action} {rest : List ScriptRequest} {position : Nat}
      {self later : ScriptInstance} (front : moment.pending = .launch action :: rest)
      (stands : moment.roster.active[position]? = some self)
      (unfinished : self.isFinished = false) (entered : self.Entered later) :
      Move moment (.enter self.id) (moment.replace position later)
  | launch {moment : Moment ε} {action : Action} {rest : List ScriptRequest} {id : ScriptId}
      {script : Script} (front : moment.pending = .launch action :: rest)
      (found : moment.roster.shared.library.get? id = some script) :
      Move moment (.launch (moment.roster.lastId + 1))
        { moment with
          roster := { moment.roster with
            active := moment.roster.active ++ [moment.roster.launched script action]
            idle := moment.roster.idle.tail
            lastId := moment.roster.lastId + 1 } }
  | answer {moment : Moment ε} {action : Action} {rest : List ScriptRequest}
      (front : moment.pending = .launch action :: rest) :
      Move moment .answer (moment.withPending rest)
  | stop {moment : Moment ε} {author : Option InstanceId} {track : Option TrackId}
      {rest : List ScriptRequest} {position : Nat} {self : ScriptInstance}
      (front : moment.pending = .cancel author track :: rest)
      (stands : moment.roster.active[position]? = some self)
      (concerns : Roster.isCancelled author track self = true) :
      Move moment (.stop self.id)
        ((moment.replace position (self.stop moment.rig.engine).1).withEngine
          (self.stop moment.rig.engine).2)
  | cancelled {moment : Moment ε} {author : Option InstanceId} {track : Option TrackId}
      {rest : List ScriptRequest} (front : moment.pending = .cancel author track :: rest)
      (done : ∀ self ∈ moment.roster.active, Roster.isCancelled author track self = true →
        self.isFinished = true ∧ self.uses = []) :
      Move moment (.cancelled author track) (moment.withPending rest)
  | round {moment : Moment ε} (carriedOut : moment.pending = [])
      (more : moment.rounds < Roster.maxRounds) :
      Move moment .round moment.nextRound
  | drop {moment : Moment ε} (carriedOut : moment.pending = [])
      (last : moment.rounds = Roster.maxRounds) :
      Move moment .drop { moment with roster := moment.roster.withRequests [] }
  | leave {moment : Moment ε} {position : Nat} {self : ScriptInstance} (rests : moment.IsAtRest)
      (stands : moment.roster.active[position]? = some self) (finished : self.isFinished = true) :
      Move moment (.leave self.id)
        { moment with
          roster := { moment.roster with
            active := moment.roster.active.eraseIdx position
            idle := if moment.roster.idle.length < moment.roster.config.maxActive then
                (Roster.seeOff self moment.rig).value.1 :: moment.roster.idle
              else moment.roster.idle }
          rig := (Roster.seeOff self moment.rig).value.2 }
  | mail {moment : Moment ε} (kernel : KernelChannel) :
      Move moment .mail { moment with rig := { moment.rig with kernel } }
  | block {moment : Moment ε} (rests : moment.IsAtRest) :
      Move moment .block
        { moment with
          roster := { moment.roster with
            shared := { moment.roster.shared with block := moment.roster.shared.block + 1 } } }

/-! ## Stretches of moments -/

/-- Moves that follow each other, each with the moment it leads to. -/
inductive Moves : Moment ε → List (Deed ε × Moment ε) → Moment ε → Prop where
  | nil (moment : Moment ε) : Moves moment [] moment
  | cons {first next last : Moment ε} {deed : Deed ε} {rest : List (Deed ε × Moment ε)}
      (move : Move first deed next) (others : Moves next rest last) :
      Moves first ((deed, next) :: rest) last

namespace Moves

theorem append {first middle last : Moment ε} {front back : List (Deed ε × Moment ε)}
    (earlier : Moves first front middle) (later : Moves middle back last) :
    Moves first (front ++ back) last := by
  induction earlier with
  | nil moment => exact later
  | cons move others ih => exact .cons move (ih later)

theorem divide {first last : Moment ε} {front back : List (Deed ε × Moment ε)}
    (moves : Moves first (front ++ back) last) :
    ∃ middle, Moves first front middle ∧ Moves middle back last := by
  induction front generalizing first with
  | nil => exact ⟨first, .nil first, moves⟩
  | cons step front ih =>
      cases moves with
      | cons move others =>
          obtain ⟨middle, earlier, later⟩ := ih others
          exact ⟨middle, .cons move earlier, later⟩

/-- What every move keeps holds to the end of a stretch. -/
theorem keeps {holds : Moment ε → Prop} {first last : Moment ε}
    {steps : List (Deed ε × Moment ε)} (moves : Moves first steps last)
    (each : ∀ {before after : Moment ε} {deed : Deed ε}, (∃ next, (deed, next) ∈ steps) →
      Move before deed after → holds before → holds after)
    (initially : holds first) : holds last := by
  induction moves with
  | nil moment => exact initially
  | cons move others ih =>
      refine ih ?_ (each ⟨_, List.mem_cons_self⟩ move initially)
      rintro before after deed ⟨next, member⟩
      exact each ⟨next, List.mem_cons_of_mem _ member⟩

end Moves

/-- A finished instance is reported before its parameters are put back. -/
theorem engine_seeOff (self : ScriptInstance) (rig : Rig ε) :
    (Roster.seeOff self rig).value.2.engine =
      (self.restoreUses (Engine.scriptFinished rig.engine self.id)).2 := by
  unfold Roster.seeOff
  dsimp only
  split <;> rfl

theorem mem_set_or_eq {active : List ScriptInstance} {position : Nat}
    {self other : ScriptInstance} (stands : active[position]? = some self)
    (member : other ∈ active) (later : ScriptInstance) :
    other = self ∨ other ∈ active.set position later := by
  obtain ⟨place, isOther⟩ := List.mem_iff_getElem?.1 member
  by_cases samePlace : position = place
  · rw [← samePlace, stands] at isOther
    exact .inl (Option.some.inj isOther).symm
  · refine .inr (List.mem_iff_getElem?.2 ⟨place, ?_⟩)
    rw [List.getElem?_set_ne samePlace, isOther]

/-! ## Numbers of instances -/

section Numbers

omit [Engine ε] in
theorem ScriptInstance.Told.continues {self later : ScriptInstance} (told : self.Told later) :
    self.Continues later := by
  cases told with
  | event event => exact (self.continues_finishEvent event).1
  | function symbol => exact (self.continues_finishFunction symbol).1
  | kernel event returnCode => exact (self.continues_finishKernel event returnCode).1
  | block block =>
      have home := homeFrom_map_mapWait (Wait.releaseBlock block) self.track self.stack
      have kept : (self.releaseBlock block).steady = self.steady := rfl
      exact (continues_of_steady kept home).1
  | held msec holdTime => exact (self.elapses_advanceSustain msec holdTime).continues.1
  | clicking msec window => exact (self.elapses_advanceClick msec window).continues.1

omit [Engine ε] in
theorem ScriptInstance.Entered.continues {self later : ScriptInstance}
    (entered : self.Entered later) : self.Continues later := by
  cases entered with
  | release => exact self.continues_endSustain.1
  | click => exact self.continues_click.1
  | reentry slot => exact (self.continues_notify _).1

theorem Run.Step.evolves {run later : Run ε} {statement : Option Statement}
    (step : run.Step statement later) : Run.Evolves run later :=
  Run.respects_evolves.step step

omit [Engine ε] in
theorem Moment.IsNumbered.withActive {moment : Moment ε} (numbered : moment.IsNumbered)
    {position : Nat} {self later : ScriptInstance}
    (stands : moment.roster.active[position]? = some self) (same : later.id = self.id) :
    (moment.replace position later).IsNumbered := by
  have there : (moment.roster.active.map ScriptInstance.id)[position]? = some self.id := by
    rw [List.getElem?_map, stands, Option.map_some]
  obtain ⟨within, isId⟩ := List.getElem?_eq_some_iff.1 there
  have ids : (moment.roster.active.set position later).map ScriptInstance.id =
      moment.roster.active.map ScriptInstance.id := by
    rw [List.map_set, same, ← isId, List.set_getElem_self]
  constructor
  · change ((moment.roster.active.set position later).map ScriptInstance.id).Nodup
    rw [ids]
    exact numbered.distinct
  · intro other member
    rcases List.mem_or_eq_of_mem_set member with earlier | isLater
    · exact numbered.launched other earlier
    · rw [isLater, same]
      exact numbered.launched self (List.mem_of_getElem? stands)

omit [Engine ε] in
theorem Moment.IsNumbered.map {moment : Moment ε} (numbered : moment.IsNumbered)
    {change : ScriptInstance → ScriptInstance} (same : ∀ self, (change self).id = self.id) :
    (moment.withActive (moment.roster.active.map change)).IsNumbered := by
  constructor
  · change ((moment.roster.active.map change).map ScriptInstance.id).Nodup
    rw [List.map_map, show ScriptInstance.id ∘ change = ScriptInstance.id from funext same]
    exact numbered.distinct
  · intro later member
    obtain ⟨self, there, rfl⟩ := List.mem_map.1 member
    rw [same self]
    exact numbered.launched self there

omit [Engine ε] in
theorem Moment.IsNumbered.launch {moment later : Moment ε} (numbered : moment.IsNumbered)
    (script : Script) (action : Action)
    (active : later.roster.active =
      moment.roster.active ++ [moment.roster.launched script action])
    (lastId : later.roster.lastId = moment.roster.lastId + 1) : later.IsNumbered := by
  have isNew := (moment.roster.launched_eq script action).1
  constructor
  · rw [active, List.map_append, List.map_singleton, isNew]
    refine List.nodup_append.2 ⟨numbered.distinct, List.nodup_singleton _, ?_⟩
    rintro id earlier other isOther rfl
    obtain ⟨self, member, isId⟩ := List.mem_map.1 earlier
    have bound := numbered.launched self member
    rw [isId, List.mem_singleton.1 isOther] at bound
    exact absurd bound (Nat.not_succ_le_self _)
  · intro self member
    rw [active] at member
    rw [lastId]
    rcases List.mem_append.1 member with earlier | isLaunched
    · exact Nat.le_succ_of_le (numbered.launched self earlier)
    · rw [List.mem_singleton.1 isLaunched, isNew]

/-- Every move gives a launched instance a new number and keeps the numbers of the others. -/
theorem Move.numbered {before after : Moment ε} {deed : Deed ε} (move : Move before deed after)
    (numbered : before.IsNumbered) : after.IsNumbered := by
  cases move with
  | begin rests operation => cases operation <;> exact ⟨numbered.distinct, numbered.launched⟩
  | step stands steps =>
      have changed := numbered.withActive stands steps.evolves.id_eq
      exact ⟨changed.distinct, changed.launched⟩
  | tell stands told => exact numbered.withActive stands told.continues.id
  | enter front stands unfinished entered => exact numbered.withActive stands entered.continues.id
  | @launch action rest id script front found => exact numbered.launch script action rfl rfl
  | @stop author track rest position self front stands concerns =>
      have changed := numbered.withActive stands (self.continues_stop before.rig.engine).id
      exact ⟨changed.distinct, changed.launched⟩
  | @leave position self rests stands finished =>
      constructor
      · exact numbered.distinct.sublist ((List.eraseIdx_sublist _ _).map _)
      · intro other member
        exact numbered.launched other (List.mem_of_mem_eraseIdx member)
  | _ => exact ⟨numbered.distinct, numbered.launched⟩

theorem Moves.numbered {first last : Moment ε} {steps : List (Deed ε × Moment ε)}
    (moves : Moves first steps last) (numbered : first.IsNumbered) : last.IsNumbered :=
  moves.keeps (fun _ move => move.numbered) numbered

omit [Engine ε] in
theorem Moment.numbered_start (config : ScriptConfig) (rig : Rig ε) :
    (Moment.start config rig).IsNumbered :=
  ⟨.nil, fun _ member => by cases member⟩

omit [Engine ε] in
theorem Moment.IsNumbered.unique {moment : Moment ε} (numbered : moment.IsNumbered)
    {self other : ScriptInstance} (member : self ∈ moment.roster.active)
    (isOther : other ∈ moment.roster.active) (same : self.id = other.id) : self = other :=
  List.inj_on_of_nodup_map numbered.distinct member isOther same

end Numbers

end Looper
