import Looper.Proofs.Script.Story

/-!
# What instances remember

An instance remembers the last event that the engine gave it and the last request
that it sent to the control side, to wait for them later.  It comes to remember
only what one of its statements obtains, and it forgets what it is told to be over.
-/

namespace Looper

def Completion.ends : Completion → Cause → Bool
  | event id, .event other => id == other
  | kernel id _, .kernel other => id == other
  | function symbol, .function other => symbol == other
  | block number, .block other => other < number
  | _, _ => false

namespace ScriptInstance

/-- The last events of an instance that are not over, as far as it knows, and the last answer. -/
def memory (self : ScriptInstance) : Option EventId × Option KernelEventId × Int :=
  (self.lastEvent, self.lastKernelEvent, self.returnCode)

/-- The instance would wait for something if it came to wait for its last event. -/
def Remembers (self : ScriptInstance) : Cause → Prop
  | .event id => self.lastEvent = some id
  | .kernel id => self.lastKernelEvent = some id
  | _ => False

theorem remembers_of_memory {self later : ScriptInstance} (same : later.memory = self.memory)
    {cause : Cause} (remembers : later.Remembers cause) : self.Remembers cause := by
  obtain ⟨lastEvent, others⟩ := Prod.mk.inj same
  obtain ⟨lastKernelEvent, -⟩ := Prod.mk.inj others
  cases cause with
  | event id => exact lastEvent.symm.trans remembers
  | kernel id => exact lastKernelEvent.symm.trans remembers
  | _ => exact remembers

/-- An instance forgets what it is told to be over, and nothing else. -/
theorem remembers_hear {self : ScriptInstance} {completion : Completion} {cause : Cause}
    (remembers : (self.hear completion).Remembers cause) :
    self.Remembers cause ∧ completion.ends cause = false := by
  cases completion with
  | event id =>
      rw [hear, finishEvent_eq] at remembers
      cases cause with
      | event other =>
          change (if self.lastEvent = some id then none else self.lastEvent) = some other
            at remembers
          split at remembers
          · cases remembers
          · next different =>
              refine ⟨remembers, beq_false_of_ne fun same => different ?_⟩
              rw [same]
              exact remembers
      | kernel other => exact ⟨remembers, rfl⟩
      | _ => exact ⟨remembers, rfl⟩
  | kernel id returnCode =>
      rw [hear, finishKernel_eq] at remembers
      cases cause with
      | kernel other =>
          change (if self.lastKernelEvent = some id then none else self.lastKernelEvent) =
            some other at remembers
          split at remembers
          · cases remembers
          · next different =>
              refine ⟨remembers, beq_false_of_ne fun same => different ?_⟩
              rw [same]
              exact remembers
      | event other => exact ⟨remembers, rfl⟩
      | _ => exact ⟨remembers, rfl⟩
  | function symbol =>
      cases cause with
      | function other => exact remembers.elim
      | _ => exact ⟨remembers, rfl⟩
  | block number =>
      cases cause with
      | block other => exact remembers.elim
      | _ => exact ⟨remembers, rfl⟩

theorem memory_unwind (self : ScriptInstance) (frames : List Frame) :
    (self.unwind frames).memory = self.memory := by
  obtain ⟨current, pc, stack, track, isLater, -⟩ := self.unwind_eq frames
  rw [isLater]
  rfl

theorem memory_notifyKind (self : ScriptInstance) (kind : LabelKind) :
    (self.notifyKind kind).2.memory = self.memory := by
  unfold notifyKind
  split <;> rfl

theorem Ages.memory {self later : ScriptInstance} (ages : self.Ages later) :
    later.memory = self.memory := by
  have elapsed {later : ScriptInstance} (elapses : self.Elapses later) :
      later.memory = self.memory := by
    cases elapses with
    | count => rfl
    | enter sustainElapsed sustainCount clickElapsed clicking kind =>
        exact memory_notifyKind
          { self with sustainElapsed, sustainCount, clickElapsed, clicking } kind
  cases ages with
  | block number => rfl
  | held msec holdTime => exact elapsed (self.elapses_advanceSustain msec holdTime)
  | clicking msec window => exact elapsed (self.elapses_advanceClick msec window)

theorem Entered.memory {self later : ScriptInstance} (entered : self.Entered later) :
    later.memory = self.memory := by
  cases entered with
  | release =>
      exact memory_notifyKind { self with sustaining := false, sustainElapsed := 0 } .endSustain
  | click =>
      exact memory_notifyKind
        { self with clickCount := self.clickCount + 1, clickElapsed := 0 } .click
  | reentry slot => rfl

end ScriptInstance

namespace Run

variable {ε : Type} [Engine ε]

/-- What the engine or the control side gives an instance where it evaluates a statement. -/
def Obtains (run : Run ε) (cause : Cause) : Statement → Prop
  | .wait (.msec time) => run.waitsFor? (.msec time) = some cause
  | .request kind args =>
      (run.rig.kernel.request kind (run.expandAll args).value run.self.requestId).value.1.map
        .kernel = some cause
  | .invoke invocation =>
      let action := (Dispatch.perform .queue
        (run.actionOf invocation (run.expand invocation.args).value)
        (run.shared.requests, run.rig)).value.1
      action.event.map .event = some cause ∨ action.kernelEvent.map .kernel = some cause
  | _ => False

/-- Only what a statement obtains is remembered from then on. -/
theorem Effect.remembers {run : Run ε} {index : Nat} {statement : Statement} {flow : Flow}
    {later : Run ε} (effect : run.Effect index statement flow later) {cause : Cause}
    (remembers : later.self.Remembers cause) :
    run.self.Remembers cause ∨ run.Obtains cause statement := by
  have sends {kind : KernelKind} {args : List String} {id : KernelEventId}
      {kernel : KernelChannel} {self : ScriptInstance}
      (requested : (run.rig.kernel.request kind (run.expandAll args).value
        run.self.requestId).value = (some id, kernel))
      (memory : self.memory = { run.self with lastKernelEvent := some id }.memory)
      (remembers : self.Remembers cause) :
      run.self.Remembers cause ∨ run.Obtains cause (.request kind args) := by
    have remembered := ScriptInstance.remembers_of_memory memory remembers
    cases cause with
    | kernel other =>
        right
        rw [Obtains, requested]
        exact congrArg (Option.map Cause.kernel) remembered
    | _ => exact .inl remembered
  cases effect with
  | scheduled read schedules =>
      cases cause with
      | event other =>
          exact .inr ((run.waitsFor?_msec read schedules).trans
            (congrArg (Option.map Cause.event) remembers))
      | _ => exact .inl remembers
  | refused requested forgets =>
      cases cause with
      | kernel other =>
          rcases forgets with rfl | rfl
          · cases remembers
          · exact .inl remembers
      | _ => exact .inl remembers
  | sent requested unanswered => exact sends requested rfl remembers
  | asked requested answered => exact sends requested rfl remembers
  | @invoked invocation action requests rig resolved performed =>
      rw [Obtains, performed]
      cases cause with
      | event other =>
          change (action.event <|> run.self.lastEvent) = some other at remembers
          cases event : action.event with
          | none =>
              rw [event] at remembers
              exact .inl remembers
          | some id =>
              rw [event] at remembers
              exact .inr (.inl (congrArg (Option.map Cause.event) remembers))
      | kernel other =>
          change (action.kernelEvent <|> run.self.lastKernelEvent) = some other at remembers
          cases event : action.kernelEvent with
          | none =>
              rw [event] at remembers
              exact .inl remembers
          | some id =>
              rw [event] at remembers
              exact .inr (.inr (congrArg (Option.map Cause.kernel) remembers))
      | _ => exact remembers.elim
  | _ => exact .inl (ScriptInstance.remembers_of_memory rfl remembers)

omit [Engine ε] in
theorem memory_follow (run : Run ε) (index : Nat) (flow : Flow) :
    (run.follow index flow).self.memory = run.self.memory := by
  cases flow with
  | next => rfl
  | goto target => rfl
  | placed => rfl
  | finish => exact run.self.memory_unwind run.self.stack

theorem Due.remembers {run next : Run ε} {statement : Option Statement}
    (due : run.Due statement next) {cause : Cause} (remembers : next.self.Remembers cause) :
    run.self.Remembers cause ∨ ∃ evaluated, statement = some evaluated ∧
      run.Obtains cause evaluated := by
  cases due with
  | wake wakes =>
      obtain ⟨_, _, -, -, rfl⟩ := wake?_eq_some.1 wakes
      exact .inl (ScriptInstance.remembers_of_memory rfl remembers)
  | endLevel free past opened =>
      exact .inl (ScriptInstance.remembers_of_memory (run.self.memory_unwind _) remembers)
  | finish past closed goesOn =>
      exact .inl (ScriptInstance.remembers_of_memory rfl remembers)
  | evaluate free stands =>
      exact ((run.effect_evaluate _ _).remembers
        (ScriptInstance.remembers_of_memory (memory_follow _ _ _) remembers)).imp_right
        fun obtains => ⟨_, rfl, obtains⟩

end Run

variable {ε : Type} [Engine ε]

/-- An instance remembers what it remembered, unless it is told that it is over, or obtains it. -/
theorem Befalls.remembers {run later : Run ε} {happening : Happening ε}
    (befalls : Befalls run happening later) {cause : Cause}
    (remembers : later.self.Remembers cause) :
    (run.self.Remembers cause ∧
      ∀ completion, happening.told? = some completion → completion.ends cause = false) ∨
    ∃ statement, happening = .labor (.step run.self.id (some statement)) ∧
      run.Obtains cause statement := by
  have kept (same : later.self.memory = run.self.memory) (untold : happening.told? = none) :
      run.self.Remembers cause ∧
        ∀ completion, happening.told? = some completion → completion.ends cause = false := by
    refine ⟨ScriptInstance.remembers_of_memory same remembers, fun completion isTold => ?_⟩
    rw [untold] at isTold
    cases isTold
  cases befalls with
  | step due =>
      rcases due.remembers remembers with earlier | ⟨statement, rfl, obtains⟩
      · exact .inl ⟨earlier, fun _ isTold => by cases isTold⟩
      · exact .inr ⟨statement, rfl, obtains⟩
  | hear completion =>
      obtain ⟨earlier, unended⟩ := ScriptInstance.remembers_hear remembers
      refine .inl ⟨earlier, fun other isTold => ?_⟩
      cases isTold
      exact unended
  | age ages => exact .inl (kept ages.memory rfl)
  | enter unfinished entered => exact .inl (kept entered.memory rfl)
  | stop rig => exact .inl (kept rfl rfl)
  | others shared rig untold apart => exact .inl (kept rfl untold)

omit [Engine ε] in
theorem Roster.not_remembers_launched (roster : Roster) (script : Script) (action : Action)
    (cause : Cause) : ¬ (roster.launched script action).Remembers cause := by
  unfold Roster.launched
  split <;> cases cause <;>
    simp [ScriptInstance.Remembers, ScriptInstance.start, ScriptInstance.reset,
      ScriptInstance.new]

def ObtainedIn (story : List (Moment ε × Happening ε)) (id : InstanceId) (cause : Cause) : Prop :=
  ∃ before statement, (before, .labor (.step id (some statement))) ∈ story ∧
    ∃ self ∈ before.roster.active, self.id = id ∧ (before.runOf self).Obtains cause statement

/-- What an instance remembers it has remembered all along, or has obtained on the way. -/
theorem Story.remembers {middle last : Moment ε} {story : List (Moment ε × Happening ε)}
    (tells : Story middle story last) (numbered : middle.IsNumbered) {cause : Cause}
    {later : ScriptInstance} (member : later ∈ last.roster.active)
    (remembers : later.Remembers cause) :
    (∃ self ∈ middle.roster.active, self.id = later.id ∧ self.Remembers cause) ∨
      ObtainedIn story later.id cause := by
  induction tells generalizing later with
  | nil => exact .inl ⟨later, member, rfl, remembers⟩
  | @snoc front before after happening story happens ih =>
      rcases happens.origin (Story.numbered story numbered) member with
        ⟨self, there, sameId, befalls⟩ | ⟨script, action, -, -, rfl⟩
      · rcases befalls.remembers remembers with ⟨earlier, -⟩ | ⟨statement, isStep, obtains⟩
        · rcases ih there earlier with ⟨first, isFirst, firstId, still⟩ |
            ⟨moment, statement, passage, obtained⟩
          · exact .inl ⟨first, isFirst, firstId.trans sameId, still⟩
          · rw [sameId] at passage obtained
            exact .inr ⟨moment, statement, List.mem_append_left _ passage, obtained⟩
        · have same : (before.runOf self).self.id = later.id := sameId
          rw [isStep, same]
          exact .inr ⟨before, statement, by simp, self, there, sameId, obtains⟩
      · exact absurd remembers (before.roster.not_remembers_launched script action cause)

/-- Whoever remembers something that is over has obtained it since then. -/
theorem Story.obtained_since {first moment last : Moment ε} {completion : Completion}
    {front back : List (Moment ε × Happening ε)}
    (tells : Story first (front ++ (moment, .hear completion) :: back) last)
    (numbered : first.IsNumbered) {cause : Cause} (ends : completion.ends cause = true)
    {later : ScriptInstance} (member : later ∈ last.roster.active)
    (remembers : later.Remembers cause) : ObtainedIn back later.id cause := by
  obtain ⟨next, earlier, happens, goesOn⟩ := tells.split
  have stillNumbered := Story.numbered earlier numbered
  rcases Story.remembers goesOn (happens.numbered stillNumbered) member remembers with
    ⟨self, there, -, still⟩ | obtained
  · cases happens with
    | hear =>
        obtain ⟨told, -, rfl⟩ := List.mem_map.1 there
        rw [(ScriptInstance.remembers_hear still).2] at ends
        cases ends
  · exact obtained

end Looper
