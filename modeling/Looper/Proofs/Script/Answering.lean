import Looper.Proofs.Script.Asking
import Looper.Proofs.Script.Reset
import Looper.Proofs.Script.Waking

/-!
# Answers to prompts

A dialogue keeps track of the prompts that an instance has sent in a story and of
the answer that came last.  An instance waits for each prompt that has not been
answered, so that no answer passes it by, and it learns of no return code but those
of its own requests.  But it also takes the return code of a request that expects
no reply, if it still refers to it when that is completed: then the answer that
came before is lost.
-/

namespace Looper

open Roster (Operation)

/-! ## Dialogues -/

/-- What has come of the prompts of an instance. -/
structure Dialogue where
  /-- The prompts that have been sent and not been answered. -/
  prompts : List KernelEventId := []
  /-- The answer to the prompt that was answered last. -/
  answer : Int := 0
  /-- Another event of the instance that was completed after that, and its return code. -/
  other : Option (KernelEventId × Int) := none

def Dialogue.returnCode (dialogue : Dialogue) : Int :=
  (dialogue.other.map Prod.snd).getD dialogue.answer

variable {ε : Type} [Engine ε]

def sent? (id : InstanceId) (before : Moment ε) (deed : Deed ε) : Option (KernelEventId × Ask) :=
  match before.asks deed with
  | some (.running sender, ask) =>
      if sender = id then (before.rig.kernel.serve (some ask)).1.map (·, ask) else none
  | _ => none

/-- A dialogue goes on with a passage of a story. -/
def Dialogue.goOn (id : InstanceId) (dialogue : Dialogue) :
    Moment ε × Happening ε → Dialogue
  | (before, .hear (.kernel event returnCode)) =>
      if event ∈ dialogue.prompts then
        { prompts := dialogue.prompts.filter (· ≠ event), answer := returnCode }
      else if (before.instance? id).any fun self => decide (self.Refers event) then
        { dialogue with other := some (event, returnCode) }
      else dialogue
  | (before, .labor deed) =>
      match sent? id before deed with
      | some (event, ask) =>
          if ask.kind.expectsReply then
            { dialogue with prompts := event :: dialogue.prompts }
          else dialogue
      | none => dialogue
  | _ => dialogue

def dialogue (id : InstanceId) (story : List (Moment ε × Happening ε)) : Dialogue :=
  story.foldl (Dialogue.goOn id) {}

theorem dialogue_append (id : InstanceId) (story : List (Moment ε × Happening ε))
    (passage : Moment ε × Happening ε) :
    dialogue id (story ++ [passage]) = (dialogue id story).goOn id passage :=
  List.foldl_append

def SentUnasking (story : List (Moment ε × Happening ε)) (id : InstanceId)
    (event : KernelEventId) : Prop :=
  ∃ before deed ask, (before, .labor deed) ∈ story ∧
    sent? id before deed = some (event, ask) ∧ ask.kind.expectsReply = false

/-! ## What is sent -/

theorem Moment.IsNumbered.sent?_step {before : Moment ε} (numbered : before.IsNumbered)
    {self : ScriptInstance} (member : self ∈ before.roster.active)
    (statement : Option Statement) :
    sent? self.id before (.step self.id statement) =
      (statement.bind (before.runOf self).ask?).bind fun ask =>
        (before.rig.kernel.serve (some ask)).1.map (·, ask) := by
  unfold sent?
  rw [numbered.asks_step member]
  cases statement.bind (before.runOf self).ask? with
  | none => rfl
  | some ask => exact if_pos rfl

theorem sent?_eq_none {id : InstanceId} {before : Moment ε} {deed : Deed ε}
    (apart : ∀ statement, deed ≠ .step id statement) : sent? id before deed = none := by
  unfold sent?
  split
  · next sender ask asks =>
      refine if_neg fun same => ?_
      cases deed with
      | step other statement =>
          obtain ⟨self, -, asked⟩ := Option.bind_eq_some_iff.1 asks
          obtain ⟨ask, -, isAsk⟩ := Option.map_eq_some_iff.1 asked
          cases isAsk
          exact apart statement (same ▸ rfl)
      | leave other =>
          obtain ⟨self, -, asked⟩ := Option.bind_eq_some_iff.1 asks
          obtain ⟨ask, -, isAsk⟩ := Option.map_eq_some_iff.1 asked
          cases isAsk
      | _ => cases asks
  · rfl

/-- What an instance sends and wants answered, it waits for. -/
theorem Run.awaits?_of_ask? {run : Run ε} {statement : Statement} {ask : Ask}
    (asks : run.ask? statement = some ask) (expects : ask.kind.expectsReply = true) :
    run.awaits? statement = (run.rig.kernel.serve (some ask)).1.map .kernel := by
  cases statement with
  | request kind args =>
      cases asks
      exact if_pos expects
  | invoke invocation =>
      unfold Run.ask? Action.ask? at asks
      dsimp only at asks
      split at asks
      · split at asks
        · cases asks
        · split at asks
          · cases asks
            cases expects
          · cases asks
      · cases asks
  | _ => cases asks

/-! ## One passage -/

theorem Befalls.unstopped {run later : Run ε} {happening : Happening ε}
    (befalls : Befalls run happening later) (unfinished : later.self.isFinished = false) :
    happening ≠ .labor (.stop run.self.id) := by
  intro isStop
  cases befalls with
  | stop rig => cases unfinished
  | others shared rig untold apart =>
      subst isStop
      exact apart rfl
  | _ => cases isStop

theorem Befalls.heard {run later : Run ε} {completion : Completion}
    (befalls : Befalls run (.hear completion) later) : later.self = run.self.hear completion := by
  cases befalls with
  | hear => rfl
  | others shared rig untold apart => cases untold

theorem Befalls.unmoved {run later : Run ε} {happening : Happening ε}
    (befalls : Befalls run happening later) (untold : happening.told? = none)
    (noLabor : ∀ deed, happening ≠ .labor deed) : later.self = run.self := by
  cases befalls with
  | hear completion => cases untold
  | others shared rig => rfl
  | _ => exact absurd rfl (noLabor _)

theorem Befalls.returnCode {run later : Run ε} {deed : Deed ε}
    (befalls : Befalls run (.labor deed) later) :
    later.self.returnCode = run.self.returnCode := by
  cases befalls with
  | step due => exact due.step.evolves.returnCode
  | age ages => exact congrArg (fun memory => memory.2.2) ages.memory
  | enter unfinished entered => exact congrArg (fun memory => memory.2.2) entered.memory
  | stop rig => rfl
  | others shared rig untold apart => rfl

/-- Whoever is told of anything but a completed request learns nothing of requests. -/
theorem ScriptInstance.hear_of_untold {self : ScriptInstance} {completion : Completion}
    (noKernel : ∀ event returnCode, completion ≠ .kernel event returnCode) :
    (self.hear completion).returnCode = self.returnCode ∧
      self.Forgets (self.hear completion) := by
  cases completion with
  | event event =>
      refine ⟨?_, self.forgets_finishEvent event⟩
      rw [hear, finishEvent_eq]
      rfl
  | function symbol => exact ⟨rfl, (Noted.function symbol).forgets⟩
  | block block => exact ⟨rfl, (Noted.block block).forgets⟩
  | kernel event returnCode => exact absurd rfl (noKernel event returnCode)

/-- An instance comes to refer only to what it sends. -/
theorem Befalls.refers {before : Moment ε} (numbered : before.IsNumbered) {self : ScriptInstance}
    (member : self ∈ before.roster.active) {later : Run ε} {deed : Deed ε}
    (befalls : Befalls (before.runOf self) (.labor deed) later) {event : KernelEventId}
    (refers : later.self.Refers event) :
    self.Refers event ∨ ∃ ask, sent? self.id before deed = some (event, ask) := by
  generalize isLabor : Happening.labor deed = happening at befalls
  cases befalls with
  | @step statement later due =>
      cases isLabor
      refine (due.step.asks.refers event refers).imp_right fun sent => ?_
      change ∃ ask, sent? self.id before (.step self.id statement) = some (event, ask)
      rw [numbered.sent?_step member]
      cases asks : statement.bind (before.runOf self).ask? with
      | none =>
          rw [asks] at sent
          cases sent
      | some ask =>
          rw [asks] at sent
          refine ⟨ask, ?_⟩
          rw [Option.bind_some]
          exact (congrArg (Option.map (·, ask)) sent)
  | hear completion => cases isLabor
  | age ages => exact .inl (ages.noted.forgets event refers)
  | enter unfinished entered => exact .inl (entered.forgets event refers)
  | stop rig => exact .inl (self.forgets_stop before.rig.engine event refers)
  | others shared rig untold apart => exact .inl refers

theorem Befalls.blocked_of_sent {before : Moment ε} (numbered : before.IsNumbered)
    {self : ScriptInstance} (member : self ∈ before.roster.active) {later : Run ε}
    {deed : Deed ε} (befalls : Befalls (before.runOf self) (.labor deed) later)
    {event : KernelEventId} {ask : Ask} (sent : sent? self.id before deed = some (event, ask))
    (expects : ask.kind.expectsReply = true) :
    later.self.position.IsBlockedOn (.kernel event) := by
  by_cases isStep : ∃ statement, deed = .step self.id statement
  · obtain ⟨statement, rfl⟩ := isStep
    rw [numbered.sent?_step member] at sent
    obtain ⟨other, asks, posted⟩ := Option.bind_eq_some_iff.1 sent
    obtain ⟨id, serves, same⟩ := Option.map_eq_some_iff.1 posted
    cases same
    obtain ⟨evaluated, rfl, asks⟩ := Option.bind_eq_some_iff.1 asks
    refine (befalls.due.begins_to_wait ?_).2
    rw [Run.awaits?_of_ask? asks expects]
    exact congrArg (Option.map Cause.kernel) serves
  · rw [sent?_eq_none fun statement same => isStep ⟨statement, same⟩] at sent
    cases sent

/-- An instance that is interrupted at a wait for an event refers to it. -/
theorem ScriptInstance.BackOrAbove.mem_awaited {self : ScriptInstance} {place : Position}
    (back : self.BackOrAbove place) {event : KernelEventId}
    (isBlocked : place.IsBlockedOn (.kernel event)) : event ∈ awaited self.stack := by
  obtain ⟨rest, top, -⟩ := isBlocked
  have below : event ∈ awaited place.frames := by
    rw [top]
    exact List.mem_cons_self
  rcases back with isAt | ⟨above, isAbove⟩
  · rw [stack_of_position isAt]
    exact below
  · rw [isAbove.stack]
    unfold awaited at below ⊢
    rw [List.filterMap_append, List.filterMap_cons]
    exact List.mem_append_right _ below

/-! ## The dialogue of an instance -/

/-- A dialogue is that of an instance which has come out of a story. -/
structure Dialogue.Fits (dialogue : Dialogue) (story : List (Moment ε × Happening ε))
    (later : ScriptInstance) : Prop where
  /-- The instance is blocked on each prompt that has not been answered. -/
  awaits : ∀ event ∈ dialogue.prompts,
    ∃ place, later.BackOrAbove place ∧ place.IsBlockedOn (.kernel event)
  /-- All requests that it refers to are prompts, or expect no reply. -/
  known : ∀ event, later.Refers event → event ∈ dialogue.prompts ∨
    SentUnasking story later.id event
  other : ∀ event returnCode, dialogue.other = some (event, returnCode) →
    SentUnasking story later.id event
  returnCode : later.returnCode = dialogue.returnCode

theorem SentUnasking.snoc {story : List (Moment ε × Happening ε)} {id : InstanceId}
    {event : KernelEventId} (sent : SentUnasking story id event)
    (passage : Moment ε × Happening ε) : SentUnasking (story ++ [passage]) id event := by
  obtain ⟨before, deed, ask, member, isSent⟩ := sent
  exact ⟨before, deed, ask, List.mem_append_left _ member, isSent⟩

namespace Dialogue.Fits

variable {dialogue : Dialogue} {story : List (Moment ε × Happening ε)} {self : ScriptInstance}
  {before : Moment ε}

theorem refers (fits : dialogue.Fits story self) {event : KernelEventId}
    (unanswered : event ∈ dialogue.prompts) : self.Refers event := by
  obtain ⟨place, back, isBlocked⟩ := fits.awaits event unanswered
  exact .inr (back.mem_awaited isBlocked)

theorem snoc (fits : dialogue.Fits story self) (passage : Moment ε × Happening ε) :
    dialogue.Fits (story ++ [passage]) self :=
  ⟨fits.awaits, fun event refers => (fits.known event refers).imp_right (·.snoc passage),
    fun event returnCode isOther => (fits.other event returnCode isOther).snoc passage,
    fits.returnCode⟩

/-- Whoever is told of something else is blocked on the same prompts as before. -/
theorem awaits_hear (fits : dialogue.Fits story self) {completion : Completion}
    {event : KernelEventId} (unanswered : event ∈ dialogue.prompts)
    (unended : completion.ends (.kernel event) = false) :
    ∃ place, (self.hear completion).BackOrAbove place ∧ place.IsBlockedOn (.kernel event) := by
  obtain ⟨place, back, isBlocked⟩ := fits.awaits event unanswered
  obtain ⟨rest, top, free⟩ := isBlocked.hearAll [completion]
  rw [show endedBy [completion] (.kernel event) = false by simp [endedBy, unended]] at top
  exact ⟨place.hear completion, back.hear completion, rest, top, free⟩

theorem hear_other (fits : dialogue.Fits story self) {completion : Completion}
    (noKernel : ∀ event returnCode, completion ≠ .kernel event returnCode)
    (passage : Moment ε × Happening ε) :
    dialogue.Fits (story ++ [passage]) (self.hear completion) := by
  obtain ⟨unchanged, forgets⟩ := @ScriptInstance.hear_of_untold self completion noKernel
  have sameId := (self.told_hear completion).continues.id
  constructor
  · intro event unanswered
    refine fits.awaits_hear unanswered ?_
    cases completion with
    | kernel event returnCode => exact absurd rfl (noKernel event returnCode)
    | _ => rfl
  · intro event refers
    rw [sameId]
    exact (fits.known event (forgets event refers)).imp_right (·.snoc passage)
  · intro event code isOther
    rw [sameId]
    exact (fits.other event code isOther).snoc passage
  · exact unchanged.trans fits.returnCode

theorem hear_kernel (fits : dialogue.Fits story self) (numbered : before.IsNumbered)
    (member : self ∈ before.roster.active) (event : KernelEventId) (returnCode : Int) :
    (dialogue.goOn self.id (before, .hear (.kernel event returnCode))).Fits
      (story ++ [(before, .hear (.kernel event returnCode))])
      (self.hear (.kernel event returnCode)) := by
  have sameId := (self.told_hear (.kernel event returnCode)).continues.id
  have known (other : KernelEventId)
      (refers : (self.hear (.kernel event returnCode)).Refers other) :
      (other ∈ dialogue.prompts ∧ other ≠ event) ∨
        SentUnasking (story ++ [(before, .hear (.kernel event returnCode))]) self.id other := by
    obtain ⟨earlier, different⟩ := (self.refers_finishKernel event other returnCode).1 refers
    exact (fits.known other earlier).imp (⟨·, different⟩) (·.snoc _)
  have awaits (other : KernelEventId) (unanswered : other ∈ dialogue.prompts)
      (different : other ≠ event) :
      ∃ place, (self.hear (.kernel event returnCode)).BackOrAbove place ∧
        place.IsBlockedOn (.kernel other) :=
    fits.awaits_hear unanswered (beq_false_of_ne different.symm)
  unfold goOn
  dsimp only
  rw [numbered.instance?_eq member, Option.any_some]
  by_cases isPrompt : event ∈ dialogue.prompts
  · -- The answer to a prompt: the instance still waits for it, so it takes the answer.
    rw [if_pos isPrompt]
    constructor
    · intro other unanswered
      obtain ⟨there, different⟩ := List.mem_filter.1 unanswered
      exact awaits other there (of_decide_eq_true different)
    · intro other refers
      rw [sameId]
      refine (known other refers).imp_left fun still => ?_
      exact List.mem_filter.2 ⟨still.1, decide_eq_true still.2⟩
    · intro other code isOther
      cases isOther
    · exact congrArg ScriptInstance.returnCode
        (ScriptInstance.finishKernel_of_refers returnCode (fits.refers isPrompt))
  · rw [if_neg isPrompt]
    have notPrompt (other : KernelEventId) (unanswered : other ∈ dialogue.prompts) :
        other ≠ event := fun same => isPrompt (same ▸ unanswered)
    by_cases refers : self.Refers event
    · rw [if_pos (decide_eq_true refers)]
      constructor
      · exact fun other unanswered => awaits other unanswered (notPrompt other unanswered)
      · intro other still
        rw [sameId]
        exact (known other still).imp_left And.left
      · intro other code isOther
        cases isOther
        rw [sameId]
        exact ((fits.known event refers).resolve_left isPrompt).snoc _
      · exact congrArg ScriptInstance.returnCode
          (ScriptInstance.finishKernel_of_refers returnCode refers)
    · rw [if_neg (by simpa using refers)]
      have same : self.hear (.kernel event returnCode) = self :=
        ScriptInstance.finishKernel_of_not_refers returnCode refers
      rw [same]
      exact fits.snoc _

theorem labor (fits : dialogue.Fits story self) (numbered : before.IsNumbered)
    (member : self ∈ before.roster.active) {later : Run ε} {deed : Deed ε}
    (befalls : Befalls (before.runOf self) (.labor deed) later) (sameId : later.self.id = self.id)
    (unfinished : later.self.isFinished = false) :
    (dialogue.goOn self.id (before, .labor deed)).Fits (story ++ [(before, .labor deed)])
      later.self := by
  -- The instance stays blocked where it was, for no prompt has been answered.
  have awaits (event : KernelEventId) (unanswered : event ∈ dialogue.prompts) :
      ∃ place, later.self.BackOrAbove place ∧ place.IsBlockedOn (.kernel event) := by
    obtain ⟨place, back, isBlocked⟩ := fits.awaits event unanswered
    rcases befalls.backOrAbove (befalls.unstopped unfinished) back with
      ⟨heard, outside, stillBack⟩ | ⟨isAt, statement, -, due⟩
    · obtain ⟨rest, top, free⟩ := isBlocked.hearAll heard
      rw [outside.endedBy (by simp)] at top
      exact ⟨_, stillBack, rest, top, free⟩
    · obtain ⟨rest, top, -⟩ := isBlocked
      have waits : place.frames =
          .wait (if false then {} else Cause.wait (.kernel event)) :: rest := top
      cases (due.at_wait isAt waits).1
  have known (event : KernelEventId) (refers : later.self.Refers event) :
      event ∈ dialogue.prompts ∨ SentUnasking (story ++ [(before, .labor deed)]) self.id event ∨
        ∃ ask, sent? self.id before deed = some (event, ask) := by
    rcases befalls.refers numbered member refers with earlier | sent
    · exact (fits.known event earlier).imp_right fun sent => .inl (sent.snoc _)
    · exact .inr (.inr sent)
  have other (event : KernelEventId) (returnCode : Int)
      (isOther : dialogue.other = some (event, returnCode)) :
      SentUnasking (story ++ [(before, .labor deed)]) later.self.id event := by
    rw [sameId]
    exact (fits.other event returnCode isOther).snoc _
  have returnCode := befalls.returnCode.trans fits.returnCode
  unfold goOn
  dsimp only
  cases sent : sent? self.id before deed with
  | none =>
      refine ⟨awaits, fun event refers => ?_, other, returnCode⟩
      rw [sameId]
      rcases known event refers with prompt | unasking | ⟨ask, isSent⟩
      · exact .inl prompt
      · exact .inr unasking
      · rw [sent] at isSent
        cases isSent
  | some posted =>
      obtain ⟨event, ask⟩ := posted
      dsimp only
      by_cases expects : ask.kind.expectsReply = true
      · rw [if_pos expects]
        refine ⟨?_, fun known' refers => ?_, other, returnCode⟩
        · intro prompt unanswered
          rcases List.mem_cons.1 unanswered with rfl | earlier
          · exact ⟨_, .inl rfl, befalls.blocked_of_sent numbered member sent expects⟩
          · exact awaits prompt earlier
        · rw [sameId]
          rcases known known' refers with prompt | unasking | ⟨again, isSent⟩
          · exact .inl (List.mem_cons_of_mem _ prompt)
          · exact .inr unasking
          · rw [sent] at isSent
            cases isSent
            exact .inl List.mem_cons_self
      · rw [if_neg expects]
        refine ⟨awaits, fun known' refers => ?_, other, returnCode⟩
        rw [sameId]
        rcases known known' refers with prompt | unasking | ⟨again, isSent⟩
        · exact .inl prompt
        · exact .inr unasking
        · rw [sent] at isSent
          cases isSent
          exact .inr ⟨before, deed, ask, by simp, sent, Bool.eq_false_iff.2 expects⟩

end Dialogue.Fits

/-! ## Dialogues in a story -/

theorem Happens.lastId_le {before after : Moment ε} {happening : Happening ε}
    (happens : Happens before happening after) :
    before.roster.lastId ≤ after.roster.lastId := by
  cases happens with
  | begin rests operation => cases operation <;> exact Nat.le_refl _
  | hear completion => exact Nat.le_refl _
  | mail kernel => exact Nat.le_refl _
  | labor labor =>
      cases labor with
      | step stands due => exact Nat.le_refl _
      | age stands ages => exact Nat.le_refl _
      | launch front target pressed found => exact Nat.le_succ _
      | act move routine =>
          cases move with
          | begin rests operation => cases routine
          | launch front found => cases routine
          | _ => exact Nat.le_refl _

theorem Dialogue.goOn_of_absent {id : InstanceId} {before : Moment ε}
    (absent : before.instance? id = none) (happening : Happening ε) :
    ({} : Dialogue).goOn id (before, happening) = {} := by
  cases happening with
  | hear completion =>
      cases completion with
      | kernel event returnCode =>
          unfold goOn
          dsimp only
          rw [absent]
          rfl
      | _ => rfl
  | labor deed =>
      have unsent : sent? id before deed = none := by
        by_cases isStep : ∃ statement, deed = .step id statement
        · obtain ⟨statement, rfl⟩ := isStep
          have silent : before.asks (.step id statement) = none := by
            change (before.instance? id).bind _ = none
            rw [absent]
            rfl
          unfold sent?
          rw [silent]
        · exact sent?_eq_none fun statement same => isStep ⟨statement, same⟩
      unfold goOn
      dsimp only
      rw [unsent]
  | _ => rfl

omit [Engine ε] in
theorem Moment.IsNumbered.instance?_eq_none {moment : Moment ε} (numbered : moment.IsNumbered)
    {id : InstanceId} (fresh : moment.roster.lastId < id) : moment.instance? id = none := by
  refine List.find?_eq_none.2 fun self member same => ?_
  have launched := numbered.launched self member
  rw [eq_of_beq same] at launched
  exact absurd fresh (Nat.not_lt.2 launched)

/-- Nothing has been said to or by an instance that has not been launched. -/
theorem Story.dialogue_fresh {first last : Moment ε} {story : List (Moment ε × Happening ε)}
    (tells : Story first story last) (numbered : first.IsNumbered) {id : InstanceId}
    (fresh : last.roster.lastId < id) : dialogue id story = {} := by
  induction tells with
  | nil => rfl
  | @snoc front before after happening story happens ih =>
      have earlier := Nat.lt_of_le_of_lt happens.lastId_le fresh
      rw [dialogue_append, ih earlier]
      have stillNumbered := Story.numbered story numbered
      exact Dialogue.goOn_of_absent (stillNumbered.instance?_eq_none earlier) happening

/-- Every instance that has not finished has come out of its dialogue. -/
theorem Story.fits {config : ScriptConfig} {rig : Rig ε} {last : Moment ε}
    {story : List (Moment ε × Happening ε)} (tells : Story (.start config rig) story last)
    {later : ScriptInstance} (member : later ∈ last.roster.active)
    (unfinished : later.isFinished = false) : (dialogue later.id story).Fits story later := by
  induction tells generalizing later with
  | nil => cases member
  | @snoc front before after happening story happens ih =>
      have numbered := Story.numbered story (Moment.numbered_start config rig)
      rw [dialogue_append]
      rcases happens.origin numbered member with
        ⟨self, there, sameId, befalls⟩ | ⟨script, action, rfl, -, isNew⟩
      · have fits := ih there <| Bool.eq_false_iff.2 fun finished =>
          Bool.eq_false_iff.1 unfinished (befalls.finished finished)
        rw [← sameId]
        cases happening with
        | labor deed => exact fits.labor numbered there befalls sameId.symm unfinished
        | hear completion =>
            rw [show later = self.hear completion from befalls.heard]
            cases completion with
            | kernel event returnCode => exact fits.hear_kernel numbered there event returnCode
            | _ => exact fits.hear_other (by simp) _
        | _ =>
            rw [show later = self from befalls.unmoved rfl (by simp)]
            exact fits.snoc _
      · -- A new instance has not asked for anything, and knows of nothing.
        have fresh : before.roster.lastId < later.id := by
          rw [isNew, (before.roster.launched_eq script action).1]
          exact Nat.lt_succ_self _
        rw [Story.dialogue_fresh story (Moment.numbered_start config rig) fresh,
          Dialogue.goOn_of_absent (numbered.instance?_eq_none fresh)]
        subst isNew
        constructor
        · exact fun event unanswered => absurd unanswered List.not_mem_nil
        · exact fun event refers =>
            absurd refers (before.roster.not_refers_launched script action event)
        · exact fun event returnCode isOther => by cases isOther
        · unfold Roster.launched
          split <;> rfl

/--
What a script reads as its return code, in whatever order requests are completed
and whichever label blocks run in between.

It is the answer to the prompt of this instance that was completed last, and 0
before the first one, as long as no other request that the instance still refers
to has been completed since then: no prompt's answer passes the instance by, for it
waits for each one, and completions that it does not refer to change nothing.  But
if such a request was completed, which expects no reply, then it is the code that
came with that one.
-/
theorem returnCode_of_dialogue (config : ScriptConfig) (rig : Rig ε) :
    (∀ history : List (Operation ε), ∃ story last, Story (.start config rig) story last ∧
      reported story = history.flatMap Operation.reports ∧ last.IsAtRest ∧
      last.state = Roster.outcomes config rig history) ∧
    ∀ {story : List (Moment ε × Happening ε)} {last : Moment ε} {self : ScriptInstance},
      Story (.start config rig) story last → self ∈ last.roster.active →
      self.isFinished = false →
      (∀ event ∈ (dialogue self.id story).prompts, event ∈ awaited self.stack) ∧
      ((dialogue self.id story).other = none →
        (last.runOf self).internal .returnCode = (dialogue self.id story).answer) ∧
      ∀ event returnCode, (dialogue self.id story).other = some (event, returnCode) →
        (last.runOf self).internal .returnCode = returnCode ∧
          SentUnasking story self.id event := by
  refine ⟨story_outcomes config rig, ?_⟩
  intro story last self tells member unfinished
  have fits := tells.fits member unfinished
  refine ⟨?_, ?_, ?_⟩
  · intro event unanswered
    obtain ⟨place, back, isBlocked⟩ := fits.awaits event unanswered
    exact back.mem_awaited isBlocked
  · intro undisturbed
    refine fits.returnCode.trans ?_
    unfold Dialogue.returnCode
    rw [undisturbed]
    rfl
  · intro event returnCode isOther
    refine ⟨fits.returnCode.trans ?_, fits.other event returnCode isOther⟩
    unfold Dialogue.returnCode
    rw [isOther]
    rfl

def chattyScript : Script where
  statements := [.request .prompt ["Sure?"], .request .echo ["hi"], .wait .block]

def chattyRig : Rig Recorder :=
  { Roster.smallRig with kernel := .new { poolSize := 2, poolMax := 2 } }

def chatty : Run Recorder :=
  Solo.evaluated ((Solo.launched chattyScript chattyRig).runOf (Solo.player chattyScript chattyRig))
    0 (.request .prompt ["Sure?"])

def asking : Moment Recorder :=
  (Solo.launched chattyScript chattyRig).withRun 0 chatty

def answering : Moment Recorder :=
  { asking with roster := asking.roster.mapActive fun self => self.hear (.kernel 1 5) }

def resuming : Run Recorder :=
  (answering.runOf (chatty.self.hear (.kernel 1 5))).withSelf
    { chatty.self.hear (.kernel 1 5) with stack := [] }

def telling : Run Recorder :=
  Solo.evaluated resuming 1 (.request .echo ["hi"])

/-- The answer to the prompt is lost when the message has been delivered. -/
theorem answer_lost_to_message :
    ∃ story last self, Story (.start {} chattyRig) story last ∧ self ∈ last.roster.active ∧
      (dialogue self.id story).answer = 5 ∧ (last.runOf self).internal .returnCode = 0 := by
  have asks : Happens (Solo.launched chattyScript chattyRig) _ asking :=
    .labor (.step rfl (Solo.due_evaluated ⟨rfl, rfl⟩ rfl))
  have wakes : Happens answering _ (answering.withRun 0 resuming) :=
    .labor (.step rfl (.wake rfl))
  have tells : Happens (answering.withRun 0 resuming) _
      ((answering.withRun 0 resuming).withRun 0 telling) :=
    .labor (.step rfl (Solo.due_evaluated ⟨rfl, rfl⟩ rfl))
  have story := (((((Solo.story_opening chattyScript chattyRig).snoc asks).snoc
    (.hear asking (.kernel 1 5))).snoc wakes).snoc tells).snoc (.hear _ (.kernel 2 0))
  have general := (returnCode_of_dialogue {} chattyRig).2 story
    (List.mem_map_of_mem (List.mem_cons_self : telling.self ∈ [telling.self])) (by rfl)
  refine ⟨_, _, _, story, List.mem_map_of_mem List.mem_cons_self, ?_, ?_⟩
  · decide +kernel
  · exact (general.2.2 2 0 (by decide +kernel)).1

end Looper
