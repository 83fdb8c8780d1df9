import Looper.Proofs.Script.Blocking

/-!
# From a wait to the statement behind it

A statement that waits blocks its instance on one thing, and the instance stands
before the next statement meanwhile.  When a block begins, each instance is told of
what has been completed and then has its turn; one that has been told of what it
waited for goes on behind the wait in that turn at the latest.
-/

namespace Looper

open Roster (Operation)

variable {ε : Type} [Engine ε]

/-! ## Beginning to wait -/

/-- The position of an instance that has come to wait for something by a statement. -/
def Position.waitingFor (position : Position) (cause : Cause) : Position :=
  { position with
    pc := position.pc.map (· + 1)
    frames := .wait cause.wait :: position.frames }

namespace Run

/-- A statement that waits for something leads on, with the wait on top of the stack. -/
theorem Effect.waits {run : Run ε} {index : Nat} {statement : Statement} {flow : Flow}
    {later : Run ε} (effect : run.Effect index statement flow later) {cause : Cause}
    (awaits : run.awaits? statement = some cause) :
    (later.follow index flow).self.position = { run.self.position with
      pc := some (index + 1)
      frames := .wait cause.wait :: run.self.stack } := by
  cases effect with
  | nothingToWaitFor nothing => cases nothing.symm.trans awaits
  | unscheduled read refuses => cases (run.waitsFor?_msec_eq_none read refuses).symm.trans awaits
  | scheduled read schedules =>
      cases (run.waitsFor?_msec read schedules).symm.trans awaits
      rfl
  | waited begins atOnce =>
      cases begins.symm.trans awaits
      rfl
  | refused requested forgets =>
      rw [awaits?, requested] at awaits
      split at awaits <;> cases awaits
  | sent requested unanswered =>
      rw [awaits?, unanswered] at awaits
      cases awaits
  | asked requested answered =>
      cases (run.awaits?_request requested answered).symm.trans awaits
      rfl
  | _ => cases awaits

omit [Engine ε] in
/-- A run that takes a step has no wait on top of its stack. -/
theorem IsFree.top {run : Run ε} (free : run.IsFree) (wait : Wait) (more : List Frame) :
    run.self.stack ≠ .wait wait :: more := by
  intro top
  have ready := free.ready
  rw [isWaiting_of_top top, Bool.not_eq_false'] at ready
  have asleep := free.asleep
  unfold wake? at asleep
  rw [top] at asleep
  simp [ready] at asleep

/-- A statement that waits for something blocks its instance on that, before the next statement. -/
theorem Due.begins_to_wait {run later : Run ε} {statement : Statement}
    (due : run.Due (some statement) later) {cause : Cause}
    (awaits : run.awaits? statement = some cause) :
    later.self.position = run.self.position.waitingFor cause ∧
      later.self.position.IsBlockedOn cause := by
  cases due with
  | @evaluate index _ free stands =>
      have isHere : run.self.pc = some index := (here?_eq_some.1 stands).1
      have waits : ((run.evaluate index statement).value.2.follow index
          (run.evaluate index statement).value.1).self.position =
            run.self.position.waitingFor cause := by
        rw [(run.effect_evaluate index statement).waits awaits, Position.waitingFor]
        unfold ScriptInstance.position
        rw [isHere]
        rfl
      exact ⟨waits, run.self.stack, congrArg Position.frames waits, free.top⟩

end Run

/-! ## The next turn -/

namespace ScriptInstance

def hearAll (self : ScriptInstance) (completions : List Completion) : ScriptInstance :=
  completions.foldl hear self

theorem id_hearAll (self : ScriptInstance) (completions : List Completion) :
    (self.hearAll completions).id = self.id := by
  induction completions generalizing self with
  | nil => rfl
  | cons first rest ih =>
      exact (ih (self.hear first)).trans (self.told_hear first).continues.id

theorem BackOrAbove.hear {self : ScriptInstance} {place : Position}
    (back : self.BackOrAbove place) (completion : Completion) :
    (self.hear completion).BackOrAbove (place.hear completion) := by
  rcases back with isBack | ⟨above, isAbove⟩
  · exact .inl ((self.position_hear completion).trans (congrArg (·.hear completion) isBack))
  · exact .inr (isAbove.hear completion)

theorem BackOrAbove.hearAll {self : ScriptInstance} {place : Position}
    (back : self.BackOrAbove place) (completions : List Completion) :
    (self.hearAll completions).BackOrAbove (place.hearAll completions) := by
  induction completions generalizing self place with
  | nil => exact back
  | cons first rest ih => exact ih (back.hear first)

end ScriptInstance

omit [Engine ε] in
theorem Roster.active_deliverCompletions (roster : Roster) (kernel : KernelChannel)
    (events : List KernelEvent) :
    (roster.deliverCompletions kernel events).1.active =
      roster.active.map fun self =>
        self.hearAll (events.map fun event => .kernel event.id event.returnCode) := by
  induction events generalizing roster kernel with
  | nil => exact (List.map_id _).symm
  | cons event rest ih =>
      refine (ih _ _).trans ?_
      change (roster.active.map _).map _ = _
      rw [List.map_map]
      rfl

omit [Engine ε] in
/-- Whatever an operation finds to be over, every running instance is told of it. -/
theorem Moment.active_informed (moment : Moment ε) (operation : Operation ε) :
    ((moment.begin operation).informed operation).roster.active =
      moment.roster.active.map fun self => self.hearAll operation.completions := by
  cases operation with
  | maintain frames rate rig =>
      exact Roster.active_deliverCompletions _ _ rig.kernel.completed.drain.1
  | finishEvent event => rfl
  | finishFunction symbol => rfl
  | _ => exact (List.map_id _).symm

/--
In a block that begins at a moment, an instance has its turn: up to there only others
do something, and then it runs.
-/
structure HasTurn (moment : Moment ε) (operation : Operation ε) (told : ScriptInstance)
    (turn : Moment ε) : Prop where
  before : ∃ most, LaborsWithin ((moment.begin operation).informed operation) most turn
  member : told ∈ turn.roster.active
  after : ∃ position most last, turn.roster.active[position]? = some told ∧
    LaborsWithin (turn.withRun position ((turn.runOf told).go true).value) most last ∧
    last.IsAtRest ∧ last.state = Roster.outcome moment.state operation

/-- Each instance has its turn in a block, once it has been told of what is over. -/
theorem Moment.hasTurn (moment : Moment ε) (rests : moment.IsAtRest) (frames rate : Nat)
    (rig : Rig ε) {self : ScriptInstance} (member : self ∈ moment.roster.active) :
    ∃ turn, HasTurn moment (.maintain frames rate rig)
      (self.hearAll (Operation.maintain frames rate rig).completions) turn := by
  have told := List.mem_map_of_mem
    (f := fun self => self.hearAll (Operation.maintain frames rate rig).completions) member
  rw [← moment.active_informed] at told
  obtain ⟨position, stands⟩ := List.mem_iff_getElem?.1 told
  obtain ⟨turn, last, most, more, earlier, there, later, atRest, isLast⟩ := labors_turn
    ((moment.begin (.maintain frames rate rig)).informed (.maintain frames rate rig))
    rests.1 rfl frames rate stands
  exact ⟨turn, ⟨most, earlier⟩, List.mem_of_getElem? there, position, more, last, there, later,
    atRest, isLast⟩

/-- In a turn, an instance goes on behind a wait that is over, or is left above it. -/
def GoesOn (run : Run ε) (place : Position) : Prop :=
  ∃ visits, (run.released true).Spends Run.budget visits (run.go true) ∧
    ((∃ above, (run.go true).value.self.Above above place) ∨
      ∃ reached, (run.released true).Reaches place Run.budget visits reached)

/-- An instance goes on in its turn if it has been told of what it waits for. -/
theorem goesOn_of_ended {run : Run ε} {place : Position} {cause : Cause} {heard : List Completion}
    (back : run.self.BackOrAbove (place.hearAll heard)) (isBlocked : place.IsBlockedOn cause)
    (ended : endedBy heard cause = true) :
    GoesOn run (place.hearAll (heard ++ [.block run.shared.block])) := by
  obtain ⟨visits, spends⟩ := Run.spends_advance Run.budget (run.released true)
  rw [← Run.go_eq_advance] at spends
  obtain ⟨rest, top, free⟩ := isBlocked.hearAll (heard ++ [.block run.shared.block])
  rw [endedBy_append, ended] at top
  have released : (run.released true).self.BackOrAbove
      (place.hearAll (heard ++ [.block run.shared.block])) := by
    rw [Position.hearAll_append]
    exact back.hear (.block run.shared.block)
  exact ⟨visits, spends, spends.reaches top free released⟩

/-! ## From the wait to the next statement -/

/-- An instance that evaluates a statement which waits is blocked behind that statement. -/
theorem Happens.begins_to_wait {before after : Moment ε} {self : ScriptInstance}
    {statement : Statement}
    (happens : Happens before (.labor (.step self.id (some statement))) after)
    (numbered : before.IsNumbered) (member : self ∈ before.roster.active) {cause : Cause}
    (awaits : (before.runOf self).awaits? statement = some cause) :
    ∃ waiting ∈ after.roster.active, waiting.id = self.id ∧
      waiting.position = self.position.waitingFor cause ∧
      waiting.position.IsBlockedOn cause := by
  rcases happens.befalls numbered member with ⟨leaves, -⟩ | ⟨waiting, there, sameId, befalls⟩
  · cases leaves
  · exact ⟨waiting, there, sameId,
      (show Befalls (before.runOf self) _ _ from befalls).due.begins_to_wait awaits⟩

/-- Statements that wait for the last event, or the last request, wait for what is remembered. -/
theorem remembers_of_awaits {run : Run ε} {kind : WaitKind} {cause : Cause}
    (isLast : kind = .last ∨ kind = .thread) (awaits : run.awaits? (.wait kind) = some cause) :
    run.self.Remembers cause := by
  rcases isLast with rfl | rfl
  · obtain ⟨event, last, rfl⟩ := Option.map_eq_some_iff.1 awaits
    exact last
  · obtain ⟨event, last, rfl⟩ := Option.map_eq_some_iff.1 awaits
    exact last

/-- Once it has been told of what it waits for, an instance goes on when the next block begins. -/
theorem Story.goesOn {middle last : Moment ε} {story : List (Moment ε × Happening ε)}
    (tells : Story middle story last) (numbered : middle.IsNumbered) {self : ScriptInstance}
    (member : self ∈ middle.roster.active) {place : Position} {cause : Cause}
    (back : self.BackOrAbove place) (isBlocked : place.IsBlockedOn cause)
    (noBlock : ∀ number, cause ≠ .block number)
    (unstopped : ∀ passage ∈ story, passage.2 ≠ .labor (.stop self.id))
    (rests : last.IsAtRest) (frames rate : Nat) (rig : Rig ε)
    (ended : endedBy (told story ++ (Operation.maintain frames rate rig).completions) cause =
      true) :
    WentOn story self.id place cause ∨
      ∃ later turn heard, later.id = self.id ∧
        HasTurn last (.maintain frames rate rig) later turn ∧
        Outside heard (told story ++ (Operation.maintain frames rate rig).completions) ∧
        GoesOn (turn.runOf later) (place.hearAll heard) := by
  rcases tells.blocked numbered member back isBlocked unstopped with
    ⟨heard, outside, -, there, isThere, sameId, stillBack⟩ | wentOn
  · obtain ⟨turn, hasTurn⟩ := last.hasTurn rests frames rate rig isThere
    let completions := (Operation.maintain frames rate rig).completions
    have outsideToo : Outside (heard ++ completions) (told story ++ completions) :=
      outside.append rfl
    have laterBack : (there.hearAll completions).BackOrAbove
        (place.hearAll (heard ++ completions)) := by
      rw [Position.hearAll_append]
      exact stillBack.hearAll completions
    refine .inr ⟨there.hearAll completions, turn,
      heard ++ completions ++ [.block turn.roster.shared.block],
      (there.id_hearAll completions).trans sameId, hasTurn, ?_, ?_⟩
    · exact (List.append_nil (told story ++ completions)) ▸
        outsideToo.append (rfl : Outside [.block turn.roster.shared.block] [])
    · exact @goesOn_of_ended ε _ (turn.runOf _) place cause _ laterBack isBlocked
        ((outsideToo.endedBy noBlock).trans ended)
  · exact .inl wentOn

/--
An instance that waits for an engine event, a request, or the end of a function goes
on when it is told of that, and not before.

From the statement that waits on, and as long as the instance is not stopped, it is
blocked at that wait, whatever else it is told: it only evaluates the statements of
labels that are notified meanwhile.  Once it has been told of what it waits for, it
has gone on behind the wait when the next block begins, or does so in its turn then,
unless the block of a label is still unfinished.  And a wait for what was obtained
last never is for something that is over: whatever the instance was told of before
that it has obtained again since then.
-/
theorem waits_until_told (config : ScriptConfig) (rig : Rig ε) :
    (∀ history : List (Operation ε), ∃ story last, Story (.start config rig) story last ∧
      reported story = history.flatMap Operation.reports ∧ last.IsAtRest ∧
      last.state = Roster.outcomes config rig history) ∧
    ∀ {past : List (Moment ε × Happening ε)} {before after : Moment ε} {self : ScriptInstance}
      {statement : Statement} {cause : Cause},
      Story (.start config rig) past before → self ∈ before.roster.active →
      Happens before (.labor (.step self.id (some statement))) after →
      (before.runOf self).awaits? statement = some cause → (∀ number, cause ≠ .block number) →
      (∀ front moment completion back, past = front ++ (moment, .hear completion) :: back →
        completion.ends cause = true → statement = .wait .last ∨ statement = .wait .thread →
        ObtainedIn back self.id cause) ∧
      ∃ place, place = self.position.waitingFor cause ∧
        (∃ waiting ∈ after.roster.active, waiting.id = self.id ∧ waiting.position = place) ∧
        ∀ {story : List (Moment ε × Happening ε)} {last : Moment ε}, Story after story last →
          (∀ passage ∈ story, passage.2 ≠ .labor (.stop self.id)) →
          (endedBy (told story) cause = false → OnlyAbove story self.id place ∧
            ∃ later ∈ last.roster.active, later.id = self.id ∧
              ∃ heard, later.BackOrAbove (place.hearAll heard) ∧
                (place.hearAll heard).IsBlockedOn cause) ∧
          ∀ (frames rate : Nat) (rig : Rig ε), last.IsAtRest →
            endedBy (told story ++ (Operation.maintain frames rate rig).completions) cause =
              true →
            WentOn story self.id place cause ∨
              ∃ later turn heard, later.id = self.id ∧
                HasTurn last (.maintain frames rate rig) later turn ∧
                Outside heard
                  (told story ++ (Operation.maintain frames rate rig).completions) ∧
                GoesOn (turn.runOf later) (place.hearAll heard) := by
  refine ⟨story_outcomes config rig, ?_⟩
  intro past before after self statement cause earlier member happens awaits noBlock
  have numbered := earlier.numbered (Moment.numbered_start config rig)
  obtain ⟨waiting, there, sameId, isPlace, isBlocked⟩ :=
    happens.begins_to_wait numbered member awaits
  refine ⟨?_, _, rfl, ⟨waiting, there, sameId, isPlace⟩, ?_⟩
  · intro front moment completion back split ends isLast
    subst split
    refine earlier.obtained_since (Moment.numbered_start config rig) ends member ?_
    rcases isLast with rfl | rfl
    · exact remembers_of_awaits (.inl rfl) awaits
    · exact remembers_of_awaits (.inr rfl) awaits
  · intro story last tells unstopped
    rw [isPlace] at isBlocked
    rw [← sameId] at unstopped ⊢
    refine ⟨fun unended => ?_, fun frames rate rig rests ended => ?_⟩
    · rcases tells.blocked (happens.numbered numbered) there (.inl isPlace) isBlocked unstopped
        with ⟨heard, outside, onlyAbove, later, isLater, laterId, back⟩ | wentOn
      · obtain ⟨rest, top, free⟩ := isBlocked.hearAll heard
        rw [outside.endedBy noBlock, unended] at top
        exact ⟨onlyAbove, later, isLater, laterId, heard, back, rest, top, free⟩
      · obtain ⟨front, moment, rest, heard, rfl, outside, ended, -⟩ := wentOn
        rw [outside.endedBy noBlock] at ended
        rw [told_append, endedBy_append, ended] at unended
        cases unended
    · exact tells.goesOn (happens.numbered numbered) there (.inl isPlace) isBlocked noBlock
        unstopped rests frames rate rig ended

/-! ## A script alone -/

namespace Solo

variable (script : Script) (rig : Rig Recorder)

def installed : Moment Recorder :=
  (Moment.start {} rig).begin (.install ⟨[script]⟩)

def pressed : Moment Recorder :=
  (installed script rig).begin (.run (Roster.touch 0 7 false) rig)

def player : ScriptInstance :=
  (pressed script rig).roster.launched script (Roster.touch 0 7 false)

def launched : Moment Recorder :=
  { pressed script rig with
    roster := { (pressed script rig).roster with
      active := [player script rig]
      idle := (pressed script rig).roster.idle.tail
      lastId := 1 } }

def opening : List (Moment Recorder × Happening Recorder) :=
  [(.start {} rig, .begin (.install ⟨[script]⟩)),
   (installed script rig, .begin (.run (Roster.touch 0 7 false) rig)),
   (pressed script rig, .labor (.launch 1))]

theorem story_opening : Story (.start {} rig) (opening script rig) (launched script rig) := by
  have installs : Happens (.start {} rig) _ (installed script rig) :=
    .begin ⟨rfl, rfl⟩ (.install ⟨[script]⟩)
  have presses : Happens _ _ (pressed script rig) :=
    .begin ⟨rfl, rfl⟩ (.run (Roster.touch 0 7 false) rig)
  have launches : Happens (pressed script rig) (.labor (.launch 1)) (launched script rig) :=
    .labor (.launch rfl rfl rfl rfl)
  exact ((Trace.of_step installs).snoc presses).snoc launches

def evaluated (run : Run Recorder) (index : Nat) (statement : Statement) : Run Recorder :=
  (run.evaluate index statement).value.2.follow index (run.evaluate index statement).value.1

theorem due_evaluated {run : Run Recorder} {index : Nat} {statement : Statement}
    (free : run.IsFree) (stands : run.here? = some (index, statement)) :
    run.Due (some statement) (evaluated run index statement) :=
  .evaluate free stands

end Solo

def patientScript : Script where
  statements := [.wait (.function 3), .finish]

def patient : Run Recorder :=
  Solo.evaluated
    ((Solo.launched patientScript Roster.smallRig).runOf
      (Solo.player patientScript Roster.smallRig))
    0 (.wait (.function 3))

/-- A wait for a function, and the turn in which the instance goes on. -/
theorem function_wait_goes_on :
    ∃ (story : List (Moment Recorder × Happening Recorder)) (last : Moment Recorder),
      Story ((Solo.launched patientScript Roster.smallRig).withRun 0 patient) story last ∧
      told story = [.function 3] ∧
      (WentOn story 1 patient.self.position (.function 3) ∨
        ∃ later turn heard, later.id = 1 ∧
          HasTurn last (.maintain 64 48000 Roster.smallRig) later turn ∧
          Outside heard [.function 3] ∧
          GoesOn (turn.runOf later) (patient.self.position.hearAll heard)) := by
  have waits : Happens (Solo.launched patientScript Roster.smallRig) _
      ((Solo.launched patientScript Roster.smallRig).withRun 0 patient) :=
    .labor (.step rfl (Solo.due_evaluated ⟨rfl, rfl⟩ rfl))
  have answers : Happens ((Solo.launched patientScript Roster.smallRig).withRun 0 patient)
      (.labor .answer) _ :=
    .labor (.act (.answer rfl) rfl)
  have rests : (((Solo.launched patientScript Roster.smallRig).withRun 0 patient).withPending
      []).IsAtRest :=
    ⟨rfl, rfl⟩
  have tells := ((Trace.of_step answers).snoc (.begin rests (.finishFunction 3))).snoc
    (.hear _ (.function 3))
  obtain ⟨-, place, rfl, -, goes⟩ := (waits_until_told {} Roster.smallRig).2
    (Solo.story_opening patientScript Roster.smallRig) List.mem_cons_self waits (by rfl) (by simp)
  refine ⟨_, _, tells, rfl, ?_⟩
  exact (goes tells (by simp)).2 64 48000 Roster.smallRig ⟨rfl, rfl⟩ rfl

end Looper
