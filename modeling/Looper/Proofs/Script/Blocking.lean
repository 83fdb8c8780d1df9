import Looper.Proofs.Script.Memory

/-!
# Waits and their completions

An instance that waits for something is blocked until it is told of that, and
meanwhile only runs the blocks of labels that are notified.  Being told of anything
else leaves it blocked.  Once it has been told, it goes on behind the wait: in its
next turn at the latest, unless such a block is still unfinished or its budget is
used up first.  What it has been told of before it waits is forgotten by then, so
that it never waits for that.
-/

namespace Looper

open Roster (Operation)

/-! ## What completions end -/

theorem Cause.isSatisfied_wait (cause : Cause) : cause.wait.isSatisfied = false := by
  cases cause <;> rfl

theorem Completion.leaves_wait (completion : Completion) (cause : Cause) :
    completion.leaves cause.wait = if completion.ends cause then {} else cause.wait := by
  cases completion with
  | event id =>
      cases cause with
      | event other =>
          by_cases same : other = id
          · simp [leaves, Wait.finishEvent, Cause.wait, ends, same]
          · simp [leaves, Wait.finishEvent, Cause.wait, ends, same, Ne.symm same]
      | _ => rfl
  | function symbol =>
      cases cause with
      | function other =>
          by_cases same : other = symbol
          · simp [leaves, Wait.finishFunction, Cause.wait, ends, same]
          · simp [leaves, Wait.finishFunction, Cause.wait, ends, same, Ne.symm same]
      | _ => rfl
  | kernel id returnCode =>
      cases cause with
      | kernel other =>
          by_cases same : other = id
          · simp [leaves, Wait.finishKernel, Cause.wait, ends, same]
          · simp [leaves, Wait.finishKernel, Cause.wait, ends, same, Ne.symm same]
      | _ => rfl
  | block number =>
      cases cause with
      | block other => simp [leaves, Wait.releaseBlock, Cause.wait, ends]
      | _ => rfl

theorem Completion.leaves_over (completion : Completion) : completion.leaves {} = {} := by
  cases completion <;> rfl

def endedBy (completions : List Completion) (cause : Cause) : Bool :=
  completions.any fun completion => completion.ends cause

theorem endedBy_append (front back : List Completion) (cause : Cause) :
    endedBy (front ++ back) cause = (endedBy front cause || endedBy back cause) :=
  List.any_append

def Wait.hearAll (wait : Wait) (completions : List Completion) : Wait :=
  completions.foldl (fun wait completion => completion.leaves wait) wait

theorem Wait.hearAll_over (completions : List Completion) :
    ({} : Wait).hearAll completions = {} := by
  induction completions with
  | nil => rfl
  | cons first rest ih =>
      unfold hearAll
      rw [List.foldl_cons, first.leaves_over]
      exact ih

theorem Cause.hearAll_wait (cause : Cause) (completions : List Completion) :
    cause.wait.hearAll completions = if endedBy completions cause then {} else cause.wait := by
  induction completions with
  | nil => rfl
  | cons first rest ih =>
      unfold Wait.hearAll
      rw [List.foldl_cons, first.leaves_wait]
      unfold endedBy
      rw [List.any_cons]
      cases first.ends cause with
      | true => exact Wait.hearAll_over rest
      | false => exact ih

def Completion.isOutside : Completion → Bool
  | block _ => false
  | _ => true

/-- Two lists of completions differ at most in the beginnings of blocks. -/
def Outside (heard told : List Completion) : Prop :=
  heard.filter Completion.isOutside = told.filter Completion.isOutside

theorem Outside.append {heard told heard' told' : List Completion} (first : Outside heard told)
    (second : Outside heard' told') : Outside (heard ++ heard') (told ++ told') := by
  unfold Outside at *
  rw [List.filter_append, List.filter_append, first, second]

theorem Outside.endedBy {heard told : List Completion} (outside : Outside heard told)
    {cause : Cause} (noBlock : ∀ number, cause ≠ .block number) :
    endedBy heard cause = endedBy told cause := by
  have filtered (completions : List Completion) :
      Looper.endedBy (completions.filter Completion.isOutside) cause =
        Looper.endedBy completions cause := by
    unfold Looper.endedBy
    rw [List.any_filter]
    congr 1
    funext completion
    cases completion with
    | block number =>
        cases cause with
        | block other => exact absurd rfl (noBlock other)
        | _ => rfl
    | _ => rfl
  rw [← filtered heard, ← filtered told, outside]

/-! ## Blocked instances -/

namespace Position

/-- The position is that of an instance that waits; below the wait there is none to wake from. -/
def IsBlockedOn (position : Position) (cause : Cause) : Prop :=
  ∃ rest, position.frames = .wait cause.wait :: rest ∧ ∀ wait more, rest ≠ .wait wait :: more

def onward (position : Position) : Position :=
  { position with frames := position.frames.tail }

theorem frames_hearAll (position : Position) (completions : List Completion) :
    (position.hearAll completions).frames =
      position.frames.map (Frame.mapWait fun wait => wait.hearAll completions) := by
  induction completions generalizing position with
  | nil =>
      refine ((List.map_congr_left fun frame _ => ?_).trans (List.map_id _)).symm
      cases frame <;> rfl
  | cons first rest ih =>
      refine (ih (position.hear first)).trans ?_
      change (position.frames.map (Frame.mapWait first.leaves)).map _ = _
      rw [List.map_map]
      refine List.map_congr_left fun frame _ => ?_
      cases frame <;> rfl

/-- A blocked position stays blocked until the wait is ended, and is then free behind it. -/
theorem IsBlockedOn.hearAll {position : Position} {cause : Cause}
    (blocked : position.IsBlockedOn cause) (completions : List Completion) :
    ∃ rest, (position.hearAll completions).frames =
        .wait (if endedBy completions cause then {} else cause.wait) :: rest ∧
      ∀ wait more, rest ≠ .wait wait :: more := by
  obtain ⟨rest, top, free⟩ := blocked
  refine ⟨rest.map (Frame.mapWait fun wait => wait.hearAll completions), ?_, ?_⟩
  · rw [frames_hearAll, top, List.map_cons, ← cause.hearAll_wait]
    rfl
  · intro wait more same
    cases rest with
    | nil => cases same
    | cons frame below =>
        obtain ⟨isWait, -⟩ := List.cons.inj same
        cases frame with
        | wait other => exact free other below rfl
        | _ => cases isWait

end Position

namespace ScriptInstance

/-- Where nothing but a notification can happen, the instance stays or is above. -/
theorem backOrAbove_notifyKind (self : ScriptInstance) (kind : LabelKind) :
    (self.notifyKind kind).2.BackOrAbove self.position := by
  unfold notifyKind
  split
  · exact .inr ⟨[], self.above_notify _⟩
  · exact .inl rfl

theorem Elapses.backOrAbove {self later : ScriptInstance} (elapses : self.Elapses later) :
    later.BackOrAbove self.position := by
  cases elapses with
  | count => exact .inl rfl
  | enter sustainElapsed sustainCount clickElapsed clicking kind =>
      exact backOrAbove_notifyKind
        { self with sustainElapsed, sustainCount, clickElapsed, clicking } kind

theorem Entered.backOrAbove {self later : ScriptInstance} (entered : self.Entered later) :
    later.BackOrAbove self.position := by
  cases entered with
  | release =>
      exact backOrAbove_notifyKind
        { self with sustaining := false, sustainElapsed := 0 } .endSustain
  | click =>
      exact backOrAbove_notifyKind
        { self with clickCount := self.clickCount + 1, clickElapsed := 0 } .click
  | reentry slot => exact .inr ⟨[], self.above_notify _⟩

/-- An instance that is or has been interrupted at a wait has not finished. -/
theorem BackOrAbove.unfinished {self : ScriptInstance} {position : Position} {frame : Frame}
    {rest : List Frame} (back : self.BackOrAbove position)
    (opened : position.frames = frame :: rest) : self.isFinished = false := by
  have some_frames : self.stack ≠ [] := by
    rcases back with isBack | ⟨above, isAbove⟩
    · have stack := congrArg Position.frames isBack
      change self.stack = position.frames at stack
      rw [stack, opened]
      exact List.cons_ne_nil _ _
    · rw [isAbove.stack]
      simp
  unfold isFinished
  cases stack : self.stack with
  | nil => exact absurd stack some_frames
  | cons => simp

end ScriptInstance

namespace Run

variable {ε : Type}

theorem isWaiting_of_top {run : Run ε} {wait : Wait} {rest : List Frame}
    (top : run.self.stack = .wait wait :: rest) : run.self.isWaiting = !wait.isSatisfied := by
  unfold ScriptInstance.isWaiting
  rw [top]

/-- Where a wait is over, waking up is due, and the instance is at the place behind the wait. -/
theorem wake?_of_top {run : Run ε} {rest : List Frame} (top : run.self.stack = .wait {} :: rest) :
    run.wake? = some (run.withSelf { run.self with stack := rest }) := by
  unfold wake?
  rw [top]
  rfl

end Run

variable {ε : Type} [Engine ε]

/-- What happens to an instance that is not stopped is a turn of it. -/
theorem Befalls.turn {run later : Run ε} {happening : Happening ε}
    (befalls : Befalls run happening later) (goesOn : happening ≠ .labor (.stop run.self.id)) :
    ∃ heard, Outside heard happening.told?.toList ∧ Turn run heard later := by
  cases befalls with
  | step due => exact ⟨[], rfl, .step due.step⟩
  | hear completion => exact ⟨[completion], rfl, .hear completion⟩
  | age ages =>
      cases ages with
      | block number => exact ⟨[.block number], rfl, .hear (.block number)⟩
      | held msec holdTime => exact ⟨[], rfl, .held msec holdTime⟩
      | clicking msec window => exact ⟨[], rfl, .clicking msec window⟩
  | enter unfinished entered => exact ⟨[], rfl, .enter entered⟩
  | stop rig => exact absurd rfl goesOn
  | others shared rig untold apart =>
      rw [untold]
      exact ⟨[], rfl, .others shared rig⟩

/--
As long as an instance is not stopped, it comes back to a position whatever
happens, or stays above it, and leaves it only by a step of its own from there.
-/
theorem Befalls.backOrAbove {run later : Run ε} {happening : Happening ε}
    (befalls : Befalls run happening later) (goesOn : happening ≠ .labor (.stop run.self.id))
    {position : Position} (back : run.self.BackOrAbove position) :
    (∃ heard, Outside heard happening.told?.toList ∧
      later.self.BackOrAbove (position.hearAll heard)) ∨
    run.self.position = position ∧
      ∃ statement, happening = .labor (.step run.self.id statement) ∧ run.Due statement later := by
  rcases back with isBack | ⟨above, isAbove⟩
  · subst isBack
    cases befalls with
    | step due => exact .inr ⟨rfl, _, rfl, due⟩
    | hear completion =>
        exact .inl ⟨[completion], rfl, .inl (run.self.position_hear completion)⟩
    | age ages =>
        left
        cases ages with
        | block number =>
            exact ⟨[.block number], rfl, .inl (run.self.position_hear (.block number))⟩
        | held msec holdTime =>
            exact ⟨[], rfl, (run.self.elapses_advanceSustain msec holdTime).backOrAbove⟩
        | clicking msec window =>
            exact ⟨[], rfl, (run.self.elapses_advanceClick msec window).backOrAbove⟩
    | enter unfinished entered => exact .inl ⟨[], rfl, entered.backOrAbove⟩
    | stop rig => exact absurd rfl goesOn
    | others shared rig untold apart =>
        rw [untold]
        exact .inl ⟨[], rfl, .inl rfl⟩
  · obtain ⟨heard, outside, turn⟩ := befalls.turn goesOn
    exact .inl ⟨heard, outside, turn.above isAbove⟩

omit [Engine ε] in
theorem stack_of_position {self : ScriptInstance} {position : Position}
    (isAt : self.position = position) : self.stack = position.frames :=
  congrArg Position.frames isAt

theorem Run.Due.at_end {run next : Run ε} {statement : Option Statement}
    (due : run.Due statement next) {position : Position} (isAt : run.self.position = position)
    {rest : List Frame} (top : position.frames = .wait {} :: rest) :
    statement = none ∧ next.self.position = position.onward := by
  obtain ⟨rfl, rfl⟩ := due.unique (.wake (run.wake?_of_top ((stack_of_position isAt).trans top)))
  subst isAt
  refine ⟨rfl, ?_⟩
  unfold Position.onward
  rw [top]
  rfl

/-- Nothing is due at a wait but to wake up once it has been ended. -/
theorem Run.Due.at_wait {run next : Run ε} {statement : Option Statement}
    (due : run.Due statement next) {position : Position} (isAt : run.self.position = position)
    {ended : Bool} {cause : Cause} {rest : List Frame}
    (top : position.frames = .wait (if ended then {} else cause.wait) :: rest) :
    ended = true ∧ statement = none ∧ next.self.position = position.onward := by
  cases ended with
  | true => exact ⟨rfl, due.at_end isAt top⟩
  | false =>
      have waiting : run.self.isWaiting = true := by
        rw [run.isWaiting_of_top ((stack_of_position isAt).trans top)]
        simp [cause.isSatisfied_wait]
      exact absurd (.inl waiting) due.not_isHalted

theorem Befalls.due {run later : Run ε} {statement : Option Statement}
    (befalls : Befalls run (.labor (.step run.self.id statement)) later) :
    run.Due statement later := by
  generalize named : run.self.id = id at befalls
  generalize isStep : Happening.labor (Deed.step id statement) = happening at befalls
  cases befalls with
  | step due =>
      cases isStep
      exact due
  | others shared rig untold apart =>
      subst named
      subst isStep
      exact absurd rfl apart
  | _ => cases isStep

/-! ## Blocked in a story -/

omit [Engine ε] in
def OnlyAbove (story : List (Moment ε × Happening ε)) (id : InstanceId) (place : Position) : Prop :=
  ∀ before statement, (before, Happening.labor (.step id (some statement))) ∈ story →
    ∃ self ∈ before.roster.active, self.id = id ∧
      ∃ heard above, self.Above above (place.hearAll heard)

/-- In a story, an instance has been told of what it waited for and has gone on behind the wait. -/
def WentOn (story : List (Moment ε × Happening ε)) (id : InstanceId) (place : Position)
    (cause : Cause) : Prop :=
  ∃ front before back heard, story = front ++ (before, .labor (.step id none)) :: back ∧
    Outside heard (told front) ∧ endedBy heard cause = true ∧
    ∃ self ∈ before.roster.active, self.id = id ∧ self.position = place.hearAll heard ∧
      ∃ woken, (before.runOf self).Due none woken ∧
        woken.self.position = (place.hearAll heard).onward

theorem WentOn.snoc {story : List (Moment ε × Happening ε)} {id : InstanceId} {place : Position}
    {cause : Cause} (wentOn : WentOn story id place cause) (passage : Moment ε × Happening ε) :
    WentOn (story ++ [passage]) id place cause := by
  obtain ⟨front, before, back, heard, rfl, goesOn⟩ := wentOn
  refine ⟨front, before, back ++ [passage], heard, ?_, goesOn⟩
  rw [List.append_assoc, List.cons_append]

/--
In a story in which it is not stopped, a blocked instance stays where it waits or
above that, and evaluates statements only above it, until it has been told of what
it waits for and wakes up.
-/
theorem Story.blocked {middle last : Moment ε} {story : List (Moment ε × Happening ε)}
    (tells : Story middle story last) (numbered : middle.IsNumbered) {self : ScriptInstance}
    (member : self ∈ middle.roster.active) {place : Position} {cause : Cause}
    (back : self.BackOrAbove place) (isBlocked : place.IsBlockedOn cause)
    (unstopped : ∀ passage ∈ story, passage.2 ≠ .labor (.stop self.id)) :
    (∃ heard, Outside heard (told story) ∧ OnlyAbove story self.id place ∧
      ∃ later ∈ last.roster.active, later.id = self.id ∧
        later.BackOrAbove (place.hearAll heard)) ∨
    WentOn story self.id place cause := by
  induction tells with
  | nil =>
      have nothing : OnlyAbove (ε := ε) [] self.id place :=
        fun _ _ impossible => absurd impossible List.not_mem_nil
      exact .inl ⟨[], rfl, nothing, self, member, rfl, back⟩
  | @snoc front before after happening story happens ih =>
      rcases ih fun passage earlier => unstopped passage (List.mem_append_left _ earlier)
        with ⟨heard, outside, onlyAbove, there, isThere, sameId, stillBack⟩ | wentOn
      · obtain ⟨rest, top, free⟩ := isBlocked.hearAll heard
        rcases happens.befalls (Story.numbered story numbered) isThere with
          ⟨-, finished⟩ | ⟨later, isLater, laterId, befalls⟩
        · rw [stillBack.unfinished top] at finished
          cases finished
        · have goesOn : happening ≠ .labor (.stop there.id) := by
            rw [sameId]
            exact unstopped (before, happening) (by simp)
          rcases befalls.backOrAbove goesOn stillBack with
            ⟨more, outsideToo, laterBack⟩ | ⟨isAt, statement, rfl, due⟩
          · refine .inl ⟨heard ++ more, ?_, ?_, later, isLater, laterId.trans sameId, ?_⟩
            · rw [told_append]
              refine outside.append ?_
              cases heardOf : happening.told? <;> simpa [told, heardOf] using outsideToo
            · intro moment statement passage
              rcases List.mem_append.1 passage with earlier | isLast
              · exact onlyAbove moment statement earlier
              · -- The step that is due is no statement at the wait itself.
                cases List.mem_singleton.1 isLast
                rw [← sameId] at befalls
                refine ⟨there, isThere, sameId, heard, ?_⟩
                rcases stillBack with isAt | isAbove
                · have due : (before.runOf there).Due (some statement) (after.runOf later) :=
                    befalls.due
                  cases (due.at_wait isAt top).2.1
                · exact isAbove
            · rw [Position.hearAll_append]
              exact laterBack
          · obtain ⟨ended, rfl, position⟩ := due.at_wait isAt top
            rw [show (before.runOf there).self.id = self.id from sameId]
            exact .inr ⟨front, before, [], heard, rfl, outside, ended, there, isThere, sameId,
              isAt, _, due, position⟩
      · exact .inr (wentOn.snoc _)

/-! ## Going on -/

namespace Run

omit [Engine ε] in
theorem isFree_of_top {run : Run ε} (top : ∀ wait more, run.self.stack ≠ .wait wait :: more) :
    run.IsFree := by
  constructor
  · unfold ScriptInstance.isWaiting
    split
    · next wait more stack => exact absurd stack (top wait more)
    · rfl
  · unfold wake?
    split
    · next wait more stack => exact absurd stack (top wait more)
    · rfl

/-- A run comes to the place behind a wait; it evaluates the statement there if it may. -/
structure Reaches (run : Run ε) (place : Position) (allowed : Nat) (visits : List (Run ε))
    (reached : Run ε) : Prop where
  course : ∃ moves front, Course run moves front reached
  position : reached.self.position = place.onward
  evaluates : reached ∈ visits ∨ reached.here? = none ∨ visits.length = allowed

variable {run last : Run ε} {place : Position} {rest : List Frame}

/-- From a wait that is over, or above it, a course stays above it or passes it. -/
theorem Course.passes {moves : Nat} {visits : List (Run ε)}
    (course : Course run moves visits last) (ended : place.frames = .wait {} :: rest)
    (back : run.self.BackOrAbove place) :
    last.self.BackOrAbove place ∨
      ∃ reached moves front further behind, Course run moves front reached ∧
        Course reached further behind last ∧ visits = front ++ behind ∧
        reached.self.position = place.onward := by
  induction course with
  | refl run => exact .inl back
  | @pass run next last moves visits due rest ih =>
      rcases back with isAt | ⟨above, isAbove⟩
      · obtain ⟨-, position⟩ := due.at_end isAt ended
        exact .inr ⟨next, 1, [], moves, visits, .pass due (.refl next), rest, rfl, position⟩
      · rcases ih (due.step.above isAbove) with
          still | ⟨reached, before, front, after, behind, comes, goesOn, same, position⟩
        · exact .inl still
        · exact .inr ⟨reached, before + 1, front, after, behind, .pass due comes, goesOn, same,
            position⟩
  | @visit run next last statement moves visits due rest ih =>
      rcases back with isAt | ⟨above, isAbove⟩
      · cases (due.at_end isAt ended).1
      · rcases ih (due.step.above isAbove) with
          still | ⟨reached, before, front, after, behind, comes, goesOn, same, position⟩
        · exact .inl still
        · exact .inr ⟨reached, before + 1, run :: front, after, behind, .visit due comes, goesOn,
            congrArg (run :: ·) same, position⟩

/--
A run that begins at a wait that is over, or above it, goes on behind the wait,
unless the block of a label above it stays unfinished.
-/
theorem Spends.reaches {allowed : Nat} {visits : List (Run ε)} {outcome : Logged (Run ε)}
    (spends : Spends run allowed visits outcome) (ended : place.frames = .wait {} :: rest)
    (free : ∀ wait more, rest ≠ .wait wait :: more) (back : run.self.BackOrAbove place) :
    (∃ above, outcome.value.self.Above above place) ∨
      ∃ reached, Reaches run place allowed visits reached := by
  obtain ⟨moves, course⟩ := spends.course
  rcases course.passes ended back with
    isAt | ⟨reached, before, front, after, behind, comes, goesOn, same, position⟩
  · rcases isAt with isAt | isAbove
    · -- A run does not stop where it can wake up.
      have wakes := Due.wake (wake?_of_top ((stack_of_position isAt).trans ended))
      rcases spends.stops with halted | ⟨-, statement, next, due⟩
      · exact absurd halted wakes.not_isHalted
      · cases (due.unique wakes).1
    · exact .inl isAbove
  · refine .inr ⟨reached, ⟨before, front, comes⟩, position, ?_⟩
    cases stands : reached.here? with
    | none => exact .inr (.inl rfl)
    | some here =>
        have isFree : reached.IsFree := by
          refine isFree_of_top fun wait more stack => free wait more ?_
          rw [stack_of_position position] at stack
          unfold Position.onward at stack
          rwa [ended] at stack
        have evaluates := Due.evaluate isFree stands
        subst same
        cases goesOn with
        | refl =>
            rcases spends.stops with halted | ⟨spent, -⟩
            · exact absurd halted evaluates.not_isHalted
            · exact .inr (.inr spent)
        | pass due => cases (due.unique evaluates).1
        | visit => exact .inl (by simp)

end Run

end Looper
