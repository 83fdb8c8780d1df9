import Looper.Proofs.Script.Unfolding

/-!
# Interludes

A label that is notified interrupts an instance wherever it stands.  Its block is
an interlude: in it the instance may run, wait, be told of things and be notified
again, and at its end the instance stands where it stood, on the same track and
with the same frames to come back to.  Only waits may have ended meanwhile.
-/

namespace Looper

/-! ## Positions -/

/-- Something that scripts wait for has been completed. -/
inductive Completion where
  | event (event : EventId)
  | function (symbol : SymbolId)
  | kernel (event : KernelEventId) (returnCode : Int)
  | block (block : Nat)

def Completion.leaves : Completion → Wait → Wait
  | event id => .finishEvent id
  | function symbol => .finishFunction symbol
  | kernel id _ => .finishKernel id
  | block number => .releaseBlock number

/-- Where an instance stands, and the frames that it is to come back to. -/
structure Position where
  current : Script
  pc : Option Nat
  track : Option TrackId
  frames : List Frame

namespace Position

def hear (position : Position) (completion : Completion) : Position :=
  { position with frames := position.frames.map (Frame.mapWait completion.leaves) }

def hearAll (position : Position) (completions : List Completion) : Position :=
  completions.foldl hear position

theorem hearAll_append (position : Position) (front back : List Completion) :
    position.hearAll (front ++ back) = (position.hearAll front).hearAll back :=
  List.foldl_append

theorem hearAll_eq (position : Position) (completions : List Completion) :
    position.hearAll completions =
      { position with frames := (position.hearAll completions).frames } := by
  induction completions generalizing position with
  | nil => rfl
  | cons first rest ih => exact ih (position.hear first)

@[simp] theorem current_hearAll (position : Position) (completions : List Completion) :
    (position.hearAll completions).current = position.current := by
  rw [hearAll_eq]

@[simp] theorem pc_hearAll (position : Position) (completions : List Completion) :
    (position.hearAll completions).pc = position.pc := by
  rw [hearAll_eq]

@[simp] theorem length_hearAll (position : Position) (completions : List Completion) :
    (position.hearAll completions).frames.length = position.frames.length := by
  induction completions generalizing position with
  | nil => rfl
  | cons first rest ih => exact (ih (position.hear first)).trans (List.length_map ..)

end Position

def Frame.savedScript? : Frame → Option Script
  | .label script _ => some script
  | .call caller _ _ => caller
  | _ => none

@[simp] theorem Frame.savedScript?_mapWait (change : Wait → Wait) (frame : Frame) :
    (frame.mapWait change).savedScript? = frame.savedScript? := by
  cases frame <;> rfl

namespace ScriptInstance

def position (self : ScriptInstance) : Position :=
  ⟨self.current, self.pc, self.track, self.stack⟩

def hear (self : ScriptInstance) : Completion → ScriptInstance
  | .event event => self.finishEvent event
  | .function symbol => self.finishFunction symbol
  | .kernel event returnCode => self.finishKernel event returnCode
  | .block block => self.releaseBlock block

theorem position_hear (self : ScriptInstance) (completion : Completion) :
    (self.hear completion).position = self.position.hear completion := by
  cases completion with
  | event event =>
      simp only [hear, finishEvent]
      split <;> rfl
  | function symbol => rfl
  | kernel event returnCode =>
      simp only [hear, finishKernel]
      split <;> split <;> rfl
  | block block => rfl

@[simp] theorem homeFrom_append (track : Option TrackId) (front back : List Frame) :
    homeFrom track (front ++ back) = homeFrom (homeFrom track front) back :=
  List.foldl_append

def scriptFrom (current : Script) (frames : List Frame) : Script :=
  frames.foldl (fun current frame => frame.savedScript?.getD current) current

@[simp] theorem scriptFrom_nil (current : Script) : scriptFrom current [] = current := rfl

@[simp] theorem scriptFrom_cons (current : Script) (frame : Frame) (frames : List Frame) :
    scriptFrom current (frame :: frames) =
      scriptFrom (frame.savedScript?.getD current) frames := rfl

@[simp] theorem scriptFrom_append (current : Script) (front back : List Frame) :
    scriptFrom current (front ++ back) = scriptFrom (scriptFrom current front) back :=
  List.foldl_append

@[simp] theorem scriptFrom_map_mapWait (change : Wait → Wait) (current : Script)
    (frames : List Frame) :
    scriptFrom current (frames.map (Frame.mapWait change)) = scriptFrom current frames := by
  induction frames generalizing current with
  | nil => rfl
  | cons frame rest ih => simp [ih]

/--
The instance has been interrupted at a position, and since then has come to have
some frames above it.  Their loops lead back to the track.
-/
structure Above (later : ScriptInstance) (above : List Frame) (position : Position) : Prop where
  stack : later.stack = above ++ .label position.current position.pc :: position.frames
  track : homeFrom later.track above = position.track

def BackOrAbove (self : ScriptInstance) (position : Position) : Prop :=
  self.position = position ∨ ∃ above, self.Above above position

theorem above_notify (self : ScriptInstance) (label : Nat) :
    (self.notify label).Above [] self.position :=
  ⟨rfl, rfl⟩

/-- The topmost frame is the one of the interruption, or is above it. -/
theorem Above.top {self : ScriptInstance} {above : List Frame} {position : Position}
    (isAbove : self.Above above position) {frame : Frame} {rest : List Frame}
    (stack : self.stack = frame :: rest) :
    (above = [] ∧ frame = .label position.current position.pc ∧ rest = position.frames) ∨
    ∃ inner, above = frame :: inner ∧
      rest = inner ++ .label position.current position.pc :: position.frames := by
  have same := stack.symm.trans isAbove.stack
  cases above with
  | nil =>
      obtain ⟨isFrame, isRest⟩ := List.cons.inj same
      exact .inl ⟨rfl, isFrame, isRest⟩
  | cons first inner =>
      obtain ⟨isFrame, isRest⟩ := List.cons.inj same
      exact .inr ⟨inner, by rw [isFrame], isRest⟩

theorem Above.length_lt {self : ScriptInstance} {above : List Frame} {position : Position}
    (isAbove : self.Above above position) : position.frames.length < self.stack.length := by
  rw [isAbove.stack, List.length_append, List.length_cons]
  omega

end ScriptInstance

/-- Whether leaving a script level stops at the frame. -/
def Frame.holdsLevel : Frame → Bool
  | .label .. | .call (some _) .. => true
  | _ => false

namespace ScriptInstance

/--
Leaving a script level above a position comes back to it, unless there is another
level to come back to first.
-/
theorem unwind_above {self : ScriptInstance} {above : List Frame} {position : Position}
    (track : homeFrom self.track above = position.track) :
    let later := self.unwind
      (above ++ .label position.current position.pc :: position.frames)
    later.position = position ∨
      above.any Frame.holdsLevel = true ∧ ∃ inner, later.Above inner position := by
  induction above generalizing self with
  | nil =>
      rw [homeFrom_nil] at track
      exact .inl (by rw [List.nil_append, unwind, ScriptInstance.position, track])
  | cons frame inner ih =>
      rw [homeFrom_cons] at track
      cases frame with
      | call caller returnTo args =>
          cases caller with
          | none => exact ih track
          | some caller => exact .inr ⟨rfl, inner, rfl, track⟩
      | warp => exact ih track
      | loop start iteration =>
          cases iteration with
          | repeats remaining => exact ih track
          | tracks remaining saved =>
              exact @ih { self with track := saved } track
      | label script resume => exact .inr ⟨rfl, inner, rfl, track⟩
      | wait wait => exact ih track

theorem Above.endLevel {self : ScriptInstance} {above : List Frame} {position : Position}
    (isAbove : self.Above above position) :
    self.endLevel.position = position ∨
      above.any Frame.holdsLevel = true ∧ ∃ inner, self.endLevel.Above inner position := by
  unfold ScriptInstance.endLevel
  rw [isAbove.stack]
  exact unwind_above isAbove.track

/-- Some frames have been put on the stack, and their loops lead back to the track. -/
def Covers (self later : ScriptInstance) : Prop :=
  ∃ pushed, later.stack = pushed ++ self.stack ∧ homeFrom later.track pushed = self.track

/-- Some frames have been put on the stack, and they lead back to the track and the script. -/
def Grows (self later : ScriptInstance) : Prop :=
  ∃ pushed, later.stack = pushed ++ self.stack ∧ homeFrom later.track pushed = self.track ∧
    scriptFrom later.current pushed = self.current

theorem Grows.covers {self later : ScriptInstance} (grows : self.Grows later) :
    self.Covers later := by
  obtain ⟨pushed, stack, track, -⟩ := grows
  exact ⟨pushed, stack, track⟩

theorem grows_same {self later : ScriptInstance} (stack : later.stack = self.stack)
    (track : later.track = self.track) (script : later.current = self.current) :
    self.Grows later :=
  ⟨[], stack, track, script⟩

theorem grows_push {self later : ScriptInstance} (frame : Frame)
    (stack : later.stack = frame :: self.stack)
    (track : frame.savedTrack?.getD later.track = self.track)
    (script : frame.savedScript?.getD later.current = self.current) : self.Grows later :=
  ⟨[frame], stack, track, script⟩

theorem grows_notify (self : ScriptInstance) (label : Nat) : self.Grows (self.notify label) :=
  grows_push (.label self.current self.pc) rfl rfl rfl

theorem grows_notifyKind (self : ScriptInstance) (kind : LabelKind) :
    self.Grows (self.notifyKind kind).2 := by
  unfold notifyKind
  split
  · exact self.grows_notify _
  · exact grows_same rfl rfl rfl

theorem Above.covered {self later : ScriptInstance} {above : List Frame} {position : Position}
    (isAbove : self.Above above position) (covers : self.Covers later) :
    ∃ more, later.Above more position := by
  obtain ⟨pushed, stack, track⟩ := covers
  refine ⟨pushed ++ above, ?_, ?_⟩
  · rw [stack, isAbove.stack, List.append_assoc]
  · rw [homeFrom_append, track, isAbove.track]

end ScriptInstance

/-! ## Statements above an interruption -/

namespace Run

variable {ε : Type} [Engine ε]

open ScriptInstance (grows_same grows_push)

theorem Effect.grows {run : Run ε} {index : Nat} {statement : Statement} {flow : Flow}
    {later : Run ε} (effect : run.Effect index statement flow later)
    (noLabel : ∀ name kind, statement ≠ .label name kind)
    (noEndProc : statement ≠ .endProc) (noNext : ∀ start, statement ≠ .next start) :
    run.self.Grows later.self := by
  cases effect with
  | resumed | labelPassed => exact absurd rfl (noLabel _ _)
  | returned | warpOver | procUnopened => exact absurd rfl noEndProc
  | nextPassed | nextRound | lastRound | nextTrack | lastTrack => exact absurd rfl (noNext _)
  | procCalled room | scriptCalled room found | warped | repeated isCount some | tracked some
  | scheduled read schedules | waited begins atOnce | asked requested answered =>
      exact grows_push _ rfl rfl rfl
  | _ => exact grows_same rfl rfl rfl

omit [Engine ε] in
theorem follow_above (run : Run ε) (index : Nat) (flow : Flow) {above : List Frame}
    {position : Position} (isAbove : run.self.Above above position) :
    (run.follow index flow).self.BackOrAbove position := by
  cases flow with
  | next => exact .inr ⟨above, isAbove.stack, isAbove.track⟩
  | goto target => exact .inr ⟨above, isAbove.stack, isAbove.track⟩
  | placed => exact .inr ⟨above, isAbove⟩
  | finish => exact isAbove.endLevel.imp id And.right

omit [Engine ε] in
/-- With nothing open since the interruption, a label that is run into comes back from it. -/
theorem label_above_nil (run : Run ε) (index : Nat) {position : Position}
    (isAbove : run.self.Above [] position) :
    (run.label.2.follow index run.label.1).self.position = position := by
  have places : run.label = (.placed, run.withSelf { run.self with
      stack := position.frames, current := position.current, pc := position.pc }) := by
    rw [label, isAbove.stack]
    rfl
  rw [places]
  exact congrArg (Position.mk position.current position.pc · position.frames) isAbove.track

/-- No statement gets below an interruption but by coming back from it. -/
theorem Effect.above {run : Run ε} {index : Nat} {statement : Statement} {flow : Flow}
    {later : Run ε} (effect : run.Effect index statement flow later) {above : List Frame}
    {position : Position} (isAbove : run.self.Above above position) :
    (later.follow index flow).self.BackOrAbove position := by
  -- A frame that is not a label lies above the interruption, and so do those below it.
  have inside {frame : Frame} {rest : List Frame} (top : run.self.stack = frame :: rest)
      (noLabel : ∀ script resume, frame ≠ .label script resume) :
      ∃ inner, rest = inner ++ .label position.current position.pc :: position.frames ∧
        ScriptInstance.homeFrom (frame.savedTrack?.getD run.self.track) inner =
          position.track := by
    rcases isAbove.top top with ⟨-, isLabel, -⟩ | ⟨inner, isInner, isRest⟩
    · exact absurd isLabel (noLabel _ _)
    · have track := isAbove.track
      rw [isInner, ScriptInstance.homeFrom_cons] at track
      exact ⟨inner, isRest, track⟩
  cases statement with
  | label name kind =>
      cases effect with
      | resumed top =>
          rcases isAbove.top top with ⟨rfl, isLabel, rfl⟩ | ⟨inner, rfl, isRest⟩
          · cases isLabel
            exact .inl (congrArg (Position.mk position.current position.pc · position.frames)
              isAbove.track)
          · exact .inr ⟨inner, isRest, isAbove.track⟩
      | labelPassed noLabel => exact run.follow_above index .next isAbove
  | endProc =>
      cases effect with
      | returned top | warpOver top =>
          obtain ⟨inner, isRest, track⟩ := inside top (by simp)
          exact follow_above _ index _ ⟨isRest, track⟩
      | procUnopened noCall noWarp => exact run.follow_above index .finish isAbove
  | next start =>
      cases effect with
      | nextPassed elsewhere => exact run.follow_above index .next isAbove
      | @nextRound _ remaining rest top =>
          obtain ⟨inner, isRest, track⟩ := inside top (by simp)
          exact .inr ⟨.loop start (.repeats remaining) :: inner,
            congrArg (Frame.loop start _ :: ·) isRest, track⟩
      | @nextTrack _ first remaining saved rest top =>
          obtain ⟨inner, isRest, track⟩ := inside top (by simp)
          exact .inr ⟨.loop start (.tracks remaining saved) :: inner,
            congrArg (Frame.loop start _ :: ·) isRest, track⟩
      | lastRound top | lastTrack top =>
          obtain ⟨inner, isRest, track⟩ := inside top (by simp)
          exact .inr ⟨inner, isRest, track⟩
  | _ =>
      obtain ⟨more, isMore⟩ :=
        isAbove.covered (effect.grows (by simp) (by simp) (by simp)).covers
      exact follow_above _ index _ isMore

theorem Step.above {run later : Run ε} {statement : Option Statement}
    (step : run.Step statement later) {above : List Frame} {position : Position}
    (isAbove : run.self.Above above position) : later.self.BackOrAbove position := by
  cases step with
  | wake wakes =>
      obtain ⟨wait, rest, stack, -, rfl⟩ := wake?_eq_some.1 wakes
      rcases isAbove.top stack with ⟨-, isLabel, -⟩ | ⟨inner, isInner, isRest⟩
      · cases isLabel
      · have track := isAbove.track
        rw [isInner] at track
        exact .inr ⟨inner, isRest, track⟩
  | endLevel past opened => exact isAbove.endLevel.imp id And.right
  | finish past closed =>
      have higher := isAbove.length_lt
      rw [closed] at higher
      cases higher
  | evaluate ready stands => exact (run.effect_evaluate _ _).above isAbove

end Run

/-! ## Turns -/

/--
What can happen to an instance as long as it is not stopped, and the completions
that it is told of.  Meanwhile others may do anything to what it can reach.
-/
inductive Turn {ε : Type} [Engine ε] (run : Run ε) : List Completion → Run ε → Prop where
  | step {statement : Option Statement} {later : Run ε} (steps : run.Step statement later) :
      Turn run [] later
  | hear (completion : Completion) :
      Turn run [completion] (run.withSelf (run.self.hear completion))
  | held (msec holdTime : Nat) :
      Turn run [] (run.withSelf (run.self.advanceSustain msec holdTime).2)
  | clicking (msec window : Nat) :
      Turn run [] (run.withSelf (run.self.advanceClick msec window).2)
  | enter {later : ScriptInstance} (entered : run.self.Entered later) :
      Turn run [] (run.withSelf later)
  | notify (label : Nat) : Turn run [] (run.withSelf (run.self.notify label))
  | others (shared : ScriptShared) (rig : Rig ε) : Turn run [] { run with shared, rig }

namespace ScriptInstance

theorem Elapses.grows {self later : ScriptInstance} (elapses : self.Elapses later) :
    self.Grows later := by
  cases elapses with
  | count => exact grows_same rfl rfl rfl
  | enter sustainElapsed sustainCount clickElapsed clicking kind =>
      exact grows_notifyKind
        { self with sustainElapsed, sustainCount, clickElapsed, clicking } kind

theorem Entered.grows {self later : ScriptInstance} (entered : self.Entered later) :
    self.Grows later := by
  cases entered with
  | release =>
      exact grows_notifyKind { self with sustaining := false, sustainElapsed := 0 } .endSustain
  | click =>
      exact grows_notifyKind
        { self with clickCount := self.clickCount + 1, clickElapsed := 0 } .click
  | reentry slot => exact self.grows_notify _

/-- A completion that an instance is told of reaches all frames, also below an interruption. -/
theorem Above.hear {self : ScriptInstance} {above : List Frame} {position : Position}
    (isAbove : self.Above above position) (completion : Completion) :
    ∃ more, (self.hear completion).Above more (position.hear completion) := by
  have heard := self.position_hear completion
  have stack := congrArg Position.frames heard
  have track := congrArg Position.track heard
  change (self.hear completion).stack = self.stack.map (Frame.mapWait completion.leaves) at stack
  change (self.hear completion).track = self.track at track
  refine ⟨above.map (Frame.mapWait completion.leaves), ?_, ?_⟩
  · rw [stack, isAbove.stack, List.map_append, List.map_cons]
    rfl
  · rw [track, homeFrom_map_mapWait]
    exact isAbove.track

end ScriptInstance

variable {ε : Type} [Engine ε]

/-- Nothing that happens gets an instance below an interruption but by bringing it back. -/
theorem Turn.above {run later : Run ε} {completions : List Completion}
    (turn : Turn run completions later) {above : List Frame} {position : Position}
    (isAbove : run.self.Above above position) :
    later.self.BackOrAbove (position.hearAll completions) := by
  cases turn with
  | step steps => exact steps.above isAbove
  | hear completion => exact .inr (isAbove.hear completion)
  | held msec holdTime =>
      exact .inr (isAbove.covered (run.self.elapses_advanceSustain msec holdTime).grows.covers)
  | clicking msec window =>
      exact .inr (isAbove.covered (run.self.elapses_advanceClick msec window).grows.covers)
  | enter entered => exact .inr (isAbove.covered entered.grows.covers)
  | notify label => exact .inr (isAbove.covered (run.self.grows_notify label).covers)
  | others shared rig => exact .inr ⟨above, isAbove⟩

/-- In a session, whatever happens to an instance that is neither stopped nor leaves is a turn. -/
theorem Move.turn {before after : Moment ε} {deed : Deed ε} (move : Move before deed after)
    {self : ScriptInstance} (member : self ∈ before.roster.active)
    (goesOn : deed ≠ .stop self.id) (stays : deed ≠ .leave self.id) :
    ∃ completions, ∃ later ∈ after.roster.active,
      Turn (before.runOf self) completions (after.runOf later) := by
  have bystands (there : self ∈ after.roster.active) : ∃ completions, ∃ later ∈ after.roster.active,
      Turn (before.runOf self) completions (after.runOf later) :=
    ⟨[], self, there, .others after.roster.shared after.rig⟩
  have replaced {position : Nat} {other later : ScriptInstance}
      (stands : before.roster.active[position]? = some other) :
      later ∈ before.roster.active.set position later := by
    obtain ⟨within, -⟩ := List.getElem?_eq_some_iff.1 stands
    exact List.mem_iff_getElem?.2 ⟨position, List.getElem?_set_self within⟩
  cases move with
  | begin rests operation =>
      apply bystands
      cases operation <;> exact member
  | @step position other statement later stands steps =>
      rcases mem_set_or_eq stands member later.self with rfl | elsewhere
      · exact ⟨[], later.self, replaced stands, .step steps⟩
      · exact bystands elsewhere
  | @tell position other later stands told =>
      rcases mem_set_or_eq stands member later with rfl | elsewhere
      · refine Exists.imp (fun completions turn => ⟨later, replaced stands, turn⟩)
          (?_ : ∃ completions, Turn (before.runOf self) completions
            ((before.runOf self).withSelf later))
        cases told with
        | event event => exact ⟨_, .hear (.event event)⟩
        | function symbol => exact ⟨_, .hear (.function symbol)⟩
        | kernel event returnCode => exact ⟨_, .hear (.kernel event returnCode)⟩
        | block block => exact ⟨_, .hear (.block block)⟩
        | held msec holdTime => exact ⟨_, .held msec holdTime⟩
        | clicking msec window => exact ⟨_, .clicking msec window⟩
      · exact bystands elsewhere
  | @enter action rest position other later front stands unfinished entered =>
      rcases mem_set_or_eq stands member later with rfl | elsewhere
      · exact ⟨[], later, replaced stands, .enter entered⟩
      · exact bystands elsewhere
  | launch front found => exact bystands (List.mem_append_left _ member)
  | @stop author track rest position other front stands concerns =>
      rcases mem_set_or_eq stands member (other.stop before.rig.engine).1 with rfl | elsewhere
      · exact absurd rfl goesOn
      · exact bystands elsewhere
  | @leave position other rests stands finished =>
      apply bystands
      obtain ⟨place, within, isSelf⟩ := List.mem_iff_getElem.1 member
      apply List.mem_eraseIdx_iff_getElem.2
      refine ⟨place, within, ?_, isSelf⟩
      rintro rfl
      rw [List.getElem?_eq_getElem within, isSelf] at stands
      exact stays (by rw [Option.some.inj stands])
  | _ => exact bystands member

/-! ## Interludes -/

/-- A label has been notified, and since then the instance has not been as low again. -/
inductive Interlude (before : ScriptInstance) : List Completion → Run ε → Prop where
  | notified (label : Nat) (shared : ScriptShared) (rig : Rig ε) :
      Interlude before [] { self := before.notify label, shared, rig }
  | goesOn {done completions : List Completion} {run later : Run ε}
      (interlude : Interlude before done run) (turn : Turn run completions later)
      (higher : before.stack.length < later.self.stack.length) :
      Interlude before (done ++ completions) later

theorem Interlude.above {before : ScriptInstance} {done : List Completion} {run : Run ε}
    (interlude : Interlude before done run) :
    ∃ above, run.self.Above above (before.position.hearAll done) := by
  induction interlude with
  | notified label shared rig => exact ⟨[], before.above_notify label⟩
  | goesOn interlude turn higher ih =>
      obtain ⟨above, isAbove⟩ := ih
      rw [Position.hearAll_append]
      rcases turn.above isAbove with isBack | higher'
      · have length := congrArg (fun position => position.frames.length) isBack
        simp only [Position.length_hearAll] at length
        exact absurd length (Nat.ne_of_gt higher)
      · exact higher'

/--
Whatever happens in an interlude: the place that was interrupted stays below all
frames, and when the instance gets as low as it was before, it is where it was, on
the track it was on and with the frames it had, except that waits have been told
of completions.  With no other level in between, this is so when the script ends,
when it runs out of statements and, with nothing open at all, when it runs into a
label.
-/
theorem interlude_ends_where_it_began :
    (∀ {before after : Moment ε} {deed : Deed ε} {self : ScriptInstance},
      Move before deed after → self ∈ before.roster.active → deed ≠ .stop self.id →
      deed ≠ .leave self.id → ∃ completions, ∃ later ∈ after.roster.active,
        Turn (before.runOf self) completions (after.runOf later)) ∧
    ∀ {before : ScriptInstance} {done : List Completion} {run : Run ε},
      Interlude before done run →
      let interrupted := before.position.hearAll done
      ∃ above, run.self.stack = above ++ .label before.current before.pc :: interrupted.frames ∧
        (∀ {completions : List Completion} {later : Run ε}, Turn run completions later →
          later.self.stack.length ≤ before.stack.length →
          later.self.position = before.position.hearAll (done ++ completions)) ∧
        (above.any Frame.holdsLevel = false →
          (∀ {later : Run ε}, run.Step (some .finish) later →
            later.self.position = interrupted) ∧
          (run.here? = none → run.Step none (run.withSelf run.self.endLevel) ∧
            run.self.endLevel.position = interrupted)) ∧
        (above = [] → ∀ {name : String} {kind : LabelKind} {later : Run ε},
          run.Step (some (.label name kind)) later → later.self.position = interrupted) := by
  refine ⟨fun move member goesOn stays => move.turn member goesOn stays, ?_⟩
  intro before done run interlude interrupted
  obtain ⟨above, isAbove⟩ := interlude.above
  have ends (unlevelled : above.any Frame.holdsLevel = false) :
      run.self.endLevel.position = interrupted := by
    rcases isAbove.endLevel with isBack | ⟨levelled, -⟩
    · exact isBack
    · rw [unlevelled] at levelled
      cases levelled
  refine ⟨above, ?_, ?_, ?_, ?_⟩
  · rw [isAbove.stack, Position.current_hearAll, Position.pc_hearAll]
    rfl
  · intro completions later turn lower
    rw [Position.hearAll_append]
    rcases turn.above isAbove with isBack | ⟨higher, isHigher⟩
    · exact isBack
    · have length := isHigher.length_lt
      rw [Position.length_hearAll, Position.length_hearAll] at length
      exact absurd length (Nat.not_lt.2 lower)
  · intro unlevelled
    refine ⟨?_, fun past => ⟨.endLevel past ?_, ends unlevelled⟩⟩
    · intro later step
      cases step with
      | evaluate ready stands => exact ends unlevelled
    · rw [isAbove.stack]
      simp
  · intro isEmpty name kind later step
    cases step with
    | evaluate ready stands =>
        rw [isEmpty] at isAbove
        exact run.label_above_nil _ isAbove

/-- A script that waits within a loop; its reentry block visits another track. -/
def reentryScript : Script where
  statements :=
    [.repeatLoop "2" 2, .wait .block, .next 0, .finish,
     .label "Reentry" .reentry, .trackLoop "2" 7, .finish, .next 5]
  labels := { reentry := some 4 }

/-- An instance of it that waits in the last turn of its loop. -/
def waitingInLoop : ScriptInstance where
  id := 1
  script := reentryScript
  current := reentryScript
  pc := some 2
  stack := [.wait { block := some 0 }, .loop 0 (.repeats 0)]
  track := some 0

def loopMoment : Moment Recorder where
  roster := { Roster.new {} {} with active := [waitingInLoop] }
  rig := Roster.smallRig

def reentered : Run Recorder :=
  loopMoment.runOf (waitingInLoop.notify 4)

def visitingTrack : Run Recorder :=
  let (flow, run) := (reentered.evaluate 5 (.trackLoop "2" 7)).value
  let run := run.follow 5 flow
  run.withSelf (run.self.hear (.block 1))

/-- A script that is entered again within a loop over tracks comes back to the loop. -/
theorem reentry_resumes_loop :
    (∃ completions, ∃ later ∈ [waitingInLoop.releaseBlock 1],
      Turn (loopMoment.runOf waitingInLoop) completions (loopMoment.runOf later)) ∧
    visitingTrack.self.track = some 1 ∧
    ∃ later, visitingTrack.Step (some .finish) later ∧ later.self.position =
      { current := reentryScript, pc := some 2, track := some 0,
        frames := [.wait {}, .loop 0 (.repeats 0)] } := by
  have stack : visitingTrack.self.stack = [.loop 5 (.tracks [] (some 0))] ++
      .label reentryScript (some 2) :: [.wait {}, .loop 0 (.repeats 0)] := by
    decide +kernel
  have interlude : Interlude waitingInLoop [.block 1] visitingTrack := by
    refine .goesOn (.goesOn (.notified 4 _ _)
      (.step (.evaluate rfl rfl : reentered.Step _ _)) ?_) (.hear (.block 1)) ?_
    · decide +kernel
    · rw [show Run.self _ = visitingTrack.self from rfl, stack]
      decide
  have stands : visitingTrack.here? = some (6, .finish) := by
    decide +kernel
  have finishes : visitingTrack.Step (some .finish) _ := .evaluate (by decide +kernel) stands
  refine ⟨?_, by decide +kernel, ?_⟩
  · have told : Move loopMoment _ _ :=
      .tell (show loopMoment.roster.active[0]? = some waitingInLoop from rfl) (.block 1)
    exact interlude_ends_where_it_began.1 told List.mem_cons_self (by rintro ⟨⟩) (by rintro ⟨⟩)
  · obtain ⟨above, isStack, -, ends, -⟩ := interlude_ends_where_it_began.2 interlude
    obtain rfl := List.append_cancel_right (isStack.symm.trans stack)
    exact ⟨_, finishes, (ends rfl).1 finishes⟩

end Looper
