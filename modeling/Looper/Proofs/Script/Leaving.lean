import Looper.Proofs.Script.Boundary

/-!
# Leaving loops by a jump

A jump changes the place and nothing else.  The loops and procs that it leads out of
stay on the stack, above what encloses them.  While one of them is on top, the ends of
other loops are passed, and the end of a proc ends the script level; it is taken off at
its own end, when its last round is over.  When they have all been taken off, the
instance is back within what encloses them, on the track that it was on there.
-/

namespace Looper

open Roster (Operation)

/-! ## What a step does to the stack -/

def Statement.isEnd : Statement → Bool
  | .next _ | .endProc | .finish => true
  | _ => false

/-- The iteration that is left for another round of a loop, if there is to be one. -/
def Iteration.again? : Iteration → Option Iteration
  | .repeats (remaining + 1) => some (.repeats remaining)
  | .tracks (_ :: remaining) saved => some (.tracks remaining saved)
  | _ => none

def Iteration.trackFrom (track : Option TrackId) : Iteration → Option TrackId
  | .tracks (next :: _) _ => some next
  | _ => track

namespace Frame

def leadsTo (pc : Option Nat) : Frame → Option Nat
  | .loop .. => pc.map (· + 1)
  | .call _ returnTo _ => some returnTo
  | .label _ resume => resume
  | _ => pc

/-- The statement by which a frame is taken off, if it takes one. -/
inductive EndsBy : Frame → Option Statement → Prop where
  | loop (start : Nat) {iteration : Iteration} (last : iteration.again? = none) :
      EndsBy (.loop start iteration) (some (.next start))
  | proc (returnTo : Nat) (args : String) : EndsBy (.call none returnTo args) (some .endProc)
  | label (script : Script) (resume : Option Nat) (name : String) (kind : LabelKind) :
      EndsBy (.label script resume) (some (.label name kind))
  | wait (wait : Wait) : EndsBy (.wait wait) none

end Frame

namespace ScriptInstance

def onTrack (self : ScriptInstance) (track : Option TrackId) : ScriptInstance :=
  { self with track }

/-- Take the frame off that lies on the others, and go on where it leads. -/
def takeOff (self : ScriptInstance) (frame : Frame) (rest : List Frame) : ScriptInstance :=
  { self with
    stack := rest
    current := frame.savedScript?.getD self.current
    track := frame.savedTrack?.getD self.track
    pc := frame.leadsTo self.pc }

def goRound (self : ScriptInstance) (start : Nat) (iteration turned : Iteration)
    (rest : List Frame) : ScriptInstance :=
  { self with
    stack := .loop start turned :: rest
    track := iteration.trackFrom self.track
    pc := some (start + 1) }

/-- What a step does to an instance, by the frame on top of its stack. -/
inductive Shifts (self : ScriptInstance) : Option Statement → ScriptInstance → Prop where
  | grow {statement : Statement} {later : ScriptInstance} (goesOn : statement.isEnd = false)
      (grows : self.Grows later) : Shifts self (some statement) later
  /-- The end of a loop that is not on top is passed. -/
  | pass {start : Nat} (elsewhere : ∀ iteration rest, self.stack ≠ .loop start iteration :: rest) :
      Shifts self (some (.next start)) { self with pc := self.pc.map (· + 1) }
  | round {start : Nat} {iteration turned : Iteration} {rest : List Frame}
      (top : self.stack = .loop start iteration :: rest) (again : iteration.again? = some turned) :
      Shifts self (some (.next start)) (self.goRound start iteration turned rest)
  | take {frame : Frame} {rest : List Frame} {statement : Option Statement}
      (top : self.stack = frame :: rest) (ends : frame.EndsBy statement) :
      Shifts self statement (self.takeOff frame rest)
  /-- The script level is over, also at the end of a proc when the call of it is not on top. -/
  | leave {statement : Option Statement}
      (ends : ∀ given ∈ statement, given = .finish ∨ given = .endProc ∧
        ∀ returnTo args rest, self.stack ≠ .call none returnTo args :: rest) :
      Shifts self statement self.endLevel

/-- Where leaving a script level leads does not depend on the frames that are left. -/
theorem unwind_stack (self : ScriptInstance) (stack frames : List Frame) :
    { self with stack }.unwind frames = self.unwind frames := by
  induction frames generalizing self with
  | nil => rfl
  | cons frame rest ih =>
      cases frame with
      | call caller returnTo args =>
          cases caller with
          | none => exact ih self
          | some caller => rfl
      | loop start iteration =>
          cases iteration with
          | repeats remaining => exact ih self
          | tracks remaining saved => exact ih { self with track := saved }
      | label script resume => rfl
      | _ => exact ih self

/-- Leaving a script level goes on below a frame that does not hold it. -/
theorem unwind_below (self : ScriptInstance) {frame : Frame} (holdsNone : frame.holdsLevel = false)
    (rest : List Frame) :
    self.unwind (frame :: rest) = (self.onTrack (frame.savedTrack?.getD self.track)).unwind rest ∧
      frame.savedScript? = none := by
  cases frame with
  | call caller returnTo args =>
      cases caller with
      | none => exact ⟨rfl, rfl⟩
      | some caller => cases holdsNone
  | loop start iteration => cases iteration <;> exact ⟨rfl, rfl⟩
  | label script resume => cases holdsNone
  | _ => exact ⟨rfl, rfl⟩

/-- Leaving a script level stops at a frame that holds it, and takes only that one off. -/
theorem unwind_held (self : ScriptInstance) {frame : Frame} (holds : frame.holdsLevel = true)
    (rest : List Frame) : self.unwind (frame :: rest) = self.takeOff frame rest := by
  cases frame with
  | call caller returnTo args =>
      cases caller with
      | none => cases holds
      | some caller => rfl
  | label script resume => rfl
  | _ => cases holds

end ScriptInstance

namespace Run

open ScriptInstance (grows_same)

variable {ε : Type}

theorem grows_follow {run after : Run ε} (grows : run.self.Grows after.self) (index : Nat)
    {flow : Flow} (goesOn : flow ≠ .finish) : run.self.Grows (after.follow index flow).self := by
  obtain ⟨pushed, stack, track, script⟩ := grows
  cases flow with
  | finish => exact absurd rfl goesOn
  | _ => exact ⟨pushed, stack, track, script⟩

variable [Engine ε]

theorem Effect.goesOn {run : Run ε} {index : Nat} {statement : Statement} {flow : Flow}
    {later : Run ε} (effect : run.Effect index statement flow later)
    (goesOn : statement.isEnd = false) : flow ≠ .finish := by
  cases effect with
  | warpOver | procUnopened | finished => cases goesOn
  | _ => nofun

theorem Effect.shifts {run : Run ε} {index : Nat} {statement : Statement} {flow : Flow}
    {later : Run ε} (effect : run.Effect index statement flow later)
    (place : run.self.pc = some index) :
    run.self.Shifts (some statement) (later.follow index flow).self := by
  have ends {iteration : Iteration} {start : Nat} {rest : List Frame}
      (last : iteration.again? = none) (top : run.self.stack = .loop start iteration :: rest) :
      run.self.Shifts (some (.next start))
        { run.self with
          stack := rest
          track := (Frame.loop start iteration).savedTrack?.getD run.self.track
          pc := some (index + 1) } := by
    have taken := ScriptInstance.Shifts.take top (.loop start last)
    unfold ScriptInstance.takeOff Frame.leadsTo at taken
    rwa [place] at taken
  cases statement with
  | label name kind =>
      cases effect with
      | @resumed _ _ script resume rest top => exact .take top (.label script resume name kind)
      | labelPassed noLabel => exact .grow rfl (grows_same rfl rfl rfl)
  | endProc =>
      have leaves
          (noCall : ∀ returnTo args rest, run.self.stack ≠ .call none returnTo args :: rest) :
          run.self.Shifts (some .endProc) run.self.endLevel :=
        .leave fun given isGiven => .inr ⟨(Option.some.inj isGiven).symm, noCall⟩
      cases effect with
      | @returned returnTo args rest top => exact .take top (.proc returnTo args)
      | @warpOver rest top =>
          -- A warp holds no level, so the level ends as if it had not been taken off before.
          have same : run.self.endLevel = { run.self with stack := rest }.unwind rest := by
            rw [run.self.unwind_stack, ScriptInstance.endLevel, top]
            rfl
          have left := leaves (by simp [top])
          rwa [same] at left
      | procUnopened noCall noWarp => exact leaves noCall
  | next start =>
      cases effect with
      | nextPassed elsewhere =>
          have passed := ScriptInstance.Shifts.pass elsewhere
          rwa [place] at passed
      | nextRound top | nextTrack top => exact .round top rfl
      | lastRound top | lastTrack top => exact ends rfl top
  | finish =>
      cases effect with
      | finished => exact .leave fun given isGiven => .inl (Option.some.inj isGiven).symm
  | _ =>
      exact .grow rfl (grows_follow (effect.grows (by simp) (by simp) (by simp)) index
        (effect.goesOn rfl))

theorem Due.shifts {run later : Run ε} {statement : Option Statement}
    (due : run.Due statement later) : run.self.Shifts statement later.self := by
  cases due with
  | wake wakes =>
      obtain ⟨wait, rest, stack, -, rfl⟩ := wake?_eq_some.1 wakes
      exact .take stack (.wait wait)
  | endLevel free past opened => exact .leave nofun
  | finish past closed goesOn =>
      have same : (run.setPlace none).self = run.self.endLevel := by
        rw [ScriptInstance.endLevel, closed, ScriptInstance.unwind, ← closed]
        rfl
      exact same ▸ .leave nofun
  | evaluate free stands => exact (run.effect_evaluate _ _).shifts (here?_eq_some.1 stands).1

end Run

/-! ## What lies beneath some frames -/

/-- Frames, and the script and the track that an instance is back in when it is down to them. -/
structure Ground where
  script : Script
  track : Option TrackId
  frames : List Frame

namespace Ground

def hear (ground : Ground) (completion : Completion) : Ground :=
  { ground with frames := ground.frames.map (Frame.mapWait completion.leaves) }

def hearAll (ground : Ground) (completions : List Completion) : Ground :=
  completions.foldl hear ground

theorem hearAll_append (ground : Ground) (front back : List Completion) :
    ground.hearAll (front ++ back) = (ground.hearAll front).hearAll back :=
  List.foldl_append

theorem hearAll_eq (ground : Ground) (completions : List Completion) :
    ground.hearAll completions =
      { ground with frames := (ground.hearAll completions).frames } := by
  induction completions generalizing ground with
  | nil => rfl
  | cons first rest ih => exact ih (ground.hear first)

end Ground

namespace ScriptInstance

/-- The instance has come to have some frames above a ground, and they lead back to it. -/
structure RestsOn (later : ScriptInstance) (above : List Frame) (ground : Ground) : Prop where
  stack : later.stack = above ++ ground.frames
  track : homeFrom later.track above = ground.track
  script : scriptFrom later.current above = ground.script

namespace RestsOn

variable {self later : ScriptInstance} {above : List Frame} {ground : Ground}

theorem grown (restsOn : self.RestsOn above ground) (grows : self.Grows later) :
    ∃ pushed, later.RestsOn (pushed ++ above) ground := by
  obtain ⟨pushed, stack, track, script⟩ := grows
  refine ⟨pushed, ?_, ?_, ?_⟩
  · rw [stack, restsOn.stack, List.append_assoc]
  · rw [homeFrom_append, track, restsOn.track]
  · rw [scriptFrom_append, script, restsOn.script]

theorem takeOff {frame : Frame} {inner rest : List Frame}
    (restsOn : self.RestsOn (frame :: inner) ground) (top : self.stack = frame :: rest) :
    (self.takeOff frame rest).RestsOn inner ground := by
  have isRest := (List.cons.inj (top.symm.trans restsOn.stack)).2
  exact ⟨isRest, restsOn.track, restsOn.script⟩

theorem goRound {start : Nat} {iteration turned : Iteration} {inner rest : List Frame}
    (restsOn : self.RestsOn (.loop start iteration :: inner) ground)
    (top : self.stack = .loop start iteration :: rest) (again : iteration.again? = some turned) :
    (self.goRound start iteration turned rest).RestsOn (.loop start turned :: inner) ground := by
  have isRest := (List.cons.inj (top.symm.trans restsOn.stack)).2
  have track := restsOn.track
  refine ⟨congrArg (List.cons (Frame.loop start turned)) isRest, ?_, restsOn.script⟩
  cases iteration with
  | repeats remaining =>
      cases remaining with
      | zero => cases again
      | succ remaining =>
          cases again
          exact track
  | tracks remaining saved =>
      cases remaining with
      | nil => cases again
      | cons next remaining =>
          cases again
          exact track

theorem hear (restsOn : self.RestsOn above ground) (completion : Completion) :
    (self.hear completion).RestsOn (above.map (Frame.mapWait completion.leaves))
      (ground.hear completion) := by
  have heard := self.position_hear completion
  have stack := congrArg Position.frames heard
  have track := congrArg Position.track heard
  have script := congrArg Position.current heard
  change (self.hear completion).stack = self.stack.map (Frame.mapWait completion.leaves) at stack
  change (self.hear completion).track = self.track at track
  change (self.hear completion).current = self.current at script
  refine ⟨?_, ?_, ?_⟩
  · rw [stack, restsOn.stack, List.map_append]
    rfl
  · rw [homeFrom_map_mapWait, track, restsOn.track]
    rfl
  · rw [scriptFrom_map_mapWait, script, restsOn.script]
    rfl

end RestsOn

/--
Leaving a script level takes off the frames down to the one that holds it, or goes on
beneath as if it had begun there.
-/
theorem unwind_append (self : ScriptInstance) (front back : List Frame) :
    (∃ frame ∈ front, frame.holdsLevel = true) ∧
        (∃ inner, (self.unwind (front ++ back)).RestsOn inner
          ⟨scriptFrom self.current front, homeFrom self.track front, back⟩) ∨
      self.unwind (front ++ back) = (self.onTrack (homeFrom self.track front)).unwind back := by
  induction front generalizing self with
  | nil => exact .inr rfl
  | cons frame inner ih =>
      cases holds : frame.holdsLevel with
      | false =>
          obtain ⟨goesOn, savesNone⟩ := self.unwind_below holds (inner ++ back)
          rw [List.cons_append, goesOn, scriptFrom_cons, savesNone]
          refine (ih (self.onTrack (frame.savedTrack?.getD self.track))).imp_left ?_
          rintro ⟨⟨holder, member, isHolder⟩, stops⟩
          exact ⟨⟨holder, List.mem_cons_of_mem _ member, isHolder⟩, stops⟩
      | true =>
          rw [List.cons_append, self.unwind_held holds]
          exact .inl ⟨⟨frame, List.mem_cons_self, holds⟩, inner, rfl, rfl, rfl⟩

end ScriptInstance

/-! ## Loops and procs that are left -/

def Frame.isBody : Frame → Bool
  | .loop .. | .call none .. | .warp => true
  | _ => false

theorem Frame.holdsLevel_of_isBody {frame : Frame} (isBody : frame.isBody = true) :
    frame.holdsLevel = false := by
  cases frame with
  | call caller returnTo args => cases caller <;> first | rfl | cases isBody
  | label script resume => cases isBody
  | wait wait => cases isBody
  | _ => rfl

/--
What is still open of some loops and procs within one another: a loop may have gone
round, and what has come to its own end has been taken off.
-/
inductive StillOpen (left : List Frame) : List Frame → Prop where
  | all : StillOpen left left
  | round {start : Nat} {iteration turned : Iteration} {rest : List Frame}
      (opened : StillOpen left (.loop start iteration :: rest))
      (again : iteration.again? = some turned) : StillOpen left (.loop start turned :: rest)
  | taken {frame : Frame} {rest : List Frame} {statement : Option Statement}
      (opened : StillOpen left (frame :: rest)) (ends : frame.EndsBy statement) :
      StillOpen left rest

theorem StillOpen.isBody {left bodies : List Frame} (opened : StillOpen left bodies)
    (areBodies : ∀ frame ∈ left, frame.isBody = true) :
    ∀ frame ∈ bodies, frame.isBody = true := by
  induction opened with
  | all => exact areBodies
  | round opened again ih =>
      intro frame member
      rcases List.mem_cons.1 member with rfl | later
      · rfl
      · exact ih frame (List.mem_cons_of_mem _ later)
  | taken opened ends ih => exact fun frame member => ih frame (List.mem_cons_of_mem _ member)

theorem map_mapWait_of_isBody {bodies : List Frame}
    (areBodies : ∀ frame ∈ bodies, frame.isBody = true) (change : Wait → Wait) :
    bodies.map (Frame.mapWait change) = bodies := by
  have same (frame : Frame) (member : frame ∈ bodies) : frame.mapWait change = frame := by
    cases frame with
    | wait wait => cases areBodies _ member
    | _ => rfl
  exact (List.map_congr_left same).trans (List.map_id' bodies)

/-- Taking off loops and procs does not lead to another script. -/
theorem scriptFrom_of_isBody {bodies : List Frame}
    (areBodies : ∀ frame ∈ bodies, frame.isBody = true) (current : Script) :
    ScriptInstance.scriptFrom current bodies = current := by
  induction bodies with
  | nil => rfl
  | cons frame rest ih =>
      have savesNone : frame.savedScript? = none := by
        have isBody := areBodies frame List.mem_cons_self
        cases frame with
        | call caller returnTo args => cases caller <;> first | rfl | cases isBody
        | label script resume => cases isBody
        | _ => rfl
      rw [ScriptInstance.scriptFrom_cons, savesNone]
      exact ih fun frame member => areBodies frame (List.mem_cons_of_mem _ member)

namespace ScriptInstance

/-- Some of the loops and procs that are left are open on a ground, perhaps under other frames. -/
def KeepsOpen (self : ScriptInstance) (left : List Frame) (ground : Ground) : Prop :=
  ∃ above bodies, bodies ≠ [] ∧ StillOpen left bodies ∧ self.RestsOn (above ++ bodies) ground

theorem Shifts.keepsOpen {self later : ScriptInstance} {statement : Option Statement}
    (shifts : self.Shifts statement later) {left : List Frame}
    (areBodies : ∀ frame ∈ left, frame.isBody = true) {ground : Ground}
    (keeps : self.KeepsOpen left ground) :
    later.KeepsOpen left ground ∨
      StillOpen left [] ∧ later.RestsOn [] ground ∨
      later = (self.onTrack ground.track).unwind ground.frames := by
  obtain ⟨above, bodies, some_bodies, opened, restsOn⟩ := keeps
  have isBody := opened.isBody areBodies
  cases shifts with
  | grow goesOn grows =>
      obtain ⟨pushed, grown⟩ := restsOn.grown grows
      exact .inl ⟨pushed ++ above, bodies, some_bodies, opened, by rwa [List.append_assoc]⟩
  | pass elsewhere =>
      exact .inl ⟨above, bodies, some_bodies, opened, restsOn.stack, restsOn.track, restsOn.script⟩
  | @round start iteration turned rest top again =>
      cases above with
      | nil =>
          cases bodies with
          | nil => exact absurd rfl some_bodies
          | cons frame inner =>
              have isTop := (List.cons.inj (top.symm.trans restsOn.stack)).1
              subst isTop
              exact .inl ⟨[], _, List.cons_ne_nil _ _, opened.round again,
                restsOn.goRound top again⟩
      | cons frame inner =>
          have isTop := (List.cons.inj (top.symm.trans restsOn.stack)).1
          subst isTop
          exact .inl ⟨_ :: inner, bodies, some_bodies, opened, restsOn.goRound top again⟩
  | @take frame rest _ top ends =>
      cases above with
      | nil =>
          cases bodies with
          | nil => exact absurd rfl some_bodies
          | cons body inner =>
              have isTop := (List.cons.inj (top.symm.trans restsOn.stack)).1
              subst isTop
              have taken := opened.taken ends
              have later := restsOn.takeOff top
              by_cases last : inner = []
              · subst last
                exact .inr (.inl ⟨taken, later⟩)
              · exact .inl ⟨[], inner, last, taken, later⟩
      | cons head inner =>
          have isTop := (List.cons.inj (top.symm.trans restsOn.stack)).1
          subst isTop
          exact .inl ⟨inner, bodies, some_bodies, opened, restsOn.takeOff top⟩
  | leave ends =>
      have track := restsOn.track
      have script := restsOn.script
      rw [homeFrom_append] at track
      rw [scriptFrom_append] at script
      rw [ScriptInstance.endLevel, restsOn.stack, List.append_assoc]
      rcases self.unwind_append above (bodies ++ ground.frames) with ⟨-, inner, stops⟩ | goesOn
      · refine .inl ⟨inner, bodies, some_bodies, opened, ?_, ?_, ?_⟩
        · rw [stops.stack, List.append_assoc]
        · rw [homeFrom_append, stops.track, track]
        · rw [scriptFrom_append, stops.script, script]
      · right
        right
        rw [goesOn]
        rcases (self.onTrack (homeFrom self.track above)).unwind_append bodies ground.frames with
          ⟨⟨frame, member, holds⟩, -⟩ | further
        · rw [Frame.holdsLevel_of_isBody (isBody frame member)] at holds
          cases holds
        · rw [further, ← track]
          rfl

theorem KeepsOpen.hear {self : ScriptInstance} {left : List Frame}
    (areBodies : ∀ frame ∈ left, frame.isBody = true) {ground : Ground}
    (keeps : self.KeepsOpen left ground) (completion : Completion) :
    (self.hear completion).KeepsOpen left (ground.hear completion) := by
  obtain ⟨above, bodies, some_bodies, opened, restsOn⟩ := keeps
  have heard := restsOn.hear completion
  rw [List.map_append, map_mapWait_of_isBody (opened.isBody areBodies)] at heard
  exact ⟨_, bodies, some_bodies, opened, heard⟩

theorem KeepsOpen.hearAll {self : ScriptInstance} {left : List Frame}
    (areBodies : ∀ frame ∈ left, frame.isBody = true) {ground : Ground}
    (keeps : self.KeepsOpen left ground) (completions : List Completion) :
    (self.hearAll completions).KeepsOpen left (ground.hearAll completions) := by
  induction completions generalizing self ground with
  | nil => exact keeps
  | cons first rest ih => exact ih (keeps.hear areBodies first)

theorem KeepsOpen.grown {self later : ScriptInstance} {left : List Frame} {ground : Ground}
    (keeps : self.KeepsOpen left ground) (grows : self.Grows later) :
    later.KeepsOpen left ground := by
  obtain ⟨above, bodies, some_bodies, opened, restsOn⟩ := keeps
  obtain ⟨pushed, grown⟩ := restsOn.grown grows
  exact ⟨pushed ++ above, bodies, some_bodies, opened, by rwa [List.append_assoc]⟩

theorem KeepsOpen.unfinished {self : ScriptInstance} {left : List Frame} {ground : Ground}
    (keeps : self.KeepsOpen left ground) : self.isFinished = false := by
  obtain ⟨above, bodies, some_bodies, -, restsOn⟩ := keeps
  have opened : self.stack ≠ [] := by
    rw [restsOn.stack]
    simp [some_bodies]
  simp [isFinished, opened]

end ScriptInstance

variable {ε : Type} [Engine ε]

/--
What happens to the loops and procs that are left as long as the instance is not
stopped: something is still open, or by a step of the instance everything has come to
its end, or the script level has ended.
-/
theorem Undergoes.keepsOpen {run later : Run ε} {act : Act ε} {heard : List Completion}
    (undergoes : Undergoes run act heard later)
    (goesOn : ∀ author track, act = .carryOut (.cancel author track) →
      Roster.isCancelled author track run.self = false)
    {left : List Frame} (areBodies : ∀ frame ∈ left, frame.isBody = true) {ground : Ground}
    (keeps : run.self.KeepsOpen left ground) :
    later.self.KeepsOpen left (ground.hearAll heard) ∨
      ∃ statement asked, act = .step run.self.id statement asked ∧
        (StillOpen left [] ∧ later.self.RestsOn [] ground ∨
          later.self = (run.self.onTrack ground.track).unwind ground.frames) := by
  cases undergoes with
  | hear operation shared rig => exact .inl (keeps.hearAll areBodies operation.completions)
  | wake => exact .inl (keeps.hear areBodies (.block run.shared.block))
  | elapse timed elapses => exact .inl (keeps.grown elapses.grows)
  | @step statement asked _ due =>
      exact (due.shifts.keepsOpen areBodies keeps).imp id fun ends => ⟨statement, asked, rfl, ends⟩
  | enter unfinished entered shared => exact .inl (keeps.grown entered.grows)
  | stop rig concerned =>
      have spared := goesOn _ _ rfl
      rw [concerned] at spared
      cases spared
  | others shared rig awake apart => exact .inl keeps

namespace Stage

/-- An instance has loops and procs open on a ground that has been told of completions. -/
def KeepsOpen {ε : Type} (stage : Stage ε) (id : InstanceId) (left : List Frame)
    (ground : Ground) : Prop :=
  ∃ self ∈ stage.moment.roster.active, self.id = id ∧
    ∃ heard, self.KeepsOpen left (ground.hearAll heard)

end Stage

/--
An instance has left loops and procs by a step of its own.  With the step everything
has come to its end, and the instance is down to the ground, in its script and on its
track; or the script level has ended as if it had ended there.
-/
def GivesUp (acts : List (Stage ε × Act ε)) (id : InstanceId) (left : List Frame)
    (ground : Ground) : Prop :=
  ∃ front stage statement asked back next,
    acts = front ++ (stage, .step id statement asked) :: back ∧
    stage.KeepsOpen id left ground ∧ Proceeds stage (.step id statement asked) next ∧
    ∃ self ∈ stage.moment.roster.active, self.id = id ∧
      ∃ later ∈ next.moment.roster.active, later.id = id ∧ ∃ heard,
        (StillOpen left [] ∧ later.RestsOn [] (ground.hearAll heard) ∨
          later = (self.onTrack ground.track).unwind (ground.hearAll heard).frames)

theorem GivesUp.snoc {acts : List (Stage ε × Act ε)} {id : InstanceId} {left : List Frame}
    {ground : Ground} (givesUp : GivesUp acts id left ground) (passage : Stage ε × Act ε) :
    GivesUp (acts ++ [passage]) id left ground := by
  obtain ⟨front, stage, statement, asked, back, next, rfl, gone⟩ := givesUp
  refine ⟨front, stage, statement, asked, back ++ [passage], next, ?_, gone⟩
  rw [List.append_assoc, List.cons_append]

/-- What is left stays open until the instance gives it up. -/
theorem Proceedings.keepsOpen {first last : Stage ε} {acts : List (Stage ε × Act ε)}
    (proceedings : Proceedings first acts last) (numbered : first.moment.IsNumbered)
    {id : InstanceId} {left : List Frame} (areBodies : ∀ frame ∈ left, frame.isBody = true)
    {ground : Ground} (keeps : first.KeepsOpen id left ground)
    (unstopped : ∀ passage ∈ acts, ¬ Stops id passage) :
    last.KeepsOpen id left ground ∨ GivesUp acts id left ground := by
  induction proceedings with
  | nil => exact .inl keeps
  | @snoc acts before after act earlier proceeds ih =>
      rcases ih fun passage member => unstopped passage (List.mem_append_left _ member) with
        still | givesUp
      · obtain ⟨self, member, rfl, heard, opened⟩ := still
        rcases proceeds.undergoes (Proceedings.numbered earlier numbered) member with
          ⟨-, finished⟩ | ⟨later, isLater, laterId, told, undergoes⟩
        · rw [opened.unfinished] at finished
          cases finished
        · have goesOn (author : Option InstanceId) (track : Option TrackId)
              (isCancel : act = .carryOut (.cancel author track)) :
              Roster.isCancelled author track self = false := by
            refine Bool.eq_false_iff.2 fun concerned => unstopped (before, act) (by simp) ?_
            exact ⟨author, track, isCancel, self, member, rfl, concerned⟩
          rcases undergoes.keepsOpen goesOn areBodies opened with
            stillOpen | ⟨statement, asked, rfl, ends⟩
          · rw [← Ground.hearAll_append] at stillOpen
            exact .inl ⟨later, isLater, laterId, _, stillOpen⟩
          · refine .inr ⟨acts, before, statement, asked, [], after, rfl,
              ⟨self, member, rfl, heard, opened⟩, proceeds, self, member, rfl, later, isLater,
              laterId, heard, ?_⟩
            rcases ends with down | levelOver
            · exact .inl down
            · right
              change later = (self.onTrack (ground.hearAll heard).track).unwind _ at levelOver
              rwa [Ground.hearAll_eq] at levelOver
      · exact .inr (givesUp.snoc _)

/-- A jump changes the place, and nothing else of the run. -/
theorem Run.Due.of_jump {run later : Run ε} {label : Nat}
    (due : run.Due (some (.jump label)) later) :
    later = run.setPlace (some (label + 1)) := by
  cases due with
  | evaluate free stands => rfl

/--
The loops and procs that a jump leads out of stay open.

Every step that is due shifts its instance by the topmost frame: the end of a loop
that is not on top is passed, and the end of a proc whose call is not on top ends the
script level.

Every history of operations is a proceeding.  When in a proceeding an instance takes a
jump, then it is at the label, with the frames and the track that it had, and all that
it can reach is as it was.  Whichever loops and procs on top of its stack the jump leads
out of, as long as the instance is not stopped they stay open on what encloses them,
until it gives them up: it has gone all their rounds and reached their own ends, and
then it is within what encloses them, in the script and on the track of that level, or
the script level has ended, as it would have ended there.
-/
theorem jump_leaves_loops_open (config : ScriptConfig) (rig : Rig ε) :
    (∀ {run later : Run ε} {statement : Option Statement}, run.Due statement later →
      run.self.Shifts statement later.self) ∧
    (∀ history : List (Operation ε), ∃ acts last, Proceedings (.start config rig) acts last ∧
      opened acts = history ∧ last.IsIdle ∧
      last.moment.state = Roster.outcomes config rig history) ∧
    ∀ {past : List (Stage ε × Act ε)} {before after : Stage ε} {self : ScriptInstance}
      {label : Nat} {asked : List ScriptRequest},
      Proceedings (.start config rig) past before → self ∈ before.moment.roster.active →
      Proceeds before (.step self.id (some (.jump label)) asked) after →
      { self with pc := some (label + 1) } ∈ after.moment.roster.active ∧
      after.moment.roster.shared = before.moment.roster.shared ∧
      after.moment.rig = before.moment.rig ∧
      ∀ {left enclosing : List Frame}, self.stack = left ++ enclosing → left ≠ [] →
        (∀ frame ∈ left, frame.isBody = true) →
        let ground : Ground :=
          ⟨self.current, ScriptInstance.homeFrom self.track left, enclosing⟩
        ∀ {acts : List (Stage ε × Act ε)} {last : Stage ε}, Proceedings after acts last →
          (∀ passage ∈ acts, ¬ Stops self.id passage) →
          last.KeepsOpen self.id left ground ∨ GivesUp acts self.id left ground := by
  refine ⟨fun due => due.shifts, proceedings_outcomes config rig, ?_⟩
  intro past before after self label asked earlier member jumps
  have numbered := earlier.numbered (Moment.numbered_start config rig)
  obtain ⟨later, isLater, sameId, same⟩ : ∃ later ∈ after.moment.roster.active,
      later.id = self.id ∧
        after.moment.runOf later = (before.moment.runOf self).setPlace (some (label + 1)) := by
    rcases jumps.undergoes numbered member with ⟨isLeave, -⟩ | ⟨later, there, sameId, _, undergoes⟩
    · cases isLeave
    · exact ⟨later, there, sameId, Run.Due.of_jump (Undergoes.due undergoes)⟩
  have isSelf : later = { self with pc := some (label + 1) } := congrArg Run.self same
  rw [isSelf] at isLater
  refine ⟨isLater, congrArg Run.shared same, congrArg Run.rig same, ?_⟩
  intro left enclosing stack some_left areBodies ground acts last proceedings unstopped
  refine proceedings.keepsOpen (jumps.numbered numbered) areBodies ?_ unstopped
  refine ⟨_, isLater, rfl, [], [], left, some_left, .all, stack, rfl, ?_⟩
  exact scriptFrom_of_isBody areBodies self.current

def leaverScript : Script where
  name := "Leaver"
  statements :=
    [.repeatLoop "3" 6, .repeatLoop "2" 3, .jump 4, .next 1, .label "out" .plain,
     functionCall 0 "Mute" none, .next 0, .finish]
  lines := [1, 2, 3, 4, 5, 6, 7, 8]

def leaver (pc : Nat) (stack : List Frame) : ScriptInstance :=
  { (Roster.new {} ⟨[leaverScript]⟩).launched leaverScript (Roster.touch 0 7 false) with
    pc := some pc
    stack }

/-- The instance is the only one, and runs with some statements left. -/
def leaverStage (pc : Nat) (stack : List Frame) (left : Nat) : Stage Recorder where
  moment :=
    { (Moment.start {} Roster.smallRig) with
      roster :=
        { ((Roster.new {} ⟨[leaverScript]⟩).reach (Roster.touch 0 7 false)).1 with
          active := [leaver pc stack] } }
  runner := some (0, left)

def leaverRun (pc : Nat) (stack : List Frame) : Run Recorder :=
  (leaverStage pc stack 0).moment.runOf (leaver pc stack)

/-- A jump out of the inner of two loops leaves the inner one open within the outer one. -/
theorem leaver_keeps_loop :
    ∃ past before after, Proceedings (.start {} Roster.smallRig) past before ∧
      Proceeds before (.step 1 (some (.jump 4)) []) after ∧
      ∀ acts last, Proceedings after acts last → (∀ passage ∈ acts, ¬ Stops 1 passage) →
        let left := [.loop 1 (.repeats 1)]
        let ground : Ground := ⟨leaverScript, some 0, [.loop 0 (.repeats 2)]⟩
        last.KeepsOpen 1 left ground ∨ GivesUp acts 1 left ground := by
  have enters {pc remaining left : Nat} {stack : List Frame} {statement : Statement}
      (free : (leaverRun pc stack).IsFree)
      (stands : (leaverRun pc stack).here? = some (pc, statement))
      (evaluates : ((leaverRun pc stack).evaluate pc statement).value =
        (.next, (leaverRun pc stack).push (.loop pc (.repeats remaining)))) :
      Proceeds (leaverStage pc stack (left + 1)) (.step 1 (some statement) [])
        (leaverStage (pc + 1) (.loop pc (.repeats remaining) :: stack) left) := by
    have due := Run.Due.evaluate free stands
    rw [evaluates] at due
    exact @Proceeds.step _ _ (leaverStage pc stack 0).moment [] 0 left _ _ _ [] rfl due rfl
  have launched : Proceedings (.start {} Roster.smallRig) _ (leaverStage 0 [] 1000) :=
    ((Trace.nil.snoc (.begin ⟨rfl, rfl⟩ (.install ⟨[leaverScript]⟩))).snoc
      (.begin ⟨rfl, rfl⟩ (.run (Roster.touch 0 7 false) Roster.smallRig))).snoc (.launch rfl)
  have within : Proceedings (.start {} Roster.smallRig) _
      (leaverStage 2 [.loop 1 (.repeats 1), .loop 0 (.repeats 2)] 998) :=
    (launched.snoc (enters ⟨rfl, rfl⟩ rfl (by decide +kernel))).snoc
      (enters ⟨rfl, rfl⟩ rfl (by decide +kernel))
  have jumps : Proceeds (leaverStage 2 [.loop 1 (.repeats 1), .loop 0 (.repeats 2)] 998)
      (.step 1 (some (.jump 4)) []) _ :=
    @Proceeds.step _ _ (leaverStage 2 [.loop 1 (.repeats 1), .loop 0 (.repeats 2)] 0).moment []
      0 997 _ (some (.jump 4)) _ [] rfl (.evaluate ⟨rfl, rfl⟩ rfl) rfl
  have stays := (jump_leaves_loops_open {} Roster.smallRig).2.2 within
    (List.mem_singleton_self _) jumps
  refine ⟨_, _, _, within, jumps, fun acts last proceedings unstopped => ?_⟩
  exact @stays.2.2.2 [.loop 1 (.repeats 1)] [.loop 0 (.repeats 2)] rfl (by simp)
    (by simp [Frame.isBody]) _ _ proceedings unstopped

/--
A jump out of the inner loop ends the outer one, too: the script is accepted, its outer
loop is to go three rounds, and what it does in each is done once.
-/
theorem left_loop_stops_outer_one :
    (Script.parse "Leaver"
        "Repeat 3\nRepeat 2\nJump out\nNext\nLabel out\nMute\nNext\nEnd\n"
        muteSymbols).value.1 = .ok leaverScript ∧
    (Roster.outcomes {} Roster.smallRig
        [.install ⟨[leaverScript]⟩, .run (Roster.touch 0 7 false) Roster.smallRig]).1.active.map
          ScriptInstance.isFinished = [true] ∧
    (Roster.outcomes {} Roster.smallRig
        [.install ⟨[leaverScript]⟩,
         .run (Roster.touch 0 7 false) Roster.smallRig]).2.engine.calls.filterMap
          EngineCall.invoked? = [("Mute", none, some 1)] := by
  decide +kernel

end Looper
