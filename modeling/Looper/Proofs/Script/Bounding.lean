import Looper.Proofs.Script.Piling

/-!
# How many frames an instance comes to have

What is known of the frames of an instance lasts through a story.  A label that is
notified puts its frame on top, and below it everything is as it was; steps of the
instance leave frames behind when they jump out of an open loop or warp, and otherwise
nothing does.  So the frames are bounded by the depth of the loops in the library, as
long as no label is notified and nothing is left behind, and grow beyond that bound only
with the labels and with what is left.
-/

namespace Looper

open Roster (Operation)

/-! ## One instance -/

namespace ScriptInstance

/-- A label has been notified: the instance is behind it, on top of all that there was. -/
def IsNotified (self later : ScriptInstance) : Prop :=
  ∃ kind label, self.script.labels.get? kind = some label ∧ later.current = self.script ∧
    later.pc = some (label + 1) ∧ later.stack = .label self.current self.pc :: self.stack

/-- The frames of an instance still fit, with one label more if it has been notified. -/
def StillFits (depth stranded labels : Nat) (self later : ScriptInstance) : Prop :=
  later.Fits depth stranded labels ∨
    self.IsNotified later ∧ later.Fits depth stranded (labels + 1)

namespace Fits

variable {depth stranded labels : Nat} {self later : ScriptInstance}

theorem counted (fits : self.Fits depth stranded labels) :
    self.Fits depth stranded (self.stack.countP Frame.isLabel) where
  script := fits.script
  current := fits.current
  piled := fits.piled
  stranded_le := fits.stranded_le
  labels_le := Nat.le_refl _

theorem hear (fits : self.Fits depth stranded labels) (completion : Completion) :
    (self.hear completion).Fits depth stranded labels := by
  have script := (self.told_hear completion).continues.script
  obtain ⟨current, pc, -, stack⟩ := Position.mk.inj (self.position_hear completion)
  refine ⟨script ▸ fits.script, current ▸ fits.current, ?_, ?_, ?_⟩
  · rw [stack]
    exact fits.piled.mapWait completion.leaves
  · rw [ScriptInstance.stranded, current, pc, stack]
    exact Nat.le_trans (Nat.le_of_eq (Script.stranded_map_mapWait _)) fits.stranded_le
  · rw [stack]
    refine Nat.le_trans (Nat.le_of_eq ?_) fits.labels_le
    rw [ScriptInstance.position, List.countP_map]
    exact congrArg (List.countP · self.stack) (funext (Frame.isLabel_mapWait completion.leaves))

theorem notify (fits : self.Fits depth stranded labels) {kind : LabelKind} {label : Nat}
    (slot : self.script.labels.get? kind = some label) :
    self.StillFits depth stranded labels (self.notify label) := by
  refine .inr ⟨⟨kind, label, slot, rfl, rfl, rfl⟩, ?_⟩
  refine ⟨fits.script, fits.script, ?_, fits.stranded_le, ?_⟩
  · refine fits.piled.cons ⟨?_, nofun, nofun⟩
    exact fun script saved => Option.some.inj saved ▸ fits.current
  · rw [ScriptInstance.notify, List.countP_cons_of_pos rfl]
    exact Nat.succ_le_succ fits.labels_le

theorem notifyKind (fits : self.Fits depth stranded labels) (kind : LabelKind) :
    self.StillFits depth stranded labels (self.notifyKind kind).2 := by
  unfold ScriptInstance.notifyKind
  split
  · next label slot => exact fits.notify slot
  · exact .inl fits

theorem like (fits : self.Fits depth stranded labels) (script : later.script = self.script)
    (current : later.current = self.current) (pc : later.pc = self.pc)
    (stack : later.stack = self.stack) : later.Fits depth stranded labels := by
  refine ⟨script ▸ fits.script, current ▸ fits.current, stack ▸ fits.piled, ?_, ?_⟩
  · rw [ScriptInstance.stranded, current, pc, stack]
    exact fits.stranded_le
  · exact stack ▸ fits.labels_le

theorem elapses (fits : self.Fits depth stranded labels) (elapses : self.Elapses later) :
    self.StillFits depth stranded labels later := by
  cases elapses with
  | count => exact .inl (fits.like rfl rfl rfl rfl)
  | enter sustainElapsed sustainCount clickElapsed clicking kind =>
      have timed : Fits depth stranded labels
          { self with sustainElapsed, sustainCount, clickElapsed, clicking } :=
        fits.like rfl rfl rfl rfl
      exact timed.notifyKind kind

theorem aged (fits : self.Fits depth stranded labels) (ages : self.Ages later) :
    self.StillFits depth stranded labels later := by
  cases ages with
  | block block => exact .inl (fits.hear (.block block))
  | held msec holdTime => exact fits.elapses (self.elapses_advanceSustain msec holdTime)
  | clicking msec window => exact fits.elapses (self.elapses_advanceClick msec window)

theorem entered (fits : self.Fits depth stranded labels) (entered : self.Entered later) :
    self.StillFits depth stranded labels later := by
  cases entered with
  | release =>
      have released : Fits depth stranded labels
          { self with sustaining := false, sustainElapsed := 0 } := fits.like rfl rfl rfl rfl
      exact released.notifyKind .endSustain
  | click =>
      have clicked : Fits depth stranded labels
          { self with clickCount := self.clickCount + 1, clickElapsed := 0 } :=
        fits.like rfl rfl rfl rfl
      exact clicked.notifyKind .click
  | reentry slot =>
      have atReentry : self.script.labels.get? .reentry = some _ := slot
      exact fits.notify atReentry

end Fits

end ScriptInstance

/-! ## Stories -/

variable {ε : Type}

/-- Whether a step of an instance leaves frames behind. -/
def Happening.strands (self : ScriptInstance) : Happening ε → Bool
  | .labor (.step mover statement) => mover == self.id && statement.any self.strands
  | _ => false

def departures (id : InstanceId) (story : List (Moment ε × Happening ε)) : Nat :=
  story.countP fun passage =>
    passage.1.roster.active.any fun self => self.id == id && passage.2.strands self

theorem departures_snoc (story : List (Moment ε × Happening ε)) {moment : Moment ε}
    {self : ScriptInstance} (member : self ∈ moment.roster.active) (happening : Happening ε) :
    departures self.id story + (happening.strands self).toNat ≤
      departures self.id (story ++ [(moment, happening)]) := by
  rw [departures, departures, List.countP_append, List.countP_singleton]
  cases strands : happening.strands self with
  | false => exact Nat.le_add_right _ _
  | true =>
      rw [if_pos (List.any_eq_true.2 ⟨self, member, by simp [strands]⟩)]
      exact Nat.le_refl _

variable [Engine ε]

/-- What happens to an instance leaves as much behind as its own step does. -/
theorem Befalls.fits {run later : Run ε} {happening : Happening ε} {depth stranded labels : Nat}
    (befalls : Befalls run happening later) (library : run.shared.library.IsShallow depth)
    (fits : run.self.Fits depth stranded labels) :
    run.self.StillFits depth (stranded + (depth + 1) * (happening.strands run.self).toNat) labels
      later.self := by
  cases befalls with
  | step due =>
      rw [Happening.strands, beq_self_eq_true, Bool.true_and]
      exact .inl (due.fits library fits)
  | hear completion => exact .inl (fits.hear completion)
  | age ages => exact fits.aged ages
  | enter unfinished entered => exact fits.entered entered
  | stop rig =>
      exact .inl ⟨fits.script, fits.current, .nil depth, Nat.zero_le _, Nat.zero_le _⟩
  | others shared rig untold apart =>
      exact .inl (fits.mono (Nat.le_add_right _ _) (Nat.le_refl _))

omit [Engine ε] in
theorem stack_launched (roster : Roster) (script : Script) (action : Action) :
    (roster.launched script action).stack = [] := by
  unfold Roster.launched
  split <;> rfl

omit [Engine ε] in
theorem fits_launched (roster : Roster) {script : Script} {depth : Nat}
    (shallow : script.IsShallow depth) (action : Action) :
    (roster.launched script action).Fits depth 0 0 := by
  unfold Roster.launched
  split
  · exact ⟨shallow, shallow, .nil depth, Nat.le_refl _, Nat.le_refl _⟩
  · exact ⟨shallow, shallow, .nil depth, Nat.le_refl _, Nat.le_refl _⟩

theorem Happens.library {before after : Moment ε} {happening : Happening ε}
    (happens : Happens before happening after) :
    after.roster.shared.library = before.roster.shared.library ∨
      ∃ library, happening = .begin (.install library) ∧
        after.roster.shared.library = library := by
  cases happens with
  | begin rests operation =>
      cases operation with
      | install library => exact .inr ⟨library, rfl, rfl⟩
      | _ => exact .inl rfl
  | hear completion => exact .inl rfl
  | mail kernel => exact .inl rfl
  | labor labor =>
      left
      cases labor with
      | step stands due => exact due.step.evolves.library
      | act move routine =>
          cases move with
          | begin rests operation => cases routine
          | step stands steps => cases routine
          | _ => rfl
      | _ => rfl

/-- In a story whose libraries are shallow, all instances fit, by what they have left behind. -/
theorem Story.allFit {config : ScriptConfig} {rig : Rig ε} {depth : Nat}
    {story : List (Moment ε × Happening ε)} {last : Moment ε}
    (tells : Story (.start config rig) story last)
    (installs : ∀ library, .begin (.install library) ∈ reported story →
      library.IsShallow depth) :
    last.roster.shared.library.IsShallow depth ∧
      ∀ self ∈ last.roster.active, self.Fits depth ((depth + 1) * departures self.id story)
        (self.stack.countP Frame.isLabel) := by
  induction tells with
  | nil =>
      exact ⟨fun _ member => absurd member List.not_mem_nil,
        fun _ member => absurd member List.not_mem_nil⟩
  | @snoc front before after happening tells happens ih =>
      rw [reported_append] at installs
      obtain ⟨library, active⟩ := ih fun library installed =>
        installs library (List.mem_append_left _ installed)
      refine ⟨?_, fun later member => ?_⟩
      · rcases happens.library with same | ⟨installed, rfl, isInstalled⟩
        · exact same ▸ library
        · exact isInstalled ▸ installs installed (List.mem_append_right _ List.mem_cons_self)
      · have numbered := Story.numbered tells (Moment.numbered_start config rig)
        rcases happens.origin numbered member with
          ⟨self, there, sameId, befalls⟩ | ⟨script, action, -, presses, rfl⟩
        · have more := departures_snoc front there happening
          have left_behind := Nat.mul_le_mul_left (depth + 1) more
          rw [Nat.mul_add, sameId] at left_behind
          rcases befalls.fits library (active self there) with fits | ⟨-, fits⟩
          · exact (fits.mono (sameId ▸ left_behind) (Nat.le_refl _)).counted
          · exact (fits.mono (sameId ▸ left_behind) (Nat.le_refl _)).counted
        · obtain ⟨id, traits, -, loaded⟩ := presses.target
          exact (fits_launched before.roster (library script (List.mem_of_getElem? loaded))
            action).mono (Nat.zero_le _) (Nat.zero_le _)

/-- The frame of a label is only put on the stack when the label is notified. -/
theorem Story.labels_le {config : ScriptConfig} {rig : Rig ε} {depth : Nat}
    {story : List (Moment ε × Happening ε)} {before after : Moment ε} {happening : Happening ε}
    (tells : Story (.start config rig) story before)
    (installs : ∀ library, .begin (.install library) ∈ reported story →
      library.IsShallow depth) (happens : Happens before happening after)
    {later : ScriptInstance} (member : later ∈ after.roster.active) :
    later.stack = [] ∨ ∃ self ∈ before.roster.active, self.id = later.id ∧
      (later.stack.countP Frame.isLabel ≤ self.stack.countP Frame.isLabel ∨
        self.IsNotified later) := by
  obtain ⟨library, active⟩ := tells.allFit installs
  rcases happens.origin (tells.numbered (Moment.numbered_start config rig)) member with
    ⟨self, there, sameId, befalls⟩ | ⟨script, action, -, -, rfl⟩
  · right
    refine ⟨self, there, sameId, ?_⟩
    rcases befalls.fits library (active self there) with fits | ⟨notified, -⟩
    · exact .inl fits.labels_le
    · exact .inr notified
  · exact .inl (stack_launched before.roster script action)

def Unnotified (before after : Moment ε) : Prop :=
  ∀ self ∈ before.roster.active, ∀ later ∈ after.roster.active, self.id = later.id →
    ¬ self.IsNotified later

omit [Engine ε] in
theorem unnotified_of_unlabelled {before after : Moment ε}
    (unlabelled : ∀ self ∈ after.roster.active, self.stack.countP Frame.isLabel = 0) :
    Unnotified before after := by
  rintro self - later member - ⟨kind, label, -, -, -, stack⟩
  have positive : 0 < later.stack.countP Frame.isLabel := by
    rw [stack, List.countP_cons_of_pos rfl]
    exact Nat.succ_pos _
  rw [unlabelled later member] at positive
  exact Nat.lt_irrefl 0 positive

/-- In a story without notifications no frame is one of a label. -/
theorem Story.unlabelled {config : ScriptConfig} {rig : Rig ε} {depth : Nat}
    {story : List (Moment ε × Happening ε)} {last : Moment ε}
    (tells : Story (.start config rig) story last)
    (installs : ∀ library, .begin (.install library) ∈ reported story →
      library.IsShallow depth)
    (quiet : (story.map Prod.fst ++ [last]).IsChain Unnotified) :
    ∀ self ∈ last.roster.active, self.stack.countP Frame.isLabel = 0 := by
  induction tells with
  | nil => exact fun _ member => absurd member List.not_mem_nil
  | @snoc front before after happening tells happens ih =>
      rw [reported_append] at installs
      rw [List.map_append, List.map_singleton] at quiet
      obtain ⟨quietFront, -, quietLast⟩ := List.isChain_append.1 quiet
      have installsFront := fun library installed =>
        installs library (List.mem_append_left _ installed)
      intro later member
      rcases Story.labels_le tells installsFront happens member with
        empty | ⟨self, there, sameId, fewer | notified⟩
      · rw [empty, List.countP_nil]
      · rw [ih installsFront quietFront self there] at fewer
        exact Nat.le_zero.1 fewer
      · have unnotified := quietLast before (by simp) after rfl
        exact absurd notified (unnotified self there later member sameId)

/--
Scripts that are read are sound, and every history of operations has its story.

In a story whose libraries are sound, with loops nested at most so deep, an instance has no
more frames than there is room for calls, than its loops can be nested, and one wait;
beyond that only those that notified labels hold open, each as many as loops can be nested
and a wait, and those that it left behind when it jumped out of an open loop or warped,
each time at most as many as loops can be nested, and one more.  Where no label has been
notified, none is held open.  Nothing bounds how often an instance leaves frames behind.
-/
theorem frames_are_bounded (config : ScriptConfig) (rig : Rig ε) :
    (∀ (name source : String) (symbols : SymbolTable) (script : Script),
      (Script.parse name source symbols).value.1 = .ok script → script.IsSound) ∧
    (∀ history : List (Operation ε), ∃ story last, Story (.start config rig) story last ∧
      reported story = history.flatMap Operation.reports ∧ last.IsAtRest ∧
      last.state = Roster.outcomes config rig history) ∧
    ∀ {depth : Nat} {story : List (Moment ε × Happening ε)} {last : Moment ε},
      Story (.start config rig) story last →
      (∀ library, .begin (.install library) ∈ reported story →
        library.IsSound ∧ library.loopDepth ≤ depth) →
      (∀ self ∈ last.roster.active,
        self.stack.length ≤ Run.maxDepth + depth + 1 +
          (depth + 2) * self.stack.countP Frame.isLabel +
          (depth + 1) * departures self.id story) ∧
      ((story.map Prod.fst ++ [last]).IsChain Unnotified →
        ∀ self ∈ last.roster.active,
          self.stack.length ≤
            Run.maxDepth + depth + 1 + (depth + 1) * departures self.id story) := by
  refine ⟨fun _ _ _ _ reads => isSound_parse reads, story_outcomes config rig, ?_⟩
  intro depth story last tells installs
  have shallow : ∀ library, .begin (.install library) ∈ reported story →
      library.IsShallow depth := fun library installed =>
    (installs library installed).1.isShallow (installs library installed).2
  have bounded : ∀ self ∈ last.roster.active, _ := fun self member =>
    ((tells.allFit shallow).2 self member).length_le
  refine ⟨bounded, fun quiet self member => ?_⟩
  have atMost := bounded self member
  rw [tells.unlabelled shallow quiet self member] at atMost
  exact atMost

/-! ## Frames that pile up -/

/-- A script that leaves a loop by a jump to a label before it, again and again. -/
def circleScript : Script where
  name := "Circle"
  statements := [.label "top" .plain, .repeatLoop "2" 3, .jump 0, .next 1]
  lines := [1, 2, 3, 4]

namespace Circling

/-- What the script leaves behind each time. -/
def frame : Frame := .loop 1 (.repeats 1)

def passage (place : Nat) (stack : List Frame) : Run Recorder :=
  (Solo.launched circleScript Roster.smallRig).runOf
    { Solo.player circleScript Roster.smallRig with
      pc := some place
      stack }

def moment (place : Nat) (stack : List Frame) : Moment Recorder :=
  (Solo.launched circleScript Roster.smallRig).withRun 0 (passage place stack)

theorem happens_evaluated {place next : Nat} {stack later : List Frame} {statement : Statement}
    (free : (passage place stack).IsFree)
    (stands : (passage place stack).here? = some (place, statement))
    (leads : Solo.evaluated (passage place stack) place statement = passage next later) :
    Happens (moment place stack) (.labor (.step 1 (some statement))) (moment next later) := by
  have due := Solo.due_evaluated free stands
  rw [leads] at due
  exact .labor (@Labor.step _ _ (moment place stack) 0 _ _ _ rfl due)

def story : List (Moment Recorder × Happening Recorder) :=
  Solo.opening circleScript Roster.smallRig ++
    [(moment 0 [], .labor (.step 1 (some (.label "top" .plain)))),
     (moment 1 [], .labor (.step 1 (some (.repeatLoop "2" 3)))),
     (moment 2 [frame], .labor (.step 1 (some (.jump 0))))]

theorem story_tells : Story (.start {} Roster.smallRig) story (moment 1 [frame]) := by
  have enters : Happens (moment 0 []) _ (moment 1 []) := happens_evaluated ⟨rfl, rfl⟩ rfl rfl
  have repeats : Happens (moment 1 []) (.labor (.step 1 (some (.repeatLoop "2" 3))))
      (moment 2 [frame]) := happens_evaluated ⟨rfl, rfl⟩ rfl (by decide +kernel)
  have jumps : Happens (moment 2 [frame]) (.labor (.step 1 (some (.jump 0))))
      (moment 1 [frame]) := happens_evaluated ⟨rfl, rfl⟩ rfl rfl
  exact (((Solo.story_opening circleScript Roster.smallRig).snoc enters).snoc repeats).snoc jumps

/-- The first jump out of the loop leaves one frame behind. -/
theorem circle_leaves_one_frame :
    Story (.start {} Roster.smallRig) story (moment 1 [frame]) ∧ departures 1 story = 1 ∧
      (story.map Prod.fst ++ [moment 1 [frame]]).IsChain Unnotified ∧
      ∃ self ∈ (moment 1 [frame]).roster.active, self.id = 1 ∧ self.stack = [frame] ∧
        self.stack.length ≤ Run.maxDepth + 1 + 1 + (1 + 1) * 1 := by
  have reads : (Script.parse "Circle" "Label top\nRepeat 2\nJump top\nNext\n" {}).value.1 =
      .ok circleScript := by
    decide +kernel
  obtain ⟨sound, -, bounded⟩ := frames_are_bounded {} Roster.smallRig
  have installs : ∀ library, .begin (.install library) ∈ reported story →
      library.IsSound ∧ library.loopDepth ≤ 1 := by
    intro library installed
    have same : library = ⟨[circleScript]⟩ := by
      simpa [reported, story, Solo.opening, Happening.isReported] using installed
    rw [same]
    refine ⟨fun script member => ?_, by decide⟩
    rw [List.mem_singleton.1 member]
    exact sound _ _ _ _ reads
  have once : departures 1 story = 1 := by decide +kernel
  have unlabelled : ∀ passed ∈ story.map Prod.fst ++ [moment 1 [frame]],
      ∀ self ∈ passed.roster.active, self.stack.countP Frame.isLabel = 0 := by
    decide
  have quiet : (story.map Prod.fst ++ [moment 1 [frame]]).IsChain Unnotified := by
    refine List.Pairwise.isChain (List.pairwise_of_forall_mem_list ?_)
    exact fun before _ after member => unnotified_of_unlabelled (unlabelled after member)
  refine ⟨story_tells, once, quiet, _, List.mem_singleton_self _, rfl, rfl, ?_⟩
  have fits := (bounded story_tells installs).2 quiet _ (List.mem_singleton_self _)
  have isOnly : (passage 1 [frame]).self.id = 1 := rfl
  rw [isOnly, once] at fits
  exact fits

/-! ## Beyond every bound -/

/-- A script that warps into a proc from within it, again and again. -/
def whirlScript : Script where
  name := "Whirl"
  statements := [.warp 1, .proc "around" 3, .warp 1, .endProc]
  lines := [1, 2, 3, 4]

/-- The two ways to come back to a place above one frame more. -/
inductive Circuit where
  | jumping
  | warping

namespace Circuit

def script : Circuit → Script
  | jumping => circleScript
  | warping => whirlScript

def left : Circuit → Frame
  | jumping => frame
  | warping => .warp

def steps : Circuit → Nat
  | jumping => 2
  | warping => 1

def rounds : Circuit → Nat
  | jumping => 500
  | warping => 1000

end Circuit

variable {circuit : Circuit}

/-- The run stands where a round begins, above so many frames and one more. -/
def standing {ε : Type} (circuit : Circuit) (run : Run ε) (height : Nat) : Run ε :=
  run.withSelf
    { run.self with
      current := circuit.script
      pc := some 2
      stack := circuit.left :: List.replicate height circuit.left }

/-- A loop that goes round twice is entered with one round left, whatever else there is. -/
theorem value_repeatTwice {ε : Type} [Engine ε] (run : Run ε) (index close : Nat) :
    (run.evaluate index (.repeatLoop "2" close)).value =
      (.next, run.push (.loop index (.repeats 1))) := by
  have scanned : Reference.scan "2".toList = [.plain '2'] := by decide +kernel
  have noName : ¬ Reference.isName "2".toList = true := by decide +kernel
  have isTwo : Text.int64? (Text.trim "2".toList) = some 2 := by decide +kernel
  have operand : (run.operand "2").value = "2" := by
    rw [Run.operand, Run.expand, Reference.expand, Reference.expandWith, scanned]
    exact congrArg Logged.value (if_neg noName)
  have counted : (run.repeatCount index "2").value = 2 := by
    rw [Run.repeatCount, isTwo]
    rfl
  rw [Run.evaluate, Run.repeatLoop, Logged.value_bind, Logged.value_bind, operand, counted]
  rfl

theorem advance_round {ε : Type} [Engine ε] (run : Run ε) (height fuel : Nat) :
    ((standing circuit run height).advance (fuel + circuit.steps)).value =
      ((standing circuit run (height + 1)).advance fuel).value := by
  cases circuit with
  | jumping =>
      have jumps : (standing .jumping run height).here? = some (2, .jump 0) := rfl
      have enters : ((standing .jumping run height).setPlace (some 1)).here? =
          some (1, .repeatLoop "2" 3) := rfl
      change ((standing .jumping run height).advance (fuel + 1 + 1)).value = _
      rw [Run.advance_succ rfl rfl jumps]
      change (((standing .jumping run height).setPlace (some 1)).advance (fuel + 1)).value = _
      rw [Run.advance_succ rfl rfl enters, value_repeatTwice]
      rfl
  | warping =>
      have warps : (standing .warping run height).here? = some (2, .warp 1) := rfl
      change ((standing .warping run height).advance (fuel + 1)).value = _
      rw [Run.advance_succ rfl rfl warps]
      rfl

theorem advance_standing {ε : Type} [Engine ε] (circuit : Circuit) (run : Run ε)
    (turns height : Nat) :
    ((standing circuit run height).advance (circuit.steps * turns)).value =
      standing circuit run (height + turns) := by
  induction turns generalizing height with
  | zero => cases circuit <;> exact Run.advance_zero rfl rfl rfl
  | succ turns ih => rw [Nat.mul_succ, advance_round, ih, Nat.add_right_comm, Nat.add_assoc]

def roster (circuit : Circuit) : Roster := .new {} ⟨[circuit.script]⟩

def fresh (circuit : Circuit) (block : Nat) : Run Recorder where
  self := (roster circuit).launched circuit.script (Roster.touch 0 7 false)
  shared := { (roster circuit).shared with block }
  rig := Roster.smallRig

def running (circuit : Circuit) (block height : Nat) : Roster × Rig Recorder :=
  ({ roster circuit with
     active := [(standing circuit (fresh circuit block) height).self]
     idle := (roster circuit).idle.tail
     lastId := 1
     shared := (fresh circuit block).shared }, Roster.smallRig)

/-- What is left of the first thousand statements, once the first frame is there, are rounds. -/
theorem runInstance_launched (circuit : Circuit) :
    (Roster.runInstance false (fresh circuit 0).self (roster circuit).shared
      Roster.smallRig).value = standing circuit (fresh circuit 0) (circuit.rounds - 1) := by
  cases circuit with
  | jumping =>
      have labels : (fresh .jumping 0).here? = some (0, .label "top" .plain) := rfl
      have enters : ((fresh .jumping 0).setPlace (some 1)).here? =
          some (1, .repeatLoop "2" 3) := rfl
      change ((fresh .jumping 0).advance (998 + 1 + 1)).value = _
      rw [Run.advance_succ rfl rfl labels]
      change (((fresh .jumping 0).setPlace (some 1)).advance (998 + 1)).value = _
      rw [Run.advance_succ rfl rfl enters, value_repeatTwice]
      exact advance_standing .jumping (fresh .jumping 0) 499 0
  | warping =>
      have warps : (fresh .warping 0).here? = some (0, .warp 1) := rfl
      change ((fresh .warping 0).advance (999 + 1)).value = _
      rw [Run.advance_succ rfl rfl warps]
      exact advance_standing .warping (fresh .warping 0) 999 0

theorem outcomes_pressed (circuit : Circuit) : Roster.outcomes {} Roster.smallRig
    [.install ⟨[circuit.script]⟩, .run (Roster.touch 0 7 false) Roster.smallRig] =
      running circuit 0 (circuit.rounds - 1) := by
  have routes : ((roster circuit).route (Roster.touch 0 7 false) Roster.smallRig).value =
      running circuit 0 (circuit.rounds - 1) := by
    have launches : ((roster circuit).route (Roster.touch 0 7 false) Roster.smallRig).value =
        ((roster circuit).launch circuit.script (Roster.touch 0 7 false)
          Roster.smallRig).value := by
      cases circuit <;> rfl
    have runs := runInstance_launched circuit
    rw [fresh] at runs
    rw [launches, Roster.value_launch, runs]
    cases circuit <;> rfl
  change ((roster circuit).runScript (Roster.touch 0 7 false) Roster.smallRig).value = _
  rw [Roster.runScript, Logged.value_bind, routes]
  cases circuit <;> rfl

theorem go_standing (block height : Nat) :
    (Run.go true (standing circuit (fresh circuit block) height)).value =
      standing circuit (fresh circuit block) (height + circuit.rounds) := by
  have frames : (standing circuit (fresh circuit block) height).self.stack.map
      (Frame.mapWait (Wait.releaseBlock block)) =
        (standing circuit (fresh circuit block) height).self.stack := by
    change (circuit.left :: List.replicate height circuit.left).map _ =
      circuit.left :: List.replicate height circuit.left
    rw [List.map_cons, List.map_replicate]
    cases circuit <;> rfl
  have released : (standing circuit (fresh circuit block) height).self.releaseBlock block =
      (standing circuit (fresh circuit block) height).self := by
    rw [ScriptInstance.releaseBlock, ScriptInstance.mapWaits, frames]
  have goes : Run.go true (standing circuit (fresh circuit block) height) =
      ((standing circuit (fresh circuit block) height).withSelf
        ((standing circuit (fresh circuit block) height).self.releaseBlock block)).advance
          (circuit.steps * circuit.rounds) := by
    cases circuit <;> rfl
  rw [goes, released]
  exact advance_standing circuit (fresh circuit block) circuit.rounds height

theorem outcome_maintain (block height : Nat) :
    Roster.outcome (running circuit block height) (.maintain 64 48000 Roster.smallRig) =
      running circuit (block + 1) (height + circuit.rounds) := by
  have ticks : (Roster.tick {} 1 ⟨(standing circuit (fresh circuit block) height).self,
      (fresh circuit block).shared, Roster.smallRig⟩).value =
        standing circuit (fresh circuit block) (height + circuit.rounds) := by
    have goes : (Run.go true ⟨(standing circuit (fresh circuit block) height).self,
        (fresh circuit block).shared, Roster.smallRig⟩).value =
          standing circuit (fresh circuit block) (height + circuit.rounds) :=
      go_standing block height
    rw [Roster.tick, Logged.value_bind, goes]
    cases circuit <;> rfl
  have allTick : (Roster.tickAll {} 1 [(standing circuit (fresh circuit block) height).self]
      (fresh circuit block).shared Roster.smallRig).value =
        ([(standing circuit (fresh circuit block) (height + circuit.rounds)).self],
          (fresh circuit block).shared, Roster.smallRig) := by
    rw [Roster.tickAll, Logged.value_bind, ticks]
    rfl
  have works : (running circuit block height).1.work 64 48000 Roster.smallRig =
      running circuit block (height + circuit.rounds) := by
    change (let ticked := (Roster.tickAll {} 1
        [(standing circuit (fresh circuit block) height).self] (fresh circuit block).shared
          Roster.smallRig).value
      ({ (running circuit block height).1 with
         active := ticked.1, shared := ticked.2.1 }.settle ticked.2.2 Roster.maxRounds).value) = _
    rw [allTick]
    cases circuit <;> rfl
  change ((running circuit block height).1.maintain 64 48000 Roster.smallRig).value = _
  rw [Roster.maintain_eq, works]
  rfl

def history (circuit : Circuit) (blocks : Nat) : List (Operation Recorder) :=
  [.install ⟨[circuit.script]⟩, .run (Roster.touch 0 7 false) Roster.smallRig] ++
    List.replicate blocks (.maintain 64 48000 Roster.smallRig)

/-- Each block there are so many frames more, and nothing is taken off again. -/
theorem outcomes_history (circuit : Circuit) (blocks : Nat) :
    Roster.outcomes {} Roster.smallRig (history circuit blocks) =
      running circuit blocks (circuit.rounds - 1 + circuit.rounds * blocks) := by
  induction blocks with
  | zero =>
      rw [Nat.mul_zero, Nat.add_zero, history, List.replicate_zero, List.append_nil]
      exact outcomes_pressed circuit
  | succ blocks ih =>
      have oneMore : history circuit (blocks + 1) =
          history circuit blocks ++ [.maintain 64 48000 Roster.smallRig] := by
        rw [history, List.replicate_succ', ← List.append_assoc]
        rfl
      rw [oneMore, Roster.outcomes, List.foldl_append, ← Roster.outcomes, ih, Nat.mul_succ,
        ← Nat.add_assoc]
      exact outcome_maintain blocks _

/--
No bound holds for a script that jumps out of a loop again and again, and none for one that
warps again and again: it is accepted, it has no label that could be notified, and however
large a bound is given, in some history its only instance has more frames.
-/
theorem circles_exceed_every_bound :
    (Script.parse "Circle" "Label top\nRepeat 2\nJump top\nNext\n" {}).value.1 =
      .ok circleScript ∧
    (Script.parse "Whirl" "Warp around\nProc around\nWarp around\nEndproc\n" {}).value.1 =
      .ok whirlScript ∧
    ∀ script ∈ [circleScript, whirlScript], (∀ kind, script.labels.get? kind = none) ∧
      ∀ bound : Nat, ∃ history : List (Operation Recorder),
        (∀ library, .install library ∈ history → library = ⟨[script]⟩) ∧
        ∃ self ∈ (Roster.outcomes {} Roster.smallRig history).1.active,
          bound < self.stack.length := by
  refine ⟨by decide +kernel, by decide +kernel, fun script isOne => ?_⟩
  obtain ⟨circuit, rfl⟩ : ∃ circuit : Circuit, circuit.script = script := by
    rcases List.mem_pair.1 isOne with rfl | rfl
    · exact ⟨.jumping, rfl⟩
    · exact ⟨.warping, rfl⟩
  refine ⟨fun kind => by cases circuit <;> cases kind <;> rfl, fun bound => ?_⟩
  refine ⟨history circuit bound, fun library installed => ?_, ?_⟩
  · rcases List.mem_append.1 installed with first | later
    · simpa using first
    · cases (List.mem_replicate.1 later).2
  · rw [outcomes_history]
    refine ⟨_, List.mem_singleton_self _, ?_⟩
    change bound < (circuit.left :: List.replicate (circuit.rounds - 1 + circuit.rounds * bound)
      circuit.left).length
    have goesRound : 0 < circuit.rounds := by cases circuit <;> decide
    have more := Nat.le_mul_of_pos_left bound goesRound
    rw [List.length_cons, List.length_replicate]
    omega

end Circling

end Looper
