import Looper.Proofs.Script.Reading
import Looper.Proofs.Script.Unfolding

/-!
# Places stay within their scripts

A running instance stands at a statement of the script it runs, or right behind
the last one, and so does every place on its stack that it can come back to.
Which script a place belongs to depends on the frames above it: calls into
another script and label blocks remember the script that they interrupted.
-/

namespace Looper

open Roster (Operation)

/-- The places that frames lead back to lie within their scripts; the given one runs above them. -/
def FramesWithin (current : Script) : List Frame → Prop
  | [] => True
  | .call none returnTo _ :: rest =>
      returnTo ≤ current.statements.length ∧ FramesWithin current rest
  | .call (some caller) returnTo _ :: rest =>
      caller.IsSound ∧ returnTo ≤ caller.statements.length ∧ FramesWithin caller rest
  | .label script resume :: rest =>
      script.IsSound ∧ (∀ place, resume = some place → place ≤ script.statements.length) ∧
        FramesWithin script rest
  | .loop start _ :: rest => start < current.statements.length ∧ FramesWithin current rest
  | .warp :: rest => FramesWithin current rest
  | .wait _ :: rest => FramesWithin current rest

theorem FramesWithin.mapWait {current : Script} {frames : List Frame}
    (within : FramesWithin current frames) (change : Wait → Wait) :
    FramesWithin current (frames.map (Frame.mapWait change)) := by
  induction frames generalizing current with
  | nil => trivial
  | cons frame rest ih =>
      cases frame with
      | call caller returnTo args =>
          cases caller with
          | none => exact ⟨within.1, ih within.2⟩
          | some caller => exact ⟨within.1, within.2.1, ih within.2.2⟩
      | warp => exact ih within
      | loop start iteration => exact ⟨within.1, ih within.2⟩
      | label script resume => exact ⟨within.1, within.2.1, ih within.2.2⟩
      | wait wait => exact ih within

/-! ## Instances -/

namespace ScriptInstance

/-- An instance of sound scripts stands within the one it runs, and comes back within others. -/
structure IsWithin (it : ScriptInstance) : Prop where
  script : it.script.IsSound
  current : it.current.IsSound
  place : ∀ place, it.pc = some place → place ≤ it.current.statements.length
  frames : FramesWithin it.current it.stack

/-- What leaves the place and all places to come back to as they are. -/
structure Remains (before after : ScriptInstance) : Prop where
  script : after.script = before.script
  current : after.current = before.current
  stack : after.stack = before.stack ∨ ∃ wait, after.stack = .wait wait :: before.stack

theorem Remains.refl (self : ScriptInstance) : Remains self self :=
  ⟨rfl, rfl, .inl rfl⟩

theorem IsWithin.goTo {self : ScriptInstance} (within : self.IsWithin) {target : Nat}
    (inside : target ≤ self.current.statements.length) :
    IsWithin { self with pc := some target } where
  script := within.script
  current := within.current
  place _ stands := Option.some.inj stands ▸ inside
  frames := within.frames

theorem IsWithin.remains {before after : ScriptInstance} (within : before.IsWithin)
    (remains : before.Remains after) {target : Nat}
    (inside : target ≤ before.current.statements.length) :
    IsWithin { after with pc := some target } where
  script := remains.script ▸ within.script
  current := remains.current ▸ within.current
  place place stands := by
    rw [← Option.some.inj stands]
    exact remains.current ▸ inside
  frames := by
    change FramesWithin after.current after.stack
    rw [remains.current]
    rcases remains.stack with same | ⟨wait, pushed⟩
    · rw [same]
      exact within.frames
    · rw [pushed]
      exact within.frames

/-- Leaving a level leads to a place within the script that is then running. -/
theorem within_unwind {self : ScriptInstance} {frames : List Frame}
    (script : self.script.IsSound) (current : self.current.IsSound)
    (within : FramesWithin self.current frames) : (self.unwind frames).IsWithin := by
  induction frames generalizing self with
  | nil => exact ⟨script, current, nofun, trivial⟩
  | cons frame rest ih =>
      cases frame with
      | call caller returnTo args =>
          cases caller with
          | none => exact ih script current within.2
          | some caller =>
              exact ⟨script, within.1, fun _ stands => Option.some.inj stands ▸ within.2.1,
                within.2.2⟩
      | warp => exact ih script current within
      | loop start iteration =>
          cases iteration with
          | repeats remaining => exact ih script current within.2
          | tracks remaining saved =>
              exact @ih { self with track := saved } script current within.2
      | label label resume => exact ⟨script, within.1, within.2.1, within.2.2⟩
      | wait wait => exact ih script current within

theorem IsWithin.endLevel {self : ScriptInstance} (within : self.IsWithin) :
    self.endLevel.IsWithin :=
  within_unwind within.script within.current within.frames

theorem IsWithin.mapWaits {self : ScriptInstance} (within : self.IsWithin)
    (change : Wait → Wait) : (self.mapWaits change).IsWithin :=
  ⟨within.script, within.current, within.place, within.frames.mapWait change⟩

/-- A label that is notified lies in the launched script, and the interrupted place in its own. -/
theorem IsWithin.notify {self : ScriptInstance} (within : self.IsWithin) {kind : LabelKind}
    {label : Nat} (slot : self.script.labels.get? kind = some label) :
    (self.notify label).IsWithin where
  script := within.script
  current := within.script
  place place stands := by
    obtain ⟨name, isLabel⟩ := within.script.labels kind label slot
    obtain ⟨inside, -⟩ := List.getElem?_eq_some_iff.1 isLabel
    rw [← Option.some.inj stands]
    exact inside
  frames := ⟨within.current, within.place, within.frames⟩

theorem IsWithin.notifyKind {self : ScriptInstance} (within : self.IsWithin)
    (kind : LabelKind) : (self.notifyKind kind).2.IsWithin := by
  unfold ScriptInstance.notifyKind
  split
  · next label slot => exact within.notify slot
  · exact within

/-- Timers, flags and traces of requests do not matter for where an instance stands. -/
theorem IsWithin.like {before after : ScriptInstance} (within : before.IsWithin)
    (script : after.script = before.script) (current : after.current = before.current)
    (pc : after.pc = before.pc) (stack : after.stack = before.stack) : after.IsWithin where
  script := script ▸ within.script
  current := current ▸ within.current
  place place stands := by
    rw [current]
    exact within.place place (pc ▸ stands)
  frames := by
    rw [current, stack]
    exact within.frames

theorem IsWithin.elapses {self later : ScriptInstance} (within : self.IsWithin)
    (elapses : self.Elapses later) : later.IsWithin := by
  cases elapses with
  | count => exact within.like rfl rfl rfl rfl
  | enter sustainElapsed sustainCount clickElapsed clicking kind =>
      refine IsWithin.notifyKind ?_ kind
      exact within.like rfl rfl rfl rfl

theorem IsWithin.told {self later : ScriptInstance} (within : self.IsWithin)
    (told : self.Told later) : later.IsWithin := by
  cases told with
  | event event =>
      rw [finishEvent_eq]
      exact (within.mapWaits (Wait.finishEvent event)).like rfl rfl rfl rfl
  | function symbol => exact within.mapWaits (Wait.finishFunction symbol)
  | kernel event returnCode =>
      rw [finishKernel_eq]
      exact (within.mapWaits (Wait.finishKernel event)).like rfl rfl rfl rfl
  | block block => exact within.mapWaits (Wait.releaseBlock block)
  | held msec holdTime => exact within.elapses (self.elapses_advanceSustain msec holdTime)
  | clicking msec window => exact within.elapses (self.elapses_advanceClick msec window)

theorem IsWithin.entered {self later : ScriptInstance} (within : self.IsWithin)
    (entered : self.Entered later) : later.IsWithin := by
  cases entered with
  | release =>
      refine IsWithin.notifyKind ?_ .endSustain
      exact within.like rfl rfl rfl rfl
  | click =>
      refine IsWithin.notifyKind ?_ .click
      exact within.like rfl rfl rfl rfl
  | @reentry label slot =>
      have atReentry : self.script.labels.get? .reentry = some label := slot
      exact within.notify atReentry

end ScriptInstance

/-! ## Statements -/

def Statement.leadsOn : Statement → Bool
  | .declare .. | .assign .. | .use .. | .endBranch | .wait .. | .request .. | .invoke .. => true
  | _ => false

namespace Run

open ScriptInstance (Remains)

variable {ε : Type}

def size (run : Run ε) : Nat :=
  run.self.current.statements.length

variable [Engine ε] {run later : Run ε} {index : Nat} {statement : Statement} {flow : Flow}

/-- Such a statement may put a wait on the stack, and leaves all places as they are. -/
theorem Effect.remains (effect : run.Effect index statement flow later)
    (leadsOn : statement.leadsOn = true) : flow = .next ∧ run.self.Remains later.self := by
  cases effect with
  | scheduled read schedules | waited begins atOnce | asked requested answered =>
      exact ⟨rfl, rfl, rfl, .inr ⟨_, rfl⟩⟩
  | declared | declaredForAll | readOnly | assigned | assignedForAll | useless | used | branchOver
  | nothingToWaitFor | unscheduled | refused | sent | unresolved | invoked =>
      exact ⟨rfl, rfl, rfl, .inl rfl⟩
  | _ => cases leadsOn

theorem within_label {name : String} {kind : LabelKind}
    (effect : run.Effect index (.label name kind) flow later) (within : run.self.IsWithin)
    (inside : index < run.size) : (later.follow index flow).self.IsWithin := by
  cases effect with
  | resumed top =>
      have frames := within.frames
      rw [top] at frames
      exact ⟨within.script, frames.1, frames.2.1, frames.2.2⟩
  | labelPassed noLabel => exact within.goTo inside

theorem within_endProc (effect : run.Effect index .endProc flow later)
    (within : run.self.IsWithin) : (later.follow index flow).self.IsWithin := by
  have frames := within.frames
  cases effect with
  | returned top =>
      rw [top] at frames
      exact ⟨within.script, within.current, fun _ stands => Option.some.inj stands ▸ frames.1,
        frames.2⟩
  | warpOver top =>
      rw [top] at frames
      exact ScriptInstance.within_unwind within.script within.current frames
  | procUnopened noCall noWarp => exact within.endLevel

theorem within_next {start : Nat} (effect : run.Effect index (.next start) flow later)
    (within : run.self.IsWithin) (inside : index < run.size) (ordered : start < index) :
    (later.follow index flow).self.IsWithin := by
  have back : start + 1 ≤ run.size := Nat.le_trans ordered (Nat.le_of_lt inside)
  have frames := within.frames
  cases effect with
  | nextPassed elsewhere => exact within.goTo inside
  | nextRound top | nextTrack top =>
      rw [top] at frames
      exact ⟨within.script, within.current, fun _ stands => Option.some.inj stands ▸ back, frames⟩
  | lastRound top | lastTrack top =>
      rw [top] at frames
      exact ⟨within.script, within.current, fun _ stands => Option.some.inj stands ▸ inside,
        frames.2⟩

/-- A call leads to the beginning of a proc or of another script of the library. -/
theorem within_call {target : CallTarget} {args : String}
    (effect : run.Effect index (.call target args) flow later) (within : run.self.IsWithin)
    (library : run.shared.library.IsSound) (inside : index < run.size)
    (refers : (Statement.call target args).Refers run.self.current.statements) :
    (later.follow index flow).self.IsWithin := by
  cases effect with
  | callTooDeep deep | callUnknown missing => exact within.goTo inside
  | procCalled room =>
      obtain ⟨name, close, isProc⟩ := refers
      obtain ⟨there, -⟩ := List.getElem?_eq_some_iff.1 isProc
      exact ⟨within.script, within.current, fun _ stands => Option.some.inj stands ▸ there,
        inside, within.frames⟩
  | @scriptCalled _ _ callee room found =>
      exact ⟨within.script, library callee (List.mem_of_find?_eq_some found),
        fun _ stands => Option.some.inj stands ▸ Nat.zero_le _,
        within.current, inside, within.frames⟩

omit [Engine ε] in
theorem within_loop {iteration : Iteration} {track : Option TrackId} (within : run.self.IsWithin)
    (inside : index < run.size) :
    ScriptInstance.IsWithin { run.self with
      stack := .loop index iteration :: run.self.stack
      track := track
      pc := some (index + 1) } :=
  ⟨within.script, within.current, fun _ stands => Option.some.inj stands ▸ inside, inside,
    within.frames⟩

/-- Every statement leads to a place within the script that then runs. -/
theorem Effect.within (effect : run.Effect index statement flow later)
    (within : run.self.IsWithin) (library : run.shared.library.IsSound)
    (stands : run.here? = some (index, statement)) :
    (later.follow index flow).self.IsWithin := by
  have isHere : run.self.current.statements[index]? = some statement :=
    (here?_eq_some.1 stands).2
  have there {target : Nat} {statement : Statement}
      (found : run.self.current.statements[target]? = some statement) : target < run.size :=
    (List.getElem?_eq_some_iff.1 found).1
  have inside : index < run.size := there isHere
  have closes := within.current.closes index statement isHere
  have refers := within.current.refers statement (List.mem_of_getElem? isHere)
  cases statement with
  | label name kind => exact within_label effect within inside
  | jump target =>
      obtain ⟨name, kind, isLabel⟩ := refers
      cases effect
      exact within.goTo (there isLabel)
  | call target args => exact within_call effect within library inside refers
  | warp start =>
      obtain ⟨name, close, isProc⟩ := refers
      cases effect
      exact ⟨within.script, within.current,
        fun _ stands => Option.some.inj stands ▸ there isProc, within.frames⟩
  | proc name close =>
      cases effect
      exact within.goTo (there closes.2)
  | endProc => exact within_endProc effect within
  | branch condition otherwise =>
      cases effect with
      | held holds => exact within.goTo inside
      | failed fails =>
          rcases closes.2 with ends | ⟨close, isElse⟩
          · exact within.goTo (there ends)
          · exact within.goTo (there isElse)
  | otherwise close =>
      cases effect
      exact within.goTo (there closes.2)
  | repeatLoop count next =>
      cases effect with
      | noRepeat isCount none => exact within.goTo (there closes.2)
      | repeated isCount some => exact within_loop within inside
  | trackLoop tracks next =>
      cases effect with
      | noTrack none => exact within.goTo (there closes.2)
      | tracked some => exact within_loop within inside
  | next start => exact within_next effect within inside closes.1
  | finish =>
      cases effect
      exact within.endLevel
  | _ =>
      obtain ⟨rfl, remains⟩ := effect.remains rfl
      exact within.remains remains inside

/-- Every step of a run leads to a place within the script that then runs. -/
theorem Step.within {run later : Run ε} {statement : Option Statement}
    (step : run.Step statement later) (within : run.self.IsWithin)
    (library : run.shared.library.IsSound) : later.self.IsWithin := by
  cases step with
  | wake wakes =>
      obtain ⟨wait, rest, stack, -, rfl⟩ := wake?_eq_some.1 wakes
      have frames := within.frames
      rw [stack] at frames
      exact ⟨within.script, within.current, within.place, frames⟩
  | endLevel past opened => exact within.endLevel
  | finish past closed => exact ⟨within.script, within.current, nofun, within.frames⟩
  | evaluate ready stands => exact (run.effect_evaluate _ _).within within library stands

end Run

/-! ## Sessions -/

/-- The library and all running instances are as they have to be. -/
structure Moment.IsWithin {ε : Type} (moment : Moment ε) : Prop where
  library : moment.roster.shared.library.IsSound
  active : ∀ self ∈ moment.roster.active, self.IsWithin

section Sessions

variable {ε : Type}

theorem Moment.IsWithin.replace {moment : Moment ε} (within : moment.IsWithin) {position : Nat}
    {later : ScriptInstance} (isWithin : later.IsWithin) :
    ∀ self ∈ moment.roster.active.set position later, self.IsWithin := by
  intro self member
  rcases List.mem_or_eq_of_mem_set member with earlier | isLater
  · exact within.active self earlier
  · exact isLater ▸ isWithin

/-- A launched instance starts at the first statement, or behind the last one if there is none. -/
theorem within_launched (roster : Roster) {script : Script} (sound : script.IsSound)
    (action : Action) : (roster.launched script action).IsWithin := by
  unfold Roster.launched
  split
  · exact ⟨sound, sound, fun _ stands => Option.some.inj stands ▸ Nat.zero_le _, trivial⟩
  · exact ⟨sound, sound, fun _ stands => Option.some.inj stands ▸ Nat.zero_le _, trivial⟩

variable [Engine ε]

theorem Move.within {before after : Moment ε} {deed : Deed ε} (move : Move before deed after)
    (installs : ∀ library, deed = .begin (.install library) → library.IsSound)
    (within : before.IsWithin) : after.IsWithin := by
  cases move with
  | begin rests operation =>
      cases operation with
      | install library => exact ⟨installs library rfl, within.active⟩
      | _ => exact ⟨within.library, within.active⟩
  | @step position self statement later stands steps =>
      have isSelf := within.active self (List.mem_of_getElem? stands)
      constructor
      · change later.shared.library.IsSound
        rw [steps.evolves.library]
        exact within.library
      · exact within.replace (steps.within isSelf within.library)
  | @tell position self later stands told =>
      have isSelf := within.active self (List.mem_of_getElem? stands)
      exact ⟨within.library, within.replace (isSelf.told told)⟩
  | @enter action rest position self later front stands unfinished entered =>
      have isSelf := within.active self (List.mem_of_getElem? stands)
      exact ⟨within.library, within.replace (isSelf.entered entered)⟩
  | @launch action rest id script front found =>
      have sound := within.library script (List.mem_of_getElem? found)
      refine ⟨within.library, fun self member => ?_⟩
      rcases List.mem_append.1 member with earlier | isLaunched
      · exact within.active self earlier
      · exact List.mem_singleton.1 isLaunched ▸ within_launched before.roster sound action
  | @stop author track rest position self front stands concerns =>
      have isSelf := within.active self (List.mem_of_getElem? stands)
      refine ⟨within.library, within.replace ?_⟩
      exact ⟨isSelf.script, isSelf.current, nofun, trivial⟩
  | leave rests stands finished =>
      exact ⟨within.library, fun self member =>
        within.active self (List.mem_of_mem_eraseIdx member)⟩
  | _ => exact ⟨within.library, within.active⟩

/--
Every source that is read without an error gives a sound script, and libraries of
sound scripts stay so when scripts are loaded and brought up to date.  With such
libraries, at every moment of every history, all running instances stand within
the scripts they run and can only come back within the scripts they left.
-/
theorem sound_and_within (config : ScriptConfig) (rig : Rig ε) (history : List (Operation ε)) :
    (∀ (name source : String) (symbols : SymbolTable) (script : Script),
      (Script.parse name source symbols).value.1 = .ok script → script.IsSound) ∧
    (∀ (library : ScriptLibrary) (symbols : SymbolTable), library.IsSound →
      (library.resolve symbols).value.2.IsSound ∧
        ∀ name source, (library.load name source symbols).value.2.2.IsSound) ∧
    ((∀ library, Operation.install library ∈ history → library.IsSound) →
      (∃ steps last, Moves (.start config rig) steps last ∧ begun steps = history ∧
        last.state = Roster.outcomes config rig history) ∧
      ∀ steps last, Moves (.start config rig) steps last → begun steps = history →
        ∀ self ∈ last.roster.active, self.IsWithin) := by
  refine ⟨fun _ _ _ _ reads => isSound_parse reads, fun library symbols sound => ?_,
    fun installs => ⟨?_, fun steps last moves isHistory => ?_⟩⟩
  · exact ⟨ScriptLibrary.isSound_resolve sound symbols,
      fun name source => ScriptLibrary.isSound_load sound name source symbols⟩
  · obtain ⟨steps, last, moves, isHistory, -, isLast⟩ := moves_outcomes config rig history
    exact ⟨steps, last, moves, isHistory, isLast⟩
  · have initially : (Moment.start config rig).IsWithin :=
      ⟨fun _ member => absurd member List.not_mem_nil,
        fun _ member => absurd member List.not_mem_nil⟩
    have within : last.IsWithin := by
      refine moves.keeps ?_ initially
      rintro before after deed ⟨next, member⟩ move within
      refine move.within (fun library isInstall => ?_) within
      have begins : Operation.install library ∈ begun steps :=
        List.mem_filterMap.2 ⟨(deed, next), member, by rw [isInstall]; rfl⟩
      rw [isHistory] at begins
      exact installs library begins
    exact within.active

def blockLoop : Script where
  name := "Loop"
  statements := [.repeatLoop "2" 2, .wait .block, .next 0]
  lines := [1, 2, 3]

/-- An instance waits within a loop of a script that was read. -/
theorem within_blockLoop :
    (Script.parse "Loop" "Repeat 2\nWait block\nNext" {}).value.1 = .ok blockLoop ∧
    blockLoop.IsSound ∧
    ∃ self, (Roster.outcomes {} Roster.smallRig
        [.install ⟨[blockLoop]⟩, .run (Roster.touch 0 7 false) Roster.smallRig]).1.active = [self] ∧
      self.pc = some 2 ∧ self.stack.length = 2 ∧ self.IsWithin := by
  obtain ⟨sound, loads, within⟩ := sound_and_within {} Roster.smallRig
    [.install ⟨[blockLoop]⟩, .run (Roster.touch 0 7 false) Roster.smallRig]
  have reads : (Script.parse "Loop" "Repeat 2\nWait block\nNext" {}).value.1 = .ok blockLoop := by
    decide +kernel
  have isSound := sound _ _ _ _ reads
  obtain ⟨⟨steps, last, moves, isHistory, isLast⟩, everywhere⟩ := within (by
    intro library installs
    rcases List.mem_cons.1 installs with isLibrary | other
    · rw [Operation.install.inj isLibrary]
      exact fun script member => List.mem_singleton.1 member ▸ isSound
    · cases List.mem_singleton.1 other)
  let active := (Roster.outcomes {} Roster.smallRig
    [.install ⟨[blockLoop]⟩, .run (Roster.touch 0 7 false) Roster.smallRig]).1.active
  have atEnd : last.roster.active = active := congrArg (fun state => state.1.active) isLast
  refine ⟨reads, isSound, active.get ⟨0, by decide +kernel⟩, by decide +kernel,
    by decide +kernel, by decide +kernel, everywhere steps last moves isHistory _ ?_⟩
  rw [atEnd]
  exact List.get_mem _ _

end Sessions

end Looper
