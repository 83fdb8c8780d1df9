import Looper.Proofs.Script.Boundary
import Looper.Proofs.Script.Piling

/-!
# Held triggers and click windows

A trigger that is held is counted each time its hold time has passed; how much more had
passed by then is lost, which is less than the block in which it is counted.  A click window
closes once more time than it has is over since it was last pressed.  A label is
notified when the trigger is counted, and another one when the window closes.
-/

namespace Looper

open Roster (Operation)

/-! ## Times that are counted -/

/-- Some times have passed, and whenever so much of them had passed it was counted. -/
structure Counted (holdTime : Nat) (times : List Nat) (count elapsed : Nat) : Prop where
  short : elapsed < holdTime
  atLeast : count * holdTime + elapsed ≤ times.sum
  /-- What is lost is less than the longest time, whenever it was counted. -/
  atMost : ∀ longest, (∀ time ∈ times, time ≤ longest) →
    times.sum ≤ count * holdTime + elapsed + count * (longest - 1)

namespace Counted

variable {holdTime count elapsed : Nat} {times : List Nat}

theorem start (positive : 0 < holdTime) : Counted holdTime [] 0 0 :=
  ⟨positive, by simp, fun _ _ => by simp⟩

theorem wait (counted : Counted holdTime times count elapsed) {time : Nat}
    (short : elapsed + time < holdTime) :
    Counted holdTime (times ++ [time]) count (elapsed + time) := by
  refine ⟨short, ?_, fun longest bounds => ?_⟩
  · have atLeast := counted.atLeast
    rw [List.sum_append, List.sum_singleton]
    omega
  · have atMost := counted.atMost longest fun time earlier =>
      bounds time (List.mem_append_left _ earlier)
    rw [List.sum_append, List.sum_singleton]
    omega

theorem fire (counted : Counted holdTime times count elapsed) {time : Nat}
    (isOver : holdTime ≤ elapsed + time) :
    Counted holdTime (times ++ [time]) (count + 1) 0 := by
  have short := counted.short
  refine ⟨by omega, ?_, fun longest bounds => ?_⟩
  · have atLeast := counted.atLeast
    rw [List.sum_append, List.sum_singleton, Nat.succ_mul]
    omega
  · have atMost := counted.atMost longest fun time earlier =>
      bounds time (List.mem_append_left _ earlier)
    have here := bounds time (List.mem_append_right _ (List.mem_singleton_self time))
    rw [List.sum_append, List.sum_singleton, Nat.succ_mul, Nat.succ_mul]
    omega

/-- The count tells how much time has passed, up to what is lost. -/
theorem bounds (counted : Counted holdTime times count elapsed) :
    count * holdTime ≤ times.sum ∧ ∀ longest, (∀ time ∈ times, time ≤ longest) →
      times.sum < (count + 1) * holdTime + count * (longest - 1) := by
  have short := counted.short
  refine ⟨Nat.le_trans (Nat.le_add_right _ _) counted.atLeast, fun longest bounds => ?_⟩
  have atMost := counted.atMost longest bounds
  rw [Nat.succ_mul]
  omega

end Counted

/-! ## Notifications -/

theorem Script.IsSound.kind_eq {script : Script} (sound : script.IsSound)
    {kind other : LabelKind} {label : Nat} (slot : script.labels.get? kind = some label)
    (same : script.labels.get? other = some label) : kind = other := by
  obtain ⟨name, isKind⟩ := sound.labels kind label slot
  obtain ⟨otherName, isOther⟩ := sound.labels other label same
  injection isKind.symm.trans isOther with isSame
  exact (Statement.label.inj isSame).2

namespace ScriptInstance

/-- How long a trigger is held until it is counted: at least a millisecond. -/
def holdTime (config : ScriptConfig) (self : ScriptInstance) : Nat :=
  max (self.script.sustainMsec.getD config.longPressMsec) 1

def clickWindow (config : ScriptConfig) (self : ScriptInstance) : Nat :=
  self.script.clickMsec.getD config.doubleClickMsec

/-- An instance has been notified at its label for a purpose, which interrupts what it did. -/
def IsNotifiedAt (kind : LabelKind) (self later : ScriptInstance) : Prop :=
  ∃ label ∈ self.script.labels.get? kind, later.current = self.script ∧
    later.pc = some (label + 1) ∧ later.stack = .label self.current self.pc :: self.stack

instance (kind : LabelKind) (self later : ScriptInstance) :
    Decidable (self.IsNotifiedAt kind later) :=
  inferInstanceAs (Decidable (∃ label ∈ self.script.labels.get? kind, _))

variable {self later : ScriptInstance}

theorem IsNotifiedAt.length_stack {kind : LabelKind} (notified : self.IsNotifiedAt kind later) :
    later.stack.length = self.stack.length + 1 := by
  obtain ⟨label, -, -, -, stack⟩ := notified
  rw [stack, List.length_cons]

theorem not_isNotifiedAt_of_length (shorter : later.stack.length ≤ self.stack.length)
    (kind : LabelKind) : ¬ self.IsNotifiedAt kind later := by
  intro notified
  have higher := notified.length_stack
  omega

theorem isNotifiedAt_notify (sound : self.script.IsSound) {kind other : LabelKind} {label : Nat}
    (slot : self.script.labels.get? other = some label) :
    self.IsNotifiedAt kind (self.notify label) ↔ kind = other := by
  constructor
  · rintro ⟨place, isPlace, -, isLabel, -⟩
    rw [Nat.succ.inj (Option.some.inj isLabel)] at slot
    exact sound.kind_eq isPlace slot
  · rintro rfl
    exact ⟨label, slot, rfl, rfl, rfl⟩

/-- What has become of the timers meanwhile does not matter for a notification. -/
theorem isNotifiedAt_notifyKind {changed : ScriptInstance} (sound : self.script.IsSound)
    (script : changed.script = self.script) (current : changed.current = self.current)
    (pc : changed.pc = self.pc) (stack : changed.stack = self.stack) (kind other : LabelKind) :
    self.IsNotifiedAt kind (changed.notifyKind other).2 ↔
      kind = other ∧ (self.script.labels.get? other).isSome = true := by
  unfold notifyKind
  rw [script]
  cases slot : self.script.labels.get? other with
  | none =>
      simp only [Option.isSome_none, Bool.false_eq_true, and_false, iff_false]
      exact not_isNotifiedAt_of_length (Nat.le_of_eq (congrArg List.length stack)) kind
  | some label =>
      have same : self.IsNotifiedAt kind (changed.notify label) ↔
          self.IsNotifiedAt kind (self.notify label) := by
        unfold IsNotifiedAt notify
        rw [script, current, pc, stack]
      simp only [Option.isSome_some, and_true]
      exact same.trans (isNotifiedAt_notify sound slot)

/-! ## Timers -/

/-- Time counts for a trigger while it is held, and makes it counted when there is enough. -/
theorem advanceSustain_cases (self : ScriptInstance) (msec : Nat) (config : ScriptConfig) :
    let elapsed := (self.sustainElapsed + msec) % Text.wordSize
    let later := (self.advanceSustain msec config.longPressMsec).2
    self.sustaining = false ∧ later = self ∨
      self.sustaining = true ∧
        (elapsed < self.holdTime config ∧ later = { self with sustainElapsed := elapsed } ∨
          self.holdTime config ≤ elapsed ∧
            later = ({ self with
              sustainElapsed := 0, sustainCount := self.sustainCount + 1 }.notifyKind
                .sustain).2) := by
  unfold advanceSustain holdTime
  cases self.sustaining with
  | false => exact .inl ⟨rfl, rfl⟩
  | true =>
      refine .inr ⟨rfl, ?_⟩
      simp only [Bool.not_true, Bool.false_eq_true, if_false]
      split
      · next short => exact .inl ⟨short, rfl⟩
      · next isOver => exact .inr ⟨Nat.le_of_not_lt isOver, rfl⟩

/-- Time counts for a click window while it is open, and closes it when there is too much. -/
theorem advanceClick_cases (self : ScriptInstance) (msec : Nat) (config : ScriptConfig) :
    let elapsed := (self.clickElapsed + msec) % Text.wordSize
    let later := (self.advanceClick msec config.doubleClickMsec).2
    self.clicking = false ∧ later = self ∨
      self.clicking = true ∧
        (elapsed ≤ self.clickWindow config ∧ later = { self with clickElapsed := elapsed } ∨
          self.clickWindow config < elapsed ∧
            later = ({ self with clickElapsed := elapsed, clicking := false }.notifyKind
              .endClick).2) := by
  unfold advanceClick clickWindow
  cases self.clicking with
  | false => exact .inl ⟨rfl, rfl⟩
  | true =>
      refine .inr ⟨rfl, ?_⟩
      simp only [Bool.not_true, Bool.false_eq_true, if_false]
      split
      · next within => exact .inl ⟨within, rfl⟩
      · next isOver => exact .inr ⟨Nat.lt_of_not_le isOver, rfl⟩

/-- Being told of a completion leaves the timers alone, and puts nothing on the stack. -/
theorem steady_hear (self : ScriptInstance) (completion : Completion) :
    (self.hear completion).steady = self.steady ∧
      (self.hear completion).stack.length = self.stack.length := by
  have frames := congrArg Position.frames (self.position_hear completion)
  change (self.hear completion).stack = self.stack.map _ at frames
  refine ⟨?_, by rw [frames, List.length_map]⟩
  cases completion with
  | event event => rw [hear, finishEvent_eq]; rfl
  | function symbol => rfl
  | kernel event returnCode => rw [hear, finishKernel_eq]; rfl
  | block block => rfl

theorem steady_hearAll (self : ScriptInstance) (completions : List Completion) :
    (self.hearAll completions).steady = self.steady ∧
      (self.hearAll completions).stack.length = self.stack.length := by
  induction completions generalizing self with
  | nil => exact ⟨rfl, rfl⟩
  | cons first rest ih =>
      obtain ⟨steady, length⟩ := ih (self.hear first)
      obtain ⟨firstSteady, firstLength⟩ := self.steady_hear first
      exact ⟨steady.trans firstSteady, length.trans firstLength⟩

end ScriptInstance

namespace Run

variable {ε : Type} [Engine ε]

/-- Statements that do not end anything take nothing off the stack but a label's own frame. -/
theorem Effect.stack {run : Run ε} {index : Nat} {statement : Statement} {flow : Flow}
    {later : Run ε} (effect : run.Effect index statement flow later)
    (goesOn : statement.isEnd = false) :
    later.self.stack.length ≤ run.self.stack.length ∨
      ∃ frame, frame.isLabel = false ∧ later.self.stack = frame :: run.self.stack := by
  cases effect with
  | resumed top =>
      left
      rw [top]
      exact Nat.le_succ _
  | procCalled room | scriptCalled room found | warped | repeated isCount some | tracked some
  | scheduled read schedules | waited begins atOnce | asked requested answered =>
      exact .inr ⟨_, rfl, rfl⟩
  | returned | warpOver | procUnopened | nextPassed | nextRound | lastRound | nextTrack | lastTrack
  | finished => cases goesOn
  | _ => exact .inl (Nat.le_refl _)

/-- An instance is not notified by a step of its own. -/
theorem Due.not_isNotifiedAt {run later : Run ε} {statement : Option Statement}
    (due : run.Due statement later) (kind : LabelKind) :
    ¬ run.self.IsNotifiedAt kind later.self := by
  refine fun notified => ?_
  have higher := notified.length_stack
  cases due with
  | wake wakes =>
      have lower := length_stack_wake wakes
      omega
  | endLevel free past opened =>
      have lower := run.self.length_endLevel_lt opened
      change run.self.endLevel.stack.length = _ at higher
      omega
  | finish past closed goesOn => exact absurd higher (Nat.ne_of_lt (Nat.lt_succ_self _))
  | @evaluate index statement free stands =>
      cases goesOn : statement.isEnd with
      | false =>
          have follows : ((run.evaluate index statement).value.2.follow index
              (run.evaluate index statement).value.1).self.stack =
                (run.evaluate index statement).value.2.self.stack := by
            have flow := (run.effect_evaluate index statement).goesOn goesOn
            generalize (run.evaluate index statement).value.1 = flows at flow
            cases flows with
            | finish => exact absurd rfl flow
            | _ => rfl
          rw [follows] at higher
          rcases (run.effect_evaluate index statement).stack goesOn with
            lower | ⟨frame, unlabelled, pushed⟩
          · omega
          · obtain ⟨label, -, -, -, stack⟩ := notified
            rw [follows, pushed] at stack
            rw [(List.cons.inj stack).1] at unlabelled
            cases unlabelled
      | true =>
          have shifts := (Due.evaluate free stands).shifts
          generalize ((run.evaluate index statement).value.2.follow index
            (run.evaluate index statement).value.1).self = next at shifts higher
          cases shifts with
          | grow endsNothing grows =>
              rw [goesOn] at endsNothing
              cases endsNothing
          | pass elsewhere => exact absurd higher (Nat.ne_of_lt (Nat.lt_succ_self _))
          | round top again =>
              rw [top] at higher
              exact absurd higher (Nat.ne_of_lt (Nat.lt_succ_self _))
          | @take frame rest _ top ends =>
              rw [top, List.length_cons] at higher
              change rest.length = _ at higher
              omega
          | leave ends =>
              have lower := run.self.length_unwind_le run.self.stack
              change run.self.endLevel.stack.length = _ at higher
              unfold ScriptInstance.endLevel at higher
              omega

end Run

end Looper
