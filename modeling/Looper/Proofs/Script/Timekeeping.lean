import Looper.Proofs.Script.Bounding
import Looper.Proofs.Script.Clicking
import Looper.Proofs.Script.Ticking

/-!
# Held triggers and click windows keep time

A block that begins is due for everyone who is running, and counts in the turn for which it
is due.  So at every stage the counters of an instance go with the blocks since its launch,
or since it was last pressed, but for those that are still due; in between operations
nothing is due.  This holds as long as the counters have room for the times of the blocks.
-/

namespace Looper

open Roster (Operation)

variable {ε : Type} [Engine ε]

/-! ## Who is running in a session -/

namespace Proceedings

variable {config : ScriptConfig} {rig : Rig ε} {acts : List (Stage ε × Act ε)}
  {first before last : Stage ε}

theorem timely (proceedings : Proceedings first acts last) (ordered : first.IsOrdered)
    (timely : first.IsTimely) : last.IsTimely := by
  induction proceedings with
  | nil => exact timely
  | snoc earlier proceeds ih => exact proceeds.timely (Proceedings.ordered earlier ordered) ih

theorem config_eq (proceedings : Proceedings (.start config rig) acts last) :
    last.config = config := by
  induction proceedings with
  | nil => rfl
  | snoc _ proceeds ih => exact proceeds.lasting.1.trans ih

theorem library (proceedings : Proceedings (.start config rig) acts last)
    (installs : ∀ library, .install library ∈ opened acts → library.IsSound) :
    last.moment.roster.shared.library.IsSound := by
  induction proceedings with
  | nil => exact fun _ member => absurd member List.not_mem_nil
  | snoc _ proceeds ih =>
      rw [opened_append] at installs
      rcases proceeds.lasting.2.2 with same | ⟨library, rfl, isInstalled⟩
      · rw [same]
        exact ih fun library installed => installs library (List.mem_append_left _ installed)
      · rw [isInstalled]
        exact installs library (List.mem_append_right _ List.mem_cons_self)

/-- No instance had a number yet that is to be given out next. -/
theorem known (proceedings : Proceedings first acts last) (numbered : first.moment.IsNumbered) :
    ∀ passage ∈ acts, ∀ self ∈ passage.1.moment.roster.active,
      self.id ≤ last.moment.roster.lastId := by
  induction proceedings with
  | nil => exact fun _ member => absurd member List.not_mem_nil
  | @snoc acts before after act earlier proceeds ih =>
      intro passage member self there
      refine Nat.le_trans ?_ proceeds.lasting.2.1
      rcases List.mem_append.1 member with inFront | isLast
      · exact ih passage inFront self there
      · cases List.mem_singleton.1 isLast
        exact (Proceedings.numbered earlier numbered).launched self there

theorem unknown (proceedings : Proceedings (.start config rig) acts before) (act : Act ε)
    (script : Script) (action : Action) :
    ∀ passage ∈ acts ++ [(before, act)], ∀ self ∈ passage.1.moment.roster.active,
      self.id ≠ (before.moment.roster.launched script action).id := by
  intro passage member self there
  rw [(before.moment.roster.launched_eq script action).1]
  refine Nat.ne_of_lt (Nat.lt_succ_of_le ?_)
  have numbered := Moment.numbered_start config rig
  rcases List.mem_append.1 member with inFront | isLast
  · exact proceedings.known numbered passage inFront self there
  · cases List.mem_singleton.1 isLast
    exact (proceedings.numbered numbered).launched self there

theorem due_carryOut (proceedings : Proceedings (.start config rig) acts before)
    {request : ScriptRequest} {after : Stage ε}
    (proceeds : Proceeds before (.carryOut request) after) (part : TurnPart) (id : InstanceId) :
    dueTimes part id after.agenda = [] := by
  have timely := proceedings.timely .nil (fun none => absurd rfl none)
  refine dueTimes_eq_nil ?_ part id
  cases proceeds with
  | launch front => exact timely (front ▸ List.cons_ne_nil _ _)
  | cancel front => exact timely (front ▸ List.cons_ne_nil _ _)

/--
What holds of an instance when it is launched, and is kept by whatever treats it, holds of
everyone who is running.
-/
theorem induction_active (proceedings : Proceedings (.start config rig) acts last)
    (holds : List (Stage ε × Act ε) → Stage ε → ScriptInstance → Prop)
    (launches : ∀ {acts : List (Stage ε × Act ε)} {before after : Stage ε} {action : Action}
      {script : Script}, Proceedings (.start config rig) acts before →
      Proceeds before (.carryOut (.launch action)) after →
      script ∈ before.moment.roster.shared.library.scripts →
      holds (acts ++ [(before, .carryOut (.launch action))]) after
        (before.moment.roster.launched script action))
    (treats : ∀ {acts : List (Stage ε × Act ε)} {before after : Stage ε} {act : Act ε}
      {self changed later : ScriptInstance} {purpose : Option LabelKind},
      Proceedings (.start config rig) acts before → Proceeds before act after →
      self ∈ before.moment.roster.active → later ∈ after.moment.roster.active →
      later.id = self.id → before.Treats self act changed purpose later →
      holds acts before self → holds (acts ++ [(before, act)]) after later) :
    ∀ self ∈ last.moment.roster.active, holds acts last self := by
  induction proceedings with
  | nil => exact fun _ member => absurd member List.not_mem_nil
  | @snoc acts before after act earlier proceeds ih =>
      intro later member
      have numbered := Proceedings.numbered earlier (Moment.numbered_start config rig)
      rcases proceeds.treats numbered member with
        ⟨self, there, same, changed, purpose, isTreated⟩ | ⟨action, rfl, script, loaded, rfl⟩
      · exact treats earlier proceeds there member same isTreated (ih self there)
      · exact launches earlier proceeds loaded

end Proceedings

/-! ## Counters -/

/-- The counters of an instance have room for the time of every block that begins. -/
def CountersHold (id : InstanceId) (acts : List (Stage ε × Act ε)) : Prop :=
  ∀ passage ∈ acts, ∀ time ∈ passage.2.time?, ∀ self ∈ passage.1.moment.roster.active,
    self.id = id →
    (self.sustaining = true → self.sustainElapsed + time < Text.wordSize) ∧
      (self.clicking = true → self.clickElapsed + time < Text.wordSize)

/-- Those times that are not due have passed, and a counter has room for those that are. -/
def InStep (times due : List Nat) (elapsed : Nat) (pass : List Nat → Prop) : Prop :=
  ∃ passed, times = passed ++ due ∧ pass passed ∧ elapsed + due.sum < Text.wordSize

namespace InStep

variable {times due : List Nat} {elapsed msec : Nat} {pass : List Nat → Prop}

theorem start (passes : pass []) : InStep [] [] 0 pass :=
  ⟨[], rfl, passes, by decide⟩

theorem begin (inStep : InStep times due elapsed pass) {time : Option Nat}
    (fits : ∀ msec ∈ time, due = [] ∧ elapsed + msec < Text.wordSize) :
    InStep (times ++ time.toList) (due ++ time.toList) elapsed pass := by
  obtain ⟨passed, rfl, passes, room⟩ := inStep
  refine ⟨passed, List.append_assoc _ _ _, passes, ?_⟩
  cases time with
  | none => rwa [Option.toList_none, List.append_nil]
  | some msec =>
      obtain ⟨rfl, fits⟩ := fits msec rfl
      simpa using fits

theorem fits (inStep : InStep times (msec :: due) elapsed pass) :
    (elapsed + msec) % Text.wordSize = elapsed + msec := by
  obtain ⟨passed, -, -, room⟩ := inStep
  rw [List.sum_cons] at room
  exact Nat.mod_eq_of_lt (by omega)

theorem turn (inStep : InStep times (msec :: due) elapsed pass) {later : Nat}
    {passNext : List Nat → Prop} (passes : ∀ passed, pass passed → passNext (passed ++ [msec]))
    (le : later ≤ elapsed + msec) : InStep times due later passNext := by
  obtain ⟨passed, rfl, passed_pass, room⟩ := inStep
  rw [List.sum_cons] at room
  refine ⟨passed ++ [msec], by simp, passes passed passed_pass, by omega⟩

end InStep

omit [Engine ε] in
theorem Act.msec?_eq {act : Act ε} (fits : ∀ time ∈ act.time?, time < Text.wordSize) :
    act.msec? = act.time? := by
  cases act with
  | begin operation =>
      cases operation with
      | maintain frames rate rig => exact congrArg some (blockMsec_eq (fits _ rfl))
      | _ => rfl
  | _ => rfl

namespace Proceeds

variable {before after : Stage ε} {self : ScriptInstance} {isOne : ScriptInstance → Bool}
  {acts : List (Stage ε × Act ε)} {part : TurnPart} {elapsed : Nat} {pass : List Nat → Prop}

/-- But for the turn of a counter, a block that begins is all that matters for it. -/
theorem inStep_other {act : Act ε} (proceeds : Proceeds before act after)
    (numbered : after.moment.IsNumbered) (member : self ∈ before.moment.roster.active)
    (isSelf : isOne self = true)
    (running : ∃ later ∈ after.moment.roster.active, later.id = self.id)
    (elsewhere : act ≠ .turn self.id part)
    (room : ∀ time ∈ act.time?, elapsed + time < Text.wordSize)
    (inStep : InStep (blockTimes isOne acts) (dueTimes part self.id before.agenda) elapsed pass) :
    InStep (blockTimes isOne (acts ++ [(before, act)])) (dueTimes part self.id after.agenda)
      elapsed pass := by
  have counts : act.msec? = act.time? :=
    Act.msec?_eq fun time lasts => Nat.lt_of_le_of_lt (Nat.le_add_left _ _) (room time lasts)
  have stays : self.id ∈ after.moment.roster.active.map ScriptInstance.id := by
    obtain ⟨later, there, same⟩ := running
    exact same ▸ List.mem_map_of_mem there
  rw [blockTimes_snoc isOne acts member isSelf act, proceeds.due_other numbered elsewhere,
    if_pos stays, counts]
  exact inStep.begin fun time lasts =>
    ⟨by rw [proceeds.agenda_of_time lasts]; rfl, room time lasts⟩

/-- In the turn of a counter the time that is due next is to pass. -/
theorem inStep_turn (proceeds : Proceeds before (.turn self.id part) after)
    (member : self ∈ before.moment.roster.active) (isSelf : isOne self = true) {msec : Nat}
    {rest : List Task} (next : before.agenda = .turn msec self.id part :: rest)
    (inStep : InStep (blockTimes isOne acts) (dueTimes part self.id before.agenda) elapsed pass) :
    InStep (blockTimes isOne (acts ++ [(before, .turn self.id part)]))
      (msec :: dueTimes part self.id after.agenda) elapsed pass := by
  rw [proceeds.due_turn next] at inStep
  rw [blockTimes_snoc isOne acts member isSelf,
    show (Act.turn self.id part : Act ε).time? = none from rfl, Option.toList_none,
    List.append_nil]
  exact inStep

end Proceeds

namespace ScriptInstance

def heldTimes (self : ScriptInstance) (acts : List (Stage ε × Act ε)) : List Nat :=
  blockTimes (fun other => other.id == self.id) acts

def windowTimes (self : ScriptInstance) (acts : List (Stage ε × Act ε)) : List Nat :=
  blockTimes (fun other => other.id == self.id && other.clickCount == self.clickCount) acts

/-- While its trigger is held, the count and the counter of an instance go with the blocks. -/
def IsHeldInStep (acts : List (Stage ε × Act ε)) (stage : Stage ε) (self : ScriptInstance) : Prop :=
  self.sustaining = true →
    InStep (self.heldTimes acts) (dueTimes .held self.id stage.agenda) self.sustainElapsed
      fun passed => Counted (self.holdTime stage.config) passed self.sustainCount
        self.sustainElapsed

end ScriptInstance

open ScriptInstance

omit [Engine ε] in
theorem timers_launched (roster : Roster) (script : Script) (action : Action) :
    let self := roster.launched script action
    self.sustainElapsed = 0 ∧ self.sustainCount = 0 ∧ self.clickElapsed = 0 := by
  unfold Roster.launched
  split <;> exact ⟨rfl, rfl, rfl⟩

theorem Proceedings.isHeldInStep {config : ScriptConfig} {rig : Rig ε}
    {acts : List (Stage ε × Act ε)} {last : Stage ε}
    (proceedings : Proceedings (.start config rig) acts last) :
    ∀ self ∈ last.moment.roster.active, CountersHold self.id acts →
      self.IsHeldInStep acts last := by
  refine proceedings.induction_active
    (fun acts stage self => CountersHold self.id acts → self.IsHeldInStep acts stage) ?_ ?_
  · intro acts before after action script earlier proceeds loaded _ _
    have none : (before.moment.roster.launched script action).heldTimes
        (acts ++ [(before, .carryOut (.launch action))]) = [] :=
      blockTimes_eq_nil fun passage member self there =>
        beq_eq_false_iff_ne.2 (earlier.unknown _ script action passage member self there)
    obtain ⟨elapsed, count, -⟩ := timers_launched before.moment.roster script action
    rw [none, earlier.due_carryOut proceeds, elapsed, count]
    exact .start (.start (Nat.le_max_right _ _))
  · intro acts before after act self changed later purpose earlier proceeds member there same
      treats ih counters
    rw [same] at counters
    have numbered := Proceedings.numbered (earlier.snoc proceeds) (Moment.numbered_start config rig)
    have inStep := ih fun passage inFront => counters passage (List.mem_append_left _ inFront)
    have room := counters (before, act) (by simp)
    -- Only a turn of its own moves the counter; all else leaves it in step.
    have passes (elsewhere : act ≠ .turn self.id .held) :
        self.IsHeldInStep (acts ++ [(before, act)]) after := by
      intro held
      rw [ScriptInstance.holdTime, proceeds.lasting.1]
      exact proceeds.inStep_other numbered member (beq_self_eq_true self.id)
        ⟨later, there, same⟩ elsewhere
        (fun time lasts => (room time lasts self member rfl).1 held) (inStep held)
    rw [read_of_steady (IsHeldInStep (acts ++ [(before, act)]) after) (fun _ => rfl) treats.steady]
    have changes := treats.changes
    cases changes with
    | @holds msec _ next held short =>
        intro _
        have turn := proceeds.inStep_turn member (beq_self_eq_true self.id) next (inStep held)
        rw [turn.fits] at short
        refine turn.turn (fun passed counted => ?_) (Nat.le_of_eq turn.fits)
        change Counted (self.holdTime after.config) _ self.sustainCount
          ((self.sustainElapsed + msec) % Text.wordSize)
        rw [turn.fits, proceeds.lasting.1]
        exact counted.wait short
    | counts next held isOver =>
        intro _
        have turn := proceeds.inStep_turn member (beq_self_eq_true self.id) next (inStep held)
        rw [turn.fits] at isOver
        rw [proceeds.lasting.1]
        exact turn.turn (fun passed counted => counted.fire isOver) (Nat.zero_le _)
    | opens next opened within => exact passes nofun
    | closes next opened isOver => exact passes nofun
    | released => exact nofun
    | clicked opened => exact passes nofun
    | reentered => exact passes nofun
    | stopped concerned => exact nofun
    | kept unheld unclicked spared =>
        intro held
        refine passes (fun isTurn => ?_) held
        rw [unheld isTurn] at held
        cases held

/-! ## Click windows -/

namespace ScriptInstance

/-- Whether an instance is launched with its click window open. -/
def hasWindow (self : ScriptInstance) : Bool :=
  self.script.multiclick && self.triggerId != 0

/-- An instance has not been clicked more often in some acts than by now. -/
def CountsClicks (acts : List (Stage ε × Act ε)) (self : ScriptInstance) : Prop :=
  ∀ passage ∈ acts, ∀ other ∈ passage.1.moment.roster.active, other.id = self.id →
    other.clickCount ≤ self.clickCount

/-- Only an instance that has a window, and has not been stopped, can be clicked. -/
def IsOpenedOnce (acts : List (Stage ε × Act ε)) (self : ScriptInstance) : Prop :=
  self.clicking = true →
    self.hasWindow = true ∧ ∀ passage ∈ acts, ¬ Stops self.id passage

/-- While its window is open, the counter of an instance goes with the blocks. -/
def IsOpenInStep (acts : List (Stage ε × Act ε)) (stage : Stage ε) (self : ScriptInstance) : Prop :=
  self.clicking = true →
    InStep (self.windowTimes acts) (dueTimes .clicking self.id stage.agenda) self.clickElapsed
      fun passed => passed.sum = self.clickElapsed ∧
        self.clickElapsed ≤ self.clickWindow stage.config

/-- A window that is not open any more, of an instance that was not stopped, is over. -/
def IsClosedInTime (acts : List (Stage ε × Act ε)) (stage : Stage ε) (self : ScriptInstance) :
    Prop :=
  self.clicking = false → self.hasWindow = true → (∀ passage ∈ acts, ¬ Stops self.id passage) →
    self.clickWindow stage.config < (self.windowTimes acts).sum

end ScriptInstance

namespace Stage.Changes

variable {stage : Stage ε} {self changed : ScriptInstance} {act : Act ε}
  {purpose : Option LabelKind}

omit [Engine ε]

theorem same (changes : stage.Changes self act changed purpose) :
    changed.id = self.id ∧ changed.script = self.script ∧
      changed.hasWindow = self.hasWindow := by
  cases changes <;> exact ⟨rfl, rfl, rfl⟩

theorem clickCount_le (changes : stage.Changes self act changed purpose) :
    self.clickCount ≤ changed.clickCount := by
  cases changes with
  | clicked opened => exact Nat.le_succ _
  | _ => exact Nat.le_refl _

/-- A window that is open was open before, and its instance is not being stopped. -/
theorem window (changes : stage.Changes self act changed purpose)
    (numbered : stage.moment.IsNumbered) (member : self ∈ stage.moment.roster.active)
    (opened : changed.clicking = true) :
    self.clicking = true ∧ ¬ Stops self.id (stage, act) := by
  have spares (goesOn : ∀ author track, act = .carryOut (.cancel author track) →
      Roster.isCancelled author track self = false) : ¬ Stops self.id (stage, act) := by
    rintro ⟨author, track, isCancel, other, there, same, concerned⟩
    rw [numbered.unique there member same, goesOn author track isCancel] at concerned
    cases concerned
  cases changes with
  | closes next wasOpen isOver => cases opened
  | stopped concerned => cases opened
  | kept unheld unclicked spared => exact ⟨opened, spares spared⟩
  | _ => exact ⟨opened, spares nofun⟩

end Stage.Changes

namespace Proceedings

variable {config : ScriptConfig} {rig : Rig ε} {acts : List (Stage ε × Act ε)}
  {before last : Stage ε}

theorem countsClicks (proceedings : Proceedings (.start config rig) acts last) :
    ∀ self ∈ last.moment.roster.active, ∀ act, self.CountsClicks (acts ++ [(last, act)]) := by
  have here {acts : List (Stage ε × Act ε)} {last : Stage ε}
      (proceedings : Proceedings (.start config rig) acts last) {self : ScriptInstance}
      (member : self ∈ last.moment.roster.active) (counts : self.CountsClicks acts) (act : Act ε) :
      self.CountsClicks (acts ++ [(last, act)]) := by
    intro passage inActs other isOther same
    rcases List.mem_append.1 inActs with inFront | isLast
    · exact counts passage inFront other isOther same
    · cases List.mem_singleton.1 isLast
      have numbered := proceedings.numbered (Moment.numbered_start config rig)
      rw [numbered.unique isOther member same]
  intro self member
  refine here proceedings member ?_
  refine proceedings.induction_active (fun acts _ self => self.CountsClicks acts) ?_ ?_ self member
  · intro acts before after action script earlier proceeds loaded passage inActs other there same
    exact absurd same (earlier.unknown _ script action passage inActs other there)
  · intro acts before after act self changed later purpose earlier proceeds member there same
      treats counts passage inActs other isOther isSelf
    rw [read_of_steady ScriptInstance.clickCount (fun _ => rfl) treats.steady]
    exact Nat.le_trans (here earlier member counts act passage inActs other isOther
      (isSelf.trans same)) treats.changes.clickCount_le

theorem isOpenedOnce (proceedings : Proceedings (.start config rig) acts last) :
    ∀ self ∈ last.moment.roster.active, self.IsOpenedOnce acts := by
  refine proceedings.induction_active (fun acts _ self => self.IsOpenedOnce acts) ?_ ?_
  · intro acts before after action script earlier proceeds loaded opened
    obtain ⟨-, isScript, isTrigger, -, -⟩ := before.moment.roster.launched_eq script action
    rw [Roster.clicking_launched, ← isTrigger] at opened
    refine ⟨?_, ?_⟩
    · rw [ScriptInstance.hasWindow, isScript]
      exact opened
    · rintro passage inActs ⟨_, _, _, other, there, same, -⟩
      exact earlier.unknown _ script action passage inActs other there same
  · intro acts before after act self changed later purpose earlier proceeds member there same
      treats opensOnce
    rw [read_of_steady (IsOpenedOnce (acts ++ [(before, act)])) (fun _ => rfl) treats.steady]
    intro opened
    have numbered := earlier.numbered (Moment.numbered_start config rig)
    obtain ⟨wasOpen, unstopped⟩ := treats.changes.window numbered member opened
    obtain ⟨sameId, -, sameWindow⟩ := treats.changes.same
    obtain ⟨hasWindow, unstoppedFront⟩ := opensOnce wasOpen
    refine ⟨sameWindow.trans hasWindow, fun passage inActs => ?_⟩
    rw [sameId]
    rcases List.mem_append.1 inActs with inFront | isLast
    · exact unstoppedFront passage inFront
    · cases List.mem_singleton.1 isLast
      exact unstopped

theorem isOpenInStep (proceedings : Proceedings (.start config rig) acts last) :
    ∀ self ∈ last.moment.roster.active, CountersHold self.id acts →
      self.IsOpenInStep acts last ∧ self.IsClosedInTime acts last := by
  refine proceedings.induction_active (fun acts stage self => CountersHold self.id acts →
    self.IsOpenInStep acts stage ∧ self.IsClosedInTime acts stage) ?_ ?_
  · intro acts before after action script earlier proceeds loaded _
    have none : (before.moment.roster.launched script action).windowTimes
        (acts ++ [(before, .carryOut (.launch action))]) = [] := by
      refine blockTimes_eq_nil fun passage member self there => ?_
      rw [beq_eq_false_iff_ne.2 (earlier.unknown _ script action passage member self there),
        Bool.false_and]
    obtain ⟨-, -, elapsed⟩ := timers_launched before.moment.roster script action
    refine ⟨fun _ => ?_, fun closed hasWindow => ?_⟩
    · rw [none, earlier.due_carryOut proceeds, elapsed]
      exact .start ⟨rfl, Nat.zero_le _⟩
    · obtain ⟨-, isScript, isTrigger, -, -⟩ := before.moment.roster.launched_eq script action
      rw [Roster.clicking_launched, ← isTrigger] at closed
      rw [ScriptInstance.hasWindow, isScript, closed] at hasWindow
      cases hasWindow
  · intro acts before after act self changed later purpose earlier proceeds member there same
      treats ih counters
    rw [same] at counters
    have numbered := Proceedings.numbered (earlier.snoc proceeds) (Moment.numbered_start config rig)
    obtain ⟨inStep, inTime⟩ := ih fun passage inFront =>
      counters passage (List.mem_append_left _ inFront)
    have isSelf : (self.id == self.id && self.clickCount == self.clickCount) = true := by simp
    have room := counters (before, act) (by simp)
    have passes (elsewhere : act ≠ .turn self.id .clicking) :
        self.IsOpenInStep (acts ++ [(before, act)]) after := by
      intro opened
      rw [ScriptInstance.clickWindow, proceeds.lasting.1]
      exact proceeds.inStep_other numbered member isSelf ⟨later, there, same⟩ elsewhere
        (fun time lasts => (room time lasts self member rfl).2 opened) (inStep opened)
    have stays : self.IsClosedInTime (acts ++ [(before, act)]) after := by
      intro closed hasWindow unstopped
      have isOver := inTime closed hasWindow fun passage inFront =>
        unstopped passage (List.mem_append_left _ inFront)
      rw [ScriptInstance.windowTimes, blockTimes_snoc _ acts member isSelf, List.sum_append,
        ScriptInstance.clickWindow, proceeds.lasting.1]
      exact Nat.lt_add_right _ isOver
    rw [read_of_steady (IsOpenInStep (acts ++ [(before, act)]) after) (fun _ => rfl) treats.steady,
      read_of_steady (IsClosedInTime (acts ++ [(before, act)]) after) (fun _ => rfl) treats.steady]
    have changes := treats.changes
    cases changes with
    | holds next held short => exact ⟨passes nofun, stays⟩
    | counts next held isOver => exact ⟨passes nofun, stays⟩
    | @opens msec _ next opened within =>
        refine ⟨fun _ => ?_, fun closed => ?_⟩
        · have turn := proceeds.inStep_turn member isSelf next (inStep opened)
          rw [turn.fits] at within
          refine turn.turn (fun passed ⟨sum, _⟩ => ?_) (Nat.le_of_eq turn.fits)
          change _ = (self.clickElapsed + msec) % Text.wordSize ∧
            (self.clickElapsed + msec) % Text.wordSize ≤ self.clickWindow after.config
          rw [turn.fits, List.sum_append, List.sum_singleton, sum, proceeds.lasting.1]
          exact ⟨rfl, within⟩
        · cases opened.symm.trans closed
    | closes next opened isOver =>
        refine ⟨nofun, fun _ _ _ => ?_⟩
        have turn := proceeds.inStep_turn member isSelf next (inStep opened)
        rw [turn.fits] at isOver
        obtain ⟨passed, isTimes, ⟨sum, -⟩, -⟩ := turn
        change self.clickWindow after.config < (blockTimes _ _).sum
        rw [isTimes, List.sum_append, List.sum_cons, proceeds.lasting.1]
        omega
    | released => exact ⟨passes nofun, stays⟩
    | @clicked action opened =>
        refine ⟨fun _ => ?_, fun closed => ?_⟩
        -- No one has been clicked so often yet, so no block counts for the window that starts.
        · have none : { self with
              clickCount := self.clickCount + 1, clickElapsed := 0 }.windowTimes
                (acts ++ [(before, Act.carryOut (.launch action))]) = [] := by
            refine blockTimes_eq_nil fun passage inActs other isOther => ?_
            refine Bool.eq_false_iff.2 fun isSelf => ?_
            rw [Bool.and_eq_true, beq_iff_eq, beq_iff_eq] at isSelf
            have fewer := earlier.countsClicks self member _ passage inActs other isOther isSelf.1
            exact absurd (isSelf.2 ▸ fewer) (Nat.not_succ_le_self _)
          rw [none, earlier.due_carryOut proceeds]
          exact .start ⟨rfl, Nat.zero_le _⟩
        · cases opened.symm.trans closed
    | reentered => exact ⟨passes nofun, stays⟩
    | @stopped author track concerned =>
        refine ⟨nofun, fun _ _ unstopped => ?_⟩
        exact absurd ⟨author, track, rfl, self, member, rfl, concerned⟩
          (unstopped (before, .carryOut (.cancel author track)) (by simp))
    | kept unheld unclicked spared =>
        refine ⟨fun opened => ?_, stays⟩
        refine passes (fun isTurn => ?_) opened
        rw [unclicked isTurn] at opened
        cases opened

end Proceedings

end Looper
