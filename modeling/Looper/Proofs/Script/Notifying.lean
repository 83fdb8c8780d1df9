import Looper.Proofs.Script.Timekeeping
import Mathlib.Data.Bool.Basic

/-!
# Notifications by timers

An instance is notified that its trigger is held as often as that is counted, which is at
most once in a block, and at most once that its click window has closed.  Together with the
times at which timers count this says when the labels of a script are entered.
-/

namespace Looper

open Roster (Operation)
open ScriptInstance (read_of_steady)

/-! ## What is notified between two stages -/

section Notifications

variable {ε : Type}

def Stage.notifies (kind : LabelKind) (id : InstanceId) (before after : Stage ε) : Bool :=
  before.moment.roster.active.any fun self => self.id == id &&
    after.moment.roster.active.any fun later =>
      later.id == id && decide (self.IsNotifiedAt kind later)

/-- How often an instance is notified at its label for a purpose. -/
def notifications (kind : LabelKind) (id : InstanceId) :
    List (Stage ε × Act ε) → Stage ε → Nat
  | [], _ => 0
  | (before, _) :: rest, last =>
      (before.notifies kind id ((rest.head?.map Prod.fst).getD last)).toNat +
        notifications kind id rest last

theorem notifications_snoc (kind : LabelKind) (id : InstanceId) (acts : List (Stage ε × Act ε))
    (before after : Stage ε) (act : Act ε) :
    notifications kind id (acts ++ [(before, act)]) after =
      notifications kind id acts before + (before.notifies kind id after).toNat := by
  induction acts with
  | nil => simp [notifications]
  | cons passage rest ih =>
      have next : (((rest ++ [(before, act)]).head?.map Prod.fst).getD after : Stage ε) =
          (rest.head?.map Prod.fst).getD before := by
        cases rest <;> rfl
      rw [List.cons_append, notifications, notifications, ih, next, Nat.add_assoc]

theorem Stage.notifies_iff {before after : Stage ε} {kind : LabelKind} {id : InstanceId} :
    before.notifies kind id after = true ↔
      ∃ self ∈ before.moment.roster.active, self.id = id ∧
        ∃ later ∈ after.moment.roster.active, later.id = id ∧ self.IsNotifiedAt kind later := by
  simp [Stage.notifies, List.any_eq_true]

/-- Among those who are running, it is told by the numbers who has become of whom. -/
theorem Stage.notifies_eq {before after : Stage ε} (numbered : before.moment.IsNumbered)
    (stillNumbered : after.moment.IsNumbered) {self later : ScriptInstance}
    (member : self ∈ before.moment.roster.active) (there : later ∈ after.moment.roster.active)
    (same : later.id = self.id) (kind : LabelKind) :
    before.notifies kind self.id after = decide (self.IsNotifiedAt kind later) := by
  rw [Bool.eq_iff_iff, Stage.notifies_iff, decide_eq_true_iff]
  constructor
  · rintro ⟨one, isOne, oneId, other, isOther, otherId, notified⟩
    rw [numbered.unique isOne member oneId,
      stillNumbered.unique isOther there (otherId.trans same.symm)] at notified
    exact notified
  · exact fun notified => ⟨self, member, rfl, later, there, same, notified⟩

theorem notifications_eq_zero {acts : List (Stage ε × Act ε)} {id : InstanceId}
    (absent : ∀ passage ∈ acts, ∀ self ∈ passage.1.moment.roster.active, self.id ≠ id)
    (kind : LabelKind) (last : Stage ε) : notifications kind id acts last = 0 := by
  induction acts with
  | nil => rfl
  | cons passage rest ih =>
      rw [notifications, ih fun passage member => absent passage (List.mem_cons_of_mem _ member)]
      have unnotified : ∀ next, passage.1.notifies kind id next = false := by
        refine fun next => Bool.eq_false_iff.2 fun notified => ?_
        obtain ⟨self, there, isSelf, -⟩ := Stage.notifies_iff.1 notified
        exact absent passage List.mem_cons_self self there isSelf
      rw [unnotified]
      rfl

end Notifications

namespace Stage.Changes

variable {ε : Type} {stage : Stage ε} {self changed : ScriptInstance} {act : Act ε}
  {purpose : Option LabelKind}

theorem sustainCount_eq (changes : stage.Changes self act changed purpose) :
    changed.sustainCount = self.sustainCount + (decide (purpose = some .sustain)).toNat := by
  cases changes <;> rfl

/-- The label for the end of a window is notified when it closes. -/
theorem clicking_le (changes : stage.Changes self act changed purpose) :
    (decide (purpose = some .endClick)).toNat + changed.clicking.toNat ≤ self.clicking.toNat := by
  cases changes with
  | closes next opened isOver => rw [opened]; exact Nat.le_refl _
  | stopped concerned => exact Nat.zero_le _
  | _ => exact Nat.le_of_eq (Nat.zero_add _)

/-- But for being stopped, a window closes in no other way. -/
theorem clicking_eq (changes : stage.Changes self act changed purpose)
    (member : self ∈ stage.moment.roster.active) (unstopped : ¬ Stops self.id (stage, act)) :
    (decide (purpose = some .endClick)).toNat + changed.clicking.toNat = self.clicking.toNat := by
  cases changes with
  | closes next opened isOver => rw [opened]; rfl
  | stopped concerned =>
      exact absurd ⟨_, _, rfl, self, member, rfl, concerned⟩ unstopped
  | _ => exact Nat.zero_add _

/-- The label for a held trigger is notified in a turn that is due for that. -/
theorem turn_of_sustain (changes : stage.Changes self act changed (some .sustain)) :
    act = .turn self.id .held ∧
      ∃ msec rest, stage.agenda = .turn msec self.id .held :: rest := by
  cases changes with
  | counts next held isOver => exact ⟨rfl, _, _, next⟩

end Stage.Changes

variable {ε : Type} [Engine ε]

namespace Proceedings

variable {config : ScriptConfig} {rig : Rig ε} {acts : List (Stage ε × Act ε)} {last : Stage ε}

/-- Whoever is running has a sound script if only sound scripts were installed. -/
theorem sound (proceedings : Proceedings (.start config rig) acts last)
    (installs : ∀ library, .install library ∈ opened acts → library.IsSound) :
    ∀ self ∈ last.moment.roster.active, self.script.IsSound := by
  intro self member
  refine proceedings.induction_active (fun acts _ self =>
    (∀ library, .install library ∈ opened acts → library.IsSound) → self.script.IsSound) ?_ ?_
    self member installs
  · intro acts before after action script earlier proceeds loaded installs
    rw [opened_append] at installs
    rw [(before.moment.roster.launched_eq script action).2.1]
    exact earlier.library (fun library installed =>
      installs library (List.mem_append_left _ installed)) script loaded
  · intro acts before after act self changed later purpose earlier proceeds member there same
      treats ih installs
    rw [opened_append] at installs
    rw [read_of_steady ScriptInstance.script (fun _ => rfl) treats.steady, treats.changes.same.2.1]
    exact ih fun library installed => installs library (List.mem_append_left _ installed)

/-- What an instance is treated by is all that it is notified of. -/
theorem notifications_treated {before after : Stage ε} {act : Act ε}
    {self changed later : ScriptInstance} {purpose : Option LabelKind}
    (earlier : Proceedings (.start config rig) acts before) (proceeds : Proceeds before act after)
    (sound : self.script.IsSound) (member : self ∈ before.moment.roster.active)
    (there : later ∈ after.moment.roster.active) (same : later.id = self.id)
    (treats : before.Treats self act changed purpose later) (kind : LabelKind) :
    notifications kind later.id (acts ++ [(before, act)]) after =
      notifications kind self.id acts before +
        (decide (purpose = some kind ∧ (self.script.labels.get? kind).isSome = true)).toNat := by
  have numbered := Moment.numbered_start config rig
  rw [same, notifications_snoc, Stage.notifies_eq (earlier.numbered numbered)
    (Proceedings.numbered (earlier.snoc proceeds) numbered) member there same,
    decide_eq_decide.2 (treats.notified sound kind)]

/--
What holds of an instance that is launched, and is not notified then, and is kept by
whatever treats and notifies it, holds of everyone who is running.
-/
theorem induction_notified (proceedings : Proceedings (.start config rig) acts last)
    (installs : ∀ library, .install library ∈ opened acts → library.IsSound) (kind : LabelKind)
    (holds : List (Stage ε × Act ε) → ScriptInstance → Nat → Prop)
    (launches : ∀ (acts : List (Stage ε × Act ε)) (roster : Roster) (script : Script)
      (action : Action),
      (∀ passage ∈ acts, ∀ self ∈ passage.1.moment.roster.active,
        self.id ≠ (roster.launched script action).id) →
      holds acts (roster.launched script action) 0)
    (treats : ∀ {acts : List (Stage ε × Act ε)} {before : Stage ε} {act : Act ε}
      {self changed later : ScriptInstance} {purpose : Option LabelKind} {count : Nat},
      self ∈ before.moment.roster.active → later.id = self.id →
      before.Treats self act changed purpose later → holds acts self count →
      holds (acts ++ [(before, act)]) later (count +
        (decide (purpose = some kind ∧ (self.script.labels.get? kind).isSome = true)).toNat)) :
    ∀ self ∈ last.moment.roster.active,
      holds acts self (notifications kind self.id acts last) := by
  intro self member
  refine proceedings.induction_active (fun acts stage self =>
    (∀ library, .install library ∈ opened acts → library.IsSound) →
      holds acts self (notifications kind self.id acts stage)) ?_ ?_ self member installs
  · intro acts before after action script earlier proceeds loaded _
    have absent := earlier.unknown (.carryOut (.launch action)) script action
    rw [notifications_eq_zero absent]
    exact launches _ _ script action absent
  · intro acts before after act self changed later purpose earlier proceeds member there same
      isTreated ih installs
    rw [opened_append] at installs
    have installsFront := fun library installed =>
      installs library (List.mem_append_left _ installed)
    rw [earlier.notifications_treated proceeds (earlier.sound installsFront self member) member
      there same isTreated]
    exact treats member same isTreated (ih installsFront)

/-- Whoever has a label for a held trigger is notified as often as that is counted. -/
theorem sustain_notifications (proceedings : Proceedings (.start config rig) acts last)
    (installs : ∀ library, .install library ∈ opened acts → library.IsSound) :
    ∀ self ∈ last.moment.roster.active, (self.script.labels.get? .sustain).isSome = true →
      notifications .sustain self.id acts last = self.sustainCount := by
  refine proceedings.induction_notified installs .sustain (fun _ self count =>
    (self.script.labels.get? .sustain).isSome = true → count = self.sustainCount) ?_ ?_
  · intro _ roster script action _ _
    exact (timers_launched roster script action).2.1.symm
  · intro acts before act self changed later purpose count member same treats counted slot
    rw [read_of_steady ScriptInstance.script (fun _ => rfl) treats.steady,
      treats.changes.same.2.1] at slot
    rw [read_of_steady ScriptInstance.sustainCount (fun _ => rfl) treats.steady,
      treats.changes.sustainCount_eq, counted slot, slot]
    simp

/-- Once the label for the end of a window has been notified, the window is not open. -/
theorem endClick_notifications_le (proceedings : Proceedings (.start config rig) acts last)
    (installs : ∀ library, .install library ∈ opened acts → library.IsSound) :
    ∀ self ∈ last.moment.roster.active,
      notifications .endClick self.id acts last + self.clicking.toNat ≤ 1 := by
  refine proceedings.induction_notified installs .endClick
    (fun _ self count => count + self.clicking.toNat ≤ 1) ?_ ?_
  · intro _ roster script action _
    rw [Nat.zero_add]
    exact Bool.toNat_le _
  · intro acts before act self changed later purpose count member same treats few
    rw [read_of_steady ScriptInstance.clicking (fun _ => rfl) treats.steady]
    have closes := treats.changes.clicking_le
    have notified : (decide (purpose = some LabelKind.endClick ∧
        (self.script.labels.get? .endClick).isSome = true)).toNat ≤
          (decide (purpose = some LabelKind.endClick)).toNat :=
      Bool.toNat_le_toNat (Bool.le_iff_imp.2 fun both =>
        decide_eq_true (of_decide_eq_true both).1)
    omega

/-- A window that was not stopped is open, or the label for its end has been notified. -/
theorem endClick_notifications_eq (proceedings : Proceedings (.start config rig) acts last)
    (installs : ∀ library, .install library ∈ opened acts → library.IsSound) :
    ∀ self ∈ last.moment.roster.active, (self.script.labels.get? .endClick).isSome = true →
      self.hasWindow = true → (∀ passage ∈ acts, ¬ Stops self.id passage) →
      notifications .endClick self.id acts last + self.clicking.toNat = 1 := by
  refine proceedings.induction_notified installs .endClick (fun acts self count =>
    (self.script.labels.get? .endClick).isSome = true → self.hasWindow = true →
    (∀ passage ∈ acts, ¬ Stops self.id passage) → count + self.clicking.toNat = 1) ?_ ?_
  · intro _ roster script action _ _ hasWindow _
    obtain ⟨-, isScript, isTrigger, -, -⟩ := roster.launched_eq script action
    rw [ScriptInstance.hasWindow, isScript, isTrigger] at hasWindow
    rw [Roster.clicking_launched, hasWindow]
    rfl
  · intro acts before act self changed later purpose count member same treats ih slot hasWindow
      unstopped
    rw [read_of_steady ScriptInstance.script (fun _ => rfl) treats.steady,
      treats.changes.same.2.1] at slot
    rw [read_of_steady ScriptInstance.hasWindow (fun _ => rfl) treats.steady,
      treats.changes.same.2.2] at hasWindow
    rw [same] at unstopped
    have once := ih slot hasWindow fun passage inFront =>
      unstopped passage (List.mem_append_left _ inFront)
    have closes := treats.changes.clicking_eq member
      (unstopped (before, act) (List.mem_append_right _ (List.mem_singleton_self _)))
    rw [read_of_steady ScriptInstance.clicking (fun _ => rfl) treats.steady, slot]
    simp only [and_true]
    omega

/-- The label for the end of a window is notified at most once, also of those who have left. -/
theorem endClick_once (proceedings : Proceedings (.start config rig) acts last)
    (installs : ∀ library, .install library ∈ opened acts → library.IsSound) (id : InstanceId) :
    notifications .endClick id acts last ≤ 1 := by
  induction proceedings with
  | nil => exact Nat.zero_le _
  | @snoc acts before after act earlier proceeds ih =>
      cases notified : before.notifies .endClick id after with
      | true =>
          obtain ⟨self, -, -, later, there, rfl, -⟩ := Stage.notifies_iff.1 notified
          exact Nat.le_trans (Nat.le_add_right _ _)
            (Proceedings.endClick_notifications_le (earlier.snoc proceeds) installs later there)
      | false =>
          rw [opened_append] at installs
          rw [notifications_snoc, notified]
          exact ih fun library installed => installs library (List.mem_append_left _ installed)

/-- Whoever is notified between two stages is treated so. -/
theorem treats_of_notifies {before after : Stage ε} {act : Act ε}
    (earlier : Proceedings (.start config rig) acts before) (proceeds : Proceeds before act after)
    (installs : ∀ library, .install library ∈ opened acts → library.IsSound) {kind : LabelKind}
    {id : InstanceId} (notified : before.notifies kind id after = true) :
    ∃ self ∈ before.moment.roster.active, self.id = id ∧
      ∃ changed, before.Changes self act changed (some kind) := by
  have numbered := earlier.numbered (Moment.numbered_start config rig)
  obtain ⟨self, member, rfl, later, there, same, isNotified⟩ := Stage.notifies_iff.1 notified
  rcases proceeds.treats numbered there with
    ⟨other, isOther, sameId, changed, purpose, treats⟩ | ⟨action, -, script, -, rfl⟩
  · rw [numbered.unique isOther member (sameId.symm.trans same)] at treats
    obtain ⟨rfl, -⟩ := (treats.notified (earlier.sound installs self member) kind).1 isNotified
    exact ⟨self, member, rfl, changed, treats.changes⟩
  · exact absurd same.symm (earlier.unknown act script action (before, act) (by simp) self member)

/-- Each block makes at most one turn due, and each turn counts a trigger at most once. -/
theorem sustain_within {first : Stage ε} {within : List (Stage ε × Act ε)}
    (earlier : Proceedings (.start config rig) acts first)
    (proceedings : Proceedings first within last)
    (installs : ∀ library, .install library ∈ opened (acts ++ within) → library.IsSound)
    (id : InstanceId) :
    notifications .sustain id within last + (dueTimes .held id last.agenda).length ≤
      (opened within).length + (dueTimes .held id first.agenda).length := by
  induction proceedings with
  | nil => exact Nat.le_refl _
  | @snoc within before after act passed proceeds ih =>
      have sofar := earlier.append passed
      have isOpened : opened (within ++ [(before, act)]) =
          opened within ++ act.operation?.toList := by
        rw [opened_append]
        cases begun : act.operation? <;> simp [opened, begun]
      have installsFront : ∀ library, .install library ∈ opened (acts ++ within) →
          library.IsSound := fun library installed => by
        refine installs library ?_
        rw [← List.append_assoc, opened_append]
        exact List.mem_append_left _ installed
      have fewer := ih installsFront
      have numbered := Proceedings.numbered (sofar.snoc proceeds) (Moment.numbered_start config rig)
      rw [notifications_snoc, isOpened, List.length_append]
      -- A notification uses up a turn that is due, and only an operation makes one due.
      cases notified : before.notifies .sustain id after with
      | true =>
          obtain ⟨self, -, rfl, changed, changes⟩ :=
            Proceedings.treats_of_notifies sofar proceeds installsFront notified
          obtain ⟨rfl, msec, rest, next⟩ := changes.turn_of_sustain
          rw [proceeds.due_turn next, List.length_cons] at fewer
          rw [Bool.toNat_true]
          omega
      | false =>
          rw [Bool.toNat_false, Nat.add_zero]
          by_cases isTurn : act = .turn id .held
          · subst isTurn
            obtain ⟨msec, rest, next⟩ := proceeds.next_of_turn
            rw [proceeds.due_turn next, List.length_cons] at fewer
            omega
          · have more : (if id ∈ after.moment.roster.active.map ScriptInstance.id then
                act.msec?.toList else []).length ≤ act.operation?.toList.length := by
              split
              · exact act.length_msec?_le
              · exact Nat.zero_le _
            rw [proceeds.due_other numbered isTurn, List.length_append]
            omega

end Proceedings

/-! ## Sessions that are not too long for the counters -/

def sessionTime (operations : List (Operation ε)) : Nat :=
  (operations.flatMap fun operation => (Act.begin operation).time?.toList).sum

omit [Engine ε] in
theorem sessionTime_snoc (acts : List (Stage ε × Act ε)) (before : Stage ε) (act : Act ε) :
    sessionTime (opened (acts ++ [(before, act)])) =
      sessionTime (opened acts) + act.time?.toList.sum := by
  have here : sessionTime (opened [(before, act)]) = act.time?.toList.sum := by
    cases act <;> simp [opened, sessionTime, Act.operation?, Act.time?]
  rw [← here, opened_append, sessionTime, sessionTime, sessionTime, List.flatMap_append,
    List.sum_append]

omit [Engine ε] in
theorem sum_blockTimes_le (isOne : ScriptInstance → Bool) (acts : List (Stage ε × Act ε)) :
    (blockTimes isOne acts).sum ≤ sessionTime (opened acts) := by
  induction acts using List.reverseRecOn with
  | nil => exact Nat.le_refl _
  | append_singleton acts passage ih =>
      obtain ⟨before, act⟩ := passage
      rw [sessionTime_snoc, blockTimes, List.flatMap_append, List.sum_append,
        List.flatMap_singleton]
      refine Nat.add_le_add ih ?_
      split
      · exact Nat.le_refl _
      · exact Nat.zero_le _

omit [Engine ε] in
theorem operation_of_mem_blockTimes {isOne : ScriptInstance → Bool}
    {acts : List (Stage ε × Act ε)} {time : Nat} (member : time ∈ blockTimes isOne acts) :
    ∃ operation ∈ opened acts, (Act.begin operation).time? = some time := by
  obtain ⟨passage, inActs, isTime⟩ := List.mem_flatMap.1 member
  split at isTime
  · cases begun : passage.2 with
    | begin operation =>
        rw [begun] at isTime
        refine ⟨operation, List.mem_filterMap.2 ⟨passage, inActs, ?_⟩, Option.mem_toList.1 isTime⟩
        rw [begun]
        rfl
    | _ =>
        rw [begun] at isTime
        cases isTime
  · cases isTime

/-- Counters have room in a session whose blocks fit a word, one after another. -/
theorem Proceedings.countersHold {config : ScriptConfig} {rig : Rig ε}
    {acts : List (Stage ε × Act ε)} {last : Stage ε}
    (proceedings : Proceedings (.start config rig) acts last)
    (brief : sessionTime (opened acts) < Text.wordSize) (id : InstanceId) :
    CountersHold id acts := by
  induction proceedings with
  | nil => exact fun _ member => absurd member List.not_mem_nil
  | @snoc acts before after act earlier proceeds ih =>
      rw [sessionTime_snoc] at brief
      have counters := ih (by omega)
      intro passage member time lasts self there isSelf
      rcases List.mem_append.1 member with inFront | isLast
      · exact counters passage inFront time lasts self there isSelf
      · cases List.mem_singleton.1 isLast
        subst isSelf
        dsimp only at lasts
        rw [Option.mem_def.1 lasts, Option.toList_some, List.sum_singleton] at brief
        constructor
        · intro held
          obtain ⟨passed, times, counted, -⟩ :=
            Proceedings.isHeldInStep earlier self there counters held
          have bound := sum_blockTimes_le (fun other => other.id == self.id) acts
          have elapsed := counted.atLeast
          have isTimes : (blockTimes (fun other => other.id == self.id) acts).sum = _ :=
            congrArg List.sum times
          rw [List.sum_append] at isTimes
          omega
        · intro opened
          obtain ⟨passed, times, ⟨elapsed, -⟩, -⟩ :=
            (Proceedings.isOpenInStep earlier self there counters).1 opened
          have bound := sum_blockTimes_le
            (fun other => other.id == self.id && other.clickCount == self.clickCount) acts
          have isTimes : (blockTimes (fun other => other.id == self.id &&
              other.clickCount == self.clickCount) acts).sum = _ := congrArg List.sum times
          rw [List.sum_append] at isTimes
          omega

/--
Timers keep time.

Scripts that are read are sound, and every history of operations is a proceeding.  In a
proceeding in which only sound scripts are installed, consider whoever is running at some
stage.  If nothing is in progress and its counters have had room for the blocks, then its
trigger, while it is held, has been counted once for each hold time that has passed since
its launch, but for less than a hold time and what was lost each time, which is less than
the longest block; and its click window, if it has one and was not stopped, is open just
if the blocks since it was last pressed, or launched, last no longer than the window.  If
it has a label for a held trigger, that has been notified each time the trigger was
counted; if it has one for the end of its window, that has been notified once if the
window has closed, and else not yet.  Nobody is notified of the end of its window twice,
and nobody is notified twice in one block that its trigger is held.
-/
theorem timers_keep_time (config : ScriptConfig) (rig : Rig ε) :
    (∀ (name source : String) (symbols : SymbolTable) (script : Script),
      (Script.parse name source symbols).value.1 = .ok script → script.IsSound) ∧
    (∀ history : List (Operation ε), ∃ acts last, Proceedings (.start config rig) acts last ∧
      opened acts = history ∧ last.IsIdle ∧
      last.moment.state = Roster.outcomes config rig history) ∧
    ∀ {acts : List (Stage ε × Act ε)} {last : Stage ε},
      Proceedings (.start config rig) acts last →
      (∀ library, .install library ∈ opened acts → library.IsSound) →
      (∀ self ∈ last.moment.roster.active,
        (last.IsIdle → CountersHold self.id acts → self.sustaining = true →
          let times := self.heldTimes acts
          self.sustainCount * self.holdTime config ≤ times.sum ∧
          ∀ longest, (∀ time ∈ times, time ≤ longest) →
            times.sum < (self.sustainCount + 1) * self.holdTime config +
              self.sustainCount * (longest - 1)) ∧
        (last.IsIdle → CountersHold self.id acts →
          (self.clicking = true ↔
            self.hasWindow = true ∧ (∀ passage ∈ acts, ¬ Stops self.id passage) ∧
              (self.windowTimes acts).sum ≤ self.clickWindow config)) ∧
        ((self.script.labels.get? .sustain).isSome = true →
          notifications .sustain self.id acts last = self.sustainCount) ∧
        ((self.script.labels.get? .endClick).isSome = true → self.hasWindow = true →
          (∀ passage ∈ acts, ¬ Stops self.id passage) →
          notifications .endClick self.id acts last = if self.clicking then 0 else 1)) ∧
      ∀ id, notifications .endClick id acts last ≤ 1 ∧
        ∀ {within : List (Stage ε × Act ε)} {later : Stage ε} {operation : Operation ε},
          last.IsIdle → Proceedings last within later → opened within = [operation] →
          (∀ library, operation = .install library → library.IsSound) →
          notifications .sustain id within later ≤ 1 := by
  refine ⟨fun _ _ _ _ reads => isSound_parse reads, proceedings_outcomes config rig, ?_⟩
  intro acts last proceedings installs
  have isConfig := proceedings.config_eq
  refine ⟨fun self member => ⟨?_, ?_, ?_, ?_⟩, fun id => ⟨?_, ?_⟩⟩
  · intro idle counters held
    obtain ⟨passed, times, counted, -⟩ := proceedings.isHeldInStep self member counters held
    rw [idle.nothing, dueTimes_nil, List.append_nil] at times
    rw [isConfig, ← times] at counted
    exact counted.bounds
  · intro idle counters
    obtain ⟨inStep, inTime⟩ := proceedings.isOpenInStep self member counters
    constructor
    · intro opened
      obtain ⟨passed, times, ⟨isSum, within⟩, -⟩ := inStep opened
      rw [idle.nothing, dueTimes_nil, List.append_nil] at times
      obtain ⟨hasWindow, unstopped⟩ := proceedings.isOpenedOnce self member opened
      rw [isConfig] at within
      exact ⟨hasWindow, unstopped, times ▸ isSum ▸ within⟩
    · rintro ⟨hasWindow, unstopped, within⟩
      refine Bool.eq_true_of_not_eq_false fun closed => ?_
      have isOver := inTime closed hasWindow unstopped
      rw [isConfig] at isOver
      exact absurd within (Nat.not_le_of_lt isOver)
  · exact proceedings.sustain_notifications installs self member
  · intro slot hasWindow unstopped
    have once := proceedings.endClick_notifications_eq installs self member slot hasWindow unstopped
    cases clicking : self.clicking with
    | true =>
        rw [clicking] at once
        exact Nat.succ.inj once
    | false =>
        rw [clicking] at once
        exact once
  · exact proceedings.endClick_once installs id
  · intro within later operation idle block isOpened isSound
    have few := proceedings.sustain_within block (fun library installed => by
      rw [opened_append, isOpened] at installed
      rcases List.mem_append.1 installed with before | isHere
      · exact installs library before
      · exact isSound library (List.mem_singleton.1 isHere).symm) id
    rw [isOpened, idle.nothing] at few
    exact Nat.le_trans (Nat.le_add_right _ _) few

/-! ## A press that is held for three blocks -/

/-- A script that counts how long it is held, and takes clicks. -/
def pressScript : Script where
  name := "Press"
  traits := { sustainable := true }
  sustainMsec := some 20
  multiclick := true
  clickMsec := some 50
  statements :=
    [.finish, .label "sustain" .sustain, .finish, .label "endClick" .endClick, .finish]
  lines := [3, 4, 5, 6, 7]
  labels := { sustain := some 1, endClick := some 3 }

def tenMsec : Operation Recorder :=
  .maintain 480 48000 Roster.smallRig

def pressHeld : List (Operation Recorder) :=
  [.install ⟨[pressScript]⟩, .run (Roster.touch 0 7 false) Roster.smallRig, tenMsec, tenMsec,
   tenMsec]

/-- A trigger that is held past its time once, with its click window still open. -/
theorem held_press_is_counted_once :
    ∃ acts last self within later, Proceedings (.start {} Roster.smallRig) acts last ∧
      opened acts = pressHeld ∧ self ∈ last.moment.roster.active ∧ self.sustainCount = 1 ∧
      20 ≤ (self.heldTimes acts).sum ∧ (self.heldTimes acts).sum < 2 * 20 + 9 ∧
      (self.windowTimes acts).sum ≤ 50 ∧
      notifications .sustain self.id acts last = 1 ∧
      notifications .endClick self.id acts last = 0 ∧
      Proceedings last within later ∧ opened within = [tenMsec] ∧
      notifications .sustain self.id within later ≤ 1 := by
  obtain ⟨reads, histories, keeps⟩ := timers_keep_time {} Roster.smallRig
  obtain ⟨acts, last, proceedings, isHistory, idle, isLast⟩ := histories pressHeld
  have sound : pressScript.IsSound :=
    reads "Press" "!sustain 20\n!multiclick 50\nEnd\nLabel sustain\nEnd\nLabel endClick\nEnd\n" {}
      _ (by decide +kernel)
  obtain ⟨self, member, isScript, held, counted, clicking⟩ :
      ∃ self ∈ last.moment.roster.active, self.script = pressScript ∧ self.sustaining = true ∧
        self.sustainCount = 1 ∧ self.clicking = true := by
    have isRoster : last.moment.roster = (Roster.outcomes {} Roster.smallRig pressHeld).1 :=
      congrArg Prod.fst isLast
    rw [isRoster]
    exact ⟨_, List.get_mem _ ⟨0, by decide +kernel⟩, by decide +kernel⟩
  have installs : ∀ library, .install library ∈ opened acts → library.IsSound := by
    intro library installed
    have isOnly : library = ⟨[pressScript]⟩ := by
      simpa [isHistory, pressHeld, tenMsec] using installed
    rw [isOnly]
    exact fun script isPress => List.mem_singleton.1 isPress ▸ sound
  have counters : CountersHold self.id acts :=
    proceedings.countersHold (by rw [isHistory]; decide) self.id
  obtain ⟨runs, notified⟩ := keeps proceedings installs
  obtain ⟨counts, window, isNotified, isEnded⟩ := runs self member
  obtain ⟨atLeast, atMost⟩ := counts idle counters held
  obtain ⟨hasWindow, unstopped, within⟩ := (window idle counters).1 clicking
  have brief : ∀ operation ∈ pressHeld, ∀ time ∈ (Act.begin operation).time?, time ≤ 10 := by
    decide
  have short : ∀ time ∈ self.heldTimes acts, time ≤ 10 := by
    intro time isTime
    obtain ⟨operation, begun, lasts⟩ := operation_of_mem_blockTimes isTime
    exact brief operation (isHistory ▸ begun) time lasts
  obtain ⟨block, later, goesOn, isBlock, -⟩ := proceedings_operate idle tenMsec
  have isHold : self.holdTime {} = 20 := by rw [ScriptInstance.holdTime, isScript]; rfl
  have isWindow : self.clickWindow {} = 50 := by rw [ScriptInstance.clickWindow, isScript]; rfl
  have few := atMost 10 short
  rw [counted, isHold] at atLeast few
  rw [isWindow] at within
  refine ⟨acts, last, self, block, later, proceedings, isHistory, member, counted, atLeast, few,
    within, ?_, ?_, goesOn, isBlock, ?_⟩
  · rw [isNotified (by rw [isScript]; rfl), counted]
  · rw [isEnded (by rw [isScript]; rfl) hasWindow unstopped, clicking]
    rfl
  · refine (notified self.id).2 idle goesOn isBlock ?_
    rintro library ⟨⟩

end Looper
