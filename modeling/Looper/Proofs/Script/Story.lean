import Looper.Proofs.Script.Interlude
import Looper.Proofs.Script.Reset
import Looper.Proofs.Trace

/-!
# Stories of sessions

A story tells a session one happening after another: operations begin, what is
over is told to every running instance at once, and the scripts do their labor.
Unlike a stretch of moves it takes of every run the step that is due.  Every
history of operations has its story, and in a story one can follow what happens
to a single instance.
-/

namespace Looper

open Roster (Operation)

/-! ## Happenings -/

inductive Happening (ε : Type) where
  | begin (operation : Operation ε)
  /-- Every running instance is told that something is over. -/
  | hear (completion : Completion)
  /-- Scripts do something by themselves. -/
  | labor (deed : Deed ε)
  /-- Envelopes of the kernel channel go round. -/
  | mail

namespace Happening

variable {ε : Type}

def told? : Happening ε → Option Completion
  | hear completion => some completion
  | _ => none

def Moves (id : InstanceId) : Happening ε → Prop
  | labor (.step mover _) | labor (.stop mover) => mover = id
  | _ => False

def isReported : Happening ε → Bool
  | begin _ | hear _ => true
  | _ => false

end Happening

variable {ε : Type} [Engine ε]

/-- How one moment leads to the next. -/
inductive Happens : Moment ε → Happening ε → Moment ε → Prop where
  | begin {moment : Moment ε} (rests : moment.IsAtRest) (operation : Operation ε) :
      Happens moment (.begin operation) (moment.begin operation)
  | hear (moment : Moment ε) (completion : Completion) :
      Happens moment (.hear completion)
        { moment with roster := moment.roster.mapActive fun self => self.hear completion }
  | labor {before after : Moment ε} {deed : Deed ε} (labor : Labor before deed after) :
      Happens before (.labor deed) after
  | mail (moment : Moment ε) (kernel : KernelChannel) :
      Happens moment .mail { moment with rig := { moment.rig with kernel } }

/-- Happenings that follow each other, each with the moment at which it happens. -/
abbrev Story : Moment ε → List (Moment ε × Happening ε) → Moment ε → Prop :=
  Trace Happens

def told {ε : Type} (story : List (Moment ε × Happening ε)) : List Completion :=
  story.filterMap fun passage => passage.2.told?

def reported {ε : Type} (story : List (Moment ε × Happening ε)) : List (Happening ε) :=
  (story.map Prod.snd).filter Happening.isReported

omit [Engine ε] in
theorem told_append (front back : List (Moment ε × Happening ε)) :
    told (front ++ back) = told front ++ told back :=
  List.filterMap_append

omit [Engine ε] in
theorem reported_append (front back : List (Moment ε × Happening ε)) :
    reported (front ++ back) = reported front ++ reported back := by
  unfold reported
  rw [List.map_append, List.filter_append]

def Reports (first : Moment ε) (reports : List (Happening ε)) (last : Moment ε) : Prop :=
  ∃ story, Story first story last ∧ reported story = reports

namespace Reports

theorem trans {first middle last : Moment ε} {front back : List (Happening ε)}
    (earlier : Reports first front middle) (later : Reports middle back last) :
    Reports first (front ++ back) last := by
  obtain ⟨story, told, rfl⟩ := earlier
  obtain ⟨further, toldToo, rfl⟩ := later
  exact ⟨story ++ further, told.append toldToo, reported_append story further⟩

theorem of_report {first last : Moment ε} {happening : Happening ε}
    (happens : Happens first happening last) (isReported : happening.isReported = true) :
    Reports first [happening] last :=
  ⟨_, .of_step happens, by simp [reported, isReported]⟩

theorem of_unreported {first last : Moment ε} {happening : Happening ε}
    (happens : Happens first happening last) (unreported : happening.isReported = false) :
    Reports first [] last :=
  ⟨_, .of_step happens, by simp [reported, unreported]⟩

theorem of_labors {first last : Moment ε} {spent : Nat} (labors : Labors first spent last) :
    Reports first [] last := by
  induction labors with
  | refl => exact ⟨[], .nil, rfl⟩
  | tail _ labor ih => exact ih.trans (.of_unreported (.labor labor) rfl)

end Reports

/-! ## Every history has its story -/

/-- What an operation finds to be over. -/
def Roster.Operation.completions {ε : Type} : Operation ε → List Completion
  | .finishEvent event => [.event event]
  | .finishFunction symbol => [.function symbol]
  | .maintain _ _ rig =>
      rig.kernel.completed.drain.1.map fun event => .kernel event.id event.returnCode
  | _ => []

def Roster.Operation.reports {ε : Type} (operation : Operation ε) : List (Happening ε) :=
  .begin operation :: operation.completions.map .hear

namespace Moment

theorem reports_deliverCompletions (moment : Moment ε) (events : List KernelEvent) :
    Reports moment
      ((events.map fun event => Completion.kernel event.id event.returnCode).map .hear)
      (moment.arrive
        ((moment.roster.deliverCompletions moment.rig.kernel events).1,
          { moment.rig with
            kernel := (moment.roster.deliverCompletions moment.rig.kernel events).2 })) := by
  induction events generalizing moment with
  | nil => exact ⟨[], .nil, rfl⟩
  | cons event rest ih =>
      have hears : Reports moment _ _ :=
        .of_report (.hear moment (.kernel event.id event.returnCode)) rfl
      have recycles : Reports _ [] _ := .of_unreported (.mail
        { moment with
          roster := moment.roster.mapActive fun self =>
            self.hear (.kernel event.id event.returnCode) }
        (moment.rig.kernel.recycle event)) rfl
      exact (hears.trans recycles).trans (ih _)

/-- Whatever is over when an operation begins is told first. -/
theorem reports_informed (moment : Moment ε) (rests : moment.IsAtRest)
    (operation : Operation ε) :
    Reports moment operation.reports ((moment.begin operation).informed operation) := by
  have begins : Reports moment [.begin operation] (moment.begin operation) :=
    .of_report (.begin rests operation) rfl
  refine begins.trans ?_
  cases operation with
  | finishEvent event => exact .of_report (.hear _ (.event event)) rfl
  | finishFunction symbol => exact .of_report (.hear _ (.function symbol)) rfl
  | maintain frames rate rig =>
      have drains : Reports (moment.begin (.maintain frames rate rig)) [] _ :=
        .of_unreported (.mail _ { rig.kernel with completed := rig.kernel.completed.drain.2 }) rfl
      exact drains.trans (reports_deliverCompletions _ rig.kernel.completed.drain.1)
  | _ => exact ⟨[], .nil, rfl⟩

end Moment

/-- Every act is a stretch of a story. -/
theorem Proceeds.reports {before after : Stage ε} {act : Act ε}
    (proceeds : Proceeds before act after) :
    Reports before.moment (act.operation?.toList.flatMap Operation.reports) after.moment := by
  cases isBegin : act.operation? with
  | none =>
      obtain ⟨_, -, labors⟩ := proceeds.labors isBegin
      exact .of_labors labors
  | some operation =>
      cases proceeds with
      | @begin moment rests operation =>
          cases isBegin
          rw [Option.toList_some, List.flatMap_singleton]
          exact moment.reports_informed rests operation
      | _ => cases isBegin

theorem Proceedings.reports {first last : Stage ε} {acts : List (Stage ε × Act ε)}
    (proceedings : Proceedings first acts last) :
    Reports first.moment ((opened acts).flatMap Operation.reports) last.moment := by
  induction proceedings with
  | nil => exact ⟨[], .nil, rfl⟩
  | @snoc acts before after act _ proceeds ih =>
      rw [opened_append, List.flatMap_append, opened_singleton]
      exact ih.trans proceeds.reports

/--
Every history has a story: it starts with nothing running, the operations and what
they find to be over are reported in order, and it ends with nothing waiting and
what the last operation gives back.
-/
theorem story_outcomes (config : ScriptConfig) (rig : Rig ε) (history : List (Operation ε)) :
    ∃ story last, Story (.start config rig) story last ∧
      reported story = history.flatMap Operation.reports ∧ last.IsAtRest ∧
      last.state = Roster.outcomes config rig history := by
  obtain ⟨acts, last, proceedings, rfl, idle, isLast⟩ := proceedings_outcomes config rig history
  obtain ⟨story, tells, isReported⟩ := Proceedings.reports proceedings
  exact ⟨story, last.moment, tells, isReported, idle.rests, isLast⟩

/-! ## One instance in a story -/

/-- What happens to a running instance, and to what it can reach. -/
inductive Befalls (run : Run ε) : Happening ε → Run ε → Prop where
  | step {statement : Option Statement} {later : Run ε} (due : run.Due statement later) :
      Befalls run (.labor (.step run.self.id statement)) later
  | hear (completion : Completion) :
      Befalls run (.hear completion) (run.withSelf (run.self.hear completion))
  | age {later : ScriptInstance} (ages : run.self.Ages later) :
      Befalls run (.labor (.tell run.self.id)) (run.withSelf later)
  | enter {later : ScriptInstance} (unfinished : run.self.isFinished = false)
      (entered : run.self.Entered later) :
      Befalls run (.labor (.enter run.self.id)) (run.withSelf later)
  | stop (rig : Rig ε) :
      Befalls run (.labor (.stop run.self.id))
        { run with self := (run.self.stop run.rig.engine).1, rig }
  | others {happening : Happening ε} (shared : ScriptShared) (rig : Rig ε)
      (untold : happening.told? = none) (apart : ¬ happening.Moves run.self.id) :
      Befalls run happening { run with shared, rig }

omit [Engine ε] in
theorem ScriptInstance.told_hear (self : ScriptInstance) (completion : Completion) :
    self.Told (self.hear completion) := by
  cases completion with
  | event event => exact .event event
  | function symbol => exact .function symbol
  | kernel event returnCode => exact .kernel event returnCode
  | block block => exact .block block

theorem Befalls.finished {run later : Run ε} {happening : Happening ε}
    (befalls : Befalls run happening later) (finished : run.self.isFinished = true) :
    later.self.isFinished = true := by
  cases befalls with
  | step due => exact (due.step.finished finished).2.1
  | hear completion => exact ((run.self.told_hear completion).finished finished).1
  | age ages => exact (ages.noted.told.finished finished).1
  | enter unfinished entered =>
      rw [unfinished] at finished
      cases finished
  | stop rig => rfl
  | others shared rig untold apart => exact finished

theorem Happens.numbered {before after : Moment ε} {happening : Happening ε}
    (happens : Happens before happening after) (numbered : before.IsNumbered) :
    after.IsNumbered := by
  cases happens with
  | begin rests operation => exact (Move.begin rests operation).numbered numbered
  | labor labor => exact labor.work.move.numbered numbered
  | mail kernel => exact (Move.mail kernel).numbered numbered
  | hear completion => exact numbered.map fun self => (self.told_hear completion).continues.id

theorem Story.numbered {first last : Moment ε} {story : List (Moment ε × Happening ε)}
    (tells : Story first story last) (numbered : first.IsNumbered) : last.IsNumbered :=
  tells.keeps (fun happens => happens.numbered) numbered

section Change

variable {moment : Moment ε} {position : Nat} {self other changed later : ScriptInstance}

omit [Engine ε] in
theorem Moment.IsNumbered.changed_or_stays (numbered : moment.IsNumbered)
    (stands : moment.roster.active[position]? = some other)
    (member : self ∈ moment.roster.active) (changed : ScriptInstance) :
    self = other ∧ changed ∈ moment.roster.active.set position changed ∨
      other.id ≠ self.id ∧ self ∈ moment.roster.active.set position changed := by
  by_cases same : other.id = self.id
  · obtain ⟨within, -⟩ := List.getElem?_eq_some_iff.1 stands
    exact .inl ⟨(numbered.unique (List.mem_of_getElem? stands) member same).symm,
      List.mem_iff_getElem?.2 ⟨position, List.getElem?_set_self within⟩⟩
  · rcases mem_set_or_eq stands member changed with rfl | elsewhere
    · exact absurd rfl same
    · exact .inr ⟨same, elsewhere⟩

omit [Engine ε] in
theorem Moment.IsNumbered.is_changed_or_stayed (numbered : moment.IsNumbered)
    (stands : moment.roster.active[position]? = some other) (same : changed.id = other.id)
    (member : later ∈ moment.roster.active.set position changed) :
    later = changed ∨ other.id ≠ later.id ∧ later ∈ moment.roster.active := by
  rcases List.mem_or_eq_of_mem_set member with earlier | isChanged
  · by_cases here : other.id = later.id
    · obtain ⟨within, -⟩ := List.getElem?_eq_some_iff.1 stands
      have there : changed ∈ (moment.replace position changed).roster.active :=
        List.mem_iff_getElem?.2 ⟨position, List.getElem?_set_self within⟩
      exact .inl ((numbered.withActive stands same).unique member there
        (here.symm.trans same.symm))
    · exact .inr ⟨here, earlier⟩
  · exact .inl isChanged

end Change

/-- The request in front is a press of a script that is loaded. -/
structure Moment.Presses {ε : Type} (moment : Moment ε) (script : Script) (action : Action) :
    Prop where
  front : ∃ rest, moment.pending = .launch action :: rest
  target : ∃ id traits, action.target = .script id traits ∧
    moment.roster.shared.library.get? id = some script
  pressed : action.sustainEnd = false

/-- What a happening does to the running instances as a whole. -/
inductive Alters (before : Moment ε) (happening : Happening ε) (after : Moment ε) : Prop where
  | nobody (same : after.roster.active = before.roster.active) (untold : happening.told? = none)
      (unmoved : ∀ id, ¬ happening.Moves id)
  | one {position : Nat} {self later : ScriptInstance}
      (stands : before.roster.active[position]? = some self)
      (active : after.roster.active = before.roster.active.set position later)
      (sameId : later.id = self.id)
      (befalls : Befalls (before.runOf self) happening (after.runOf later))
      (untold : happening.told? = none) (apart : ∀ id, self.id ≠ id → ¬ happening.Moves id)
  | everyone (completion : Completion) (isHear : happening = .hear completion)
      (active : after.roster.active = before.roster.active.map fun self => self.hear completion)
      (others : ∀ self, after.runOf self = (before.runOf self).withSelf self)
  | launched {script : Script} {action : Action}
      (isLaunch : happening = .labor (.launch (before.roster.launched script action).id))
      (presses : before.Presses script action)
      (active : after.roster.active =
        before.roster.active ++ [before.roster.launched script action])
  | left {position : Nat} {self : ScriptInstance}
      (stands : before.roster.active[position]? = some self) (finished : self.isFinished = true)
      (isLeave : happening = .labor (.leave self.id))
      (active : after.roster.active = before.roster.active.eraseIdx position)

/-- Labor alters one instance at most, and launches or sees off one at most. -/
theorem Labor.alters {before after : Moment ε} {deed : Deed ε} (labor : Labor before deed after) :
    Alters before (.labor deed) after := by
  cases labor with
  | step stands due =>
      exact .one stands rfl due.step.evolves.id_eq (.step due) rfl fun id apart => apart
  | age stands ages =>
      exact .one stands rfl ages.noted.told.continues.id (.age ages) rfl fun _ _ => id
  | @launch action rest id traits script front target pressed found =>
      refine .launched ?_ ⟨⟨_, front⟩, ⟨_, _, target, found⟩, pressed⟩ rfl
      rw [(before.roster.launched_eq script action).1]
  | act move routine =>
      cases move with
      | begin rests operation => cases routine
      | tell stands told => cases routine
      | mail kernel => cases routine
      | step stands steps => cases routine
      | launch front found => cases routine
      | enter front stands unfinished entered =>
          exact .one stands rfl entered.continues.id (.enter unfinished entered) rfl fun _ _ => id
      | @stop author track rest position self front stands concerns =>
          exact .one stands rfl (self.continues_stop before.rig.engine).id (.stop _) rfl
            fun id apart => apart
      | leave rests stands finished => exact .left stands finished rfl rfl
      | _ => exact .nobody rfl rfl fun _ => id

theorem Happens.alters {before after : Moment ε} {happening : Happening ε}
    (happens : Happens before happening after) : Alters before happening after := by
  cases happens with
  | begin rests operation => exact .nobody (by cases operation <;> rfl) rfl fun _ => id
  | hear completion => exact .everyone completion rfl rfl fun _ => rfl
  | mail kernel => exact .nobody rfl rfl fun _ => id
  | labor labor => exact labor.alters

/-- What a happening makes of a running instance, unless it leaves. -/
theorem Happens.befalls {before after : Moment ε} {happening : Happening ε}
    (happens : Happens before happening after) (numbered : before.IsNumbered)
    {self : ScriptInstance} (member : self ∈ before.roster.active) :
    (happening = .labor (.leave self.id) ∧ self.isFinished = true) ∨
      ∃ later ∈ after.roster.active, later.id = self.id ∧
        Befalls (before.runOf self) happening (after.runOf later) := by
  have bystands (untold : happening.told? = none) (apart : ¬ happening.Moves self.id)
      (there : self ∈ after.roster.active) :
      ∃ later ∈ after.roster.active, later.id = self.id ∧
        Befalls (before.runOf self) happening (after.runOf later) :=
    ⟨self, there, rfl, .others after.roster.shared after.rig untold apart⟩
  cases happens.alters with
  | nobody same untold unmoved => exact .inr (bystands untold (unmoved _) (same ▸ member))
  | @one position other later stands active sameId befalls untold apart =>
      right
      rcases numbered.changed_or_stays stands member later with ⟨rfl, there⟩ | ⟨isOther, stays⟩
      · exact ⟨later, active ▸ there, sameId, befalls⟩
      · exact bystands untold (apart _ isOther) (active ▸ stays)
  | everyone completion isHear active others =>
      subst isHear
      refine .inr ⟨self.hear completion, active ▸ List.mem_map_of_mem member,
        (self.told_hear completion).continues.id, ?_⟩
      rw [others]
      exact .hear completion
  | launched isLaunch presses active =>
      subst isLaunch
      exact .inr (bystands rfl id (active ▸ List.mem_append_left _ member))
  | @left position other stands finished isLeave active =>
      subst isLeave
      obtain ⟨place, within, isSelf⟩ := List.mem_iff_getElem.1 member
      by_cases here : place = position
      · subst here
        rw [List.getElem?_eq_getElem within, isSelf] at stands
        cases stands
        exact .inl ⟨rfl, finished⟩
      · refine .inr (bystands rfl id (active ▸ ?_))
        exact List.mem_eraseIdx_iff_getElem.2 ⟨place, within, here, isSelf⟩

/-- Whoever is running after a happening was running before, or is launched by it. -/
theorem Happens.origin {before after : Moment ε} {happening : Happening ε}
    (happens : Happens before happening after) (numbered : before.IsNumbered)
    {later : ScriptInstance} (member : later ∈ after.roster.active) :
    (∃ self ∈ before.roster.active, self.id = later.id ∧
      Befalls (before.runOf self) happening (after.runOf later)) ∨
    ∃ script action, happening = .labor (.launch later.id) ∧ before.Presses script action ∧
      later = before.roster.launched script action := by
  have bystands (untold : happening.told? = none) (apart : ¬ happening.Moves later.id)
      (there : later ∈ before.roster.active) :
      ∃ self ∈ before.roster.active, self.id = later.id ∧
        Befalls (before.runOf self) happening (after.runOf later) :=
    ⟨later, there, rfl, .others after.roster.shared after.rig untold apart⟩
  cases happens.alters with
  | nobody same untold unmoved => exact .inl (bystands untold (unmoved _) (same ▸ member))
  | @one position other changed stands active sameId befalls untold apart =>
      left
      rw [active] at member
      rcases numbered.is_changed_or_stayed stands sameId member with rfl | ⟨isOther, stayed⟩
      · exact ⟨other, List.mem_of_getElem? stands, sameId.symm, befalls⟩
      · exact bystands untold (apart _ isOther) stayed
  | everyone completion isHear active others =>
      subst isHear
      rw [active] at member
      obtain ⟨self, there, rfl⟩ := List.mem_map.1 member
      refine .inl ⟨self, there, (self.told_hear completion).continues.id.symm, ?_⟩
      rw [others]
      exact .hear completion
  | launched isLaunch presses active =>
      subst isLaunch
      rw [active] at member
      rcases List.mem_append.1 member with earlier | isNew
      · exact .inl (bystands rfl id earlier)
      · cases List.mem_singleton.1 isNew
        exact .inr ⟨_, _, rfl, presses, rfl⟩
  | left stands finished isLeave active =>
      subst isLeave
      rw [active] at member
      exact .inl (bystands rfl id (List.mem_of_mem_eraseIdx member))

end Looper
