import Looper.Proofs.Script.Story

/-!
# Presses and clicks

Whoever is in a click window was launched by a press from outside, and only another
press by the same trigger counts as a click.  A press is up to the first instance that
was launched for its script and its track: it is clicked, or entered again at its
label for that, or it does not take the press and an instance is launched.
-/

namespace Looper

open Roster (Operation)

/-! ## Click windows -/

namespace ScriptInstance

def clicked (self : ScriptInstance) : ScriptInstance :=
  { self with clickCount := self.clickCount + 1, clickElapsed := 0 }

/-- What was decided at the launch stays, and a click window that is open was open before. -/
structure KeepsLaunch (before after : ScriptInstance) : Prop where
  script : after.script = before.script
  triggerId : after.triggerId = before.triggerId
  home : after.homeTrack = before.homeTrack
  window : after.clicking = true → before.clicking = true

namespace KeepsLaunch

theorem refl (self : ScriptInstance) : self.KeepsLaunch self :=
  ⟨rfl, rfl, rfl, fun opened => opened⟩

theorem trans {first second third : ScriptInstance} (earlier : first.KeepsLaunch second)
    (later : second.KeepsLaunch third) : first.KeepsLaunch third where
  script := later.script.trans earlier.script
  triggerId := later.triggerId.trans earlier.triggerId
  home := later.home.trans earlier.home
  window opened := earlier.window (later.window opened)

theorem of_steady {before after : ScriptInstance} (steady : after.steady = before.steady)
    (home : after.homeTrack = before.homeTrack) : before.KeepsLaunch after where
  script := read_of_steady ScriptInstance.script (fun _ => rfl) steady
  triggerId := read_of_steady ScriptInstance.triggerId (fun _ => rfl) steady
  home := home
  window := (read_of_steady ScriptInstance.clicking (fun _ => rfl) steady).symm.trans

theorem notifyKind {before after : ScriptInstance} (keeps : before.KeepsLaunch after)
    (kind : LabelKind) : before.KeepsLaunch (after.notifyKind kind).2 := by
  obtain ⟨steady, home⟩ := after.steady_notifyKind kind
  exact keeps.trans (.of_steady steady home)

end KeepsLaunch

theorem keepsLaunch_advanceSustain (self : ScriptInstance) (msec holdTime : Nat) :
    self.KeepsLaunch (self.advanceSustain msec holdTime).2 := by
  unfold advanceSustain
  split
  · exact .refl self
  · dsimp only
    split
    · exact ⟨rfl, rfl, rfl, fun opened => opened⟩
    · have counted : self.KeepsLaunch
          { self with sustainElapsed := 0, sustainCount := self.sustainCount + 1 } :=
        ⟨rfl, rfl, rfl, fun opened => opened⟩
      exact counted.notifyKind .sustain

theorem keepsLaunch_advanceClick (self : ScriptInstance) (msec window : Nat) :
    self.KeepsLaunch (self.advanceClick msec window).2 := by
  unfold advanceClick
  split
  · exact .refl self
  · dsimp only
    split
    · exact ⟨rfl, rfl, rfl, fun opened => opened⟩
    · have closed : self.KeepsLaunch
          { self with
            clickElapsed := (self.clickElapsed + msec) % Text.wordSize
            clicking := false } :=
        ⟨rfl, rfl, rfl, fun opened => nomatch opened⟩
      exact closed.notifyKind .endClick

theorem Told.keepsLaunch {self later : ScriptInstance} (told : self.Told later) :
    self.KeepsLaunch later := by
  cases told with
  | event event =>
      rw [finishEvent_eq]
      exact .of_steady rfl (homeFrom_map_mapWait (Wait.finishEvent event) self.track self.stack)
  | function symbol =>
      exact .of_steady rfl
        (homeFrom_map_mapWait (Wait.finishFunction symbol) self.track self.stack)
  | kernel event returnCode =>
      rw [finishKernel_eq]
      exact .of_steady rfl (homeFrom_map_mapWait (Wait.finishKernel event) self.track self.stack)
  | block block =>
      exact .of_steady rfl (homeFrom_map_mapWait (Wait.releaseBlock block) self.track self.stack)
  | held msec holdTime => exact self.keepsLaunch_advanceSustain msec holdTime
  | clicking msec window => exact self.keepsLaunch_advanceClick msec window

theorem Entered.keepsLaunch {self later : ScriptInstance} (entered : self.Entered later) :
    self.KeepsLaunch later := by
  cases entered with
  | release =>
      have released : self.KeepsLaunch { self with sustaining := false, sustainElapsed := 0 } :=
        ⟨rfl, rfl, rfl, fun opened => opened⟩
      exact released.notifyKind .endSustain
  | click =>
      have counted : self.KeepsLaunch self.clicked := ⟨rfl, rfl, rfl, fun opened => opened⟩
      exact counted.notifyKind .click
  | reentry slot => exact .of_steady rfl rfl

end ScriptInstance

variable {ε : Type} [Engine ε]

/-- Unless an instance is stopped, it keeps what was decided at its launch. -/
theorem Befalls.keepsLaunch {run later : Run ε} {happening : Happening ε}
    (befalls : Befalls run happening later) (unfinished : later.self.isFinished = false) :
    run.self.KeepsLaunch later.self := by
  cases befalls with
  | step due => exact .of_steady due.step.evolves.steady due.step.evolves.home
  | hear completion => exact (run.self.told_hear completion).keepsLaunch
  | age ages => exact ages.noted.told.keepsLaunch
  | enter _ entered => exact entered.keepsLaunch
  | stop rig => cases unfinished
  | others shared rig untold apart => exact .refl run.self

/-! ## Where requests come from -/

/-- Whatever waits to be carried out was asked by a script, or is what an operation is for. -/
structure Moment.IsSourced (moment : Moment ε) (story : List (Moment ε × Happening ε)) :
    Prop where
  requests : ∀ request ∈ moment.roster.shared.requests, request.IsAsked
  pending : ∀ action, .launch action ∈ moment.pending →
    (ScriptRequest.launch action).IsAsked ∨
      ∃ beginning rig, (beginning, .begin (.run action rig)) ∈ story

omit [Engine ε] in
theorem Moment.IsSourced.shrinks {before after : Moment ε}
    {story : List (Moment ε × Happening ε)} (sourced : before.IsSourced story)
    (passage : Moment ε × Happening ε)
    (requests : after.roster.shared.requests ⊆ before.roster.shared.requests)
    (pending : after.pending ⊆ before.pending) : after.IsSourced (story ++ [passage]) where
  requests request member := sourced.requests request (requests member)
  pending action member := by
    refine (sourced.pending action (pending member)).imp id ?_
    rintro ⟨beginning, rig, there⟩
    exact ⟨beginning, rig, List.mem_append_left _ there⟩

theorem Happens.sourced {before after : Moment ε} {happening : Happening ε}
    {story : List (Moment ε × Happening ε)} (happens : Happens before happening after)
    (sourced : before.IsSourced story) : after.IsSourced (story ++ [(before, happening)]) := by
  have shrinks := @sourced.shrinks ε before after story (before, happening)
  cases happens with
  | begin rests operation =>
      cases operation with
      | run action rig =>
          refine ⟨sourced.requests, fun other member => .inr ⟨before, rig, ?_⟩⟩
          cases List.mem_singleton.1 member
          exact List.mem_append_right _ (List.mem_singleton_self _)
      | cancel author track rig =>
          exact ⟨sourced.requests, fun action member => nomatch List.mem_singleton.1 member⟩
      | stopAll rig =>
          exact ⟨sourced.requests, fun action member => nomatch List.mem_singleton.1 member⟩
      | _ => exact shrinks (List.Subset.refl _) (List.Subset.refl _)
  | labor labor =>
      cases labor with
      | step stands due =>
          -- What a step asks for is asked by its instance.
          exact ⟨Roster.asked_of_evolves due.step.evolves sourced.requests,
            (sourced.shrinks _ (List.Subset.refl _) (List.Subset.refl _)).pending⟩
      | act move routine =>
          cases move with
          | begin rests operation => cases routine
          | tell stands told => cases routine
          | mail kernel => cases routine
          | step stands steps => cases routine
          | launch front found => cases routine
          | answer front =>
              refine shrinks (List.Subset.refl _) ?_
              rw [front]
              exact List.subset_cons_self _ _
          | cancelled front done =>
              refine shrinks (List.Subset.refl _) ?_
              rw [front]
              exact List.subset_cons_self _ _
          | round carriedOut more =>
              exact ⟨fun _ member => absurd member List.not_mem_nil,
                fun action member => .inl (sourced.requests _ member)⟩
          | drop carriedOut last => exact shrinks (List.nil_subset _) (List.Subset.refl _)
          | _ => exact shrinks (List.Subset.refl _) (List.Subset.refl _)
      | _ => exact shrinks (List.Subset.refl _) (List.Subset.refl _)
  | _ => exact shrinks (List.Subset.refl _) (List.Subset.refl _)

theorem Story.sourced {config : ScriptConfig} {rig : Rig ε}
    {story : List (Moment ε × Happening ε)} {last : Moment ε}
    (tells : Story (.start config rig) story last) : last.IsSourced story := by
  induction tells with
  | nil =>
      exact ⟨fun _ member => absurd member List.not_mem_nil,
        fun _ member => absurd member List.not_mem_nil⟩
  | snoc _ happens ih => exact happens.sourced ih

/-! ## Who was launched for what -/

/--
An instance was launched for its script, on the track that it belongs to and by its
trigger; and if it is in its click window, then by a press that had come from outside.
-/
def ScriptInstance.IsLaunchedIn (story : List (Moment ε × Happening ε)) (self : ScriptInstance) :
    Prop :=
  ∃ front launching back, story = front ++ (launching, .labor (.launch self.id)) :: back ∧
    ∃ action : Action, launching.Presses self.script action ∧
      self.homeTrack = action.track ∧ self.triggerId = action.triggerId ∧
        (self.clicking = true → action.triggerId ≠ 0 ∧
          ∃ (beginning : Moment ε) (rig : Rig ε), (beginning, .begin (.run action rig)) ∈ front)

omit [Engine ε] in
theorem ScriptInstance.IsLaunchedIn.later {story : List (Moment ε × Happening ε)}
    {self later : ScriptInstance} (isLaunched : self.IsLaunchedIn story)
    (passage : Moment ε × Happening ε) (same : later.id = self.id)
    (keeps : self.KeepsLaunch later) : later.IsLaunchedIn (story ++ [passage]) := by
  obtain ⟨front, launching, back, rfl, action, presses, home, trigger, outside⟩ := isLaunched
  refine ⟨front, launching, back ++ [passage], ?_, action, ?_, keeps.home.trans home,
    keeps.triggerId.trans trigger, fun opened => outside (keeps.window opened)⟩
  · rw [same, List.append_assoc, List.cons_append]
  · rw [keeps.script]
    exact presses

omit [Engine ε] in
theorem Roster.clicking_launched (roster : Roster) (script : Script) (action : Action) :
    (roster.launched script action).clicking =
      (script.multiclick && action.triggerId != 0) := by
  unfold launched
  split <;> rfl

/-- Whoever has not finished was launched for what it says it was launched for. -/
theorem Story.launched {config : ScriptConfig} {rig : Rig ε}
    {story : List (Moment ε × Happening ε)} {last : Moment ε}
    (tells : Story (.start config rig) story last) :
    ∀ self ∈ last.roster.active, self.isFinished = false → self.IsLaunchedIn story := by
  induction tells with
  | nil => exact fun _ member => absurd member List.not_mem_nil
  | @snoc front before after happening earlier happens ih =>
      intro later member unfinished
      have numbered := Story.numbered earlier (Moment.numbered_start config rig)
      rcases happens.origin numbered member with
        ⟨self, there, same, befalls⟩ | ⟨script, action, rfl, presses, rfl⟩
      · have unfinishedBefore : self.isFinished = false :=
          Bool.eq_false_iff.2 fun finished =>
            Bool.eq_false_iff.1 unfinished (befalls.finished finished)
        have keeps : self.KeepsLaunch later := befalls.keepsLaunch unfinished
        exact (ih self there unfinishedBefore).later _ same.symm keeps
      · obtain ⟨-, isScript, isTrigger, isHome, -⟩ := before.roster.launched_eq script action
        rw [← isScript] at presses
        refine ⟨front, before, [], rfl, action, presses, isHome, isTrigger, fun opened => ?_⟩
        rw [Roster.clicking_launched, Bool.and_eq_true, bne_iff_ne] at opened
        obtain ⟨rest, isFront⟩ := presses.front
        -- Scripts launch others without a trigger, so this was asked from outside.
        rcases (Story.sourced earlier).pending action (isFront ▸ List.mem_cons_self) with
          ⟨author, -, -, -, untriggered⟩ | outside
        · exact absurd untriggered opened.2
        · exact ⟨opened.2, outside⟩

/-! ## What a press comes to -/

namespace Roster

/--
An instance has been reached from outside and goes on at a label of its script, if
there is one for that.  The others are as they were, and nobody is launched.
-/
structure Reaches (before : Roster) (rig : Rig ε) (position : Nat) (reached : ScriptInstance)
    (label : Option Nat) (after : Roster × Rig ε) : Prop where
  goesOn : after = match label with
    | none => ({ before with active := before.active.set position reached }, rig)
    | some label => (before.runAt position (reached.notify label) rig).value
  /-- Running leaves the launch, the count of clicks and the timers alone. -/
  alone : ∃ later, after.1.active = before.active.set position later ∧
    later.steady = reached.steady ∧ later.homeTrack = reached.homeTrack
  unlaunched : after.1.lastId = before.lastId ∧ after.1.idle = before.idle
  asks : ∃ asked, after.1.shared.requests = before.shared.requests ++ asked ∧
    ∀ request ∈ asked, request.IsFrom reached.id

/-- One new instance stands behind the others, which are as they were, and has run. -/
structure Starts (before : Roster) (script : Script) (action : Action)
    (after : Roster × Rig ε) : Prop where
  joins : ∃ later, after.1.active = before.active ++ [later] ∧
    later.steady = (before.launched script action).steady ∧ later.homeTrack = action.track
  launched : after.1.lastId = before.lastId + 1
  asks : ∃ asked, after.1.shared.requests = before.shared.requests ++ asked ∧
    ∀ request ∈ asked, request.IsFrom after.1.lastId

section Press

variable {roster : Roster} {script : Script} {action : Action} {position : Nat}
  {self : ScriptInstance} (rig : Rig ε)

end Press

end Roster

end Looper
