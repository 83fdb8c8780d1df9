import Looper.Proofs.Script.Timing

/-!
# Blocks and what they count for

Whoever is running when a block begins has a part of its turn for its trigger and one for
its click window, and each counts for as much time as the block lasts.  Nothing else moves
the timers of an instance, except that a press starts its click window anew, and that it
is released or stopped.
-/

namespace Looper

open Roster (Operation)

/-! ## What a script action does to timers -/

/-- A script action is taken: an instance is released, clicked in its window, or entered again. -/
inductive ScriptInstance.Takes (self : ScriptInstance) : ScriptInstance → Prop where
  | release : Takes self self.endSustain.2
  | click (opened : self.clicking = true) : Takes self self.click.2
  | reentry {label : Nat} (slot : self.script.labels.get? .reentry = some label) :
      Takes self (self.notify label)

theorem ScriptInstance.Takes.id_eq {self later : ScriptInstance} (takes : self.Takes later) :
    later.id = self.id := by
  cases takes with
  | release => exact self.continues_endSustain.1.id
  | click opened => exact self.continues_click.1.id
  | reentry slot => rfl

/-- A script action is taken by one who is running, launches a script, or does nothing. -/
theorem Roster.roster_reach (roster : Roster) (action : Action) :
    (roster.reach action).1 = roster ∨
      (∃ position self later, roster.active[position]? = some self ∧ self.Takes later ∧
        (roster.reach action).1 =
          { roster with active := roster.active.set position later }) ∨
      ∃ script ∈ roster.shared.library.scripts,
        (roster.reach action).1 = (roster.enlist script action).1 := by
  unfold reach
  split
  · next id traits target =>
      split
      · exact .inl rfl
      · next script found =>
          have launches : script ∈ roster.shared.library.scripts := List.mem_of_getElem? found
          split
          · unfold reachHeld
            dsimp only
            split
            · next position self searched read =>
                have stands := found_of_findIdx? searched read
                exact .inr (.inl ⟨position, self, _, stands, .release, rfl⟩)
            · exact .inl rfl
          · split
            · exact .inr (.inr ⟨script, launches, rfl⟩)
            · unfold reachRunning
              dsimp only
              split
              · next position self searched read =>
                  have stands := found_of_findIdx? searched read
                  split
                  · next clicks =>
                      rw [Bool.and_eq_true] at clicks
                      exact .inr (.inl ⟨position, self, _, stands, .click clicks.1, rfl⟩)
                  · split
                    · next label slot =>
                        exact .inr (.inl ⟨position, self, _, stands, .reentry slot, rfl⟩)
                    · exact .inr (.inr ⟨script, launches, rfl⟩)
              · exact .inr (.inr ⟨script, launches, rfl⟩)
  · exact .inl rfl

/-! ## What an act does to timers -/

def Stage.config {ε : Type} (stage : Stage ε) : ScriptConfig :=
  stage.moment.roster.config

/--
What an act makes of the timers of a running instance, and the label at which it is then
notified, if there is one for that.
-/
inductive Stage.Changes {ε : Type} (stage : Stage ε) (self : ScriptInstance) :
    Act ε → ScriptInstance → Option LabelKind → Prop where
  | holds {msec : Nat} {rest : List Task} (next : stage.agenda = .turn msec self.id .held :: rest)
      (held : self.sustaining = true)
      (short : (self.sustainElapsed + msec) % Text.wordSize < self.holdTime stage.config) :
      Changes stage self (.turn self.id .held)
        { self with sustainElapsed := (self.sustainElapsed + msec) % Text.wordSize } none
  | counts {msec : Nat} {rest : List Task}
      (next : stage.agenda = .turn msec self.id .held :: rest) (held : self.sustaining = true)
      (isOver : self.holdTime stage.config ≤ (self.sustainElapsed + msec) % Text.wordSize) :
      Changes stage self (.turn self.id .held)
        { self with sustainElapsed := 0, sustainCount := self.sustainCount + 1 } (some .sustain)
  | opens {msec : Nat} {rest : List Task}
      (next : stage.agenda = .turn msec self.id .clicking :: rest) (opened : self.clicking = true)
      (within : (self.clickElapsed + msec) % Text.wordSize ≤ self.clickWindow stage.config) :
      Changes stage self (.turn self.id .clicking)
        { self with clickElapsed := (self.clickElapsed + msec) % Text.wordSize } none
  | closes {msec : Nat} {rest : List Task}
      (next : stage.agenda = .turn msec self.id .clicking :: rest) (opened : self.clicking = true)
      (isOver : self.clickWindow stage.config < (self.clickElapsed + msec) % Text.wordSize) :
      Changes stage self (.turn self.id .clicking)
        { self with
          clickElapsed := (self.clickElapsed + msec) % Text.wordSize
          clicking := false } (some .endClick)
  | released {action : Action} :
      Changes stage self (.carryOut (.launch action))
        { self with sustaining := false, sustainElapsed := 0 } (some .endSustain)
  | clicked {action : Action} (opened : self.clicking = true) :
      Changes stage self (.carryOut (.launch action))
        { self with clickCount := self.clickCount + 1, clickElapsed := 0 } (some .click)
  | reentered {action : Action} :
      Changes stage self (.carryOut (.launch action)) self (some .reentry)
  | stopped {author : Option InstanceId} {track : Option TrackId}
      (concerned : Roster.isCancelled author track self = true) :
      Changes stage self (.carryOut (.cancel author track))
        { self with sustaining := false, clicking := false } none
  | kept {act : Act ε} (unheld : act = .turn self.id .held → self.sustaining = false)
      (unclicked : act = .turn self.id .clicking → self.clicking = false)
      (spared : ∀ author track, act = .carryOut (.cancel author track) →
        Roster.isCancelled author track self = false) :
      Changes stage self act self none

/-- An act changes the timers of an instance, and notifies it accordingly. -/
structure Stage.Treats {ε : Type} (stage : Stage ε) (it : ScriptInstance) (act : Act ε)
    (changed : ScriptInstance) (purpose : Option LabelKind) (later : ScriptInstance) : Prop where
  changes : stage.Changes it act changed purpose
  steady : later.steady = changed.steady
  notified : it.script.IsSound → ∀ kind, it.IsNotifiedAt kind later ↔
    purpose = some kind ∧ (it.script.labels.get? kind).isSome = true

namespace Stage.Treats

variable {ε : Type} {stage : Stage ε} {self later : ScriptInstance} {act : Act ε}

theorem quiet {changed : ScriptInstance} (changes : stage.Changes self act changed none)
    (steady : later.steady = changed.steady)
    (unnotified : ∀ kind, ¬ self.IsNotifiedAt kind later) :
    stage.Treats self act changed none later where
  changes := changes
  steady := steady
  notified := fun _ kind => ⟨fun notified => absurd notified (unnotified kind), fun ⟨isNone, _⟩ =>
    nomatch isNone⟩

theorem kept (steady : later.steady = self.steady)
    (unnotified : ∀ kind, ¬ self.IsNotifiedAt kind later)
    (unheld : act = .turn self.id .held → self.sustaining = false)
    (unclicked : act = .turn self.id .clicking → self.clicking = false)
    (spared : ∀ author track, act = .carryOut (.cancel author track) →
      Roster.isCancelled author track self = false) : stage.Treats self act self none later :=
  .quiet (.kept unheld unclicked spared) steady unnotified

/-- An instance may be notified for a purpose when its timers have changed. -/
theorem notifyKind {changed : ScriptInstance} {kind : LabelKind}
    (changes : stage.Changes self act changed (some kind))
    (script : changed.script = self.script) (current : changed.current = self.current)
    (pc : changed.pc = self.pc) (stack : changed.stack = self.stack) :
    stage.Treats self act changed (some kind) (changed.notifyKind kind).2 where
  changes := changes
  steady := (ScriptInstance.steady_notifyKind _ kind).1
  notified sound other := by
    rw [ScriptInstance.isNotifiedAt_notifyKind sound script current pc stack, Option.some.injEq,
      eq_comm]
    constructor
    · rintro ⟨rfl, slot⟩
      exact ⟨rfl, slot⟩
    · rintro ⟨rfl, slot⟩
      exact ⟨rfl, slot⟩

theorem takes {action : Action} (takes : self.Takes later) :
    ∃ changed purpose, stage.Treats self (.carryOut (.launch action)) changed purpose later := by
  cases takes with
  | release => exact ⟨_, _, notifyKind .released rfl rfl rfl rfl⟩
  | click opened => exact ⟨_, _, notifyKind (.clicked opened) rfl rfl rfl rfl⟩
  | @reentry label slot =>
      refine ⟨self, some .reentry, .reentered, rfl, fun sound kind => ?_⟩
      rw [ScriptInstance.isNotifiedAt_notify sound slot, Option.some.injEq, eq_comm]
      exact ⟨fun same => ⟨same, by rw [← same, slot]; rfl⟩, And.left⟩

end Stage.Treats

variable {ε : Type}

/-- An instance that goes through a part of its turn is treated accordingly. -/
theorem Stage.treats_turn (stage : Stage ε) (self : ScriptInstance) {msec : Nat} {part : TurnPart}
    {rest : List Task} (next : stage.agenda = .turn msec self.id part :: rest) :
    ∃ changed purpose, stage.Treats self (.turn self.id part) changed purpose
      (part.pass stage.config msec stage.moment.roster.shared.block self).2 := by
  have alone {later : ScriptInstance} :=
    @ScriptInstance.not_isNotifiedAt_of_length self later
  cases part with
  | waking =>
      exact ⟨self, none, .kept rfl (alone (Nat.le_of_eq (List.length_map _))) nofun nofun nofun⟩
  | held =>
      rcases self.advanceSustain_cases msec stage.config with
        ⟨unheld, same⟩ | ⟨held, ⟨short, same⟩ | ⟨isOver, same⟩⟩
      · rw [TurnPart.pass, same]
        exact ⟨self, none, .kept rfl (alone (Nat.le_refl _)) (fun _ => unheld) nofun nofun⟩
      · rw [TurnPart.pass, same]
        exact ⟨_, none, .quiet (.holds next held short) rfl (alone (Nat.le_refl _))⟩
      · rw [TurnPart.pass, same]
        exact ⟨_, _, .notifyKind (.counts next held isOver) rfl rfl rfl rfl⟩
  | clicking =>
      rcases self.advanceClick_cases msec stage.config with
        ⟨unopened, same⟩ | ⟨opened, ⟨within, same⟩ | ⟨isOver, same⟩⟩
      · rw [TurnPart.pass, same]
        exact ⟨self, none, .kept rfl (alone (Nat.le_refl _)) nofun (fun _ => unopened) nofun⟩
      · rw [TurnPart.pass, same]
        exact ⟨_, none, .quiet (.opens next opened within) rfl (alone (Nat.le_refl _))⟩
      · rw [TurnPart.pass, same]
        exact ⟨_, _, .notifyKind (.closes next opened isOver) rfl rfl rfl rfl⟩

variable [Engine ε]

/-- Whoever is running after an act was running before and is treated by it, or is launched. -/
theorem Proceeds.treats {before after : Stage ε} {act : Act ε}
    (proceeds : Proceeds before act after) (numbered : before.moment.IsNumbered)
    {later : ScriptInstance} (member : later ∈ after.moment.roster.active) :
    (∃ self ∈ before.moment.roster.active, later.id = self.id ∧
      ∃ changed purpose, before.Treats self act changed purpose later) ∨
    ∃ action, act = .carryOut (.launch action) ∧
      ∃ script ∈ before.moment.roster.shared.library.scripts,
        later = before.moment.roster.launched script action := by
  have alone {self later : ScriptInstance} (same : later.stack.length = self.stack.length) :=
    ScriptInstance.not_isNotifiedAt_of_length (Nat.le_of_eq same)
  -- Whoever an act does not concern is as it was.
  have bystands {before : Stage ε} {act : Act ε}
      (there : later ∈ before.moment.roster.active)
      (unturned : ∀ part, act ≠ .turn later.id part)
      (spared : ∀ author track, act = .carryOut (.cancel author track) →
        Roster.isCancelled author track later = false) :
      ∃ self ∈ before.moment.roster.active, later.id = self.id ∧
        ∃ changed purpose, before.Treats self act changed purpose later :=
    ⟨later, there, rfl, later, none, .kept rfl (alone rfl)
      (fun isTurn => absurd isTurn (unturned _)) (fun isTurn => absurd isTurn (unturned _)) spared⟩
  cases proceeds with
  | @begin moment rests operation =>
      change later ∈ ((moment.begin operation).informed operation).roster.active at member
      rw [moment.active_informed] at member
      obtain ⟨self, there, rfl⟩ := List.mem_map.1 member
      obtain ⟨steady, length⟩ := self.steady_hearAll operation.completions
      exact .inl ⟨self, there, self.id_hearAll _, self, none,
        .kept steady (alone length) nofun nofun nofun⟩
  | @turn moment agenda position other carriedOut stands msec part =>
      left
      rcases numbered.is_changed_or_stayed stands (part.id_pass _ _ _ _) member with
        rfl | ⟨apart, stays⟩
      · exact ⟨other, List.mem_of_getElem? stands, part.id_pass _ _ _ _,
          Stage.treats_turn { moment, agenda := .turn msec other.id part :: agenda } other rfl⟩
      · refine bystands stays (fun part isTurn => ?_) nofun
        injection isTurn with sameId
        exact apart sameId
  | @step moment agenda position left other statement run asked stands due asks =>
      left
      rcases numbered.is_changed_or_stayed stands due.step.evolves.id_eq member with
        rfl | ⟨apart, stays⟩
      · exact ⟨other, List.mem_of_getElem? stands, due.step.evolves.id_eq, other, none,
          .kept due.step.evolves.steady due.not_isNotifiedAt nofun nofun nofun⟩
      · exact bystands stays nofun nofun
  | @launch moment agenda action others front =>
      change later ∈ (moment.roster.reach action).1.active at member
      rcases moment.roster.roster_reach action with
        same | ⟨position, self, taken, stands, takes, isReached⟩ | ⟨script, loaded, isReached⟩
      · rw [same] at member
        exact .inl (bystands member nofun nofun)
      · rw [isReached] at member
        left
        rcases numbered.is_changed_or_stayed stands takes.id_eq member with rfl | ⟨-, stays⟩
        · exact ⟨self, List.mem_of_getElem? stands, takes.id_eq, Stage.Treats.takes takes⟩
        · exact bystands stays nofun nofun
      · rw [isReached] at member
        rcases List.mem_append.1 member with there | isLaunched
        · exact .inl (bystands there nofun nofun)
        · exact .inr ⟨action, rfl, script, loaded, List.mem_singleton.1 isLaunched⟩
  | @cancel moment agenda author track others front =>
      left
      change later ∈ (moment.roster.stopOthers author track moment.rig).value.1.active at member
      rw [Roster.value_stopOthers] at member
      obtain ⟨self, there, rfl⟩ := List.mem_map.1 member
      split
      · next concerned =>
          exact ⟨self, there, rfl, _, none, .quiet (.stopped concerned) rfl
            (ScriptInstance.not_isNotifiedAt_of_length (Nat.zero_le _))⟩
      · next spared =>
          refine ⟨self, there, rfl, self, none, .kept rfl (alone rfl) nofun nofun ?_⟩
          rintro _ _ ⟨⟩
          exact Bool.eq_false_iff.2 spared
  | @leave moment agenda rests =>
      change later ∈ (moment.roster.reclaim moment.rig).value.1.active at member
      rw [(Roster.reclaim_spec moment.roster moment.rig).2.2] at member
      exact .inl (bystands (List.mem_of_mem_filter member) nofun nofun)
  | _ => exact .inl (bystands member nofun nofun)

/-! ## The time of a block -/

/-- The milliseconds that a block lasts, as many as there are; at least one. -/
def blockTime (frames rate : Nat) : Nat :=
  if rate = 0 then 1 else max 1 (frames * 1000 / rate)

theorem blockMsec_eq {frames rate : Nat} (fits : blockTime frames rate < Text.wordSize) :
    Roster.blockMsec frames rate = blockTime frames rate := by
  unfold Roster.blockMsec
  unfold blockTime at fits ⊢
  split
  · rfl
  · next unrated =>
      rw [if_neg unrated, max_comm] at fits
      rw [max_comm, Nat.mod_eq_of_lt (max_comm (frames * 1000 / rate) 1 ▸ fits), max_comm]

def Act.time? : Act ε → Option Nat
  | .begin (.maintain frames rate _) => some (blockTime frames rate)
  | _ => none

/-- How much the block that begins with an act counts for. -/
def Act.msec? : Act ε → Option Nat
  | .begin (.maintain frames rate _) => some (Roster.blockMsec frames rate)
  | _ => none

omit [Engine ε] in
theorem Act.length_msec?_le (act : Act ε) :
    act.msec?.toList.length ≤ act.operation?.toList.length := by
  cases act with
  | begin operation =>
      cases operation with
      | maintain frames rate rig => exact Nat.le_refl _
      | _ => exact Nat.zero_le _
  | _ => exact Nat.le_refl _

/-- The times of the blocks at whose beginning someone of some kind was running. -/
def blockTimes (isOne : ScriptInstance → Bool) (acts : List (Stage ε × Act ε)) : List Nat :=
  acts.flatMap fun passage =>
    if passage.1.moment.roster.active.any isOne then passage.2.time?.toList else []

/-- The times for which a part of an instance's turns has still to be seen to. -/
def dueTimes (part : TurnPart) (id : InstanceId) (agenda : List Task) : List Nat :=
  agenda.filterMap fun task =>
    match task with
    | .turn msec other its => if other = id ∧ its = part then some msec else none
    | _ => none

section Times

omit [Engine ε]

theorem blockTimes_snoc (isOne : ScriptInstance → Bool) (acts : List (Stage ε × Act ε))
    {self : ScriptInstance} {before : Stage ε} (member : self ∈ before.moment.roster.active)
    (isSelf : isOne self = true) (act : Act ε) :
    blockTimes isOne (acts ++ [(before, act)]) = blockTimes isOne acts ++ act.time?.toList := by
  have someone : before.moment.roster.active.any isOne = true :=
    List.any_eq_true.2 ⟨self, member, isSelf⟩
  rw [blockTimes, List.flatMap_append, List.flatMap_singleton, if_pos someone]
  rfl

theorem blockTimes_eq_nil {isOne : ScriptInstance → Bool} {acts : List (Stage ε × Act ε)}
    (noOne : ∀ passage ∈ acts, ∀ self ∈ passage.1.moment.roster.active, isOne self = false) :
    blockTimes isOne acts = [] := by
  refine List.flatMap_eq_nil_iff.2 fun passage member => if_neg ?_
  rintro someone
  obtain ⟨self, there, isSelf⟩ := List.any_eq_true.1 someone
  rw [noOne passage member self there] at isSelf
  cases isSelf

@[simp] theorem dueTimes_nil (part : TurnPart) (id : InstanceId) : dueTimes part id [] = [] := rfl

theorem dueTimes_turn (msec : Nat) (id : InstanceId) (part : TurnPart) (agenda : List Task) :
    dueTimes part id (.turn msec id part :: agenda) = msec :: dueTimes part id agenda := by
  simp [dueTimes]

theorem dueTimes_other {task : Task} {part : TurnPart} {id : InstanceId}
    (other : ∀ msec, task ≠ .turn msec id part) (agenda : List Task) :
    dueTimes part id (task :: agenda) = dueTimes part id agenda := by
  refine List.filterMap_cons_none ?_
  cases task with
  | turn msec someone its =>
      refine if_neg ?_
      rintro ⟨rfl, rfl⟩
      exact other msec rfl
  | leave => rfl
  | block => rfl

theorem dueTimes_eq_nil {agenda : List Task} (noTurn : ∀ task ∈ agenda, task.isTurn = false)
    (part : TurnPart) (id : InstanceId) : dueTimes part id agenda = [] := by
  refine List.filterMap_eq_nil_iff.2 fun task member => ?_
  cases task with
  | turn msec other its => cases noTurn _ member
  | leave => rfl
  | block => rfl

theorem dueTimes_append (part : TurnPart) (id : InstanceId) (front back : List Task) :
    dueTimes part id (front ++ back) = dueTimes part id front ++ dueTimes part id back :=
  List.filterMap_append

theorem dueTimes_wholeTurn (part : TurnPart) (id : InstanceId) (msec : Nat)
    (self : ScriptInstance) :
    dueTimes part id (Task.wholeTurn msec self) = if self.id = id then [msec] else [] := by
  unfold dueTimes Task.wholeTurn
  by_cases same : self.id = id
  · cases part <;> simp [same]
  · simp [same]

theorem dueTimes_flatMap (part : TurnPart) (id : InstanceId) (msec : Nat)
    {active : List ScriptInstance} (distinct : (active.map ScriptInstance.id).Nodup) :
    dueTimes part id (active.flatMap (Task.wholeTurn msec)) =
      if id ∈ active.map ScriptInstance.id then [msec] else [] := by
  induction active with
  | nil => rfl
  | cons self others ih =>
      rw [List.map_cons, List.nodup_cons] at distinct
      rw [List.flatMap_cons, dueTimes_append, dueTimes_wholeTurn, ih distinct.2, List.map_cons]
      by_cases same : self.id = id
      · subst same
        rw [if_pos rfl, if_neg distinct.1, if_pos List.mem_cons_self, List.append_nil]
      · rw [if_neg same, List.nil_append]
        simp only [List.mem_cons, Ne.symm same, false_or]

/-- When a block begins, the time it counts for is due for everyone who is running. -/
theorem dueTimes_agenda (part : TurnPart) (id : InstanceId) (operation : Operation ε)
    {active : List ScriptInstance} (distinct : (active.map ScriptInstance.id).Nodup) :
    dueTimes part id (operation.agenda active) =
      if id ∈ active.map ScriptInstance.id then (Act.begin operation).msec?.toList else [] := by
  cases operation with
  | maintain frames rate rig =>
      rw [Operation.agenda, dueTimes_append, dueTimes_flatMap part id _ distinct,
        dueTimes_eq_nil (by simp [Task.isTurn]), List.append_nil]
      rfl
  | _ =>
      rw [dueTimes_eq_nil (by simp [Operation.agenda, Task.isTurn])]
      exact (ite_self _).symm

end Times

/-- An act begins an operation, is for what is next on the agenda, or is done in between. -/
theorem Proceeds.agenda_eq {before after : Stage ε} {act : Act ε}
    (proceeds : Proceeds before act after) :
    (∃ operation, act = .begin operation ∧ before.agenda = [] ∧
      after.agenda = operation.agenda after.moment.roster.active) ∨
    (∃ msec id part, act = .turn id part ∧ before.agenda = .turn msec id part :: after.agenda) ∨
    act.msec? = none ∧ (∀ id part, act ≠ .turn id part) ∧
      ∃ seenTo, before.agenda = seenTo ++ after.agenda ∧ ∀ task ∈ seenTo, task.isTurn = false := by
  cases proceeds with
  | begin rests operation => exact .inl ⟨operation, rfl, rfl, rfl⟩
  | turn carriedOut stands msec part => exact .inr (.inl ⟨msec, _, part, rfl, rfl⟩)
  | leave rests => exact .inr (.inr ⟨rfl, nofun, [.leave], rfl, by simp [Task.isTurn]⟩)
  | block rests => exact .inr (.inr ⟨rfl, nofun, [.block], rfl, by simp [Task.isTurn]⟩)
  | _ => exact .inr (.inr ⟨rfl, nofun, [], rfl, by simp⟩)

theorem Proceeds.agenda_of_time {before after : Stage ε} {act : Act ε}
    (proceeds : Proceeds before act after) {time : Nat} (lasts : act.time? = some time) :
    before.agenda = [] := by
  cases proceeds with
  | begin rests operation => rfl
  | _ => cases lasts

theorem Proceeds.next_of_turn {before after : Stage ε} {id : InstanceId} {part : TurnPart}
    (proceeds : Proceeds before (.turn id part) after) :
    ∃ msec rest, before.agenda = .turn msec id part :: rest := by
  cases proceeds with
  | turn carriedOut stands msec part => exact ⟨msec, _, rfl⟩

/-- A part of a turn takes the time that is due next. -/
theorem Proceeds.due_turn {before after : Stage ε} {id : InstanceId} {part : TurnPart}
    (proceeds : Proceeds before (.turn id part) after) {msec : Nat} {rest : List Task}
    (next : before.agenda = .turn msec id part :: rest) :
    dueTimes part id before.agenda = msec :: dueTimes part id after.agenda := by
  rcases proceeds.agenda_eq with ⟨_, isBegin, -⟩ | ⟨time, _, _, isTurn, agenda⟩ | ⟨-, unturned, -⟩
  · cases isBegin
  · cases isTurn
    rw [next] at agenda
    injection agenda with isTask isRest
    injection isTask with isTime
    rw [next, dueTimes_turn, isRest]
  · exact absurd rfl (unturned id part)

/-- Until the turn that it counts in, a time is due from the beginning of the block on. -/
theorem Proceeds.due_other {before after : Stage ε} {act : Act ε}
    (proceeds : Proceeds before act after) (numbered : after.moment.IsNumbered)
    {id : InstanceId} {part : TurnPart} (elsewhere : act ≠ .turn id part) :
    dueTimes part id after.agenda = dueTimes part id before.agenda ++
      if id ∈ after.moment.roster.active.map ScriptInstance.id then act.msec?.toList else [] := by
  rcases proceeds.agenda_eq with
    ⟨operation, rfl, nothing, agenda⟩ | ⟨msec, other, its, rfl, agenda⟩ |
    ⟨timeless, -, seenTo, agenda, noTurn⟩
  · rw [agenda, nothing, dueTimes_agenda part id operation numbered.distinct]
    rfl
  · rw [agenda, dueTimes_other, show (Act.turn other its : Act ε).msec? = none from rfl,
      Option.toList_none, ite_self, List.append_nil]
    rintro _ ⟨⟩
    exact elsewhere rfl
  · rw [agenda, dueTimes_append, dueTimes_eq_nil noTurn, timeless, Option.toList_none, ite_self,
      List.append_nil, List.nil_append]

/-- While something is being carried out, no turn is to come. -/
def Stage.IsTimely {ε : Type} (stage : Stage ε) : Prop :=
  stage.moment.pending ≠ [] → ∀ task ∈ stage.agenda, task.isTurn = false

theorem Proceeds.timely {before after : Stage ε} {act : Act ε}
    (proceeds : Proceeds before act after) (ordered : before.IsOrdered)
    (timely : before.IsTimely) : after.IsTimely := by
  cases proceeds with
  | begin rests operation =>
      cases operation with
      | run action rig => exact fun _ => nofun
      | cancel author track rig => exact fun _ => nofun
      | stopAll rig =>
          intro _ task member
          rw [List.mem_singleton.1 member]
          rfl
      | _ => exact fun some_pending => absurd rests.1 some_pending
  | turn carriedOut stands msec part => exact fun some_pending => absurd carriedOut some_pending
  | launch front => exact fun _ => timely (front ▸ List.cons_ne_nil _ _)
  | cancel front => exact fun _ => timely (front ▸ List.cons_ne_nil _ _)
  | @round moment agenda carriedOut turned asked more =>
      intro _ task member
      cases agenda with
      | nil => cases member
      | cons first rest =>
          have isFirst : first.isTurn = false := by
            cases first with
            | turn msec id part => exact absurd rfl (turned msec id part rest)
            | _ => rfl
          rcases List.mem_cons.1 member with rfl | isLater
          · exact isFirst
          · rcases List.rel_of_pairwise_cons ordered isLater with isTurn | ⟨-, rfl⟩
            · rw [isFirst] at isTurn
              cases isTurn
            · rfl
  | drop carriedOut turned asked last => exact fun some_pending => absurd carriedOut some_pending
  | leave rests => exact fun some_pending => absurd rests.1 some_pending
  | block rests => exact fun some_pending => absurd rests.1 some_pending
  | _ => exact timely

/-- Scripts are timed alike throughout, instances are counted on, and libraries are installed. -/
theorem Proceeds.lasting {before after : Stage ε} {act : Act ε}
    (proceeds : Proceeds before act after) :
    after.config = before.config ∧
      before.moment.roster.lastId ≤ after.moment.roster.lastId ∧
      (after.moment.roster.shared.library = before.moment.roster.shared.library ∨
        ∃ library, act = .begin (.install library) ∧
          after.moment.roster.shared.library = library) := by
  cases proceeds with
  | @begin moment rests operation =>
      refine ⟨?_, Nat.le_of_eq (moment.lastId_informed operation).symm, ?_⟩
      · cases operation with
        | maintain frames rate rig =>
            have kept := moment.roster.deliverCompletions_eq
              { rig.kernel with completed := rig.kernel.completed.drain.2 }
              rig.kernel.completed.drain.1
            exact (congrArg Roster.config kept :)
        | _ => rfl
      · cases operation with
        | maintain frames rate rig =>
            have kept := moment.roster.deliverCompletions_eq
              { rig.kernel with completed := rig.kernel.completed.drain.2 }
              rig.kernel.completed.drain.1
            exact .inl (congrArg (fun roster => roster.shared.library) kept :)
        | install library => exact .inr ⟨library, rfl, rfl⟩
        | _ => exact .inl rfl
  | step stands due asks => exact ⟨rfl, Nat.le_refl _, .inl due.step.evolves.library⟩
  | @launch moment agenda action others front =>
      change (moment.roster.reach action).1.config = _ ∧ _ ≤ (moment.roster.reach action).1.lastId ∧
        ((moment.roster.reach action).1.shared.library = _ ∨ _)
      rcases moment.roster.roster_reach action with
        same | ⟨position, self, taken, -, -, isReached⟩ | ⟨script, -, isReached⟩
      · rw [same]
        exact ⟨rfl, Nat.le_refl _, .inl rfl⟩
      · rw [isReached]
        exact ⟨rfl, Nat.le_refl _, .inl rfl⟩
      · rw [isReached]
        exact ⟨rfl, Nat.le_succ _, .inl rfl⟩
  | @cancel moment agenda author track others front =>
      rw [Roster.value_stopOthers]
      exact ⟨rfl, Nat.le_refl _, .inl rfl⟩
  | _ => exact ⟨rfl, Nat.le_refl _, .inl rfl⟩

end Looper
