import Looper.Proofs.Script.Ending
import Mathlib.Logic.Relation

/-!
# Every history unfolds into moments

Each operation on the roster is a stretch of moves that begins with it and ends
with what it gives back, and so is every history of operations.  Completions of
kernel requests are told at the beginning of a block; apart from that, all that
an operation does is the work of the scripts themselves.
-/

namespace Looper

open Roster (Operation)

variable {ε : Type} [Engine ε]

omit [Engine ε] in
theorem begun_append (front back : List (Deed ε × Moment ε)) :
    begun (front ++ back) = begun front ++ begun back :=
  List.filterMap_append

/-- One moment leads to another without an operation that begins. -/
def Passes (first last : Moment ε) : Prop :=
  ∃ steps, Moves first steps last ∧ begun steps = []

namespace Passes

theorem refl (moment : Moment ε) : Passes moment moment :=
  ⟨[], .nil moment, rfl⟩

theorem trans {first middle last : Moment ε} (earlier : Passes first middle)
    (later : Passes middle last) : Passes first last := by
  obtain ⟨front, toMiddle, noneEarlier⟩ := earlier
  obtain ⟨back, toLast, noneLater⟩ := later
  refine ⟨front ++ back, toMiddle.append toLast, ?_⟩
  rw [begun_append, noneEarlier, noneLater, List.append_nil]

theorem move {first last : Moment ε} {deed : Deed ε} (move : Move first deed last)
    (inside : deed.operation? = none) : Passes first last :=
  ⟨[(deed, last)], .cons move (.nil last), by simp [begun, inside]⟩

end Passes

/-! ## The work of scripts -/

/-- An instance is told of anything but a completion, or time passes for it. -/
inductive ScriptInstance.Noted (self : ScriptInstance) : ScriptInstance → Prop where
  | event (event : EventId) : Noted self (self.finishEvent event)
  | function (symbol : SymbolId) : Noted self (self.finishFunction symbol)
  | block (block : Nat) : Noted self (self.releaseBlock block)
  | held (msec holdTime : Nat) : Noted self (self.advanceSustain msec holdTime).2
  | clicking (msec window : Nat) : Noted self (self.advanceClick msec window).2

omit [Engine ε] in
theorem ScriptInstance.Noted.told {self later : ScriptInstance} (noted : self.Noted later) :
    self.Told later := by
  cases noted with
  | event event => exact .event event
  | function symbol => exact .function symbol
  | block block => exact .block block
  | held msec holdTime => exact .held msec holdTime
  | clicking msec window => exact .clicking msec window

omit [Engine ε] in
theorem ScriptInstance.Ages.noted {self later : ScriptInstance} (ages : self.Ages later) :
    self.Noted later := by
  cases ages with
  | block block => exact .block block
  | held msec holdTime => exact .held msec holdTime
  | clicking msec window => exact .clicking msec window

/-- A move in the work of scripts: nothing begins, and no completion arrives. -/
inductive Work : Moment ε → Deed ε → Moment ε → Prop where
  | act {before after : Moment ε} {deed : Deed ε} (move : Move before deed after)
      (own : deed.isOwn = true) : Work before deed after
  | note {moment : Moment ε} {position : Nat} {self later : ScriptInstance}
      (stands : moment.roster.active[position]? = some self) (noted : self.Noted later) :
      Work moment (.tell self.id) (moment.replace position later)

theorem Work.move {before after : Moment ε} {deed : Deed ε} (work : Work before deed after) :
    Move before deed after := by
  cases work with
  | act move own => exact move
  | note stands noted => exact .tell stands noted.told

theorem Work.inside {before after : Moment ε} {deed : Deed ε} (work : Work before deed after) :
    deed.operation? = none := by
  cases work with
  | act move own => cases deed <;> first | rfl | cases own
  | note stands noted => rfl

/-- What scripts do step by step is their work. -/
theorem Labor.work {before after : Moment ε} {deed : Deed ε} (labor : Labor before deed after) :
    Work before deed after := by
  cases labor with
  | step stands due => exact .act (.step stands due.step) rfl
  | age stands ages => exact .note stands ages.noted
  | launch front target pressed found => exact .act (.launch front found) rfl
  | act move routine =>
      refine .act move ?_
      cases deed <;> first | exact routine | cases routine

/-- One moment leads to another by the work of scripts. -/
abbrev Works : Moment ε → Moment ε → Prop :=
  Relation.ReflTransGen fun before after => ∃ deed, Work before deed after

theorem Passes.of_works {first last : Moment ε} (works : Works first last) :
    Passes first last := by
  induction works with
  | refl => exact .refl _
  | tail _ work ih =>
      obtain ⟨_, work⟩ := work
      exact ih.trans (.move work.move work.inside)

theorem Labors.works {first last : Moment ε} {spent : Nat} (labors : Labors first spent last) :
    Works first last := by
  induction labors with
  | refl => exact .refl
  | tail _ labor ih => exact ih.tail ⟨_, labor.work⟩

theorem LaborsWithin.works {first last : Moment ε} {most : Nat}
    (labors : LaborsWithin first most last) : Works first last := by
  obtain ⟨spent, -, all⟩ := labors
  exact all.works

namespace Moment

/-! ## Telling every instance -/

omit [Engine ε] in
/-- What holds when one instance is told of something holds when every instance is. -/
theorem related_tellAll {related : Moment ε → Moment ε → Prop}
    (refl : ∀ moment, related moment moment)
    (trans : ∀ {first middle last}, related first middle → related middle last →
      related first last)
    {change : ScriptInstance → ScriptInstance}
    (each : ∀ (moment : Moment ε) (position : Nat) (self : ScriptInstance),
      moment.roster.active[position]? = some self →
        related moment (moment.replace position (change self)))
    (moment : Moment ε) (active done : List ScriptInstance) :
    related (moment.withActive (done ++ active))
      (moment.withActive (done ++ active.map change)) := by
  induction active generalizing done with
  | nil => exact refl _
  | cons self others ih =>
      have tells := each (moment.withActive (done ++ self :: others)) _ _
        (getElem?_behind done others self)
      have goesOn := ih (done ++ [change self])
      simp only [replace, withActive, set_behind] at tells
      simp only [List.append_assoc, List.singleton_append] at goesOn
      exact trans tells goesOn

theorem works_mapActive (moment : Moment ε) {change : ScriptInstance → ScriptInstance}
    (noted : ∀ self : ScriptInstance, self.Noted (change self)) :
    Works moment { moment with roster := moment.roster.mapActive change } :=
  related_tellAll (fun _ => .refl) .trans
    (fun _ _ self stands => .single ⟨_, .note stands (noted self)⟩)
    moment moment.roster.active []

theorem passes_deliverCompletions (moment : Moment ε) (events : List KernelEvent) :
    Passes moment
      (moment.arrive
        ((moment.roster.deliverCompletions moment.rig.kernel events).1,
          { moment.rig with
            kernel := (moment.roster.deliverCompletions moment.rig.kernel events).2 })) := by
  induction events generalizing moment with
  | nil => exact .refl moment
  | cons event rest ih =>
      have told := related_tellAll Passes.refl Passes.trans
        (fun _ _ _ stands => .move (.tell stands (.kernel event.id event.returnCode)) rfl)
        moment moment.roster.active []
      have recycled : Passes _ _ := .move (@Move.mail ε _
        { moment with
          roster := moment.roster.mapActive fun self =>
            self.finishKernel event.id event.returnCode }
        (moment.rig.kernel.recycle event)) rfl
      exact (told.trans recycled).trans (ih _)

theorem passes_hearCompletions (moment : Moment ε) :
    Passes moment (moment.arrive (moment.roster.hearCompletions moment.rig)) := by
  have drained : Passes moment _ := .move
    (.mail { moment.rig.kernel with completed := moment.rig.kernel.completed.drain.2 }) rfl
  exact drained.trans (passes_deliverCompletions _ moment.rig.kernel.completed.drain.1)

/-! ## Operations -/

theorem works_informed (moment : Moment ε) (operation : Operation ε) :
    Works (moment.heard operation) (moment.informed operation) := by
  cases operation with
  | finishEvent event => exact works_mapActive _ fun self => .event event
  | finishFunction symbol => exact works_mapActive _ fun self => .function symbol
  | _ => exact .refl

theorem passes_informed (moment : Moment ε) (operation : Operation ε) :
    Passes moment (moment.informed operation) := by
  have hears : Passes moment (moment.heard operation) := by
    cases operation with
    | maintain frames rate rig => exact moment.passes_hearCompletions
    | _ => exact .refl _
  exact hears.trans (.of_works (moment.works_informed operation))

/-- What an operation does to a roster at rest, completions apart, is the work of scripts. -/
theorem works_operate (moment : Moment ε) (rests : moment.IsAtRest) (operation : Operation ε) :
    ∃ last, Works ((moment.begin operation).heard operation) last ∧ last.IsAtRest ∧
      last.state = Roster.outcome moment.state operation := by
  obtain ⟨most, last, labors, atRest, isLast⟩ := moment.labors_operate rests operation
  exact ⟨last, (works_informed _ operation).trans labors.works, atRest, isLast⟩

theorem passes_operate (moment : Moment ε) (rests : moment.IsAtRest) (operation : Operation ε) :
    ∃ last, Passes (moment.begin operation) last ∧ last.IsAtRest ∧
      last.state = Roster.outcome moment.state operation := by
  obtain ⟨most, last, labors, atRest, isLast⟩ := moment.labors_operate rests operation
  exact ⟨last, (passes_informed _ operation).trans (.of_works labors.works), atRest, isLast⟩

end Moment

/-- Every act is a stretch of moves. -/
theorem Proceeds.moves {before after : Stage ε} {act : Act ε}
    (proceeds : Proceeds before act after) :
    ∃ steps, Moves before.moment steps after.moment ∧ begun steps = act.operation?.toList := by
  cases isBegin : act.operation? with
  | none =>
      obtain ⟨steps, moves, none⟩ := Passes.of_works (proceeds.labors isBegin).works
      exact ⟨steps, moves, none⟩
  | some operation =>
      cases proceeds with
      | @begin moment rests operation =>
          cases isBegin
          obtain ⟨steps, moves, none⟩ := (moment.begin operation).passes_informed operation
          exact ⟨_, .cons (.begin rests operation) moves, congrArg (operation :: ·) none⟩
      | _ => cases isBegin

theorem Proceedings.moves {first last : Stage ε} {acts : List (Stage ε × Act ε)}
    (proceedings : Proceedings first acts last) :
    ∃ steps, Moves first.moment steps last.moment ∧ begun steps = opened acts := by
  induction proceedings with
  | nil => exact ⟨[], .nil _, rfl⟩
  | @snoc acts before after act _ proceeds ih =>
      obtain ⟨front, earlier, isFront⟩ := ih
      obtain ⟨back, later, isBack⟩ := proceeds.moves
      refine ⟨front ++ back, earlier.append later, ?_⟩
      rw [begun_append, opened_append, opened_singleton, isFront, isBack]

/--
Every history is a stretch of moments: it starts with nothing running, its
operations begin in order, and it ends with nothing waiting and what the last
operation gives back.
-/
theorem moves_outcomes (config : ScriptConfig) (rig : Rig ε) (history : List (Operation ε)) :
    ∃ steps last, Moves (.start config rig) steps last ∧ begun steps = history ∧
      last.IsAtRest ∧ last.state = Roster.outcomes config rig history := by
  obtain ⟨acts, last, proceedings, isHistory, idle, isLast⟩ :=
    proceedings_outcomes config rig history
  obtain ⟨steps, moves, isBegun⟩ := Proceedings.moves proceedings
  exact ⟨steps, last.moment, moves, isBegun.trans isHistory, idle.rests, isLast⟩

end Looper
