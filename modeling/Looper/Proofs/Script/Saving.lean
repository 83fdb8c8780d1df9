import Looper.Proofs.Script.Unfolding

/-!
# Saved parameters

`Use` sets a parameter of the engine for as long as the script lives: the instance
saves the value that the parameter had before its first `Use` of it, and puts it
back when it is stopped or leaves.  In between it owes the value to the parameter.
No other move changes what is owed.
-/

namespace Looper

/-! ## Parameters of an engine -/

structure Cell where
  track : Option TrackId
  name : String
  deriving DecidableEq, Repr

namespace Cell

/-- Whether a track and a name mean the parameter; names are compared without case. -/
def isAt (cell : Cell) (track : Option TrackId) (name : String) : Bool :=
  track == cell.track && Text.sameName name cell.name

def isOf (cell : Cell) (saved : SavedParameter) : Bool :=
  cell.isAt saved.track saved.name

def read {ε : Type} [Engine ε] (cell : Cell) (engine : ε) : Option Int :=
  Engine.parameter engine cell.track cell.name

end Cell

/-- The engine keeps parameters as they are set, each for itself. -/
class ParameterStore (ε : Type) [Engine ε] : Prop where
  /-- Names are read without regard to case. -/
  read_alike {engine : ε} {cell : Cell} {track : Option TrackId} {name : String} :
    cell.isAt track name = true → Engine.parameter engine track name = cell.read engine
  /-- A parameter that the engine has gets the value that it is set to. -/
  read_set {engine : ε} {cell : Cell} {track : Option TrackId} {name : String} (value : Int) :
    cell.isAt track name = true → (cell.read engine).isSome →
      cell.read (Engine.setParameter engine track name value) = some value
  /-- The other parameters stay as they are. -/
  read_set_other {engine : ε} {cell : Cell} {track : Option TrackId} {name : String}
    (value : Int) : cell.isAt track name = false →
      cell.read (Engine.setParameter engine track name value) = cell.read engine
  read_finished (engine : ε) (cell : Cell) (id : InstanceId) :
    cell.read (Engine.scriptFinished engine id) = cell.read engine

/-! ## What an instance has saved -/

def restored {ε : Type} [Engine ε] (uses : List SavedParameter) (engine : ε) : ε :=
  uses.foldl (fun engine saved => Engine.setParameter engine saved.track saved.name saved.value)
    engine

namespace ScriptInstance

def saved? (self : ScriptInstance) (cell : Cell) : Option Int :=
  (self.uses.find? cell.isOf).map SavedParameter.value

/-- No parameter has been saved twice. -/
def SavesOnce (self : ScriptInstance) : Prop :=
  self.uses.Pairwise fun first second =>
    (Cell.mk first.track first.name).isOf second = false

end ScriptInstance

namespace Cell

/-- What is saved for one spelling of a parameter is saved for every spelling. -/
theorem isOf_alike {cell : Cell} {track : Option TrackId} {name : String}
    (alike : cell.isAt track name = true) (saved : SavedParameter) :
    (Cell.mk track name).isOf saved = cell.isOf saved := by
  obtain ⟨sameTrack, sameName⟩ := Bool.and_eq_true_iff.1 alike
  rw [isOf, isOf, isAt, isAt, beq_iff_eq.1 sameTrack, Text.sameName, Text.sameName,
    Text.sameName_iff.1 sameName]

theorem isOf_comm (first second : SavedParameter) :
    (Cell.mk first.track first.name).isOf second =
      (Cell.mk second.track second.name).isOf first := by
  rw [isOf, isOf, isAt, isAt, Text.sameName, Text.sameName, BEq.comm,
    @BEq.comm _ _ _ (Text.fold second.name)]

end Cell

section Stores

variable {ε : Type} [Engine ε] [ParameterStore ε]

open ParameterStore

theorem read_restored_other {cell : Cell} {uses : List SavedParameter}
    (unsaved : ∀ saved ∈ uses, cell.isOf saved = false) (engine : ε) :
    cell.read (restored uses engine) = cell.read engine := by
  induction uses generalizing engine with
  | nil => rfl
  | cons saved rest ih =>
      obtain ⟨elsewhere, others⟩ := List.forall_mem_cons.1 unsaved
      exact (ih others _).trans (read_set_other saved.value elsewhere)

theorem read_restored {cell : Cell} {self : ScriptInstance} (once : self.SavesOnce) {value : Int}
    (isSaved : self.saved? cell = some value) {engine : ε} (known : (cell.read engine).isSome) :
    cell.read (restored self.uses engine) = some value := by
  unfold ScriptInstance.saved? at isSaved
  unfold ScriptInstance.SavesOnce at once
  generalize self.uses = uses at once isSaved
  induction uses generalizing engine with
  | nil => cases isSaved
  | cons saved rest ih =>
      obtain ⟨alone, others⟩ := List.pairwise_cons.1 once
      by_cases there : cell.isOf saved = true
      · have isValue : saved.value = value := by
          rw [List.find?_cons_of_pos there] at isSaved
          exact Option.some.inj isSaved
        have unsaved : ∀ other ∈ rest, cell.isOf other = false := by
          intro other member
          rw [← Cell.isOf_alike there]
          exact alone other member
        refine (read_restored_other unsaved _).trans ?_
        rw [← isValue]
        exact read_set saved.value there known
      · rw [List.find?_cons_of_neg there] at isSaved
        have elsewhere : cell.isAt saved.track saved.name = false := Bool.eq_false_iff.2 there
        refine ih ?_ others isSaved
        rw [read_set_other saved.value elsewhere]
        exact known

end Stores

/-! ## What a step does to saved values -/

namespace ScriptInstance

theorem uses_unwind (self : ScriptInstance) (frames : List Frame) :
    (self.unwind frames).uses = self.uses := by
  obtain ⟨current, pc, stack, track, isLater, -⟩ := self.unwind_eq frames
  rw [isLater]

theorem uses_notifyKind (self : ScriptInstance) (kind : LabelKind) :
    (self.notifyKind kind).2.uses = self.uses := by
  unfold notifyKind
  split <;> rfl

theorem Elapses.uses {self later : ScriptInstance} (elapses : self.Elapses later) :
    later.uses = self.uses := by
  cases elapses with
  | count => rfl
  | enter sustainElapsed sustainCount clickElapsed clicking kind =>
      exact uses_notifyKind _ kind

theorem Told.uses {self later : ScriptInstance} (told : self.Told later) :
    later.uses = self.uses := by
  cases told with
  | event event =>
      rw [finishEvent_eq]
      rfl
  | kernel event returnCode =>
      rw [finishKernel_eq]
      rfl
  | held msec holdTime => exact (self.elapses_advanceSustain msec holdTime).uses
  | clicking msec window => exact (self.elapses_advanceClick msec window).uses
  | _ => rfl

theorem Entered.uses {self later : ScriptInstance} (entered : self.Entered later) :
    later.uses = self.uses := by
  cases entered with
  | release => exact uses_notifyKind _ _
  | click => exact uses_notifyKind _ _
  | reentry slot => rfl

end ScriptInstance

namespace Run

variable {ε : Type}

theorem uses_follow (run : Run ε) (index : Nat) (flow : Flow) :
    (run.follow index flow).self.uses = run.self.uses := by
  cases flow with
  | finish => exact run.self.uses_unwind run.self.stack
  | _ => rfl

theorem engine_follow (run : Run ε) (index : Nat) (flow : Flow) :
    (run.follow index flow).rig.engine = run.rig.engine := by
  cases flow <;> rfl

variable [Engine ε]

def saving (run : Run ε) (name : String) : List SavedParameter :=
  ((if run.self.uses.any (Cell.mk run.self.track name).isOf then none
    else Engine.parameter run.rig.engine run.self.track name).map fun value =>
      ⟨run.self.track, name, value⟩).toList

/-- Without a number `Use` does nothing; else it saves the parameter and sets it. -/
theorem use_cases (run : Run ε) (name text : String) :
    (run.use name text).value = run ∨
    ∃ number, (run.use name text).value =
      (run.withSelf { run.self with uses := run.self.uses ++ run.saving name }).withEngine
        (Engine.setParameter run.rig.engine run.self.track name number) := by
  unfold use
  simp only [Logged.value_bind]
  split
  · exact .inl rfl
  · exact .inr ⟨_, rfl⟩

theorem Effect.uses {run : Run ε} {index : Nat} {statement : Statement} {flow : Flow}
    {later : Run ε} (effect : run.Effect index statement flow later)
    (other : ∀ name text, statement ≠ .use name text) : later.self.uses = run.self.uses := by
  cases effect with
  | used isNumber saves => exact absurd rfl (other _ _)
  | _ => rfl

theorem Step.uses {run later : Run ε} {statement : Option Statement}
    (step : run.Step statement later)
    (other : ∀ name text, statement ≠ some (.use name text)) :
    later.self.uses = run.self.uses := by
  cases step with
  | wake wakes =>
      obtain ⟨_, _, -, -, rfl⟩ := wake?_eq_some.1 wakes
      rfl
  | endLevel past opened => exact run.self.uses_unwind run.self.stack
  | finish past closed => rfl
  | evaluate ready stands =>
      rw [uses_follow]
      exact (run.effect_evaluate _ _).uses
        fun name text same => other name text (congrArg some same)

end Run

section Using

variable {ε : Type} [Engine ε] {run : Run ε}

/-- A parameter is saved by the first `Use` of it, with the value that it had before. -/
theorem Run.saved?_use {cell : Cell} {name : String} [ParameterStore ε]
    (alike : cell.isAt run.self.track name = true) :
    ({ run.self with uses := run.self.uses ++ run.saving name } : ScriptInstance).saved? cell =
      (run.self.saved? cell).or (cell.read run.rig.engine) := by
  have sameSaved : run.self.uses.any (Cell.mk run.self.track name).isOf =
      (run.self.saved? cell).isSome := by
    rw [ScriptInstance.saved?, Option.isSome_map, List.isSome_find?, funext (Cell.isOf_alike alike)]
  have sameRead : Engine.parameter run.rig.engine run.self.track name =
      cell.read run.rig.engine := ParameterStore.read_alike alike
  rw [ScriptInstance.saved?, List.find?_append, Option.map_or]
  change (run.self.saved? cell).or _ = _
  unfold saving
  rw [sameSaved, sameRead]
  cases run.self.saved? cell with
  | some value => rfl
  | none =>
      cases cell.read run.rig.engine with
      | none => rfl
      | some value =>
          have isSaved : cell.isOf ⟨run.self.track, name, value⟩ = true := alike
          simp [isSaved]

theorem Run.saved?_use_other {cell : Cell} {name : String}
    (elsewhere : cell.isAt run.self.track name = false) :
    ({ run.self with uses := run.self.uses ++ run.saving name } : ScriptInstance).saved? cell =
      run.self.saved? cell := by
  have unsaved : (run.saving name).find? cell.isOf = none := by
    refine List.find?_eq_none.2 fun saved member isSaved => ?_
    obtain ⟨value, -, rfl⟩ := Option.map_eq_some_iff.1 (Option.mem_toList.1 member)
    exact absurd isSaved (Bool.eq_false_iff.1 elsewhere)
  rw [ScriptInstance.saved?, List.find?_append, unsaved, Option.or_none]
  rfl

theorem Run.savesOnce_use (once : run.self.SavesOnce) (name : String) :
    ({ run.self with uses := run.self.uses ++ run.saving name } : ScriptInstance).SavesOnce := by
  unfold ScriptInstance.SavesOnce saving
  split
  · rwa [Option.map_none, Option.toList_none, List.append_nil]
  · next unsaved =>
      refine List.pairwise_append.2 ⟨once, ?_, ?_⟩
      · cases Engine.parameter run.rig.engine run.self.track name with
        | none => exact .nil
        | some value => exact List.pairwise_singleton _ _
      · intro first isFirst second isSecond
        obtain ⟨value, -, rfl⟩ := Option.map_eq_some_iff.1 (Option.mem_toList.1 isSecond)
        rw [Cell.isOf_comm]
        exact Bool.eq_false_iff.2 fun same => unsaved (List.any_eq_true.2 ⟨first, isFirst, same⟩)

end Using

/-! ## What a move does to borrowed parameters -/

namespace Moment

variable {ε : Type}

/-- An instance has a value to give back to a parameter. -/
def Owes (moment : Moment ε) (id : InstanceId) (cell : Cell) (value : Int) : Prop :=
  ∃ self ∈ moment.roster.active, self.id = id ∧ self.saved? cell = some value

/-- The instance with a number has borrowed a parameter. -/
def IsBorrowedBy (moment : Moment ε) (id : InstanceId) (cell : Cell) : Prop :=
  ∃ value, moment.Owes id cell value

def IsBorrowed (moment : Moment ε) (cell : Cell) : Prop :=
  ∃ id, moment.IsBorrowedBy id cell

def read [Engine ε] (moment : Moment ε) (cell : Cell) : Option Int :=
  cell.read moment.rig.engine

/-- Instances are told apart by their numbers, and none has saved a parameter twice. -/
structure IsOrderly (moment : Moment ε) : Prop where
  numbered : moment.IsNumbered
  once : ∀ self ∈ moment.roster.active, self.SavesOnce

theorem IsOrderly.owes_iff {moment : Moment ε} (orderly : moment.IsOrderly)
    {self : ScriptInstance} (member : self ∈ moment.roster.active) {cell : Cell} {value : Int} :
    moment.Owes self.id cell value ↔ self.saved? cell = some value := by
  constructor
  · rintro ⟨other, isOther, same, isSaved⟩
    rwa [← orderly.numbered.unique isOther member same]
  · intro isSaved
    exact ⟨self, member, rfl, isSaved⟩

theorem IsOrderly.owes_unique {moment : Moment ε} (orderly : moment.IsOrderly) {id : InstanceId}
    {cell : Cell} {value other : Int} (owes : moment.Owes id cell value)
    (owesOther : moment.Owes id cell other) : value = other := by
  obtain ⟨self, member, rfl, isSaved⟩ := owes
  exact Option.some.inj (isSaved.symm.trans ((orderly.owes_iff member).1 owesOther))

def borrowers (moment : Moment ε) (cell : Cell) : List InstanceId :=
  (moment.roster.active.filter fun self => (self.saved? cell).isSome).map ScriptInstance.id

theorem isBorrowedBy_iff {moment : Moment ε} {id : InstanceId} {cell : Cell} :
    moment.IsBorrowedBy id cell ↔ id ∈ moment.borrowers cell := by
  simp only [IsBorrowedBy, Owes, borrowers, List.mem_map, List.mem_filter,
    Option.isSome_iff_exists]
  constructor
  · rintro ⟨value, self, member, isId, isSaved⟩
    exact ⟨self, ⟨member, value, isSaved⟩, isId⟩
  · rintro ⟨self, ⟨member, value, isSaved⟩, isId⟩
    exact ⟨value, self, member, isId, isSaved⟩

theorem not_isBorrowed_iff {moment : Moment ε} {cell : Cell} :
    ¬ moment.IsBorrowed cell ↔ moment.borrowers cell = [] := by
  simp only [IsBorrowed, isBorrowedBy_iff, List.eq_nil_iff_forall_not_mem, not_exists]

theorem owes_replace {moment : Moment ε} {position : Nat} {self later : ScriptInstance}
    (stands : moment.roster.active[position]? = some self) (same : later.id = self.id)
    {id : InstanceId} (kept : self.id = id → later.uses = self.uses) {cell : Cell} {value : Int} :
    (moment.replace position later).Owes id cell value ↔ moment.Owes id cell value := by
  have sameSaved (isId : self.id = id) : later.saved? cell = self.saved? cell := by
    rw [ScriptInstance.saved?, ScriptInstance.saved?, kept isId]
  constructor
  · rintro ⟨other, member, isId, isSaved⟩
    rcases List.mem_or_eq_of_mem_set member with earlier | isLater
    · exact ⟨other, earlier, isId, isSaved⟩
    · rw [isLater, same] at isId
      rw [isLater, sameSaved isId] at isSaved
      exact ⟨self, List.mem_of_getElem? stands, isId, isSaved⟩
  · rintro ⟨other, member, isId, isSaved⟩
    rcases mem_set_or_eq stands member later with isSelf | stays
    · obtain ⟨within, -⟩ := List.getElem?_eq_some_iff.1 stands
      rw [isSelf] at isId isSaved
      exact ⟨later, List.mem_set within later, same.trans isId, (sameSaved isId).trans isSaved⟩
    · exact ⟨other, stays, isId, isSaved⟩

end Moment

def Deed.borrows {ε : Type} : Deed ε → Bool
  | .step _ (some (.use ..)) | .stop _ | .leave _ => true
  | _ => false

/-- A deed that may set parameters is a `Use`, or the end of an instance. -/
theorem Deed.borrows_cases {ε : Type} {deed : Deed ε} (borrows : deed.borrows = true) :
    (∃ id name text, deed = .step id (some (.use name text))) ∨
      ∃ id, deed = .stop id ∨ deed = .leave id := by
  unfold Deed.borrows at borrows
  split at borrows
  · exact .inl ⟨_, _, _, rfl⟩
  · exact .inr ⟨_, .inl rfl⟩
  · exact .inr ⟨_, .inr rfl⟩
  · cases borrows

section Moving

variable {ε : Type} [Engine ε]

theorem savesOnce_launched (roster : Roster) (script : Script) (action : Action) :
    (roster.launched script action).uses = [] := by
  unfold Roster.launched
  split <;> rfl

theorem Run.Step.savesOnce {run later : Run ε} {statement : Option Statement}
    (step : run.Step statement later) (once : run.self.SavesOnce) : later.self.SavesOnce := by
  by_cases isUse : ∃ name text, statement = some (.use name text)
  · obtain ⟨name, text, rfl⟩ := isUse
    cases step with
    | evaluate ready stands =>
        unfold ScriptInstance.SavesOnce
        rw [Run.uses_follow]
        simp only [Run.evaluate, Logged.value_bind, Logged.value_pure]
        rcases run.use_cases name text with same | ⟨number, sets⟩
        · rw [same]
          exact once
        · rw [sets]
          exact Run.savesOnce_use once name
  · have same := step.uses fun name text other => isUse ⟨name, text, other⟩
    unfold ScriptInstance.SavesOnce
    rw [same]
    exact once

theorem Move.orderly {before after : Moment ε} {deed : Deed ε} (move : Move before deed after)
    (orderly : before.IsOrderly) : after.IsOrderly := by
  refine ⟨move.numbered orderly.numbered, ?_⟩
  have replaced {position : Nat} {later : ScriptInstance} (once : later.SavesOnce) :
      ∀ self ∈ before.roster.active.set position later, self.SavesOnce := by
    intro self member
    rcases List.mem_or_eq_of_mem_set member with earlier | isLater
    · exact orderly.once self earlier
    · exact isLater ▸ once
  have kept {position : Nat} {self later : ScriptInstance}
      (stands : before.roster.active[position]? = some self) (same : later.uses = self.uses) :
      later.SavesOnce := by
    unfold ScriptInstance.SavesOnce
    rw [same]
    exact orderly.once self (List.mem_of_getElem? stands)
  cases move with
  | begin rests operation => cases operation <;> exact orderly.once
  | step stands steps =>
      exact replaced (steps.savesOnce (orderly.once _ (List.mem_of_getElem? stands)))
  | tell stands told => exact replaced (kept stands told.uses)
  | enter front stands unfinished entered => exact replaced (kept stands entered.uses)
  | @launch action rest id script front found =>
      intro self member
      rcases List.mem_append.1 member with earlier | isLaunched
      · exact orderly.once self earlier
      · unfold ScriptInstance.SavesOnce
        rw [List.mem_singleton.1 isLaunched, savesOnce_launched]
        exact .nil
  | stop front stands concerns => exact replaced List.Pairwise.nil
  | leave rests stands finished =>
      exact fun self member => orderly.once self (List.mem_of_mem_eraseIdx member)
  | _ => exact orderly.once

theorem Moves.orderly {first last : Moment ε} {steps : List (Deed ε × Moment ε)}
    (moves : Moves first steps last) (orderly : first.IsOrderly) : last.IsOrderly :=
  moves.keeps (fun _ move => move.orderly) orderly

omit [Engine ε] in
theorem Moment.orderly_start (config : ScriptConfig) (rig : Rig ε) :
    (Moment.start config rig).IsOrderly :=
  ⟨Moment.numbered_start config rig, fun _ member => absurd member List.not_mem_nil⟩

variable {before after : Moment ε} {deed : Deed ε} {id : InstanceId} {cell : Cell}

/-- What an instance has saved is changed only when it evaluates `Use`, is stopped or leaves. -/
theorem Move.owes_iff (move : Move before deed after)
    (unused : ∀ name text, deed ≠ .step id (some (.use name text)))
    (unstopped : deed ≠ .stop id) (remains : deed ≠ .leave id) {value : Int} :
    after.Owes id cell value ↔ before.Owes id cell value := by
  cases move with
  | begin rests operation => cases operation <;> exact Iff.rfl
  | @step position self statement later stands steps =>
      refine Moment.owes_replace stands steps.evolves.id_eq fun isId => ?_
      subst isId
      refine steps.uses fun name text isUse => unused name text ?_
      rw [isUse]
  | tell stands told => exact Moment.owes_replace stands told.continues.id fun _ => told.uses
  | enter front stands unfinished entered =>
      exact Moment.owes_replace stands entered.continues.id fun _ => entered.uses
  | @launch action rest scriptId script front found =>
      constructor
      · rintro ⟨self, member, isId, isSaved⟩
        rcases List.mem_append.1 member with earlier | isLaunched
        · exact ⟨self, earlier, isId, isSaved⟩
        · rw [List.mem_singleton.1 isLaunched, ScriptInstance.saved?, savesOnce_launched] at isSaved
          cases isSaved
      · rintro ⟨self, member, isId, isSaved⟩
        exact ⟨self, List.mem_append_left _ member, isId, isSaved⟩
  | @stop author track rest position self front stands concerns =>
      exact Moment.owes_replace stands (self.continues_stop before.rig.engine).id fun isId =>
        absurd (congrArg Deed.stop isId) unstopped
  | @leave position self rests stands finished =>
      constructor
      · rintro ⟨other, member, isId, isSaved⟩
        exact ⟨other, List.mem_of_mem_eraseIdx member, isId, isSaved⟩
      · rintro ⟨other, member, isId, isSaved⟩
        obtain ⟨place, isOther⟩ := List.mem_iff_getElem?.1 member
        refine ⟨other, List.mem_eraseIdx_iff_getElem?.2 ⟨place, fun samePlace => ?_, isOther⟩, isId,
          isSaved⟩
        rw [samePlace, stands] at isOther
        rw [← Option.some.inj isOther] at isId
        exact remains (congrArg Deed.leave isId)
  | _ => exact Iff.rfl

/-- Whoever is stopped or leaves has nothing saved any more. -/
theorem Move.settles (move : Move before deed after) (orderly : before.IsOrderly)
    (ends : deed = .stop id ∨ deed = .leave id) : ¬ after.IsBorrowedBy id cell := by
  have orderlyAfter := move.orderly orderly
  rintro ⟨value, owes⟩
  cases move with
  | @stop author track rest position self front stands concerns =>
      have isId : self.id = id := by
        rcases ends with isStop | isLeave
        · exact Deed.stop.inj isStop
        · cases isLeave
      obtain ⟨within, -⟩ := List.getElem?_eq_some_iff.1 stands
      have stands : (self.stop before.rig.engine).1 ∈
          before.roster.active.set position (self.stop before.rig.engine).1 :=
        List.mem_set within _
      have isSaved := (orderlyAfter.owes_iff stands).1 (isId ▸ owes)
      cases isSaved
  | @leave position self rests stands finished =>
      have isId : self.id = id := by
        rcases ends with isStop | isLeave
        · cases isStop
        · exact Deed.leave.inj isLeave
      obtain ⟨other, member, sameId, -⟩ := owes
      obtain ⟨place, elsewhere, isOther⟩ := List.mem_eraseIdx_iff_getElem?.1 member
      have distinct := List.Nodup.of_map _ orderly.numbered.distinct
      have same := orderly.numbered.unique (List.mem_of_getElem? isOther)
        (List.mem_of_getElem? stands) (sameId.trans isId.symm)
      rw [same, ← stands] at isOther
      obtain ⟨within, -⟩ := List.getElem?_eq_some_iff.1 stands
      exact elsewhere ((List.getElem?_inj within distinct).1 isOther.symm).symm
  | _ => rcases ends with isStop | isLeave <;> contradiction

/-- Only `Use` and the putting back of saved values may change a parameter. -/
def Leaves (cell : Cell) (before : Moment ε) (deed : Deed ε) (after : Moment ε) : Prop :=
  deed.borrows = false → after.read cell = before.read cell

variable [ParameterStore ε]

/-- `Use` concerns one parameter; it saves its value unless that has been done. -/
theorem Run.Step.use {run later : Run ε} {name text : String}
    (step : run.Step (some (.use name text)) later) (cell : Cell) :
    (later.self.saved? cell = run.self.saved? cell ∧
        cell.read later.rig.engine = cell.read run.rig.engine) ∨
      later.self.saved? cell = (run.self.saved? cell).or (cell.read run.rig.engine) ∧
        ((cell.read run.rig.engine).isSome → (cell.read later.rig.engine).isSome) := by
  cases step with
  | evaluate ready stands =>
      rw [Run.engine_follow, ScriptInstance.saved?, Run.uses_follow]
      simp only [Run.evaluate, Logged.value_bind, Logged.value_pure]
      rcases run.use_cases name text with same | ⟨number, sets⟩
      · rw [same]
        exact .inl ⟨rfl, rfl⟩
      · rw [sets]
        by_cases alike : cell.isAt run.self.track name = true
        · refine .inr ⟨Run.saved?_use alike, fun known => ?_⟩
          exact Option.isSome_of_eq_some (ParameterStore.read_set number alike known)
        · have elsewhere := Bool.eq_false_iff.2 alike
          exact .inl ⟨Run.saved?_use_other elsewhere,
            ParameterStore.read_set_other number elsewhere⟩

theorem Move.use {name text : String}
    (move : Move before (.step id (some (.use name text))) after) (orderly : before.IsOrderly)
    (cell : Cell) :
    ((∀ value, after.Owes id cell value ↔ before.Owes id cell value) ∧
        after.read cell = before.read cell) ∨
      (∀ value, after.Owes id cell value ↔
        before.Owes id cell value ∨ ¬ before.IsBorrowedBy id cell ∧ before.read cell = some value) ∧
      ((before.read cell).isSome → (after.read cell).isSome) := by
  have orderlyAfter := move.orderly orderly
  generalize isStep : Deed.step id (some (.use name text)) = deed at move
  cases move with
  | @step position self statement later stands steps =>
      injection isStep with isId isUse
      subst isId isUse
      obtain ⟨within, -⟩ := List.getElem?_eq_some_iff.1 stands
      have owed (value : Int) : before.Owes self.id cell value ↔ self.saved? cell = some value :=
        orderly.owes_iff (List.mem_of_getElem? stands)
      have owes (value : Int) : (before.withRun position later).Owes self.id cell value ↔
          later.self.saved? cell = some value :=
        steps.evolves.id_eq ▸ orderlyAfter.owes_iff (List.mem_set within later.self)
      refine (steps.use cell).imp (fun ⟨same, sameRead⟩ => ⟨fun value => ?_, sameRead⟩)
        (fun ⟨saves, known⟩ => ⟨fun value => ?_, known⟩)
      · rw [owes, owed, same]
        rfl
      · simp only [Moment.IsBorrowedBy, owes, owed, saves, Option.or_eq_some_iff,
          ← Option.isSome_iff_exists, Bool.not_eq_true, Option.isSome_eq_false_iff,
          Option.isNone_iff_eq_none]
        rfl
  | _ => cases isStep

/-- Whoever is stopped or leaves puts back what it has saved. -/
theorem Move.restores (move : Move before deed after)
    (ends : deed = .stop id ∨ deed = .leave id) (cell : Cell) :
    ∃ self ∈ before.roster.active, self.id = id ∧
      ∃ engine : ε, cell.read engine = before.read cell ∧
        after.read cell = cell.read (restored self.uses engine) := by
  cases move with
  | @stop author track rest position self front stands concerns =>
      refine ⟨self, List.mem_of_getElem? stands, ?_, before.rig.engine, rfl, rfl⟩
      rcases ends with isStop | isLeave
      · exact Deed.stop.inj isStop
      · cases isLeave
  | @leave position self rests stands finished =>
      refine ⟨self, List.mem_of_getElem? stands, ?_,
        Engine.scriptFinished before.rig.engine self.id,
        ParameterStore.read_finished _ cell self.id, ?_⟩
      · rcases ends with isStop | isLeave
        · cases isStop
        · exact Deed.leave.inj isLeave
      · change cell.read (Roster.seeOff self before.rig).value.2.engine = _
        rw [engine_seeOff]
        rfl
  | _ => rcases ends with isStop | isLeave <;> contradiction

/-- A borrowed parameter gets back the value that the instance owes to it. -/
theorem Move.repays (move : Move before deed after) (orderly : before.IsOrderly)
    (ends : deed = .stop id ∨ deed = .leave id) {value : Int} (owes : before.Owes id cell value)
    (known : (before.read cell).isSome) : after.read cell = some value := by
  obtain ⟨self, member, rfl, engine, sameRead, isRestored⟩ := move.restores ends cell
  rw [isRestored]
  exact read_restored (orderly.once self member) ((orderly.owes_iff member).1 owes)
    (sameRead ▸ known)

theorem Move.repays_nothing (move : Move before deed after)
    (ends : deed = .stop id ∨ deed = .leave id) (free : ¬ before.IsBorrowedBy id cell) :
    after.read cell = before.read cell := by
  obtain ⟨self, member, rfl, engine, sameRead, isRestored⟩ := move.restores ends cell
  rw [isRestored, ← sameRead]
  refine read_restored_other (fun saved isUse => Bool.eq_false_iff.2 fun isOf => free ?_) engine
  obtain ⟨first, found⟩ :=
    Option.isSome_iff_exists.1 (List.find?_isSome.2 ⟨saved, isUse, isOf⟩)
  exact ⟨first.value, self, member, rfl, by rw [ScriptInstance.saved?, found]; rfl⟩

/-- Whoever has borrowed a parameter either has it still or has given back its value. -/
theorem Move.lends (move : Move before deed after) (orderly : before.IsOrderly) {value : Int}
    (owes : before.Owes id cell value) (known : (before.read cell).isSome) :
    after.Owes id cell value ∨ (deed = .stop id ∨ deed = .leave id) ∧
      ¬ after.IsBorrowedBy id cell ∧ after.read cell = some value := by
  by_cases ends : deed = .stop id ∨ deed = .leave id
  · exact .inr ⟨ends, move.settles orderly ends, move.repays orderly ends owes known⟩
  · left
    by_cases isUse : ∃ name text, deed = .step id (some (.use name text))
    · obtain ⟨name, text, rfl⟩ := isUse
      rcases move.use orderly cell with ⟨same, -⟩ | ⟨saves, -⟩
      · exact (same value).2 owes
      · exact (saves value).2 (.inl owes)
    · obtain ⟨unstopped, remains⟩ := not_or.1 ends
      exact (move.owes_iff (fun name text same => isUse ⟨name, text, same⟩) unstopped remains).2
        owes

/-- Whoever borrows a parameter does so by `Use`, and owes it the value it has then. -/
theorem Move.takes (move : Move before deed after) (orderly : before.IsOrderly)
    (free : ¬ before.IsBorrowedBy id cell) {value : Int} (owes : after.Owes id cell value) :
    before.read cell = some value ∧ ∃ name text, deed = .step id (some (.use name text)) := by
  by_cases ends : deed = .stop id ∨ deed = .leave id
  · exact absurd ⟨value, owes⟩ (move.settles orderly ends)
  · by_cases isUse : ∃ name text, deed = .step id (some (.use name text))
    · obtain ⟨name, text, rfl⟩ := isUse
      rcases move.use orderly cell with ⟨same, -⟩ | ⟨saves, -⟩
      · exact absurd ⟨value, (same value).1 owes⟩ free
      · rcases (saves value).1 owes with earlier | ⟨-, isValue⟩
        · exact absurd ⟨value, earlier⟩ free
        · exact ⟨isValue, name, text, rfl⟩
    · obtain ⟨unstopped, remains⟩ := not_or.1 ends
      have earlier : before.Owes id cell value :=
        (move.owes_iff (fun name text same => isUse ⟨name, text, same⟩) unstopped remains).1 owes
      exact absurd ⟨value, earlier⟩ free

theorem Move.read_of_free (move : Move before deed after) (orderly : before.IsOrderly)
    (leaves : Leaves cell before deed after) (known : (before.read cell).isSome)
    (free : ¬ before.IsBorrowed cell) (stillFree : ¬ after.IsBorrowed cell) :
    after.read cell = before.read cell := by
  cases borrows : deed.borrows with
  | false => exact leaves borrows
  | true =>
      rcases Deed.borrows_cases borrows with ⟨id, name, text, rfl⟩ | ⟨id, ends⟩
      · rcases move.use orderly cell with ⟨-, same⟩ | ⟨saves, -⟩
        · exact same
        · obtain ⟨value, isValue⟩ := Option.isSome_iff_exists.1 known
          have owes := (saves value).2 (.inr ⟨fun borrowed => free ⟨id, borrowed⟩, isValue⟩)
          exact absurd ⟨id, value, owes⟩ stillFree
      · exact move.repays_nothing ends fun borrowed => free ⟨id, borrowed⟩

theorem Move.read_isSome (move : Move before deed after) (orderly : before.IsOrderly)
    (leaves : Leaves cell before deed after) (known : (before.read cell).isSome) :
    (after.read cell).isSome := by
  cases borrows : deed.borrows with
  | false => rwa [leaves borrows]
  | true =>
      rcases Deed.borrows_cases borrows with ⟨id, name, text, rfl⟩ | ⟨id, ends⟩
      · rcases move.use orderly cell with ⟨-, same⟩ | ⟨-, stays⟩
        · rwa [same]
        · exact stays known
      · by_cases borrowed : before.IsBorrowedBy id cell
        · obtain ⟨value, owes⟩ := borrowed
          exact Option.isSome_of_eq_some (move.repays orderly ends owes known)
        · rwa [move.repays_nothing ends borrowed]

end Moving

end Looper
