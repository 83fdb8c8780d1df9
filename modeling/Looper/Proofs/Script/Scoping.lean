import Looper.Proofs.Script.Naming
import Looper.Proofs.Script.Answering

/-!
# Variables through a session

Only a `Variable` or a `Set` that is evaluated writes a variable: one of its own instance, or
one that all instances share.  What a name has been set to is read until the variable that is
read is written again, whatever the other instances do meanwhile.
-/

namespace Looper

open Roster (Operation)

/-! ## What statements write -/

def Statement.written? : Statement → Option String
  | .declare _ name _ | .assign name _ => some name
  | _ => none

/-- A variable of one instance or of all, and the value it is given. -/
structure Writing where
  everywhere : Bool
  name : String
  value : String

/-- The variables of one instance, or of all, after a writing. -/
def Variables.after (everywhere : Bool) (vars : Variables) : Option Writing → Variables
  | some writing =>
      if writing.everywhere = everywhere then Variables.set writing.name writing.value vars
      else vars
  | none => vars

theorem Variables.IsDistinct.after {vars : Variables} (distinct : vars.IsDistinct)
    (everywhere : Bool) (writing : Option Writing) :
    (Variables.after everywhere vars writing).IsDistinct := by
  cases writing with
  | none => exact distinct
  | some writing =>
      rw [Variables.after]
      split
      · exact distinct.set _ _
      · exact distinct

/-- A writing leaves what other names read, and the variables that it is not meant for. -/
theorem Variables.get?_after {everywhere : Bool} {writing : Option Writing} {name : String}
    (apart : ∀ written, writing = some written → written.everywhere = everywhere →
      Text.sameName written.name name = false) (vars : Variables) :
    Variables.get? (Variables.after everywhere vars writing) name = Variables.get? vars name := by
  cases writing with
  | none => rfl
  | some written =>
      rw [Variables.after]
      split
      · next meant =>
          rw [Variables.get?_set, apart written rfl meant]
          rfl
      · rfl

namespace Run

variable {ε : Type} [Engine ε]

/-- What a statement writes, if anything. -/
def writing? (run : Run ε) : Statement → Option Writing
  | .declare true name value =>
      if Variables.has run.shared.globals name then none
      else some ⟨true, name, (run.expand value).value⟩
  | .declare false name value => some ⟨false, name, (run.expand value).value⟩
  | .assign name value =>
      if (Internal.ofName? name).isSome then none
      else some ⟨!Variables.has run.self.locals name && Variables.has run.shared.globals name, name,
        (run.expand value).value⟩
  | _ => none

def written (run : Run ε) (statement : Statement) : Run ε :=
  run.withVariables (Variables.after false run.self.locals (run.writing? statement))
    (Variables.after true run.shared.globals (run.writing? statement))

theorem name_of_writing? {run : Run ε} {statement : Statement} {writing : Writing}
    (writes : run.writing? statement = some writing) :
    statement.written? = some writing.name := by
  cases statement with
  | declare everywhere name value =>
      cases everywhere with
      | true =>
          rw [writing?] at writes
          split at writes
          · cases writes
          · cases writes
            rfl
      | false =>
          cases writes
          rfl
  | assign name value =>
      rw [writing?] at writes
      split at writes
      · cases writes
      · cases writes
        rfl
  | _ => cases writes

section Effects

variable {run later : Run ε} {index : Nat} {statement : Statement} {flow : Flow}

/-- A statement that names a variable writes it, and does nothing else. -/
theorem Effect.of_written? (effect : run.Effect index statement flow later) {name : String}
    (names : statement.written? = some name) : flow = .next ∧ later = run.written statement := by
  cases effect with
  | declared => exact ⟨rfl, rfl⟩
  | @declaredForAll name value =>
      rw [written, writing?, Variables.declare_eq]
      cases Variables.has run.shared.globals name <;> exact ⟨rfl, rfl⟩
  | readOnly computed =>
      rw [written, writing?, if_pos computed]
      exact ⟨rfl, rfl⟩
  | assigned settable own =>
      rw [written, writing?, if_neg (Bool.eq_false_iff.1 settable), own]
      exact ⟨rfl, rfl⟩
  | assignedForAll settable shared =>
      rw [written, writing?, if_neg (Bool.eq_false_iff.1 settable), shared]
      exact ⟨rfl, rfl⟩
  | _ => cases names

theorem Effect.keeps_variables (effect : run.Effect index statement flow later)
    (silent : statement.written? = none) :
    later.self.locals = run.self.locals ∧ later.shared.globals = run.shared.globals := by
  cases effect with
  | declared | declaredForAll | assigned settable own | assignedForAll settable shared =>
      cases silent
  | _ => exact ⟨rfl, rfl⟩

theorem Effect.writes (effect : run.Effect index statement flow later) :
    later.self.locals = (run.written statement).self.locals ∧
      later.shared.globals = (run.written statement).shared.globals := by
  cases names : statement.written? with
  | some name =>
      rw [(effect.of_written? names).2]
      exact ⟨rfl, rfl⟩
  | none =>
      have silent : run.writing? statement = none := by
        cases writes : run.writing? statement with
        | none => rfl
        | some writing =>
            rw [name_of_writing? writes] at names
            cases names
      rw [written, silent]
      exact effect.keeps_variables names

end Effects

omit [Engine ε] in
theorem follow_keeps_variables (run : Run ε) (index : Nat) (flow : Flow) :
    (run.follow index flow).self.locals = run.self.locals ∧
      (run.follow index flow).shared = run.shared := by
  cases flow with
  | finish =>
      obtain ⟨current, pc, stack, track, isLater, -⟩ := run.self.unwind_eq run.self.stack
      have isLocals : run.self.endLevel.locals = run.self.locals := by
        rw [ScriptInstance.endLevel, isLater]
      exact ⟨isLocals, rfl⟩
  | _ => exact ⟨rfl, rfl⟩

theorem Due.writes {run later : Run ε} {statement : Statement}
    (due : run.Due (some statement) later) :
    later.self.locals = (run.written statement).self.locals ∧
      later.shared.globals = (run.written statement).shared.globals := by
  cases due with
  | @evaluate index _ free stands =>
      obtain ⟨locals, globals⟩ := (run.effect_evaluate index statement).writes
      obtain ⟨sameLocals, sameShared⟩ := follow_keeps_variables
        (run.evaluate index statement).value.2 index (run.evaluate index statement).value.1
      exact ⟨sameLocals.trans locals, (congrArg ScriptShared.globals sameShared).trans globals⟩

theorem Due.writes_nothing {run later : Run ε} (due : run.Due none later) :
    later.self.locals = run.self.locals ∧ later.shared = run.shared := by
  cases due with
  | wake wakes =>
      obtain ⟨_, _, -, -, rfl⟩ := wake?_eq_some.1 wakes
      exact ⟨rfl, rfl⟩
  | endLevel => exact run.follow_keeps_variables 0 .finish
  | finish => exact ⟨rfl, rfl⟩

/-- A step that names a variable changes the variables and the place, and nothing else. -/
theorem Due.of_written? {run later : Run ε} {statement : Statement} {name : String}
    (due : run.Due (some statement) later) (names : statement.written? = some name) :
    ∃ index, later = (run.written statement).setPlace (some index) := by
  cases due with
  | @evaluate index _ free stands =>
      obtain ⟨leadsOn, written⟩ := (run.effect_evaluate index statement).of_written? names
      rw [leadsOn, written]
      exact ⟨index + 1, rfl⟩

end Run

/-! ## Variables of one instance, and of all -/

namespace ScriptInstance

theorem locals_notifyKind (self : ScriptInstance) (kind : LabelKind) :
    (self.notifyKind kind).2.locals = self.locals := by
  rw [notifyKind]
  split <;> rfl

theorem Told.locals {self later : ScriptInstance} (told : self.Told later) :
    later.locals = self.locals := by
  cases told with
  | event event =>
      rw [finishEvent]
      split <;> rfl
  | kernel event returnCode =>
      rw [finishKernel]
      split <;> split <;> rfl
  | held msec holdTime =>
      rw [advanceSustain]
      split
      · rfl
      · dsimp only
        split
        · rfl
        · exact locals_notifyKind _ _
  | clicking msec window =>
      rw [advanceClick]
      split
      · rfl
      · dsimp only
        split
        · rfl
        · exact locals_notifyKind _ _
  | _ => rfl

theorem Entered.locals {self later : ScriptInstance} (entered : self.Entered later) :
    later.locals = self.locals := by
  cases entered with
  | reentry slot => rfl
  | _ => exact locals_notifyKind _ _

end ScriptInstance

theorem Roster.locals_launched (roster : Roster) (script : Script) (action : Action) :
    (roster.launched script action).locals = [] := by
  rw [launched]
  split <;> rfl

variable {ε : Type} [Engine ε]

/-- Only a step of its own writes the variables of an instance. -/
theorem Befalls.locals {run later : Run ε} {happening : Happening ε}
    (befalls : Befalls run happening later) :
    later.self.locals = run.self.locals ∨
      ∃ statement, happening = .labor (.step run.self.id (some statement)) ∧
        run.Due (some statement) later := by
  cases befalls with
  | @step statement _ due =>
      cases statement with
      | none => exact .inl due.writes_nothing.1
      | some statement => exact .inr ⟨statement, rfl, due⟩
  | hear completion => exact .inl (run.self.told_hear completion).locals
  | age ages => exact .inl ages.noted.told.locals
  | enter unfinished entered => exact .inl entered.locals
  | stop rig => exact .inl rfl
  | others => exact .inl rfl

/-- Only the step of an instance writes the variables of all instances. -/
theorem Happens.globals {before after : Moment ε} {happening : Happening ε}
    (happens : Happens before happening after) :
    after.roster.shared.globals = before.roster.shared.globals ∨
      ∃ author ∈ before.roster.active, ∃ statement later,
        happening = .labor (.step author.id (some statement)) ∧
        (before.runOf author).Due (some statement) later ∧ after.roster.shared = later.shared := by
  cases happens with
  | begin rests operation => cases operation <;> exact .inl rfl
  | hear completion => exact .inl rfl
  | mail kernel => exact .inl rfl
  | labor labor =>
      cases labor with
      | @step position self statement later stands due =>
          cases statement with
          | none => exact .inl (congrArg ScriptShared.globals due.writes_nothing.2)
          | some statement =>
              exact .inr ⟨self, List.mem_of_getElem? stands, statement, later, rfl, due, rfl⟩
      | age => exact .inl rfl
      | launch => exact .inl rfl
      | act move routine =>
          cases move with
          | step stands steps => cases routine
          | begin rests operation => cases routine
          | _ => exact .inl rfl

/-! ## Distinct names -/

/-- Names are distinct among the variables of each running instance, and among those of all. -/
structure Moment.HasDistinctNames {ε : Type} (moment : Moment ε) : Prop where
  globals : moment.roster.shared.globals.IsDistinct
  locals : ∀ self ∈ moment.roster.active, self.locals.IsDistinct

theorem Happens.hasDistinctNames {before after : Moment ε} {happening : Happening ε}
    (happens : Happens before happening after) (numbered : before.IsNumbered)
    (distinct : before.HasDistinctNames) : after.HasDistinctNames := by
  constructor
  · rcases happens.globals with same | ⟨author, -, statement, later, -, due, isShared⟩
    · rw [same]
      exact distinct.globals
    · rw [isShared, due.writes.2]
      exact distinct.globals.after true _
  · intro later member
    rcases happens.origin numbered member with
      ⟨self, there, -, befalls⟩ | ⟨script, action, -, -, rfl⟩
    · rcases befalls.locals with same | ⟨statement, -, due⟩
      · exact same ▸ distinct.locals self there
      · have written : later.locals = _ := due.writes.1
        rw [written]
        exact (distinct.locals self there).after false _
    · rw [Roster.locals_launched]
      exact List.nodup_nil

theorem Story.hasDistinctNames {first last : Moment ε} {story : List (Moment ε × Happening ε)}
    (tells : Story first story last) (numbered : first.IsNumbered)
    (distinct : first.HasDistinctNames) : last.HasDistinctNames := by
  induction tells with
  | nil => exact distinct
  | snoc earlier happens ih => exact happens.hasDistinctNames (Story.numbered earlier numbered) ih

/-! ## Between two writings -/

/--
A step writes the variable that an instance reads under a name: one of its own by a step of
its own, or the one of all instances while it has none of its own.
-/
def Rewrites (id : InstanceId) (name : String) (passage : Moment ε × Happening ε) : Prop :=
  ∃ author ∈ passage.1.roster.active, ∃ statement writing,
    passage.2 = .labor (.step author.id (some statement)) ∧
    (passage.1.runOf author).writing? statement = some writing ∧
    Text.sameName writing.name name = true ∧
    if writing.everywhere then
      ∀ self ∈ passage.1.roster.active, self.id = id → Variables.has self.locals name = false
    else author.id = id

/-- What an instance has stored under a name stays, unless a step writes that. -/
theorem Happens.keeps_stored {before after : Moment ε} {happening : Happening ε}
    (happens : Happens before happening after) (numbered : before.IsNumbered) {name : String}
    {self later : ScriptInstance} (member : self ∈ before.roster.active)
    (befalls : Befalls (before.runOf self) happening (after.runOf later))
    (kept : ¬ Rewrites self.id name (before, happening)) :
    (after.runOf later).stored? name = (before.runOf self).stored? name := by
  have own : Variables.get? later.locals name = Variables.get? self.locals name := by
    rcases befalls.locals with same | ⟨statement, isStep, due⟩
    · exact congrArg (Variables.get? · name) same
    · have written : later.locals = Variables.after false self.locals _ := due.writes.1
      rw [written, Variables.get?_after]
      intro writing writes isOwn
      rw [Bool.eq_false_iff]
      intro same
      exact kept ⟨self, member, statement, writing, isStep, writes, same, by simp [isOwn]⟩
  change (Variables.get? later.locals name <|> Variables.get? after.roster.shared.globals name) =
    (Variables.get? self.locals name <|> Variables.get? before.roster.shared.globals name)
  rw [own]
  cases hides : Variables.get? self.locals name with
  | some value => rfl
  | none =>
      rcases happens.globals with same | ⟨author, isAuthor, statement, _, isStep, due, isShared⟩
      · rw [same]
      · have written : after.roster.shared.globals =
            Variables.after true before.roster.shared.globals _ := isShared ▸ due.writes.2
        rw [written, Variables.get?_after]
        intro writing writes isCommon
        rw [Bool.eq_false_iff]
        intro same
        refine kept ⟨author, isAuthor, statement, writing, isStep, writes, same, ?_⟩
        rw [if_pos isCommon]
        intro other isOther sameId
        rw [numbered.unique isOther member sameId, Variables.has_eq, hides]
        rfl

theorem Story.lastId_le {first last : Moment ε} {story : List (Moment ε × Happening ε)}
    (tells : Story first story last) : first.roster.lastId ≤ last.roster.lastId := by
  induction tells with
  | nil => exact Nat.le_refl _
  | snoc _ happens ih => exact ih.trans happens.lastId_le

theorem Story.keeps_stored {first last : Moment ε} {story : List (Moment ε × Happening ε)}
    (tells : Story first story last) (numbered : first.IsNumbered) {id : InstanceId}
    (known : id ≤ first.roster.lastId) {name value : String}
    (stored : ∀ self ∈ first.roster.active, self.id = id →
      (first.runOf self).stored? name = some value)
    (kept : ∀ passage ∈ story, ¬ Rewrites id name passage) :
    ∀ later ∈ last.roster.active, later.id = id →
      (last.runOf later).stored? name = some value := by
  induction tells with
  | nil => exact stored
  | @snoc front before after happening earlier happens ih =>
      intro later member sameId
      rcases happens.origin (Story.numbered earlier numbered) member with
        ⟨self, there, isSelf, befalls⟩ | ⟨script, action, -, -, rfl⟩
      · have sofar := ih (fun passage isPassage => kept passage (List.mem_append_left _ isPassage))
          self there (isSelf.trans sameId)
        rw [happens.keeps_stored (Story.numbered earlier numbered) there befalls, sofar]
        rw [isSelf, sameId]
        exact kept _ (List.mem_append_right _ (List.mem_singleton_self _))
      · -- Whoever is launched now has a later number.
        rw [(before.roster.launched_eq script action).1] at sameId
        have counted := known.trans (Story.lastId_le earlier)
        rw [← sameId] at counted
        exact absurd counted (Nat.not_succ_le_self _)

/-! ## What a statement does that names a variable -/

namespace Run

variable {run : Run ε} {name value : String}

/-- A variable that all instances share is set if there is one, unless something hides it. -/
theorem globals_written_assign :
    Variables.get? (run.written (.assign name value)).shared.globals name =
      (Variables.get? run.shared.globals name).map fun old =>
        if (Internal.ofName? name).isSome || Variables.has run.self.locals name then old
        else (run.expand value).value := by
  change Variables.get? (Variables.after true _ (run.writing? (.assign name value))) name = _
  rw [writing?]
  cases Internal.ofName? name with
  | some which =>
      change Variables.get? run.shared.globals name = _
      cases Variables.get? run.shared.globals name <;> rfl
  | none =>
      cases Variables.has run.self.locals name with
      | true =>
          change Variables.get? run.shared.globals name = _
          cases Variables.get? run.shared.globals name <;> rfl
      | false =>
          rw [Variables.has_eq]
          cases common : Variables.get? run.shared.globals name with
          | none => exact common
          | some old =>
              change Variables.get? (Variables.set name _ run.shared.globals) name = _
              rw [Variables.get?_set, Text.sameName_refl]
              rfl

theorem globals_written_declare :
    Variables.get? (run.written (.declare true name value)).shared.globals name =
      some ((Variables.get? run.shared.globals name).getD (run.expand value).value) := by
  change Variables.get? (Variables.after true _ (run.writing? (.declare true name value))) name = _
  rw [writing?, Variables.has_eq]
  cases common : Variables.get? run.shared.globals name with
  | some old => exact common
  | none =>
      change Variables.get? (Variables.set name _ run.shared.globals) name = _
      rw [Variables.get?_set, Text.sameName_refl]
      rfl

theorem stored?_written {statement : Statement} (plain : Internal.ofName? name = none)
    (sets : statement = .assign name value ∨ statement = .declare false name value) :
    (run.written statement).stored? name = some (run.expand value).value := by
  have own : (Variables.get? (Variables.set name (run.expand value).value run.self.locals) name <|>
      Variables.get? run.shared.globals name) = some (run.expand value).value := by
    rw [Variables.get?_set, Text.sameName_refl]
    rfl
  rcases sets with rfl | rfl
  · rw [written, writing?, plain]
    cases hides : Variables.has run.self.locals name with
    | true => exact own
    | false =>
        cases common : Variables.has run.shared.globals name with
        | false => exact own
        | true =>
            have absent : Variables.get? run.self.locals name = none := by
              rw [Variables.has_eq] at hides
              exact Option.not_isSome_iff_eq_none.1 (Bool.eq_false_iff.1 hides)
            change (Variables.get? run.self.locals name <|> Variables.get?
              (Variables.set name (run.expand value).value run.shared.globals) name) = _
            rw [absent, Variables.get?_set, Text.sameName_refl]
            rfl
  · exact own

theorem get?_written {statement : Statement} (names : statement.written? = some name)
    (everywhere : Bool) (vars : Variables) (other : String)
    (isOther : Text.sameName name other = false) :
    Variables.get? (Variables.after everywhere vars (run.writing? statement)) other =
      Variables.get? vars other := by
  apply Variables.get?_after
  intro writing writes _
  rw [name_of_writing? writes] at names
  rw [Option.some.inj names]
  exact isOther

theorem Spares.placed {later : Run ε} (spares : Spares name run later) (pc : Option Nat) :
    Spares name run (later.setPlace pc) := by
  constructor
  · intro which
    rw [← spares.internal which]
    cases which <;> rfl
  · intro reference apart
    rw [← spares.resolve reference apart]
    cases reference <;> rfl

theorem spares_written {statement : Statement} (names : statement.written? = some name) :
    Spares name run (run.written statement) :=
  spares_withVariables (get?_written names false run.self.locals)
    (get?_written names true run.shared.globals)

end Run

/-- A step of one instance changes for another no more than what both can reach. -/
theorem Befalls.of_other {run later : Run ε} {id : InstanceId} {statement : Option Statement}
    (befalls : Befalls run (.labor (.step id statement)) later) (apart : run.self.id ≠ id) :
    later.self = run.self := by
  generalize isStep : Happening.labor (.step id statement) = happening at befalls
  cases befalls with
  | step due =>
      injection isStep with isDeed
      injection isDeed with sameId
      exact absurd sameId.symm apart
  | others shared rig untold others => rfl
  | _ => cases isStep

/-- A step that names a variable changes the variables and the place of who takes it. -/
theorem Happens.written {before after : Moment ε} {self : ScriptInstance} {statement : Statement}
    {name : String} (happens : Happens before (.labor (.step self.id (some statement))) after)
    (numbered : before.IsNumbered) (member : self ∈ before.roster.active)
    (names : statement.written? = some name) :
    ∃ later ∈ after.roster.active, later.id = self.id ∧ ∃ index,
      after.runOf later = ((before.runOf self).written statement).setPlace (some index) := by
  rcases happens.befalls numbered member with ⟨isLeave, -⟩ | ⟨later, there, sameId, befalls⟩
  · cases isLeave
  · exact ⟨later, there, sameId, Run.Due.of_written? befalls.due names⟩

/-- A step that names a variable leaves what every instance reads by other names. -/
theorem Happens.spares {before after : Moment ε} {self other : ScriptInstance}
    {statement : Statement} {name : String}
    (happens : Happens before (.labor (.step self.id (some statement))) after)
    (numbered : before.IsNumbered) (member : self ∈ before.roster.active)
    (names : statement.written? = some name) (isOther : other ∈ before.roster.active) :
    ∃ later ∈ after.roster.active, later.id = other.id ∧
      (before.runOf other).Spares name (after.runOf later) := by
  obtain ⟨author, isAuthor, sameId, index, written⟩ := happens.written numbered member names
  have spares : Run.Spares name (before.runOf self) _ := Run.spares_written names
  by_cases isSelf : other.id = self.id
  · rw [numbered.unique isOther member isSelf]
    exact ⟨author, isAuthor, sameId, written ▸ spares.placed (some index)⟩
  · rcases happens.befalls numbered isOther with ⟨isLeave, -⟩ | ⟨later, there, laterId, befalls⟩
    · cases isLeave
    · refine ⟨later, there, laterId, ?_⟩
      have same : later = other := befalls.of_other isSelf
      have isShared : after.roster.shared = ((before.runOf self).written statement).shared :=
        congrArg Run.shared written
      have isRig : after.rig = before.rig := congrArg Run.rig written
      have reaches : after.runOf later = (before.runOf other).withVariables other.locals
          ((before.runOf self).written statement).shared.globals := by
        rw [Moment.runOf, isShared, isRig, same]
        rfl
      rw [reaches]
      exact Run.spares_withVariables (fun _ _ => rfl) (Run.get?_written names true _)

/--
Names of variables do not repeat, whatever the scripts do: neither among the variables of an
instance nor among those that all instances share.  A computed variable reads what is
computed, whatever variables there are.

When an instance sets or declares a variable, then whatever any instance reads otherwise, by
another name, as a computed variable or as an argument, is as before, and so is every variable
of another name that all instances share.  Setting a variable that all instances share
changes it just if the name is not computed and the instance has no variable of that name;
declaring one that there is already changes nothing.  And what an instance has set a name
to, or declared for itself, is exactly what the name reads in any spelling, until a step
writes the variable that the instance reads under that name.
-/
theorem variables_behave_as_maps (config : ScriptConfig) (rig : Rig ε) :
    (∀ history : List (Operation ε), ∃ story last, Story (.start config rig) story last ∧
      reported story = history.flatMap Operation.reports ∧ last.IsAtRest ∧
      last.state = Roster.outcomes config rig history) ∧
    ∀ {past : List (Moment ε × Happening ε)} {before : Moment ε},
      Story (.start config rig) past before →
      before.HasDistinctNames ∧
      (∀ self ∈ before.roster.active, ∀ name which, Internal.ofName? name = some which →
        (before.runOf self).named? name =
          some (toString ((before.runOf self).internal which))) ∧
      ∀ {self : ScriptInstance} {statement : Statement} {name : String} {after : Moment ε},
        self ∈ before.roster.active → statement.written? = some name →
        Happens before (.labor (.step self.id (some statement))) after →
        (∀ other ∈ before.roster.active, ∃ later ∈ after.roster.active, later.id = other.id ∧
          (before.runOf other).Spares name (after.runOf later)) ∧
        (∀ other, Text.sameName name other = false →
          Variables.get? after.roster.shared.globals other =
            Variables.get? before.roster.shared.globals other) ∧
        (∀ value, statement = .assign name value →
          Variables.get? after.roster.shared.globals name =
            (Variables.get? before.roster.shared.globals name).map fun old =>
              if (Internal.ofName? name).isSome || Variables.has self.locals name then old
              else ((before.runOf self).expand value).value) ∧
        (∀ value, statement = .declare true name value →
          Variables.get? after.roster.shared.globals name =
            some ((Variables.get? before.roster.shared.globals name).getD
              ((before.runOf self).expand value).value)) ∧
        (∀ value, statement = .declare false name value →
          after.roster.shared.globals = before.roster.shared.globals) ∧
        ∀ value, statement = .assign name value ∨ statement = .declare false name value →
          Internal.ofName? name = none →
          ∀ {story : List (Moment ε × Happening ε)} {last : Moment ε}, Story after story last →
            (∀ passage ∈ story, ¬ Rewrites self.id name passage) →
            ∀ later ∈ last.roster.active, later.id = self.id →
              ∀ spelling, Text.sameName name spelling = true →
                Reference.isName spelling.toList = true →
                (last.runOf later).Reads spelling ((before.runOf self).expand value).value := by
  refine ⟨story_outcomes config rig, ?_⟩
  intro past before earlier
  have started := Moment.numbered_start config rig
  have numbered := earlier.numbered started
  have distinct : (Moment.start config rig).HasDistinctNames :=
    ⟨List.nodup_nil, fun _ member => by cases member⟩
  refine ⟨earlier.hasDistinctNames started distinct,
    fun self _ name which computed => (before.runOf self).named?_of_internal computed, ?_⟩
  intro self statement name after member names happens
  obtain ⟨author, isAuthor, sameId, index, written⟩ := happens.written numbered member names
  have isShared : after.roster.shared = ((before.runOf self).written statement).shared :=
    congrArg Run.shared written
  refine ⟨fun other isOther => happens.spares numbered member names isOther, ?_, ?_, ?_, ?_, ?_⟩
  · intro other apart
    rw [isShared]
    exact Run.get?_written names true _ other apart
  · rintro value rfl
    rw [isShared]
    exact Run.globals_written_assign
  · rintro value rfl
    rw [isShared]
    exact Run.globals_written_declare
  · rintro value rfl
    rw [isShared]
    rfl
  · intro value sets plain story last goesOn kept later isLater laterId spelling same isName
    have stored : ∀ first ∈ after.roster.active, first.id = self.id →
        (after.runOf first).stored? name = some ((before.runOf self).expand value).value := by
      intro first isFirst firstId
      rw [(happens.numbered numbered).unique isFirst isAuthor (firstId.trans sameId.symm),
        written]
      exact Run.stored?_written plain sets
    have known := (numbered.launched self member).trans happens.lastId_le
    have lasts := goesOn.keeps_stored (happens.numbered numbered) known stored kept later isLater
      laterId
    rw [Run.stored?_congr _ same] at lasts
    rw [Internal.ofName?_congr same] at plain
    exact Run.reads_of_stored isName plain lasts

def countingScript : Script where
  statements := [.declare true "count" "1", .assign "COUNT" "2", .finish]

def countDeclared : Run Recorder :=
  Solo.evaluated
    ((Solo.launched countingScript Roster.smallRig).runOf
      (Solo.player countingScript Roster.smallRig))
    0 (.declare true "count" "1")

def counting : Moment Recorder :=
  (Solo.launched countingScript Roster.smallRig).withRun 0 countDeclared

/-- The variable is set for all, and read in its first spelling. -/
theorem set_is_read_in_any_spelling :
    ∃ past before after, Story (.start {} Roster.smallRig) past before ∧
      Happens before (.labor (.step 1 (some (.assign "COUNT" "2")))) after ∧
      Variables.get? after.roster.shared.globals "COUNT" = some "2" ∧
      ∀ story last, Story after story last → (∀ passage ∈ story, ¬ Rewrites 1 "COUNT" passage) →
        ∀ later ∈ last.roster.active, later.id = 1 → (last.runOf later).Reads "count" "2" := by
  have declares : Happens (Solo.launched countingScript Roster.smallRig) _ counting :=
    .labor (.step rfl (Solo.due_evaluated ⟨rfl, rfl⟩ rfl))
  have stands : counting.roster.active[0]? = some countDeclared.self := rfl
  have sets : Happens counting (.labor (.step 1 (some (.assign "COUNT" "2")))) _ :=
    .labor (.step stands (Solo.due_evaluated ⟨rfl, rfl⟩ rfl))
  have past := (Solo.story_opening countingScript Roster.smallRig).snoc declares
  have expanded : ((counting.runOf countDeclared.self).expand "2").value = "2" := by decide +kernel
  have isGlobal : Variables.get? counting.roster.shared.globals "COUNT" = some "1" := by
    decide +kernel
  have free : ((Internal.ofName? "COUNT").isSome ||
      Variables.has countDeclared.self.locals "COUNT") = false := by decide +kernel
  obtain ⟨-, -, writes⟩ := (variables_behave_as_maps {} Roster.smallRig).2 past
  obtain ⟨-, -, assigned, -, -, reads⟩ := writes (List.mem_of_getElem? stands) rfl sets
  refine ⟨_, _, _, past, sets, ?_, ?_⟩
  · rw [assigned "2" rfl, isGlobal, free, expanded]
    rfl
  · intro story last goesOn kept later member sameId
    rw [← expanded]
    exact reads "2" (.inl rfl) (by decide +kernel) goesOn kept later member sameId "count"
      (by decide +kernel) (by decide +kernel)

end Looper
