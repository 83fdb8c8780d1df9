import Looper.Proofs.Script.Saving

/-!
# Borrowed parameters

Of several instances that borrow one parameter at a time by `Use`, each saves what it
saw.  The parameter gets back the value that it had before all of them when the one
that borrowed it first returns it last; else it is left as a later one found it.
-/

namespace Looper

open Roster (Operation)

/-! ## Stretches -/

section Stretches

variable {ε : Type} [Engine ε]

/-- In a stretch of moves, a parameter is set by `Use` and put back, and not set otherwise. -/
inductive Undisturbed (cell : Cell) : Moment ε → List (Deed ε × Moment ε) → Prop where
  | nil (moment : Moment ε) : Undisturbed cell moment []
  | cons {before next : Moment ε} {deed : Deed ε} {rest : List (Deed ε × Moment ε)}
      (leaves : Leaves cell before deed next) (others : Undisturbed cell next rest) :
      Undisturbed cell before ((deed, next) :: rest)

theorem Undisturbed.front {cell : Cell} {first : Moment ε}
    {front back : List (Deed ε × Moment ε)} (undisturbed : Undisturbed cell first (front ++ back)) :
    Undisturbed cell first front := by
  induction front generalizing first with
  | nil => exact .nil first
  | cons step front ih =>
      cases undisturbed with
      | cons leaves others => exact .cons leaves (ih others)

/--
Whoever borrows a parameter first outlasts the others: it has the parameter until
nobody has it any more.  The number is that of the one who has it at the beginning.
-/
inductive Outlasted (cell : Cell) :
    Option InstanceId → List (Deed ε × Moment ε) → Prop where
  | nil (owner : Option InstanceId) : Outlasted cell owner []
  | free {owner : Option InstanceId} {deed : Deed ε} {next : Moment ε}
      {rest : List (Deed ε × Moment ε)} (nobody : ¬ next.IsBorrowed cell)
      (others : Outlasted cell none rest) : Outlasted cell owner ((deed, next) :: rest)
  | taken {id : InstanceId} {deed : Deed ε} {next : Moment ε}
      {rest : List (Deed ε × Moment ε)} (borrows : next.IsBorrowedBy id cell)
      (others : Outlasted cell (some id) rest) : Outlasted cell none ((deed, next) :: rest)
  | kept {id : InstanceId} {deed : Deed ε} {next : Moment ε}
      {rest : List (Deed ε × Moment ε)} (borrows : next.IsBorrowedBy id cell)
      (others : Outlasted cell (some id) rest) :
      Outlasted cell (some id) ((deed, next) :: rest)

/--
An instance borrowed a parameter at some point of a stretch, when it had a value,
and has had it since.
-/
def BorrowedSince (id : InstanceId) (cell : Cell) (value : Int) (first : Moment ε)
    (steps : List (Deed ε × Moment ε)) : Prop :=
  ∃ front back name text before there,
    steps = front ++ (.step id (some (.use name text)), there) :: back ∧
    Moves first front before ∧ before.read cell = some value ∧
    ¬ before.IsBorrowedBy id cell ∧ there.IsBorrowedBy id cell ∧
    ∀ step ∈ back, step.2.IsBorrowedBy id cell

/-- What a parameter is worth while its first borrower has it, or while nobody has it. -/
def Worth (cell : Cell) (value : Int) (moment : Moment ε) : Option InstanceId → Prop
  | none => ¬ moment.IsBorrowed cell ∧ moment.read cell = some value
  | some id => moment.Owes id cell value ∧ (moment.read cell).isSome

variable [ParameterStore ε] {cell : Cell} {first last : Moment ε}
  {steps : List (Deed ε × Moment ε)}

/-- The engine has a parameter at the end of a stretch if it had it at the beginning. -/
theorem Moves.read_isSome (moves : Moves first steps last) (orderly : first.IsOrderly)
    (undisturbed : Undisturbed cell first steps) (known : (first.read cell).isSome) :
    (last.read cell).isSome := by
  induction moves with
  | nil moment => exact known
  | cons move others ih =>
      cases undisturbed with
      | cons leaves undisturbed =>
          exact ih (move.orderly orderly) undisturbed (move.read_isSome orderly leaves known)

/-- When nobody has a parameter any more, it is worth what it was before the first had it. -/
theorem Outlasted.read_eq {owner : Option InstanceId} (outlasted : Outlasted cell owner steps)
    (moves : Moves first steps last) (orderly : first.IsOrderly)
    (undisturbed : Undisturbed cell first steps) {value : Int}
    (worth : Worth cell value first owner) (free : ¬ last.IsBorrowed cell) :
    last.read cell = some value := by
  induction moves generalizing owner with
  | nil moment =>
      cases owner with
      | none => exact worth.2
      | some id => exact absurd ⟨id, value, worth.1⟩ free
  | @cons first next last deed rest move others ih =>
      cases undisturbed with
      | cons leaves undisturbed =>
          have goesOn {owner : Option InstanceId} (outlasted : Outlasted cell owner rest)
              (worth : Worth cell value next owner) : last.read cell = some value :=
            ih outlasted (move.orderly orderly) undisturbed worth free
          cases outlasted with
          | free nobody outlasted =>
              refine goesOn outlasted ⟨nobody, ?_⟩
              cases owner with
              | none =>
                  have known := Option.isSome_of_eq_some worth.2
                  exact (move.read_of_free orderly leaves known worth.1 nobody).trans worth.2
              | some id =>
                  rcases move.lends orderly worth.1 worth.2 with still | ⟨-, -, isBack⟩
                  · exact absurd ⟨id, value, still⟩ nobody
                  · exact isBack
          | @taken id _ _ _ borrows outlasted =>
              obtain ⟨other, owes⟩ := borrows
              have untaken : ¬ first.IsBorrowedBy id cell := fun taken => worth.1 ⟨id, taken⟩
              have known := Option.isSome_of_eq_some worth.2
              have isValue := (move.takes orderly untaken owes).1.symm.trans worth.2
              rw [Option.some.inj isValue] at owes
              exact goesOn outlasted ⟨owes, move.read_isSome orderly leaves known⟩
          | kept borrows outlasted =>
              rcases move.lends orderly worth.1 worth.2 with still | ⟨-, settled, -⟩
              · exact goesOn outlasted ⟨still, move.read_isSome orderly leaves worth.2⟩
              · exact absurd borrows settled

/-- What an instance owes to a parameter is the value it had before the first `Use` of it. -/
theorem Moves.borrowedSince (moves : Moves first steps last) (orderly : first.IsOrderly)
    (undisturbed : Undisturbed cell first steps) (known : (first.read cell).isSome)
    {id : InstanceId} (free : ¬ first.IsBorrowedBy id cell) {value : Int}
    (owes : last.Owes id cell value) : BorrowedSince id cell value first steps := by
  induction steps using List.reverseRecOn generalizing last value with
  | nil =>
      cases moves
      exact absurd ⟨value, owes⟩ free
  | append_singleton front step ih =>
      obtain ⟨middle, toMiddle, fromMiddle⟩ := moves.divide
      cases fromMiddle with
      | @cons _ _ _ deed _ move others =>
          cases others
          have orderlyMiddle := toMiddle.orderly orderly
          have knownMiddle := toMiddle.read_isSome orderly undisturbed.front known
          by_cases borrowed : middle.IsBorrowedBy id cell
          · obtain ⟨earlier, owed⟩ := borrowed
            rcases move.lends orderlyMiddle owed knownMiddle with still | ⟨-, settled, -⟩
            · rw [(move.orderly orderlyMiddle).owes_unique owes still]
              obtain ⟨start, since, name, text, before, there, divides, reaches, isValue,
                unborrowed, borrows, stays⟩ := ih toMiddle undisturbed.front owed
              refine ⟨start, since ++ [(deed, last)], name, text, before, there, ?_, reaches,
                isValue, unborrowed, borrows, fun step member => ?_⟩
              · rw [divides, List.append_assoc, List.cons_append]
              · rcases List.mem_append.1 member with earlier | isLast
                · exact stays step earlier
                · rw [List.mem_singleton.1 isLast]
                  exact ⟨_, still⟩
            · exact absurd ⟨value, owes⟩ settled
          · obtain ⟨isValue, name, text, rfl⟩ := move.takes orderlyMiddle borrowed owes
            exact ⟨front, [], name, text, middle, last, rfl, toMiddle, isValue, borrowed,
              ⟨value, owes⟩, fun _ member => absurd member List.not_mem_nil⟩

/--
Every history is a stretch of moments.  While nothing but `Use` and the putting back of
saved values sets a parameter, whoever changes it by `Use` has borrowed it, and has it
until it is stopped or leaves; then the parameter gets back the value that it had before
the first `Use` of it by that instance.  So a parameter that nobody has any more has the
value from before the first `Use` of it, when whoever borrows it first outlasts the
others.
-/
theorem use_is_temporary (config : ScriptConfig) (rig : Rig ε) :
    (∀ history, ∃ steps last, Moves (.start config rig) steps last ∧ begun steps = history ∧
      last.IsAtRest ∧ last.state = Roster.outcomes config rig history) ∧
    ∀ {earlier steps} {first last : Moment ε} {cell : Cell} {value : Int},
      Moves (.start config rig) earlier first → Moves first steps last →
      Undisturbed cell first steps →
      ¬ first.IsBorrowed cell → first.read cell = some value →
      (∀ {id name text there}, Move last (.step id (some (.use name text))) there →
        there.read cell ≠ last.read cell → there.IsBorrowedBy id cell) ∧
      (∀ {id deed there}, Move last deed there → last.IsBorrowedBy id cell →
        there.IsBorrowedBy id cell ∨ (deed = .stop id ∨ deed = .leave id) ∧
          ∃ saved, there.read cell = some saved ∧ BorrowedSince id cell saved first steps) ∧
      (¬ last.IsBorrowed cell → Outlasted cell none steps → last.read cell = some value) := by
  refine ⟨moves_outcomes config rig, ?_⟩
  intro earlier steps first last cell value reaches moves undisturbed free isValue
  have orderly := reaches.orderly (Moment.orderly_start config rig)
  have orderlyLast := moves.orderly orderly
  have known := Option.isSome_of_eq_some isValue
  have knownLast := moves.read_isSome orderly undisturbed known
  refine ⟨?_, ?_, ?_⟩
  · intro id name text there move changes
    rcases move.use orderlyLast cell with ⟨-, same⟩ | ⟨saves, -⟩
    · exact absurd same changes
    · by_cases borrowed : last.IsBorrowedBy id cell
      · obtain ⟨saved, owes⟩ := borrowed
        exact ⟨saved, (saves saved).2 (.inl owes)⟩
      · obtain ⟨previous, isPrevious⟩ := Option.isSome_iff_exists.1 knownLast
        exact ⟨previous, (saves previous).2 (.inr ⟨borrowed, isPrevious⟩)⟩
  · rintro id deed there move ⟨saved, owes⟩
    rcases move.lends orderlyLast owes knownLast with still | ⟨ends, -, isBack⟩
    · exact .inl ⟨saved, still⟩
    · have untaken : ¬ first.IsBorrowedBy id cell := fun taken => free ⟨id, taken⟩
      exact .inr ⟨ends, saved, isBack, moves.borrowedSince orderly undisturbed known untaken owes⟩
  · intro returned outlasted
    exact outlasted.read_eq moves orderly undisturbed ⟨free, isValue⟩ returned

end Stretches

/-! ## Two scripts and one parameter -/

/-- An engine that keeps parameters by their folded names, and does nothing else. -/
structure Dials where
  values : List (Cell × Int)
  deriving DecidableEq, Repr

namespace Dials

def lookup (dials : Dials) (cell : Cell) : Option Int :=
  (dials.values.find? fun entry => entry.1 == cell).map Prod.snd

def write (dials : Dials) (cell : Cell) (value : Int) : Dials :=
  { values := dials.values.map fun entry => if entry.1 == cell then (entry.1, value) else entry }

instance : Engine Dials where
  trackCount _ := 1
  activeTrack _ := 0
  trackGroup _ _ := none
  isFocusLocked _ _ := false
  invoke dials _ _ := (none, dials)
  parameter dials track name := dials.lookup ⟨track, Text.fold name⟩
  setParameter dials track name value := dials.write ⟨track, Text.fold name⟩ value
  scheduleWait dials _ _ := (none, dials)
  scriptFinished dials _ := dials

theorem lookup_write (dials : Dials) (cell other : Cell) (value : Int) :
    (dials.write cell value).lookup other =
      if other = cell then (dials.lookup other).map fun _ => value else dials.lookup other := by
  have sameKey : (fun entry : Cell × Int => entry.1 == other) ∘
      (fun entry => if entry.1 == cell then (entry.1, value) else entry) =
        fun entry => entry.1 == other := by
    funext entry
    simp only [Function.comp_apply]
    split <;> rfl
  rw [lookup, write, List.find?_map, sameKey, lookup]
  cases found : dials.values.find? fun entry => entry.1 == other with
  | none => simp
  | some entry =>
      have isOther : entry.1 = other :=
        beq_iff_eq.1 (List.find?_some (p := fun entry : Cell × Int => entry.1 == other) found)
      subst isOther
      by_cases same : entry.1 = cell <;> simp [same]

instance : ParameterStore Dials where
  read_alike {engine cell track name} alike := by
    obtain ⟨sameTrack, sameName⟩ := Bool.and_eq_true_iff.1 alike
    change engine.lookup ⟨track, Text.fold name⟩ = engine.lookup ⟨cell.track, Text.fold cell.name⟩
    rw [beq_iff_eq.1 sameTrack, Text.sameName_iff.1 sameName]
  read_set {engine cell track name} value alike known := by
    obtain ⟨sameTrack, sameName⟩ := Bool.and_eq_true_iff.1 alike
    have there : (⟨cell.track, Text.fold cell.name⟩ : Cell) = ⟨track, Text.fold name⟩ := by
      rw [beq_iff_eq.1 sameTrack, Text.sameName_iff.1 sameName]
    obtain ⟨previous, isPrevious⟩ := Option.isSome_iff_exists.1 known
    refine (lookup_write _ _ _ _).trans ((if_pos there).trans ?_)
    exact congrArg (Option.map fun _ => value) isPrevious
  read_set_other {engine cell track name} value elsewhere := by
    refine (lookup_write _ _ _ _).trans (if_neg fun there => Bool.eq_false_iff.1 elsewhere ?_)
    injection there with sameTrack sameName
    exact Bool.and_eq_true_iff.2
      ⟨beq_iff_eq.2 sameTrack.symm, Text.sameName_iff.2 sameName.symm⟩
  read_finished _ _ _ := rfl

end Dials

def levelRig (level : Int) : Rig Dials where
  engine := { values := [(⟨some 0, "level"⟩, level)] }
  kernel := .new { poolSize := 1, poolMax := 1 }
  interface := .new 1

def level : Cell := ⟨some 0, "level"⟩

def untilNextBlock (id : ScriptId) (spelling value : String) : Script where
  id := id
  name := "Until"
  statements := [.use spelling value, .wait .block]

def handedOn {ε : Type} [Engine ε] (config : ScriptConfig) (rig : Rig ε)
    (operations : List (Rig ε → Operation ε)) : List (Operation ε) :=
  operations.foldl
    (fun history operation => history ++ [operation (Roster.outcomes config rig history).2]) []

/-- Two scripts set the level on one track, and two blocks pass. -/
def overlapping : List (Operation Dials) :=
  handedOn { maxActive := 0 } (levelRig 10)
    [fun _ => .install ⟨[untilNextBlock 0 "Level" "20", untilNextBlock 1 "LEVEL" "30"]⟩,
      .run (Roster.touch 0 7 false), .run (Roster.touch 1 8 false),
      .maintain 64 48000, .maintain 64 48000]

/-- The first script ends first, and the second leaves the level as it found it. -/
theorem overlapping_uses_lose_level :
    level.read (levelRig 10).engine = some 10 ∧
    (Roster.outcomes { maxActive := 0 } (levelRig 10) overlapping).1.active = [] ∧
    level.read (Roster.outcomes { maxActive := 0 } (levelRig 10) overlapping).2.engine =
      some 20 := by
  refine ⟨by decide +kernel, by decide +kernel, by decide +kernel⟩

def setting (self : ScriptInstance) (spelling : String) (found : Int) : ScriptInstance :=
  { self with pc := some 1, uses := [⟨some 0, spelling, found⟩] }

def waiting (self : ScriptInstance) : ScriptInstance :=
  { self with pc := some 2, stack := [.wait { block := some 0 }] }

def firstUser : ScriptInstance :=
  (ScriptInstance.new 1 (untilNextBlock 0 "Level" "20")).start (Roster.touch 0 7 false)

def secondUser : ScriptInstance :=
  (ScriptInstance.new 2 (untilNextBlock 1 "LEVEL" "30")).start (Roster.touch 1 8 false)

/-- The first script has been launched, and has not run yet. -/
def launchedFirst : Moment Dials where
  roster :=
    { config := { maxActive := 0 }
      shared := { library := ⟨[untilNextBlock 0 "Level" "20", untilNextBlock 1 "LEVEL" "30"]⟩ }
      active := [firstUser]
      idle := []
      lastId := 1 }
  rig := levelRig 10
  pending := [.launch (Roster.touch 0 7 false)]

def setOnce : Moment Dials :=
  { launchedFirst.withActive [setting firstUser "Level" 10] with rig := levelRig 20 }

/-- The first script waits, and the second has been launched. -/
def launchedSecond : Moment Dials where
  roster :=
    { setOnce.roster with
      active := [waiting (setting firstUser "Level" 10), secondUser]
      lastId := 2 }
  rig := levelRig 20
  pending := [.launch (Roster.touch 1 8 false)]

def setTwice : Moment Dials :=
  { launchedSecond.withActive
      [waiting (setting firstUser "Level" 10), setting secondUser "LEVEL" 20] with
    rig := levelRig 30 }

theorem reaches_launchedFirst :
    ∃ earlier, Moves (.start { maxActive := 0 } (levelRig 10)) earlier launchedFirst := by
  have reaches : Moves (.start { maxActive := 0 } (levelRig 10)) _ launchedFirst :=
    .cons (.begin ⟨rfl, rfl⟩
        (.install ⟨[untilNextBlock 0 "Level" "20", untilNextBlock 1 "LEVEL" "30"]⟩))
      (.cons (.begin ⟨rfl, rfl⟩ (.run (Roster.touch 0 7 false) (levelRig 10)))
        (.cons (@Move.launch _ _ _ (Roster.touch 0 7 false) [] 0 _ rfl rfl)
          (.nil launchedFirst)))
  exact ⟨_, reaches⟩

/-- Evaluating a statement leads to a moment that is given. -/
theorem Move.evaluate {ε : Type} [Engine ε] {moment next : Moment ε} {position index : Nat}
    {self : ScriptInstance} {statement : Statement}
    (stands : moment.roster.active[position]? = some self) (ready : self.isWaiting = false)
    (here : (moment.runOf self).here? = some (index, statement))
    (leads : moment.withRun position
      (((moment.runOf self).evaluate index statement).value.2.follow index
        ((moment.runOf self).evaluate index statement).value.1) = next) :
    Move moment (.step self.id (some statement)) next :=
  leads ▸ .step stands (.evaluate ready here)

theorem uses_nest :
    ∃ steps last, Moves launchedFirst steps last ∧
      Undisturbed level launchedFirst steps ∧ Outlasted level none steps ∧
      (∃ step ∈ steps, step.2.borrowers level = [1, 2] ∧ step.2.read level = some 30) ∧
      last.borrowers level = [] := by
  have onlyFirst : ∀ self ∈ [waiting (setting firstUser "Level" 10),
        ((waiting (setting secondUser "LEVEL" 20)).stop (levelRig 30).engine).1],
      Roster.isCancelled (some 1) none self = true → self.isFinished = true ∧ self.uses = [] := by
    intro self member concerns
    rcases List.mem_cons.1 member with isFirst | isSecond
    · rw [isFirst] at concerns
      cases concerns
    · rw [List.mem_singleton.1 isSecond]
      exact ⟨rfl, rfl⟩
  have moves : Moves launchedFirst
      [(.step 1 (some (.use "Level" "20")), setOnce), _, _, _, _,
        (.step 2 (some (.use "LEVEL" "30")), setTwice), _, _, _, _, _, _, _] _ :=
    .cons (@Move.evaluate _ _ _ _ 0 0 firstUser _ rfl rfl rfl (by decide +kernel))
      (.cons (@Move.step _ _ _ 0 _ (some (.wait .block)) _ rfl (.evaluate rfl rfl))
        (.cons (@Move.answer _ _ _ (Roster.touch 0 7 false) [] rfl)
          (.cons (.begin ⟨rfl, rfl⟩ (.run (Roster.touch 1 8 false) (levelRig 20)))
            (.cons (@Move.launch _ _ _ (Roster.touch 1 8 false) [] 1 _ rfl rfl)
              (.cons (@Move.evaluate _ _ launchedSecond _ 1 0 secondUser _ rfl rfl rfl
                  (by decide +kernel))
                (.cons (@Move.step _ _ _ 1 _ (some (.wait .block)) _ rfl (.evaluate rfl rfl))
                  (.cons (@Move.answer _ _ _ (Roster.touch 1 8 false) [] rfl)
                    (.cons (.begin ⟨rfl, rfl⟩ (.cancel (some 1) none (levelRig 30)))
                      (.cons (@Move.stop _ _ _ (some 1) none [] 1 _ rfl rfl rfl)
                        (.cons (@Move.cancelled _ _ _ (some 1) none [] rfl onlyFirst)
                          (.cons (.begin ⟨rfl, rfl⟩ (.cancel none none (levelRig 20)))
                            (.cons (@Move.stop _ _ _ none none [] 0 _ rfl rfl rfl)
                              (.nil _)))))))))))))
  have has {moment : Moment Dials} {others : List InstanceId}
      (isFirst : moment.borrowers level = 1 :: others) : moment.IsBorrowedBy 1 level :=
    Moment.isBorrowedBy_iff.2 (isFirst ▸ List.mem_cons_self)
  refine ⟨_, _, moves, ?_, ?_,
    ⟨_, .tail _ (.tail _ (.tail _ (.tail _ (.tail _ (.head _))))), by decide +kernel⟩, rfl⟩
  · exact .cons (by rintro ⟨⟩) (.cons (fun _ => rfl) (.cons (fun _ => rfl) (.cons (fun _ => rfl)
      (.cons (fun _ => rfl) (.cons (by rintro ⟨⟩) (.cons (fun _ => rfl) (.cons (fun _ => rfl)
        (.cons (fun _ => rfl) (.cons (by rintro ⟨⟩) (.cons (fun _ => rfl) (.cons (fun _ => rfl)
          (.cons (by rintro ⟨⟩) (.nil _)))))))))))))
  · exact .taken (has rfl) (.kept (has rfl) (.kept (has rfl) (.kept (has rfl) (.kept (has rfl)
      (.kept (has rfl) (.kept (has rfl) (.kept (has rfl) (.kept (has rfl) (.kept (has rfl)
        (.kept (has rfl) (.kept (has rfl)
          (.free (Moment.not_isBorrowed_iff.2 rfl) (.nil _)))))))))))))

/-- Of two scripts that set one level, the one that set it first puts it back last. -/
theorem nested_uses_keep_level :
    ∃ earlier steps last,
      Moves (.start { maxActive := 0 } (levelRig 10)) earlier launchedFirst ∧
      Moves launchedFirst steps last ∧
      Undisturbed level launchedFirst steps ∧ Outlasted level none steps ∧
      (∃ step ∈ steps, step.2.borrowers level = [1, 2] ∧ step.2.read level = some 30) ∧
      last.borrowers level = [] ∧ last.read level = some 10 := by
  obtain ⟨earlier, reaches⟩ := reaches_launchedFirst
  obtain ⟨steps, last, moves, undisturbed, outlasted, both, none⟩ := uses_nest
  obtain ⟨-, returns⟩ := use_is_temporary { maxActive := 0 } (levelRig 10)
  obtain ⟨-, -, temporary⟩ := returns reaches moves undisturbed
    (Moment.not_isBorrowed_iff.2 rfl) (by rfl)
  exact ⟨earlier, steps, last, reaches, moves, undisturbed, outlasted, both, none,
    temporary (Moment.not_isBorrowed_iff.2 none) outlasted⟩

end Looper
