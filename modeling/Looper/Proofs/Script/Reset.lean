import Looper.Proofs.Script.Hearing
import Looper.Proofs.Script.Unfolding

/-!
# What a reset does to running scripts

A script that invokes a resetting function asks for the others to be stopped
before the engine hears of it.  The request waits until its round comes; when it
has been carried out, nobody whom it concerns evaluates another statement.  The
instance that asked goes on.
-/

namespace Looper

open Roster (Operation)

/-! ## Whoever has been stopped -/

namespace ScriptInstance

theorem isFinished_iff (self : ScriptInstance) :
    self.isFinished = true ↔
      self.pc = none ∧ self.stack = [] ∧ self.sustaining = false ∧ self.clicking = false := by
  simp [isFinished, and_assoc]

theorem Told.finished {self later : ScriptInstance} (told : self.Told later)
    (finished : self.isFinished = true) :
    later.isFinished = true ∧ later.uses = self.uses := by
  obtain ⟨noPlace, noFrame, unheld, unclicked⟩ := self.isFinished_iff.1 finished
  have noWait (change : Wait → Wait) : (self.mapWaits change).isFinished = true := by
    rw [isFinished_iff]
    exact ⟨noPlace, by rw [mapWaits, noFrame]; rfl, unheld, unclicked⟩
  cases told with
  | event event =>
      rw [finishEvent_eq]
      exact ⟨noWait _, rfl⟩
  | function symbol => exact ⟨noWait _, rfl⟩
  | kernel event returnCode =>
      rw [finishKernel_eq]
      exact ⟨noWait _, rfl⟩
  | block block => exact ⟨noWait _, rfl⟩
  | held msec holdTime =>
      rw [advanceSustain, if_pos (by rw [unheld]; rfl)]
      exact ⟨finished, rfl⟩
  | clicking msec window =>
      rw [advanceClick, if_pos (by rw [unclicked]; rfl)]
      exact ⟨finished, rfl⟩

end ScriptInstance

/-- The instance with a number has been stopped, if it is still there. -/
structure Moment.IsSilenced {ε : Type} (moment : Moment ε) (id : InstanceId) : Prop where
  launched : id ≤ moment.roster.lastId
  stopped : ∀ self ∈ moment.roster.active, self.id = id →
    self.isFinished = true ∧ self.uses = []

/-- The instance that a deed is about. -/
def Deed.actor? {ε : Type} : Deed ε → Option InstanceId
  | .step id _ | .tell id | .enter id | .launch id | .stop id | .leave id => some id
  | _ => none

variable {ε : Type} [Engine ε]

theorem Run.Step.finished {run later : Run ε} {statement : Option Statement}
    (step : run.Step statement later) (finished : run.self.isFinished = true) :
    statement = none ∧ later.self.isFinished = true ∧ later.self.uses = run.self.uses ∧
      later.rig.engine = run.rig.engine := by
  obtain ⟨noPlace, noFrame, unheld, unclicked⟩ := run.self.isFinished_iff.1 finished
  cases step with
  | wake wakes =>
      obtain ⟨wait, rest, top, -⟩ := wake?_eq_some.1 wakes
      cases noFrame.symm.trans top
  | endLevel past opened => exact absurd noFrame opened
  | finish past closed =>
      exact ⟨rfl, (ScriptInstance.isFinished_iff _).2 ⟨rfl, noFrame, unheld, unclicked⟩, rfl, rfl⟩
  | evaluate ready stands =>
      cases noPlace.symm.trans (here?_eq_some.1 stands).1

/-- An instance evaluates no statement, and the engine hears of it only that it has left. -/
inductive Silent (id : InstanceId) : Moment ε → List (Deed ε × Moment ε) → Prop where
  | nil (moment : Moment ε) : Silent id moment []
  | cons {before next : Moment ε} {deed : Deed ε} {rest : List (Deed ε × Moment ε)}
      (idle : ∀ statement, deed ≠ .step id (some statement))
      (unheard : deed.actor? = some id → next.rig.engine = before.rig.engine ∨
        deed = .leave id ∧ next.rig.engine = Engine.scriptFinished before.rig.engine id)
      (others : Silent id next rest) : Silent id before ((deed, next) :: rest)

omit [Engine ε] in
theorem Moment.IsSilenced.replace {moment : Moment ε} {id : InstanceId}
    (silenced : moment.IsSilenced id) {position : Nat} {self later : ScriptInstance}
    (stands : moment.roster.active[position]? = some self) (same : later.id = self.id)
    (kept : self.isFinished = true → self.uses = [] →
      later.isFinished = true ∧ later.uses = []) :
    ∀ other ∈ moment.roster.active.set position later, other.id = id →
      other.isFinished = true ∧ other.uses = [] := by
  intro other member isId
  rcases List.mem_or_eq_of_mem_set member with earlier | isLater
  · exact silenced.stopped other earlier isId
  · subst isLater
    obtain ⟨finished, none⟩ :=
      silenced.stopped self (List.mem_of_getElem? stands) (same.symm.trans isId)
    exact kept finished none

/-- A stopped instance stays so, and does nothing. -/
theorem Move.silenced {before after : Moment ε} {deed : Deed ε} (move : Move before deed after)
    {id : InstanceId} (silenced : before.IsSilenced id) :
    after.IsSilenced id ∧ (∀ statement, deed ≠ .step id (some statement)) ∧
      (deed.actor? = some id → after.rig.engine = before.rig.engine ∨
        deed = .leave id ∧ after.rig.engine = Engine.scriptFinished before.rig.engine id) := by
  have stopped {position : Nat} {self : ScriptInstance}
      (stands : before.roster.active[position]? = some self) (isId : self.id = id) :=
    silenced.stopped self (List.mem_of_getElem? stands) isId
  cases move with
  | begin rests operation =>
      refine ⟨?_, (by rintro _ ⟨⟩), (by rintro ⟨⟩)⟩
      cases operation <;> exact ⟨silenced.launched, silenced.stopped⟩
  | @step position self statement later stands steps =>
      refine ⟨⟨silenced.launched, silenced.replace stands steps.evolves.id_eq ?_⟩, ?_, ?_⟩
      · intro finished none
        obtain ⟨-, still, uses, -⟩ := steps.finished finished
        exact ⟨still, uses.trans none⟩
      · intro other isStep
        injection isStep with isId isStatement
        obtain ⟨idle, -⟩ := steps.finished (stopped stands isId).1
        rw [idle] at isStatement
        cases isStatement
      · intro isId
        exact .inl (steps.finished (stopped stands (Option.some.inj isId)).1).2.2.2
  | @tell position self later stands told =>
      refine ⟨⟨silenced.launched, silenced.replace stands told.continues.id ?_⟩, (by rintro _ ⟨⟩),
        fun _ => .inl rfl⟩
      intro finished none
      obtain ⟨still, uses⟩ := told.finished finished
      exact ⟨still, uses.trans none⟩
  | @enter action rest position self later front stands unfinished entered =>
      refine ⟨⟨silenced.launched, silenced.replace stands entered.continues.id ?_⟩,
        (by rintro _ ⟨⟩), fun _ => .inl rfl⟩
      intro finished
      rw [unfinished] at finished
      cases finished
  | @launch action rest scriptId script front found =>
      have isNew := (before.roster.launched_eq script action).1
      have older := silenced.launched
      refine ⟨⟨Nat.le_succ_of_le older, fun self member isId => ?_⟩, (by rintro _ ⟨⟩),
        fun _ => .inl rfl⟩
      rcases List.mem_append.1 member with earlier | isLaunched
      · exact silenced.stopped self earlier isId
      · rw [List.mem_singleton.1 isLaunched, isNew] at isId
        rw [← isId] at older
        exact absurd older (Nat.not_succ_le_self _)
  | @stop author track rest position self front stands concerns =>
      refine ⟨⟨silenced.launched, silenced.replace stands
        (self.continues_stop before.rig.engine).id fun _ _ => ⟨rfl, rfl⟩⟩, (by rintro _ ⟨⟩),
        fun isId => ?_⟩
      have none := (stopped stands (Option.some.inj isId)).2
      refine .inl ?_
      change self.uses.foldl _ before.rig.engine = before.rig.engine
      rw [none]
      rfl
  | @leave position self rests stands finished =>
      refine ⟨⟨silenced.launched, fun other member =>
        silenced.stopped other (List.mem_of_mem_eraseIdx member)⟩, (by rintro _ ⟨⟩), fun isId => ?_⟩
      have isSelf := Option.some.inj isId
      have none := (stopped stands isSelf).2
      refine .inr ⟨by rw [isSelf], ?_⟩
      rw [← isSelf, engine_seeOff, ScriptInstance.restoreUses, none]
      rfl
  | _ => exact ⟨⟨silenced.launched, silenced.stopped⟩, (by rintro _ ⟨⟩), (by rintro ⟨⟩)⟩

theorem Moves.silent {first last : Moment ε} {steps : List (Deed ε × Moment ε)}
    (moves : Moves first steps last) {id : InstanceId} (silenced : first.IsSilenced id) :
    Silent id first steps := by
  induction moves with
  | nil moment => exact .nil moment
  | cons move others ih =>
      obtain ⟨later, idle, unheard⟩ := move.silenced silenced
      exact .cons idle unheard (ih later)

/-! ## What becomes of a cancellation -/

omit [Engine ε] in
/-- A request waits for its round or, in the round in progress, for its turn. -/
def Moment.Awaits (moment : Moment ε) (request : ScriptRequest) : Prop :=
  request ∈ moment.pending ++ moment.roster.shared.requests

/-- As long as a cancellation waits, no operation begins and no instance leaves. -/
theorem Move.awaits {before after : Moment ε} {deed : Deed ε} (move : Move before deed after)
    {author : Option InstanceId} {track : Option TrackId}
    (waits : before.Awaits (.cancel author track)) :
    deed.operation? = none ∧
    (∀ self ∈ before.roster.active, ∃ later ∈ after.roster.active, later.id = self.id) ∧
    (after.Awaits (.cancel author track) ∨
      deed = .drop ∧ before.rounds = Roster.maxRounds ∨ deed = .cancelled author track) := by
  have restless : ¬ before.IsAtRest := by
    rintro ⟨noPending, noRequest⟩
    unfold Moment.Awaits at waits
    rw [noPending, noRequest] at waits
    cases waits
  have present {position : Nat} {self later : ScriptInstance}
      (stands : before.roster.active[position]? = some self) (same : later.id = self.id)
      (other : ScriptInstance) (member : other ∈ before.roster.active) :
      ∃ later' ∈ before.roster.active.set position later, later'.id = other.id := by
    rcases mem_set_or_eq stands member later with isSelf | stays
    · obtain ⟨within, -⟩ := List.getElem?_eq_some_iff.1 stands
      exact ⟨later, List.mem_set within later, isSelf ▸ same⟩
    · exact ⟨other, stays, rfl⟩
  have everyone (other : ScriptInstance) (member : other ∈ before.roster.active) :
      ∃ later ∈ before.roster.active, later.id = other.id := ⟨other, member, rfl⟩
  cases move with
  | begin rests operation => exact absurd rests restless
  | @step position self statement later stands steps =>
      refine ⟨rfl, present stands steps.evolves.id_eq, .inl ?_⟩
      obtain ⟨asked, asks, -⟩ := steps.evolves.requests
      change _ ∈ before.pending ++ later.shared.requests
      rw [asks]
      rcases List.mem_append.1 waits with pending | requested
      · exact List.mem_append_left _ pending
      · exact List.mem_append_right _ (List.mem_append_left _ requested)
  | tell stands told => exact ⟨rfl, present stands told.continues.id, .inl waits⟩
  | enter front stands unfinished entered =>
      exact ⟨rfl, present stands entered.continues.id, .inl waits⟩
  | launch front found =>
      exact ⟨rfl, fun other member => ⟨other, List.mem_append_left _ member, rfl⟩, .inl waits⟩
  | @answer action rest front =>
      refine ⟨rfl, everyone, .inl ?_⟩
      unfold Moment.Awaits at waits
      rw [front] at waits
      rcases List.mem_cons.1 waits with isFront | behind
      · cases isFront
      · exact behind
  | @stop cause causeTrack rest position self front stands concerns =>
      exact ⟨rfl, present stands (self.continues_stop before.rig.engine).id, .inl waits⟩
  | @cancelled cause causeTrack rest front done =>
      unfold Moment.Awaits at waits
      rw [front] at waits
      rcases List.mem_cons.1 waits with isFront | behind
      · cases isFront
        exact ⟨rfl, everyone, .inr (.inr rfl)⟩
      · exact ⟨rfl, everyone, .inl behind⟩
  | round carriedOut more =>
      refine ⟨rfl, everyone, .inl ?_⟩
      unfold Moment.Awaits at waits
      rw [carriedOut] at waits
      exact List.mem_append_left _ waits
  | drop carriedOut last => exact ⟨rfl, everyone, .inr (.inl ⟨rfl, last⟩)⟩
  | leave rests stands finished => exact absurd rests restless
  | mail kernel => exact ⟨rfl, everyone, .inl waits⟩
  | block rests => exact absurd rests restless

/-- What has become of a cancellation that was asked for at the first of some moments. -/
inductive Fate (author : InstanceId) (track : Option TrackId) (first : Moment ε)
    (steps : List (Deed ε × Moment ε)) (last : Moment ε) : Prop where
  /-- It still waits, and the operation in which it was asked for goes on. -/
  | waits (awaits : last.Awaits (.cancel (some author) track)) (inside : begun steps = [])
  /-- No round was left for it in that operation. -/
  | dropped {front back : List (Deed ε × Moment ε)} {before there : Moment ε}
      (divides : steps = front ++ (.drop, there) :: back) (inside : begun front = [])
      (moves : Moves first front before) (exhausted : before.rounds = Roster.maxRounds)
  /--
  It was carried out in that operation.  The others that it concerned had finished by
  then, and they do nothing any more.
  -/
  | carriedOut {front back : List (Deed ε × Moment ε)} {there : Moment ε}
      (divides : steps = front ++ (.cancelled (some author) track, there) :: back)
      (inside : begun front = [])
      (present : ∀ self ∈ first.roster.active,
        ∃ later ∈ there.roster.active, later.id = self.id)
      (silenced : ∀ self ∈ there.roster.active, self.id ≠ author →
        (track = none ∨ self.track = track) →
        self.isFinished = true ∧ Silent self.id there back)

/-- When a cancellation has been carried out, everyone it concerned but the author is silenced. -/
theorem Move.silences {before after : Moment ε} {author : InstanceId} {track : Option TrackId}
    (move : Move before (.cancelled (some author) track) after) (numbered : before.IsNumbered)
    {self : ScriptInstance} (member : self ∈ after.roster.active) (other : self.id ≠ author)
    (concerned : track = none ∨ self.track = track) :
    self.isFinished = true ∧ after.IsSilenced self.id := by
  cases move with
  | cancelled front done =>
      have isCancelled : Roster.isCancelled (some author) track self = true := by
        unfold Roster.isCancelled
        rw [Bool.and_eq_true, Bool.or_eq_true, bne_iff_ne, beq_iff_eq]
        refine ⟨fun same => other (Option.some.inj same).symm, concerned.imp ?_ id⟩
        intro everywhere
        rw [everywhere]
        rfl
      have stopped := done self member isCancelled
      refine ⟨stopped.1, numbered.launched self member, fun same isMember isId => ?_⟩
      rw [numbered.unique isMember member isId]
      exact stopped

theorem Moves.fate {first last : Moment ε} {steps : List (Deed ε × Moment ε)}
    (moves : Moves first steps last) (numbered : first.IsNumbered) {author : InstanceId}
    {track : Option TrackId} (waits : first.Awaits (.cancel (some author) track)) :
    Fate author track first steps last := by
  induction moves with
  | nil moment => exact .waits waits rfl
  | @cons first next last deed rest move others ih =>
      obtain ⟨inside, present, goesOn⟩ := move.awaits waits
      have began (front : List (Deed ε × Moment ε)) :
          begun ((deed, next) :: front) = begun front := List.filterMap_cons_none inside
      rcases goesOn with stillWaits | ⟨isDrop, exhausted⟩ | isCancelled
      · cases ih (move.numbered numbered) stillWaits with
        | waits awaits within => exact .waits awaits ((began rest).trans within)
        | @dropped front back before there divides within moves exhausted =>
            exact .dropped (congrArg ((deed, next) :: ·) divides) ((began front).trans within)
              (.cons move moves) exhausted
        | @carriedOut front back there divides within stillPresent silenced =>
            refine .carriedOut (congrArg ((deed, next) :: ·) divides) ((began front).trans within)
              (fun self member => ?_) silenced
            obtain ⟨later, isLater, sameLater⟩ := present self member
            obtain ⟨last, isLast, sameLast⟩ := stillPresent later isLater
            exact ⟨last, isLast, sameLast.trans sameLater⟩
      · subst isDrop
        exact @Fate.dropped ε _ author track first _ last [] rest first next rfl rfl (.nil first)
          exhausted
      · subst isCancelled
        refine @Fate.carriedOut ε _ author track first _ last [] rest next rfl rfl present ?_
        intro self member other concerned
        obtain ⟨finished, silenced⟩ := move.silences numbered member other concerned
        exact ⟨finished, others.silent silenced⟩

/-! ## Resets -/

/--
Every history is a stretch of moments.  When, at one of them, an instance has the
engine hear of a reset, the author of the reset is that instance, and a
cancellation waits for the track of the reset, or for all.  From the moment at
which it has been carried out, within the same operation, no other instance that
it concerns evaluates a statement or makes the engine act; and it never stops its
author.
-/
theorem reset_silences (config : ScriptConfig) (rig : Rig (Overheard ε)) :
    (∀ history, ∃ steps last, Moves (.start config rig) steps last ∧ begun steps = history ∧
      last.IsAtRest ∧ last.state = Roster.outcomes config rig history) ∧
    ∀ {earlier steps fresh} {before next last : Moment (Overheard ε)} {author : InstanceId}
      {statement : Statement} {track : Option TrackId} {action : Action} {scope : ResetScope},
      Moves (.start config rig) earlier before →
      Move before (.step author (some statement)) next →
      next.rig.engine.heard = fresh ++ before.rig.engine.heard →
      (track, action) ∈ fresh → action.target.resetScope = some scope →
      Moves next steps last →
      action.author = some author ∧
      Fate author (scope.concerned track) next steps last ∧
      ∀ front there back, steps = front ++ (.stop author, there) :: back →
        ∃ before cause causeTrack rest, Moves next front before ∧
          before.pending = .cancel cause causeTrack :: rest ∧ cause ≠ some author := by
  refine ⟨moves_outcomes config rig, ?_⟩
  intro earlier steps fresh before next last author statement track action scope reaches
    evaluates hears member resets goesOn
  have numbered := (reaches.numbered (Moment.numbered_start config rig))
  have numberedNext := evaluates.numbered numbered
  obtain ⟨own, waits⟩ : action.author = some author ∧
      next.Awaits (.cancel (some author) (scope.concerned track)) := by
    cases evaluates with
    | @step position self _ later stands steps =>
        obtain ⟨asked, heard, asks, isHeard, announced⟩ := steps.announces
        have same : fresh = heard := List.append_cancel_right (hears.symm.trans isHeard)
        obtain ⟨own, announcesReset⟩ := announced _ (same ▸ member)
        refine ⟨own, List.mem_append_right _ ?_⟩
        change _ ∈ later.shared.requests
        rw [show later.shared.requests = _ from asks]
        exact List.mem_append_right _ (announcesReset scope resets)
  refine ⟨own, goesOn.fate numberedNext waits, fun front there back divides => ?_⟩
  rw [divides] at goesOn
  obtain ⟨middle, toMiddle, fromMiddle⟩ := goesOn.divide
  cases fromMiddle with
  | cons move others =>
      generalize isStop : Deed.stop author = deed at move
      cases move with
      | @stop cause causeTrack rest position self asked stands concerns =>
          injection isStop with isAuthor
          refine ⟨middle, cause, causeTrack, rest, toMiddle, asked, fun same => ?_⟩
          unfold Roster.isCancelled at concerns
          rw [same, isAuthor] at concerns
          simp at concerns
      | _ => cases isStop

/-! ## Two scripts -/

/-- A function of the engine, which may reset something. -/
def functionCall (symbol : SymbolId) (name : String) (reset : Option ResetScope) : Statement :=
  .invoke
    { symbol := symbol
      name := name
      target := .function { reset := reset }
      level := .core
      args := "" }

def resettingScript : Script where
  name := "Resetter"
  statements := [.wait .block, functionCall 0 "GlobalReset" (some .everything), .wait .block]

def bystandingScript : Script where
  id := 1
  name := "Bystander"
  statements := [.wait .block, functionCall 1 "Mute" none, .wait .block]

def bothPressed : List (Operation Recorder) :=
  [.install ⟨[resettingScript, bystandingScript]⟩,
   .run (Roster.touch 0 7 false) Roster.smallRig, .run (Roster.touch 1 8 false) Roster.smallRig,
   .maintain 64 48000 Roster.smallRig]

def EngineCall.invoked? : EngineCall → Option (String × Option ResetScope × Option InstanceId)
  | .invoke _ action _ => some (action.name, action.target.resetScope, action.author)
  | _ => none

/--
A reset takes effect only when its round comes: an instance that was active and has
its turn later in the same block acts on the engine after it.
-/
theorem bystander_acts_after_reset :
    (Roster.outcomes { maxActive := 0 } Roster.smallRig bothPressed).1.active.map
        ScriptInstance.id = [1, 2] ∧
    (Roster.outcomes { maxActive := 0 } Roster.smallRig
        (bothPressed ++ [.maintain 64 48000 Roster.smallRig])).2.engine.calls.filterMap
          EngineCall.invoked? =
      [("GlobalReset", some .everything, some 1), ("Mute", none, some 2)] ∧
    (Roster.outcomes { maxActive := 0 } Roster.smallRig
        (bothPressed ++ [.maintain 64 48000 Roster.smallRig])).1.active.map
          ScriptInstance.id = [1] := by
  refine ⟨by decide +kernel, by decide +kernel, by decide +kernel⟩

def panicScript : Script where
  name := "Panic"
  id := 1
  statements := [functionCall 0 "GlobalReset" (some .everything), .wait .block]

def panicLibrary : ScriptLibrary := ⟨[{ bystandingScript with id := 0 }, panicScript]⟩

def overheardRig : Rig (Overheard Recorder) where
  engine := { engine := {} }
  kernel := .new { poolSize := 1, poolMax := 1 }
  interface := .new 1

def bystander : ScriptInstance :=
  { (ScriptInstance.new 1 { bystandingScript with id := 0 }).start (Roster.touch 0 7 false) with
    pc := some 1
    stack := [.wait { block := some 0 }] }

def panicking : ScriptInstance :=
  (ScriptInstance.new 2 panicScript).start (Roster.touch 1 8 false)

/-- One script waits; another has been launched, and has not run yet. -/
def panicked : Moment (Overheard Recorder) where
  roster :=
    { config := { maxActive := 0 }
      shared := { library := panicLibrary }
      active := [bystander, panicking]
      idle := []
      lastId := 2 }
  rig := overheardRig
  pending := [.launch (Roster.touch 1 8 false)]

def afterPanic : Moment (Overheard Recorder) :=
  let evaluated := ((panicked.runOf panicking).evaluate 0
    (functionCall 0 "GlobalReset" (some .everything))).value
  panicked.withRun 1 (evaluated.2.follow 0 evaluated.1)

/-- The reset as the engine hears it. -/
def resetAction : Action where
  symbol := 0
  name := "GlobalReset"
  target := .function { reset := some .everything }
  scope := .track 0
  trigger := .script
  author := some 2
  track := some 0

theorem reaches_panicked :
    ∃ earlier, Moves (.start { maxActive := 0 } overheardRig) earlier panicked := by
  have reaches : Moves (.start { maxActive := 0 } overheardRig) _ panicked :=
    .cons (.begin ⟨rfl, rfl⟩ (.install panicLibrary))
      (.cons (.begin ⟨rfl, rfl⟩ (.run (Roster.touch 0 7 false) overheardRig))
        (.cons (@Move.launch _ _ _ (Roster.touch 0 7 false) [] 0 _ rfl rfl)
          (.cons (@Move.step _ _ _ 0 _ (some (.wait .block)) _ rfl (.evaluate rfl rfl))
            (.cons (@Move.answer _ _ _ (Roster.touch 0 7 false) [] rfl)
              (.cons (.begin ⟨rfl, rfl⟩ (.run (Roster.touch 1 8 false) overheardRig))
                (.cons (@Move.launch _ _ _ (Roster.touch 1 8 false) [] 1 panicScript rfl rfl)
                  (.nil panicked)))))))
  exact ⟨_, reaches⟩

/-- One instance resets while another waits: that one is stopped, and the first goes on. -/
theorem reset_silences_bystander :
    ∃ earlier steps last,
      Moves (.start { maxActive := 0 } overheardRig) earlier panicked ∧
      Move panicked (.step 2 (some (functionCall 0 "GlobalReset" (some .everything)))) afterPanic ∧
      Moves afterPanic steps last ∧ last.IsAtRest ∧
      last.roster.active.map ScriptInstance.isFinished = [true, false] ∧
      Fate 2 none afterPanic steps last := by
  obtain ⟨earlier, reaches⟩ := reaches_panicked
  have evaluates : Move panicked
      (.step 2 (some (functionCall 0 "GlobalReset" (some .everything)))) afterPanic :=
    @Move.step _ _ panicked 1 panicking _ _ rfl (.evaluate rfl rfl)
  have hears :
      afterPanic.rig.engine.heard = [(some 0, resetAction)] ++ panicked.rig.engine.heard := by
    decide +kernel
  have asks : afterPanic.roster.shared.requests = [.cancel (some 2) none] := by decide +kernel
  have author : (afterPanic.roster.active[1]?).map ScriptInstance.id = some 2 := by decide +kernel
  have goesOn : Moves afterPanic _ _ :=
    .cons (@Move.answer _ _ _ (Roster.touch 1 8 false) [] rfl)
      (.cons (.round rfl (by decide))
        (.cons (@Move.stop _ _ _ (some 2) none [] 0 bystander (by exact asks) rfl rfl)
          (.cons (@Move.cancelled _ _ _ (some 2) none [] (by exact asks) (by
            intro self member concerns
            rcases List.mem_cons.1 member with isFirst | isSecond
            · rw [isFirst]
              exact ⟨rfl, rfl⟩
            · have isAuthor : self.id = 2 := by
                rw [List.mem_singleton.1 isSecond]
                exact Option.some.inj author
              unfold Roster.isCancelled at concerns
              rw [isAuthor] at concerns
              cases concerns))
            (.nil _))))
  obtain ⟨-, silences⟩ := reset_silences { maxActive := 0 } overheardRig
  obtain ⟨own, fate, spares⟩ :=
    silences reaches evaluates hears (List.mem_singleton_self _) rfl goesOn
  exact ⟨_, _, _, reaches, evaluates, goesOn, ⟨rfl, rfl⟩, by decide +kernel, fate⟩

end Looper
