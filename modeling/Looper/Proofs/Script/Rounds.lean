import Looper.Proofs.Script.Proceeding

/-!
# Rounds of requests

What a running script asks of others belongs to the round after the one in progress.
All that is asked in a session is answered in the order in which it was asked: it
is carried out in its round, once, when nobody runs, or dropped if its round would
be one too many.  An operation that is over leaves no request behind.
-/

namespace Looper

open Roster (Operation)

/-! ## Accounts -/

/-- Some requests, each with the round that it belongs to. -/
def inRound (round : Nat) (requests : List ScriptRequest) : List (Nat × ScriptRequest) :=
  requests.map (round, ·)

/-- The requests that an operation brings; they are carried out before the first round. -/
def Roster.Operation.requests {ε : Type} : Operation ε → List ScriptRequest
  | .run action _ => [.launch action]
  | .cancel author track _ => [.cancel author track]
  | .stopAll _ => [.cancel none none]
  | _ => []

section Accounts

variable {ε : Type}

def askedBy : Stage ε × Act ε → List (Nat × ScriptRequest)
  | (_, .begin operation) => inRound 0 operation.requests
  | (before, .step _ _ asked) => inRound (before.moment.rounds + 1) asked
  | _ => []

def carriedOutBy : Stage ε × Act ε → List (Nat × ScriptRequest)
  | (before, .carryOut request) => inRound before.moment.rounds [request]
  | _ => []

def droppedBy : Stage ε × Act ε → List (Nat × ScriptRequest)
  | (before, .drop requests) => inRound (before.moment.rounds + 1) requests
  | _ => []

def answeredBy (passage : Stage ε × Act ε) : List (Nat × ScriptRequest) :=
  carriedOutBy passage ++ droppedBy passage

def allAsked (acts : List (Stage ε × Act ε)) : List (Nat × ScriptRequest) :=
  acts.flatMap askedBy

def allCarriedOut (acts : List (Stage ε × Act ε)) : List (Nat × ScriptRequest) :=
  acts.flatMap carriedOutBy

def allDropped (acts : List (Stage ε × Act ε)) : List (Nat × ScriptRequest) :=
  acts.flatMap droppedBy

def allAnswered (acts : List (Stage ε × Act ε)) : List (Nat × ScriptRequest) :=
  acts.flatMap answeredBy

/-- The requests that wait at a stage: those of the round in progress, and of the next. -/
def Stage.waiting (stage : Stage ε) : List (Nat × ScriptRequest) :=
  inRound stage.moment.rounds stage.moment.pending ++
    inRound (stage.moment.rounds + 1) stage.moment.roster.shared.requests

end Accounts

variable {ε : Type} [Engine ε]

omit [Engine ε] in
theorem inRound_append (round : Nat) (front back : List ScriptRequest) :
    inRound round (front ++ back) = inRound round front ++ inRound round back :=
  List.map_append

omit [Engine ε] in
theorem Stage.waiting_of_isAtRest {stage : Stage ε} (rests : stage.moment.IsAtRest) :
    stage.waiting = [] := by
  unfold waiting
  rw [rests.1, rests.2]
  rfl

omit [Engine ε] in
theorem Moment.IsAtRest.informed {moment : Moment ε} (rests : moment.IsAtRest)
    (operation : Operation ε) :
    ((moment.begin operation).informed operation).roster.shared.requests = [] := by
  cases operation with
  | maintain frames rate rig =>
      exact (congrArg ScriptShared.requests
        ((moment.begin (.maintain frames rate rig)).roster.deliverCompletions_spec _ _).2).trans
          rests.2
  | _ => exact rests.2

theorem Stage.waiting_opening {moment : Moment ε} (rests : moment.IsAtRest)
    (operation : Operation ε) :
    (opening moment operation).waiting = inRound 0 operation.requests := by
  unfold waiting
  rw [show (opening moment operation).moment.roster.shared.requests = [] from
    rests.informed operation]
  cases operation with
  | run action rig => rfl
  | cancel author track rig => rfl
  | stopAll rig => rfl
  | _ =>
      change inRound _ moment.pending ++ [] = []
      rw [rests.1]
      rfl

/-! ## One act -/

/-- Whatever is done: what waited and what is asked for is answered, or still waits. -/
theorem Proceeds.accounts {before after : Stage ε} {act : Act ε}
    (proceeds : Proceeds before act after) :
    before.waiting ++ askedBy (before, act) = answeredBy (before, act) ++ after.waiting := by
  cases proceeds with
  | begin rests operation =>
      rw [Stage.waiting_of_isAtRest rests, Stage.waiting_opening rests]
      rfl
  | turn carriedOut stands msec part => exact List.append_nil _
  | @step moment agenda position left self statement later asked stands due asks =>
      change Stage.waiting _ ++ inRound (moment.rounds + 1) asked =
        inRound moment.rounds moment.pending ++ inRound (moment.rounds + 1) later.shared.requests
      rw [asks, inRound_append, ← List.append_assoc]
      rfl
  | rest stands stops => exact List.append_nil _
  | @launch moment agenda action others front =>
      have shared := (moment.roster.reached_reach action).shared
      unfold Stage.waiting
      dsimp only
      rw [front, shared]
      exact List.append_nil _
  | @cancel moment agenda author track others front =>
      unfold Stage.waiting
      dsimp only
      rw [front]
      exact List.append_nil _
  | round carriedOut turned asked more =>
      unfold Stage.waiting
      rw [carriedOut]
      rfl
  | drop carriedOut turned asked last =>
      unfold Stage.waiting
      rw [carriedOut]
      rfl
  | @leave moment agenda rests =>
      have shared := (Roster.reclaim_spec moment.roster moment.rig).2.1
      rw [Stage.waiting_of_isAtRest rests, Stage.waiting_of_isAtRest
        ⟨rests.1, (congrArg ScriptShared.requests shared).trans rests.2⟩]
      rfl
  | block rests =>
      rw [Stage.waiting_of_isAtRest rests, Stage.waiting_of_isAtRest ⟨rests.1, rests.2⟩]
      rfl

theorem Proceeds.rounds_le {before after : Stage ε} {act : Act ε}
    (proceeds : Proceeds before act after)
    (within : before.moment.rounds ≤ Roster.maxRounds) :
    after.moment.rounds ≤ Roster.maxRounds := by
  cases proceeds with
  | begin rests operation => cases operation <;> exact Nat.zero_le _
  | round carriedOut turned asked more => exact more
  | _ => exact within

/-- What belongs to one of the rounds is carried out, and nothing else is. -/
theorem Proceeds.answers {before after : Stage ε} {act : Act ε}
    (proceeds : Proceeds before act after)
    (within : before.moment.rounds ≤ Roster.maxRounds) :
    carriedOutBy (before, act) =
        (answeredBy (before, act)).filter (fun entry => entry.1 ≤ Roster.maxRounds) ∧
      droppedBy (before, act) =
        (answeredBy (before, act)).filter (fun entry => Roster.maxRounds < entry.1) := by
  cases proceeds with
  | launch front => simp [carriedOutBy, droppedBy, answeredBy, inRound, within]
  | cancel front => simp [carriedOutBy, droppedBy, answeredBy, inRound, within]
  | drop carriedOut turned asked last =>
      simp [carriedOutBy, droppedBy, answeredBy, inRound, last, List.filter_map,
        Function.comp_def]
  | _ => exact ⟨rfl, rfl⟩

/-- While an instance runs it takes its steps, and nothing is done to any other. -/
theorem Proceeds.of_running {before after : Stage ε} {act : Act ε}
    (proceeds : Proceeds before act after) {position left : Nat}
    (runs : before.runner = some (position, left)) :
    ∃ self, before.moment.roster.active[position]? = some self ∧
      ((∃ statement asked, act = .step self.id statement asked) ∨ act = .rest self.id) ∧
      ∀ other, other ≠ position →
        after.moment.roster.active[other]? = before.moment.roster.active[other]? := by
  cases proceeds with
  | @step moment agenda place _ self statement later asked stands due asks =>
      cases runs
      exact ⟨self, stands, .inl ⟨statement, asked, rfl⟩,
        fun other apart => List.getElem?_set_ne apart.symm⟩
  | @rest moment agenda place _ self stands stops =>
      cases runs
      exact ⟨self, stands, .inr rfl, fun _ _ => rfl⟩
  | _ => cases runs

/-! ## A whole session -/

/-- All that was asked for has been answered in that order, up to what still waits. -/
theorem Proceedings.accounts {first last : Stage ε} {acts : List (Stage ε × Act ε)}
    (proceedings : Proceedings first acts last) :
    first.waiting ++ allAsked acts = allAnswered acts ++ last.waiting := by
  induction proceedings with
  | nil => exact List.append_nil _
  | @snoc acts before after act earlier proceeds ih =>
      calc first.waiting ++ allAsked (acts ++ [(before, act)])
          = (first.waiting ++ allAsked acts) ++ askedBy (before, act) := by
            simp [allAsked]
        _ = allAnswered acts ++ (before.waiting ++ askedBy (before, act)) := by
            rw [ih, List.append_assoc]
        _ = allAnswered acts ++ (answeredBy (before, act) ++ after.waiting) := by
            rw [proceeds.accounts]
        _ = allAnswered (acts ++ [(before, act)]) ++ after.waiting := by
            simp [allAnswered]

theorem Proceedings.rounds_le {first last : Stage ε} {acts : List (Stage ε × Act ε)}
    (proceedings : Proceedings first acts last)
    (within : first.moment.rounds ≤ Roster.maxRounds) :
    last.moment.rounds ≤ Roster.maxRounds :=
  proceedings.keeps (fun proceeds => proceeds.rounds_le) within

theorem Proceedings.answers {first last : Stage ε} {acts : List (Stage ε × Act ε)}
    (proceedings : Proceedings first acts last)
    (within : first.moment.rounds ≤ Roster.maxRounds) :
    allCarriedOut acts =
        (allAnswered acts).filter (fun entry => entry.1 ≤ Roster.maxRounds) ∧
      allDropped acts =
        (allAnswered acts).filter (fun entry => Roster.maxRounds < entry.1) := by
  induction proceedings with
  | nil => exact ⟨rfl, rfl⟩
  | @snoc acts before after act earlier proceeds ih =>
      obtain ⟨carried, dropped⟩ := proceeds.answers (Proceedings.rounds_le earlier within)
      simp only [allCarriedOut, allDropped, allAnswered, List.flatMap_append,
        List.flatMap_singleton, List.filter_append] at ih ⊢
      exact ⟨by rw [ih.1, ← carried], by rw [ih.2, ← dropped]⟩

def Stage.between {ε : Type} (roster : Roster) (rig : Rig ε) : Stage ε :=
  { moment := { roster, rig } }

/--
The requests of scripts to each other are answered in the order in which they were
made, and within the operation in which they were made.

From every roster with an empty queue, an operation proceeds until nothing is in
progress any more, and gives back what is then there.  At each stage on the way, all
that has been asked for has been answered in that order, except for what still waits
in the queues: the rest of the round in progress, and behind it what has been asked
for in that round.  What belongs to one of the rounds is carried out, once, and what
comes later is dropped.  When nothing is in progress, nothing waits.  And while an
instance is in the middle of a run it takes its own steps: no other instance is
launched, entered or stopped.
-/
theorem requests_answered_in_order {roster : Roster} (settled : roster.shared.requests = [])
    (rig : Rig ε) :
    (∀ operation : Operation ε, ∃ acts last, Proceedings (.between roster rig) acts last ∧
      opened acts = [operation] ∧ last.IsIdle ∧
      last.moment.state = Roster.outcome (roster, rig) operation) ∧
    ∀ {acts : List (Stage ε × Act ε)} {last : Stage ε},
      Proceedings (.between roster rig) acts last →
      (∃ answered, allAsked acts = answered ++ last.waiting ∧
        allCarriedOut acts = answered.filter (fun entry => entry.1 ≤ Roster.maxRounds) ∧
        allDropped acts = answered.filter (fun entry => Roster.maxRounds < entry.1)) ∧
      (last.IsIdle → last.moment.pending = [] ∧ last.moment.roster.shared.requests = [] ∧
        allCarriedOut acts =
          (allAsked acts).filter (fun entry => entry.1 ≤ Roster.maxRounds) ∧
        allDropped acts =
          (allAsked acts).filter (fun entry => Roster.maxRounds < entry.1)) ∧
      ∀ {act : Act ε} {next : Stage ε}, Proceeds last act next → ∀ position left,
        last.runner = some (position, left) →
        ∃ self, last.moment.roster.active[position]? = some self ∧
          ((∃ statement asked, act = .step self.id statement asked) ∨ act = .rest self.id) ∧
          ∀ other, other ≠ position →
            next.moment.roster.active[other]? = last.moment.roster.active[other]? := by
  have idle : (Stage.between roster rig).IsIdle := ⟨rfl, rfl, rfl, settled⟩
  refine ⟨fun operation => proceedings_operate idle operation, ?_⟩
  intro acts last proceedings
  have accounts := proceedings.accounts
  rw [Stage.waiting_of_isAtRest idle.rests, List.nil_append] at accounts
  obtain ⟨carried, dropped⟩ := proceedings.answers (Nat.zero_le _)
  refine ⟨⟨_, accounts, carried, dropped⟩, fun isIdle => ?_, fun proceeds position left runs =>
    proceeds.of_running runs⟩
  rw [Stage.waiting_of_isAtRest isIdle.rests, List.append_nil] at accounts
  exact ⟨isIdle.rests.1, isIdle.rests.2, accounts ▸ carried, accounts ▸ dropped⟩

def echoScript : Script where
  name := "Echo"
  statements :=
    [.invoke { symbol := 0, name := "Echo", target := .script 0 {}, level := .core, args := "" }]

def echoRoster : Roster :=
  .new { maxActive := 0 } ⟨[echoScript]⟩

/-- Of a script that triggers itself, nine instances are launched. -/
theorem echo_is_cut_off :
    echoRoster.shared.requests = [] ∧
    ∃ acts last, Proceedings (.between echoRoster Roster.smallRig) acts last ∧
      opened acts = [.run (Roster.touch 0 7 false) Roster.smallRig] ∧
      last.moment.roster.lastId = 9 ∧ last.moment.roster.shared.requests = [] ∧
      allCarriedOut acts = (allAsked acts).filter (fun entry => entry.1 ≤ Roster.maxRounds) := by
  obtain ⟨operates, answers⟩ :=
    @requests_answered_in_order _ _ echoRoster rfl Roster.smallRig
  obtain ⟨acts, last, proceedings, isPress, idle, isLast⟩ :=
    operates (.run (Roster.touch 0 7 false) Roster.smallRig)
  obtain ⟨-, settled, carriedOut, -⟩ := (answers proceedings).2.1 idle
  have launches : (Roster.outcome (echoRoster, Roster.smallRig)
      (.run (Roster.touch 0 7 false) Roster.smallRig)).1.lastId = 9 := by
    decide +kernel
  exact ⟨rfl, acts, last, proceedings, isPress, (congrArg (·.1.lastId) isLast).trans launches,
    settled, carriedOut⟩

end Looper
