import Looper.Proofs.Script.Evolution
import Looper.Proofs.Script.Stacking
import Looper.Proofs.Script.Suspension

/-!
# The course of a run

In every state of a run there is at most one step that is due, and none only if
the instance waits or has come to its end.  Advancing follows these steps until
it has evaluated as many statements as it may, so it never takes more, and what
it leaves out is exactly what the next run begins with.
-/

namespace Looper

namespace Run

variable {ε : Type}

/-! ## What is due -/

/-- No wait is on top of the stack. -/
structure IsFree (run : Run ε) : Prop where
  ready : run.self.isWaiting = false
  asleep : run.wake? = none

theorem isFree_of_closed {run : Run ε} (closed : run.self.stack = []) : run.IsFree := by
  constructor
  · unfold ScriptInstance.isWaiting
    rw [closed]
  · unfold wake?
    rw [closed]

theorem ready_of_wake {run woken : Run ε} (wakes : run.wake? = some woken) :
    run.self.isWaiting = false := by
  obtain ⟨wait, rest, stack, satisfied, -⟩ := wake?_eq_some.1 wakes
  simp [ScriptInstance.isWaiting, stack, satisfied]

/-- Nothing goes on by itself: the instance waits, or has come to its end. -/
def IsHalted (run : Run ε) : Prop :=
  run.self.isWaiting = true ∨ run.self.pc = none ∧ run.self.stack = []

instance (run : Run ε) : Decidable run.IsHalted :=
  inferInstanceAs (Decidable (_ ∨ _))

theorem here?_eq_none {run : Run ε} (ended : run.self.pc = none) : run.here? = none := by
  unfold here?
  rw [ended]
  rfl

variable [Engine ε]

/-- The step that a run takes next. -/
inductive Due : Run ε → Option Statement → Run ε → Prop where
  | wake {run woken : Run ε} (wakes : run.wake? = some woken) : Due run none woken
  | endLevel {run : Run ε} (free : run.IsFree) (past : run.here? = none)
      (opened : run.self.stack ≠ []) : Due run none (run.withSelf run.self.endLevel)
  | finish {run : Run ε} (past : run.here? = none) (closed : run.self.stack = [])
      (goesOn : run.self.pc ≠ none) : Due run none (run.setPlace none)
  | evaluate {run : Run ε} {index : Nat} {statement : Statement} (free : run.IsFree)
      (stands : run.here? = some (index, statement)) :
      Due run (some statement)
        ((run.evaluate index statement).value.2.follow index
          (run.evaluate index statement).value.1)

namespace Due

variable {run next other : Run ε} {statement another : Option Statement}

theorem step (due : run.Due statement next) : run.Step statement next := by
  cases due with
  | wake wakes => exact .wake wakes
  | endLevel free past opened => exact .endLevel past opened
  | finish past closed goesOn => exact .finish past closed
  | evaluate free stands => exact .evaluate free.ready stands

theorem not_isHalted (due : run.Due statement next) : ¬ run.IsHalted := by
  rintro (waiting | ⟨ended, closed⟩)
  · cases due with
    | wake wakes => rw [ready_of_wake wakes] at waiting; cases waiting
    | endLevel free past opened => rw [free.ready] at waiting; cases waiting
    | finish past closed goesOn => rw [(isFree_of_closed closed).ready] at waiting; cases waiting
    | evaluate free stands => rw [free.ready] at waiting; cases waiting
  · cases due with
    | wake wakes => rw [(isFree_of_closed closed).asleep] at wakes; cases wakes
    | endLevel free past opened => exact opened closed
    | finish past closed goesOn => exact goesOn ended
    | evaluate free stands => rw [here?_eq_none ended] at stands; cases stands

/-- There is only one step that is due. -/
theorem unique (due : run.Due statement next) (second : run.Due another other) :
    another = statement ∧ other = next := by
  cases due with
  | wake wakes =>
      cases second with
      | wake wakesToo => exact ⟨rfl, Option.some.inj (wakesToo.symm.trans wakes)⟩
      | endLevel free past opened => rw [free.asleep] at wakes; cases wakes
      | finish past closed goesOn => rw [(isFree_of_closed closed).asleep] at wakes; cases wakes
      | evaluate free stands => rw [free.asleep] at wakes; cases wakes
  | endLevel free past opened =>
      cases second with
      | wake wakes => rw [free.asleep] at wakes; cases wakes
      | endLevel => exact ⟨rfl, rfl⟩
      | finish _ closed => exact absurd closed opened
      | evaluate _ stands => rw [past] at stands; cases stands
  | finish past closed goesOn =>
      cases second with
      | wake wakes => rw [(isFree_of_closed closed).asleep] at wakes; cases wakes
      | endLevel _ _ opened => exact absurd closed opened
      | finish => exact ⟨rfl, rfl⟩
      | evaluate _ stands => rw [past] at stands; cases stands
  | evaluate free stands =>
      cases second with
      | wake wakes => rw [free.asleep] at wakes; cases wakes
      | endLevel _ past => rw [stands] at past; cases past
      | finish past => rw [stands] at past; cases past
      | evaluate _ standsToo =>
          cases stands.symm.trans standsToo
          exact ⟨rfl, rfl⟩

/-- Where no statement is evaluated, a frame is taken off or the instance comes to its end. -/
theorem stack_lt (due : run.Due none next) :
    next.self.stack.length < run.self.stack.length ∨ next.IsHalted := by
  cases due with
  | wake wakes => exact .inl (length_stack_wake wakes)
  | endLevel free past opened => exact .inl (run.self.length_endLevel_lt opened)
  | finish past closed goesOn => exact .inr (.inr ⟨rfl, closed⟩)

omit [Engine ε] in
theorem stack_follow_le (run : Run ε) (index : Nat) (flow : Flow) :
    (run.follow index flow).self.stack.length ≤ run.self.stack.length := by
  cases flow with
  | next => exact Nat.le_refl _
  | goto target => exact Nat.le_refl _
  | placed => exact Nat.le_refl _
  | finish =>
      have shorter := run.self.length_unwind_le run.self.stack
      exact Nat.le_trans shorter (Nat.sub_le _ _)

theorem stack_le {statement : Statement} (due : run.Due (some statement) next) :
    next.self.stack.length ≤ run.self.stack.length + 1 := by
  cases due with
  | evaluate free stands =>
      exact Nat.le_trans (stack_follow_le _ _ _)
        (run.effect_evaluate _ statement).restacked.length_le

end Due

/-! ## Courses -/

/--
The way of a run from one state to another: the number of its steps, and the
states in which it evaluates a statement.
-/
inductive Course : Run ε → Nat → List (Run ε) → Run ε → Prop where
  | refl (run : Run ε) : Course run 0 [] run
  | pass {run next last : Run ε} {moves : Nat} {visits : List (Run ε)}
      (due : run.Due none next) (rest : Course next moves visits last) :
      Course run (moves + 1) visits last
  | visit {run next last : Run ε} {statement : Statement} {moves : Nat} {visits : List (Run ε)}
      (due : run.Due (some statement) next) (rest : Course next moves visits last) :
      Course run (moves + 1) (run :: visits) last

namespace Course

variable {run middle last other : Run ε} {moves more : Nat} {visits further : List (Run ε)}

theorem append (first : Course run moves visits middle) (second : Course middle more further last) :
    Course run (moves + more) (visits ++ further) last := by
  induction first with
  | refl run => rwa [Nat.zero_add]
  | pass due rest ih =>
      rw [Nat.add_right_comm]
      exact .pass due (ih second)
  | visit due rest ih =>
      rw [Nat.add_right_comm]
      exact .visit due (ih second)

theorem of_isHalted (course : Course run moves visits last) (halted : run.IsHalted) :
    moves = 0 ∧ visits = [] ∧ last = run := by
  cases course with
  | refl => exact ⟨rfl, rfl, rfl⟩
  | pass due rest => exact absurd halted due.not_isHalted
  | visit due rest => exact absurd halted due.not_isHalted

/-- Of two courses from the same state, the longer one goes on where the shorter one ends. -/
theorem prolonged (first : Course run moves visits middle) (second : Course run more further last)
    (sooner : moves ≤ more) :
    ∃ rest, further = visits ++ rest ∧ Course middle (more - moves) rest last := by
  induction first generalizing more further with
  | refl run => exact ⟨further, rfl, second⟩
  | @pass run next middle moves visits due rest ih =>
      cases second with
      | refl => cases sooner
      | @pass _ another _ more further dueToo restToo =>
          obtain ⟨-, rfl⟩ := due.unique dueToo
          rw [Nat.add_sub_add_right]
          exact ih restToo (Nat.le_of_succ_le_succ sooner)
      | visit dueToo restToo => cases (due.unique dueToo).1
  | @visit run next middle statement moves visits due rest ih =>
      cases second with
      | refl => cases sooner
      | pass dueToo restToo => cases (due.unique dueToo).1
      | @visit _ another _ statement more further dueToo restToo =>
          obtain ⟨-, rfl⟩ := due.unique dueToo
          obtain ⟨beyond, rfl, goesOn⟩ := ih restToo (Nat.le_of_succ_le_succ sooner)
          rw [Nat.add_sub_add_right]
          exact ⟨beyond, rfl, goesOn⟩

/--
Each statement puts at most one frame on the stack and each other step takes one
off, except for the last one at the end of the script.
-/
theorem moves_le (course : Course run moves visits last) :
    moves ≤ 2 * visits.length + run.self.stack.length + 1 := by
  suffices bound : moves ≤ 2 * visits.length + run.self.stack.length + 1 ∧
      (last.IsHalted ∨ moves ≤ 2 * visits.length + run.self.stack.length) from bound.1
  induction course with
  | refl run => exact ⟨by omega, .inr (by omega)⟩
  | pass due rest ih =>
      rcases due.stack_lt with shorter | halted
      · exact ⟨by omega, ih.2.imp_right fun bound => by omega⟩
      · obtain ⟨rfl, rfl, rfl⟩ := rest.of_isHalted halted
        exact ⟨by omega, .inl halted⟩
  | visit due rest ih =>
      have higher := due.stack_le
      rw [List.length_cons]
      exact ⟨by omega, ih.2.imp_right fun bound => by omega⟩

end Course

/-! ## The budget -/

def writes (run : Run ε) : List LogRecord :=
  match run.here? with
  | some (index, statement) => (run.evaluate index statement).records
  | none => []

omit [Engine ε] in
def lastWords (run : Run ε) : List LogRecord :=
  if run.IsHalted then [] else [run.suspension]

/-- A run goes its course as far as a number of statements may take it. -/
structure Spends (run : Run ε) (allowed : Nat) (visits : List (Run ε))
    (outcome : Logged (Run ε)) : Prop where
  course : ∃ moves, Course run moves visits outcome.value
  within : visits.length ≤ allowed
  /-- Only a wait, the end or the budget stops it, and the budget only before a statement. -/
  stops : outcome.value.IsHalted ∨
    visits.length = allowed ∧ ∃ statement next, outcome.value.Due (some statement) next
  records : outcome.records = visits.flatMap writes ++ outcome.value.lastWords

namespace Spends

variable {run : Run ε} {allowed more : Nat} {visits further : List (Run ε)}
  {outcome final : Logged (Run ε)}

theorem pass {next : Run ε} (due : run.Due none next)
    (spends : Spends next allowed visits outcome) : Spends run allowed visits outcome := by
  obtain ⟨moves, course⟩ := spends.course
  exact { spends with course := ⟨moves + 1, .pass due course⟩ }

theorem visit {index : Nat} {statement : Statement} (free : run.IsFree)
    (stands : run.here? = some (index, statement))
    (spends : Spends
      ((run.evaluate index statement).value.2.follow index
        (run.evaluate index statement).value.1) allowed visits outcome) :
    Spends run (allowed + 1) (run :: visits)
      ⟨outcome.value, (run.evaluate index statement).records ++ outcome.records⟩ := by
  have written : run.writes = (run.evaluate index statement).records := by
    unfold writes
    rw [stands]
  obtain ⟨moves, course⟩ := spends.course
  constructor
  · exact ⟨moves + 1, .visit (.evaluate free stands) course⟩
  · exact Nat.succ_le_succ spends.within
  · exact spends.stops.imp_right (And.imp_left (congrArg (· + 1)))
  · rw [spends.records, List.flatMap_cons, List.append_assoc, written]

theorem unique_of_le (spends : Spends run allowed visits outcome)
    (second : Spends run allowed further final) {moves beyond : Nat}
    (course : Course run moves visits outcome.value)
    (longer : Course run beyond further final.value)
    (sooner : moves ≤ beyond) : further = visits ∧ final.value = outcome.value := by
  obtain ⟨rest, rfl, goesOn⟩ := course.prolonged longer sooner
  have bound := second.within
  generalize beyond - moves = extra, final.value = reached at goesOn ⊢
  rcases spends.stops with halted | ⟨spent, statement, next, due⟩
  · obtain ⟨-, rfl, same⟩ := goesOn.of_isHalted halted
    exact ⟨List.append_nil visits, same⟩
  · rw [List.length_append, spent] at bound
    cases goesOn with
    | refl => exact ⟨List.append_nil visits, rfl⟩
    | pass dueToo => cases (due.unique dueToo).1
    | visit => rw [List.length_cons] at bound; omega

/-- What a number of statements leads to is determined. -/
theorem unique (spends : Spends run allowed visits outcome)
    (second : Spends run allowed further final) : further = visits ∧ final = outcome := by
  have same : further = visits ∧ final.value = outcome.value := by
    obtain ⟨moves, course⟩ := spends.course
    obtain ⟨beyond, longer⟩ := second.course
    rcases Nat.le_total moves beyond with sooner | later
    · exact spends.unique_of_le second course longer sooner
    · obtain ⟨sameVisits, sameValue⟩ := second.unique_of_le spends longer course later
      exact ⟨sameVisits.symm, sameValue.symm⟩
  obtain ⟨rfl, sameValue⟩ := same
  have sameRecords : final.records = outcome.records := by
    rw [second.records, spends.records, sameValue]
  exact ⟨rfl, congrArg₂ Logged.mk sameValue sameRecords⟩

/-- A suspended run loses nothing: what the next one does is what a longer one would have done. -/
theorem resume (first : Spends run allowed visits outcome)
    (second : Spends outcome.value more further final) :
    Spends run (allowed + more) (visits ++ further)
      ⟨final.value, visits.flatMap writes ++ final.records⟩ := by
  obtain ⟨moves, course⟩ := first.course
  obtain ⟨beyond, longer⟩ := second.course
  constructor
  · exact ⟨moves + beyond, course.append longer⟩
  · rw [List.length_append]
    exact Nat.add_le_add first.within second.within
  · rcases first.stops with halted | ⟨spent, -⟩
    · exact .inl ((longer.of_isHalted halted).2.2 ▸ halted)
    · refine second.stops.imp_right (And.imp_left fun spentToo => ?_)
      rw [List.length_append, spent, spentToo]
  · rw [second.records, List.flatMap_append, List.append_assoc]

end Spends

/-- Advancing evaluates no more statements than it may, and stops for no other reason. -/
theorem spends_advance (allowed : Nat) (run : Run ε) :
    ∃ visits, Spends run allowed visits (run.advance allowed) := by
  have stays {run : Run ε} {allowed : Nat} (halted : run.IsHalted) :
      Spends run allowed [] (pure run) :=
    ⟨⟨0, .refl run⟩, Nat.zero_le _, .inl halted, (if_pos halted).symm⟩
  induction allowed, run using advance_recursion with
  | waits allowed run waiting =>
      rw [advance_of_waiting waiting]
      exact ⟨[], stays (.inl waiting)⟩
  | wakes allowed run woken ready woke ih =>
      rw [advance_of_wake ready woke]
      obtain ⟨visits, spends⟩ := ih
      exact ⟨visits, spends.pass (.wake woke)⟩
  | closed allowed run ready asleep past empty =>
      rw [advance_of_closed ready asleep past empty]
      have ends : Spends (run.setPlace none) allowed [] _ := stays (.inr ⟨rfl, empty⟩)
      by_cases ended : run.self.pc = none
      · have same : run.setPlace none = run := by
          unfold setPlace withSelf
          rw [← ended]
        rw [same] at ends ⊢
        exact ⟨[], ends⟩
      · exact ⟨[], ends.pass (.finish past empty ended)⟩
  | opened allowed run ready asleep past left ih =>
      rw [advance_of_opened ready asleep past left]
      obtain ⟨visits, spends⟩ := ih
      exact ⟨visits, spends.pass (.endLevel ⟨ready, asleep⟩ past left)⟩
  | suspends run index statement ready asleep stands =>
      have due : run.Due _ _ := .evaluate ⟨ready, asleep⟩ stands
      rw [advance_suspends ready asleep stands]
      exact ⟨[], ⟨0, .refl run⟩, Nat.le_refl _, .inr ⟨rfl, _, _, due⟩,
        (if_neg due.not_isHalted).symm⟩
  | evaluates allowed run index statement ready asleep stands ih =>
      rw [advance_evaluates ready asleep stands]
      obtain ⟨visits, spends⟩ := ih
      exact ⟨run :: visits, spends.visit ⟨ready, asleep⟩ stands⟩

/-! ## Waits along the way -/

omit [Engine ε] in
theorem mem_stack_unwind {self : ScriptInstance} {frames : List Frame} {frame : Frame}
    (member : frame ∈ (self.unwind frames).stack) : frame ∈ frames := by
  obtain ⟨current, pc, stack, track, isLater, suffix⟩ := self.unwind_eq frames
  rw [isLater] at member
  exact suffix.mem member

omit [Engine ε] in
theorem mem_stack_follow {run : Run ε} {index : Nat} {flow : Flow} {frame : Frame}
    (member : frame ∈ (run.follow index flow).self.stack) : frame ∈ run.self.stack := by
  cases flow with
  | next => exact member
  | goto target => exact member
  | placed => exact member
  | finish => exact mem_stack_unwind member

/-- A wait on the stack was there before the step, or its statement begins it. -/
theorem Due.wait_mem {run next : Run ε} {statement : Option Statement}
    (due : run.Due statement next) {wait : Wait} (member : .wait wait ∈ next.self.stack) :
    .wait wait ∈ run.self.stack ∨
      ∃ cause, statement.bind run.awaits? = some cause ∧ wait = cause.wait := by
  cases due with
  | wake wakes =>
      obtain ⟨satisfied, rest, stack, -, rfl⟩ := wake?_eq_some.1 wakes
      exact .inl (stack ▸ List.mem_cons_of_mem _ member)
  | endLevel free past opened => exact .inl (mem_stack_unwind member)
  | finish past closed goesOn => exact .inl member
  | evaluate free stands =>
      exact (run.effect_evaluate _ _).restacked.wait_mem (mem_stack_follow member)

theorem block_of_awaits? {run : Run ε} {statement : Statement} {block : Nat}
    (awaits : run.awaits? statement = some (.block block)) : block = run.shared.block := by
  cases statement with
  | wait kind =>
      cases kind with
      | block =>
          cases awaits
          rfl
      | last =>
          obtain ⟨event, -, same⟩ := Option.map_eq_some_iff.1 awaits
          cases same
      | thread =>
          obtain ⟨event, -, same⟩ := Option.map_eq_some_iff.1 awaits
          cases same
      | msec time =>
          obtain ⟨msec, -, scheduled⟩ := Option.bind_eq_some_iff.1 awaits
          obtain ⟨event, -, same⟩ := Option.map_eq_some_iff.1 scheduled
          cases same
      | function symbol => cases awaits
  | request kind args =>
      simp only [awaits?] at awaits
      split at awaits
      · obtain ⟨event, -, same⟩ := Option.map_eq_some_iff.1 awaits
        cases same
      · cases awaits
  | _ => cases awaits

/-! ## One run after another -/

omit [Engine ε] in
/-- At the beginning of a block, waits for the next block are over first. -/
def released (fresh : Bool) (run : Run ε) : Run ε :=
  if fresh then run.withSelf (run.self.releaseBlock run.shared.block) else run

theorem go_eq_advance (fresh : Bool) (run : Run ε) :
    run.go fresh = (run.released fresh).advance budget := by
  cases fresh <;> rfl

omit [Engine ε] in
/-- No wait for the next block began in an earlier one. -/
def IsRenewed (run : Run ε) : Prop :=
  ∀ wait, .wait wait ∈ run.self.stack → ∀ block, wait.block = some block → run.shared.block ≤ block

omit [Engine ε] in
theorem isRenewed_released (run : Run ε) : (run.released true).IsRenewed := by
  rintro wait member block blocked
  obtain ⟨frame, -, isWait⟩ := List.mem_map.1 member
  cases frame with
  | wait before =>
      cases isWait
      unfold Wait.releaseBlock at blocked
      split at blocked
      · cases blocked
      · next stays =>
          rw [blocked, Option.any_some, decide_eq_true_eq] at stays
          exact Nat.le_of_not_lt stays
  | _ => cases isWait

omit [Engine ε] in
/-- Where no wait is left from an earlier block, the beginning of this one is over. -/
theorem IsRenewed.released {run : Run ε} (renewed : run.IsRenewed) (fresh : Bool) :
    run.released fresh = run := by
  have same : run.self.stack.map (Frame.mapWait (Wait.releaseBlock run.shared.block)) =
      run.self.stack := by
    refine (List.map_congr_left fun frame member => ?_).trans (List.map_id _)
    cases frame with
    | wait wait =>
        refine congrArg Frame.wait (if_neg fun earlier => ?_)
        obtain ⟨block, blocked, began⟩ := (Option.any_eq_true _ _).1 earlier
        rw [decide_eq_true_eq] at began
        exact absurd (renewed wait member block blocked) (Nat.not_le_of_lt began)
    | _ => rfl
  cases fresh with
  | false => rfl
  | true =>
      change run.withSelf { run.self with stack := _ } = run
      rw [same]
      rfl

theorem Due.isRenewed {run next : Run ε} {statement : Option Statement}
    (due : run.Due statement next) (renewed : run.IsRenewed) : next.IsRenewed := by
  intro wait member block blocked
  rw [(respects_evolves.step due.step).block]
  rcases due.wait_mem member with before | ⟨cause, begins, rfl⟩
  · exact renewed wait before block blocked
  · obtain ⟨statement, rfl, awaits⟩ := Option.bind_eq_some_iff.1 begins
    cases cause with
    | block begun =>
        cases blocked
        exact Nat.le_of_eq (block_of_awaits? awaits).symm
    | _ => cases blocked

theorem Course.isRenewed {run last : Run ε} {moves : Nat} {visits : List (Run ε)}
    (course : Course run moves visits last) (renewed : run.IsRenewed) : last.IsRenewed := by
  induction course with
  | refl run => exact renewed
  | pass due rest ih => exact ih (due.isRenewed renewed)
  | visit due rest ih => exact ih (due.isRenewed renewed)

/-- The states in which several runs evaluate statements, one run after another. -/
inductive Sequel : List Bool → Run ε → List (Run ε) → Prop where
  | nil (run : Run ε) : Sequel [] run []
  | cons {fresh : Bool} {calls : List Bool} {run : Run ε} {visits further : List (Run ε)}
      (first : Spends (run.released fresh) budget visits (run.go fresh))
      (others : Sequel calls (run.go fresh).value further) :
      Sequel (fresh :: calls) run (visits ++ further)

/-- A run that has spent something goes on with the runs that follow, and skips nothing. -/
theorem Spends.sequel {run : Run ε} {allowed : Nat} {visits : List (Run ε)}
    {outcome : Logged (Run ε)} (spends : Spends run allowed visits outcome) (calls : List Bool)
    (settled : true ∈ calls → outcome.value.IsRenewed) :
    ∃ further final, Sequel calls outcome.value further ∧
      final.value = outcome.value.goAll calls ∧
      Spends run (allowed + budget * calls.length) (visits ++ further) final := by
  induction calls generalizing allowed visits outcome with
  | nil =>
      refine ⟨[], outcome, .nil _, rfl, ?_⟩
      rwa [List.append_nil]
  | cons fresh calls ih =>
      have same : outcome.value.released fresh = outcome.value := by
        cases fresh with
        | false => rfl
        | true => exact (settled List.mem_cons_self).released true
      obtain ⟨further, next⟩ := spends_advance budget (outcome.value.released fresh)
      rw [← go_eq_advance] at next
      have resumed := spends.resume (same ▸ next)
      have stillSettled : true ∈ calls → (outcome.value.go fresh).value.IsRenewed := by
        intro member
        obtain ⟨moves, course⟩ := next.course
        exact course.isRenewed (same.symm ▸ settled (List.mem_cons_of_mem _ member))
      obtain ⟨beyond, final, others, isFinal, whole⟩ := ih resumed stillSettled
      refine ⟨further ++ beyond, final, .cons next others, isFinal, ?_⟩
      rw [List.length_cons, Nat.mul_succ, Nat.add_comm (budget * _), ← Nat.add_assoc,
        ← List.append_assoc]
      exact whole

/--
Runs one after another, with nothing in between, are one run with the sum of
their budgets: they evaluate the same statements in the same states.
-/
theorem sequel_go (run : Run ε) (fresh : Bool) (calls : List Bool)
    (known : true ∈ calls → fresh = true) :
    ∃ visits, Sequel (fresh :: calls) run visits ∧
      run.goAll (fresh :: calls) =
        ((run.released fresh).advance (budget * (calls.length + 1))).value ∧
      Spends (run.released fresh) (budget * (calls.length + 1)) visits
        ((run.released fresh).advance (budget * (calls.length + 1))) := by
  obtain ⟨visits, first⟩ := spends_advance budget (run.released fresh)
  rw [← go_eq_advance] at first
  have settled : true ∈ calls → (run.go fresh).value.IsRenewed := by
    intro member
    obtain ⟨moves, course⟩ := first.course
    refine course.isRenewed ?_
    rw [known member]
    exact run.isRenewed_released
  obtain ⟨further, final, others, isFinal, whole⟩ := first.sequel calls settled
  rw [Nat.add_comm, ← Nat.mul_succ] at whole
  obtain ⟨all, spends⟩ := spends_advance (budget * (calls.length + 1)) (run.released fresh)
  obtain ⟨rfl, rfl⟩ := whole.unique spends
  exact ⟨visits ++ further, .cons first others, isFinal.symm, spends⟩

end Run

end Looper
