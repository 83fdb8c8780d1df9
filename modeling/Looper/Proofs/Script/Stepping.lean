import Looper.Script.Run

/-!
# Runs step by step

`Run.advance` wakes from a wait, leaves a script level, comes to the end or
evaluates a statement.  Each of these is one `Run.Step`, and what holds from step
to step holds for the whole advance.
-/

namespace Looper

namespace Run

variable {ε : Type} [Engine ε]

/-! ## What advancing does first -/

omit [Engine ε] in
/-- What is reported of a run that has used up its budget. -/
def suspension (run : Run ε) : LogRecord :=
  ⟨.warn, .scripts,
    s!"{run.self.current.name}: {budget} statements without a wait, suspending"⟩

omit [Engine ε] in
/-- Waking takes a satisfied wait off the top of the stack, and nothing else. -/
theorem wake?_eq_some {run woken : Run ε} : run.wake? = some woken ↔
    ∃ wait rest, run.self.stack = .wait wait :: rest ∧ wait.isSatisfied = true ∧
      woken = run.withSelf { run.self with stack := rest } := by
  constructor
  · intro wakes
    unfold wake? at wakes
    split at wakes
    · next wait rest top =>
        split at wakes
        · next satisfied => exact ⟨wait, rest, top, satisfied, (Option.some.inj wakes).symm⟩
        · cases wakes
    · cases wakes
  · rintro ⟨wait, rest, top, satisfied, rfl⟩
    unfold wake?
    split
    · next topmost others stack =>
        obtain ⟨isWait, rfl⟩ := List.cons.inj (top.symm.trans stack)
        cases isWait
        rw [if_pos satisfied]
    · next noWait => exact absurd top (noWait wait rest)

omit [Engine ε] in
theorem here?_eq_some {run : Run ε} {index : Nat} {statement : Statement} :
    run.here? = some (index, statement) ↔
      run.self.pc = some index ∧ run.self.current.statements[index]? = some statement := by
  simp only [here?, Option.bind_eq_some_iff, Option.map_eq_some_iff, Prod.mk.injEq]
  constructor
  · rintro ⟨place, isPlace, _, found, rfl, rfl⟩
    exact ⟨isPlace, found⟩
  · rintro ⟨isPlace, found⟩
    exact ⟨index, isPlace, statement, found, rfl, rfl⟩

section Arriving

variable {run : Run ε}

omit [Engine ε] in
theorem arrive_of_waiting (waiting : run.self.isWaiting = true) : run.arrive = run := by
  rw [arrive, if_pos waiting]

omit [Engine ε] in
theorem arrive_of_wake {woken : Run ε} (ready : run.self.isWaiting = false)
    (wakes : run.wake? = some woken) : run.arrive = woken.arrive := by
  rw [arrive, if_neg (Bool.eq_false_iff.1 ready)]
  split <;> simp_all

omit [Engine ε] in
theorem arrive_of_stands {index : Nat} {statement : Statement}
    (ready : run.self.isWaiting = false) (asleep : run.wake? = none)
    (stands : run.here? = some (index, statement)) : run.arrive = run := by
  rw [arrive, if_neg (Bool.eq_false_iff.1 ready)]
  split <;> simp_all

omit [Engine ε] in
theorem arrive_of_closed (ready : run.self.isWaiting = false) (asleep : run.wake? = none)
    (past : run.here? = none) (closed : run.self.stack = []) :
    run.arrive = run.setPlace none := by
  rw [arrive, if_neg (Bool.eq_false_iff.1 ready)]
  split <;> simp_all

omit [Engine ε] in
theorem arrive_of_opened (ready : run.self.isWaiting = false) (asleep : run.wake? = none)
    (past : run.here? = none) (opened : run.self.stack ≠ []) :
    run.arrive = (run.withSelf run.self.endLevel).arrive := by
  rw [arrive, if_neg (Bool.eq_false_iff.1 ready)]
  split <;> simp_all

end Arriving

section Equations

variable {run : Run ε} {steps : Nat}

/-- How a run goes on depends on where it arrives. -/
theorem advance_of_arrive {other : Run ε} (same : run.arrive = other.arrive) :
    run.advance steps = other.advance steps := by
  rw [advance.eq_def, advance.eq_def, same]

theorem advance_of_waiting (waiting : run.self.isWaiting = true) :
    run.advance steps = pure run := by
  rw [advance.eq_def, arrive_of_waiting waiting]
  exact if_pos waiting

theorem advance_of_wake {woken : Run ε} (ready : run.self.isWaiting = false)
    (wakes : run.wake? = some woken) : run.advance steps = woken.advance steps :=
  advance_of_arrive (arrive_of_wake ready wakes)

theorem advance_of_closed (ready : run.self.isWaiting = false) (asleep : run.wake? = none)
    (past : run.here? = none) (closed : run.self.stack = []) :
    run.advance steps = pure (run.setPlace none) := by
  rw [advance.eq_def, arrive_of_closed ready asleep past closed]
  exact if_neg (Bool.eq_false_iff.1 ready)

theorem advance_of_opened (ready : run.self.isWaiting = false) (asleep : run.wake? = none)
    (past : run.here? = none) (opened : run.self.stack ≠ []) :
    run.advance steps = (run.withSelf run.self.endLevel).advance steps :=
  advance_of_arrive (arrive_of_opened ready asleep past opened)

theorem advance_suspends {index : Nat} {statement : Statement}
    (ready : run.self.isWaiting = false) (asleep : run.wake? = none)
    (stands : run.here? = some (index, statement)) :
    run.advance 0 = ⟨run, [run.suspension]⟩ := by
  rw [advance.eq_def, arrive_of_stands ready asleep stands]
  dsimp only
  rw [if_neg (Bool.eq_false_iff.1 ready), stands]
  rfl

theorem advance_evaluates {index : Nat} {statement : Statement}
    (ready : run.self.isWaiting = false) (asleep : run.wake? = none)
    (stands : run.here? = some (index, statement)) :
    run.advance (steps + 1) =
      run.evaluate index statement >>= fun outcome =>
        (outcome.2.follow index outcome.1).advance steps := by
  rw [advance.eq_def, arrive_of_stands ready asleep stands]
  dsimp only
  rw [if_neg (Bool.eq_false_iff.1 ready), stands]

theorem advance_zero {index : Nat} {statement : Statement}
    (ready : run.self.isWaiting = false) (asleep : run.wake? = none)
    (stands : run.here? = some (index, statement)) : (run.advance 0).value = run := by
  rw [advance_suspends ready asleep stands]

theorem advance_succ {index : Nat} {statement : Statement}
    (ready : run.self.isWaiting = false) (asleep : run.wake? = none)
    (stands : run.here? = some (index, statement)) :
    (run.advance (steps + 1)).value =
      (((run.evaluate index statement).value.2.follow index
        (run.evaluate index statement).value.1).advance steps).value := by
  rw [advance_evaluates ready asleep stands]
  rfl

end Equations

/--
Induction along an advance, on the statements it may still evaluate and, up to the next
of them, on the stack.
-/
@[elab_as_elim]
theorem advance_recursion {motive : Nat → Run ε → Prop}
    (waits : ∀ steps run, run.self.isWaiting = true → motive steps run)
    (wakes : ∀ steps run woken, run.self.isWaiting = false → run.wake? = some woken →
      motive steps woken → motive steps run)
    (closed : ∀ steps run, run.self.isWaiting = false → run.wake? = none →
      run.here? = none → run.self.stack = [] → motive steps run)
    (opened : ∀ steps run, run.self.isWaiting = false → run.wake? = none →
      run.here? = none → run.self.stack ≠ [] →
      motive steps (run.withSelf run.self.endLevel) → motive steps run)
    (suspends : ∀ run index statement, run.self.isWaiting = false → run.wake? = none →
      run.here? = some (index, statement) → motive 0 run)
    (evaluates : ∀ steps run index statement, run.self.isWaiting = false → run.wake? = none →
      run.here? = some (index, statement) →
      motive steps ((run.evaluate index statement).value.2.follow index
        (run.evaluate index statement).value.1) → motive (steps + 1) run)
    (steps : Nat) (run : Run ε) : motive steps run := by
  have arriving (steps : Nat) (standing : ∀ run index statement,
      run.self.isWaiting = false → run.wake? = none → run.here? = some (index, statement) →
        motive steps run) (run : Run ε) : motive steps run := by
    induction run using Run.arrive.induct with
    | case1 run waiting => exact waits steps run waiting
    | case2 run ready woken woke ih =>
        exact wakes steps run woken (Bool.eq_false_iff.2 ready) woke ih
    | case3 run ready asleep stands =>
        obtain ⟨⟨index, statement⟩, stands⟩ := Option.isSome_iff_exists.1 stands
        exact standing run index statement (Bool.eq_false_iff.2 ready) asleep stands
    | case4 run ready asleep past empty =>
        exact closed steps run (Bool.eq_false_iff.2 ready) asleep (by simpa using past) empty
    | case5 run ready asleep past left ih =>
        exact opened steps run (Bool.eq_false_iff.2 ready) asleep (by simpa using past) left ih
  induction steps generalizing run with
  | zero => exact arriving 0 suspends run
  | succ steps ih =>
      exact arriving (steps + 1) (fun run index statement ready asleep stands =>
        evaluates steps run index statement ready asleep stands (ih _)) run

/-! ## Steps -/

/-- One step of a run: with a statement it evaluates it, without one it costs nothing. -/
inductive Step : Run ε → Option Statement → Run ε → Prop where
  | wake {run woken : Run ε} (wakes : run.wake? = some woken) : Step run none woken
  | endLevel {run : Run ε} (past : run.here? = none) (opened : run.self.stack ≠ []) :
      Step run none (run.withSelf run.self.endLevel)
  | finish {run : Run ε} (past : run.here? = none) (closed : run.self.stack = []) :
      Step run none (run.setPlace none)
  | evaluate {run : Run ε} {index : Nat} {statement : Statement}
      (ready : run.self.isWaiting = false) (stands : run.here? = some (index, statement)) :
      Step run (some statement)
        ((run.evaluate index statement).value.2.follow index
          (run.evaluate index statement).value.1)

/-- Whatever each step leaves to the steps after it holds for advancing. -/
theorem advance_induction {related : Run ε → Run ε → Prop} (refl : ∀ run, related run run)
    (head : ∀ {run next last : Run ε} {statement : Option Statement},
      Step run statement next → related next last → related run last)
    (steps : Nat) (run : Run ε) : related run (run.advance steps).value := by
  induction steps, run using advance_recursion with
  | waits steps run waiting =>
      rw [advance_of_waiting waiting]
      exact refl run
  | wakes steps run woken ready woke ih =>
      rw [advance_of_wake ready woke]
      exact head (.wake woke) ih
  | closed steps run ready asleep past empty =>
      rw [advance_of_closed ready asleep past empty]
      exact head (.finish past empty) (refl _)
  | opened steps run ready asleep past left ih =>
      rw [advance_of_opened ready asleep past left]
      exact head (.endLevel past left) ih
  | suspends run index statement ready asleep stands =>
      rw [advance_zero ready asleep stands]
      exact refl run
  | evaluates steps run index statement ready asleep stands ih =>
      rw [advance_succ ready asleep stands]
      exact head (.evaluate ready stands) ih

end Run

end Looper
