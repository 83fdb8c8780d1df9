import Looper.Proofs.Script.Stepping

/-!
# Runs that the budget cuts

A run without waits comes to its end in some number of statements.  The budget
suspends it on the way, but never between a statement and what it does, so running
it again and again comes to the same end.
-/

namespace Looper

namespace Run

variable {ε : Type}

/-! ## Statement by statement -/

def IsCalm (run : Run ε) : Prop :=
  ∀ wait, Frame.wait wait ∉ run.self.stack

namespace IsCalm

variable {run : Run ε}

theorem isWaiting (calm : run.IsCalm) : run.self.isWaiting = false := by
  unfold ScriptInstance.isWaiting
  split
  · next wait rest stack =>
      have member : Frame.wait wait ∈ run.self.stack := stack ▸ List.mem_cons_self
      exact absurd member (calm wait)
  · rfl

theorem wake? (calm : run.IsCalm) : run.wake? = none := by
  unfold Run.wake?
  split
  · next wait rest stack =>
      have member : Frame.wait wait ∈ run.self.stack := stack ▸ List.mem_cons_self
      exact absurd member (calm wait)
  · rfl

/-- The beginning of a block is nothing to a run that does not wait for it. -/
theorem go [Engine ε] (calm : run.IsCalm) (fresh : Bool) : run.go fresh = run.advance budget := by
  have same : run.self.stack.map (Frame.mapWait (Wait.releaseBlock run.shared.block)) =
      run.self.stack := by
    refine List.map_congr_left (fun frame member => ?_) |>.trans (List.map_id _)
    cases frame with
    | wait wait => exact absurd member (calm wait)
    | _ => rfl
  unfold Run.go
  split
  · rw [ScriptInstance.releaseBlock, ScriptInstance.mapWaits, same]
    rfl
  · rfl

end IsCalm

/-- A run is past the last statement, and nothing is left to come back to. -/
structure IsOver (run : Run ε) : Prop where
  past : run.here? = none
  closed : run.self.stack = []

namespace IsOver

variable {run : Run ε}

theorem isCalm (ended : run.IsOver) : run.IsCalm := by
  intro wait member
  rw [ended.closed] at member
  cases member

theorem setPlace (ended : run.IsOver) : (run.setPlace none).IsOver where
  past := rfl
  closed := ended.closed

end IsOver

variable [Engine ε]

/-- A run comes to another one in a number of statements, without a wait. -/
inductive Comes : Run ε → Nat → Run ε → Prop where
  | refl (run : Run ε) : Comes run 0 run
  | step {run last : Run ε} {index count : Nat} {statement : Statement} (calm : run.IsCalm)
      (stands : run.here? = some (index, statement))
      (rest : Comes ((run.evaluate index statement).value.2.follow index
        (run.evaluate index statement).value.1) count last) :
      Comes run (count + 1) last

namespace Comes

variable {run middle last : Run ε} {count more : Nat}

theorem trans (first : Comes run count middle) (second : Comes middle more last) :
    Comes run (count + more) last := by
  induction first with
  | refl run => rwa [Nat.zero_add]
  | step calm stands _ ih =>
      rw [Nat.add_right_comm]
      exact .step calm stands (ih second)

theorem divide (comes : Comes run (count + more) last) :
    ∃ middle, Comes run count middle ∧ Comes middle more last := by
  induction count generalizing run with
  | zero => exact ⟨run, .refl run, Nat.zero_add more ▸ comes⟩
  | succ count ih =>
      rw [Nat.add_right_comm] at comes
      cases comes with
      | step calm stands rest =>
          obtain ⟨middle, first, second⟩ := ih rest
          exact ⟨middle, .step calm stands first, second⟩

theorem isCalm (comes : Comes run count last) (calm : last.IsCalm) : run.IsCalm := by
  cases comes with
  | refl => exact calm
  | step calm => exact calm

/-- Advancing takes the statements on the way, and goes on from there. -/
theorem advance (comes : Comes run count last) (steps : Nat) :
    (run.advance (count + steps)).value = (last.advance steps).value := by
  induction comes with
  | refl run => rw [Nat.zero_add]
  | step calm stands _ ih =>
      rw [Nat.add_right_comm, advance_succ calm.isWaiting calm.wake? stands, ih]

/-- With no statement more allowed, a run that has some to come stays where it is. -/
theorem advance_zero (comes : Comes run (count + 1) last) : (run.advance 0).value = run := by
  cases comes with
  | step calm stands _ => exact Run.advance_zero calm.isWaiting calm.wake? stands

end Comes

/-! ## Several runs -/

def goAll (calls : List Bool) (run : Run ε) : Run ε :=
  calls.foldl (fun run fresh => (run.go fresh).value) run

namespace IsOver

variable {run : Run ε}

theorem advance (ended : run.IsOver) (steps : Nat) :
    (run.advance steps).value = run.setPlace none := by
  rw [advance_of_closed ended.isCalm.isWaiting ended.isCalm.wake? ended.past ended.closed,
    Logged.value_pure]

theorem goAll (ended : run.IsOver) (calls : List Bool) :
    (run.setPlace none).goAll calls = run.setPlace none := by
  induction calls with
  | nil => rfl
  | cons fresh rest ih =>
      have once : ((run.setPlace none).go fresh).value = run.setPlace none := by
        rw [ended.setPlace.isCalm.go, ended.setPlace.advance]
        rfl
      rw [Run.goAll, List.foldl_cons, once]
      exact ih

end IsOver

/-- The budget cuts the way to the end into runs, and enough of them come to the end. -/
theorem Comes.goAll {run last : Run ε} {count : Nat} (comes : Comes run count last)
    (ended : last.IsOver) {calls : List Bool} (enough : count < budget * calls.length) :
    run.goAll calls = last.setPlace none := by
  induction calls generalizing run count with
  | nil => simp at enough
  | cons fresh rest ih =>
      have goes := (comes.isCalm ended.isCalm).go fresh
      rw [Run.goAll, List.foldl_cons, goes]
      rcases Nat.lt_or_ge budget count with beyond | within
      · obtain ⟨more, rfl⟩ := Nat.exists_eq_add_of_lt beyond
        rw [Nat.add_assoc] at comes
        obtain ⟨middle, first, second⟩ := comes.divide
        have stops : (run.advance budget).value = middle :=
          (first.advance 0).trans second.advance_zero
        rw [stops]
        refine ih second ?_
        rw [List.length_cons, Nat.mul_succ] at enough
        omega
      · obtain ⟨left, isLeft⟩ := Nat.exists_eq_add_of_le within
        rw [isLeft, comes.advance, ended.advance]
        exact ended.goAll rest

end Run

end Looper
