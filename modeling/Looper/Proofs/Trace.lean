import Mathlib.Data.List.Induction

/-!
# Traces

A trace tells what is done one thing after another, each time with the state in which
it is done.  Stories and proceedings of a session are traces, of two kinds of steps.
-/

namespace Looper

variable {σ κ : Type}

/-- Steps that follow each other, each with the state in which it is taken. -/
inductive Trace (step : σ → κ → σ → Prop) (first : σ) : List (σ × κ) → σ → Prop where
  | nil : Trace step first [] first
  | snoc {front : List (σ × κ)} {before after : σ} {kind : κ}
      (earlier : Trace step first front before) (taken : step before kind after) :
      Trace step first (front ++ [(before, kind)]) after

namespace Trace

variable {step : σ → κ → σ → Prop} {first middle before after last : σ} {kind : κ}
  {front back : List (σ × κ)}

theorem of_step (taken : step before kind after) : Trace step before [(before, kind)] after :=
  .snoc .nil taken

theorem append (earlier : Trace step first front middle) (later : Trace step middle back last) :
    Trace step first (front ++ back) last := by
  induction later with
  | nil => rwa [List.append_nil]
  | snoc _ taken ih =>
      rw [← List.append_assoc]
      exact .snoc ih taken

/-- A trace goes on from each of its states. -/
theorem split (trace : Trace step first (front ++ (before, kind) :: back) last) :
    ∃ next, Trace step first front before ∧ step before kind next ∧ Trace step next back last := by
  induction back using List.reverseRecOn generalizing last with
  | nil =>
      generalize isWhole : front ++ [(before, kind)] = whole at trace
      cases trace with
      | nil => simp at isWhole
      | snoc earlier taken =>
          obtain ⟨rfl, isLast⟩ := List.append_inj' isWhole rfl
          cases isLast
          exact ⟨last, earlier, taken, .nil⟩
  | append_singleton back passage ih =>
      generalize isWhole : front ++ (before, kind) :: (back ++ [passage]) = whole at trace
      rw [← List.cons_append, ← List.append_assoc] at isWhole
      cases trace with
      | nil => simp at isWhole
      | snoc earlier taken =>
          obtain ⟨rfl, isLast⟩ := List.append_inj' isWhole rfl
          cases isLast
          obtain ⟨next, start, here, goesOn⟩ := ih earlier
          exact ⟨next, start, here, goesOn.snoc taken⟩

/-- What every step keeps holds to the end of a trace. -/
theorem keeps {holds : σ → Prop} (trace : Trace step first front last)
    (each : ∀ {before kind after}, step before kind after → holds before → holds after)
    (initially : holds first) : holds last := by
  induction trace with
  | nil => exact initially
  | snoc _ taken ih => exact each taken ih

end Trace

end Looper
