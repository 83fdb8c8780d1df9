import Looper.Proofs.Script.Effect

/-!
# What statements do to the stack

A statement takes at most the topmost frame off the stack of its instance and
puts at most one on.  The frame it puts on is a wait only if the statement waits,
or sends a request that is to be answered, and there is something to wait for.
Leaving a script level only takes frames off.
-/

namespace Looper

/-- Leaving a script level takes frames off, and changes nothing but the place and the track. -/
theorem ScriptInstance.unwind_eq (self : ScriptInstance) (frames : List Frame) :
    ∃ current pc stack track,
      self.unwind frames = { self with current, pc, stack, track } ∧ stack <:+ frames := by
  induction frames generalizing self with
  | nil => exact ⟨self.current, none, [], self.track, rfl, List.suffix_refl []⟩
  | cons frame rest ih =>
      have leaves {changed : ScriptInstance} (skips : self.unwind (frame :: rest) =
          changed.unwind rest) (same : ∃ track, changed = { self with track }) :
          ∃ current pc stack track, self.unwind (frame :: rest) =
            { self with current, pc, stack, track } ∧ stack <:+ frame :: rest := by
        obtain ⟨track, rfl⟩ := same
        obtain ⟨current, pc, stack, last, isLast, suffix⟩ := ih { self with track }
        exact ⟨current, pc, stack, last, skips.trans isLast,
          suffix.trans (List.suffix_cons frame rest)⟩
      cases frame with
      | call caller returnTo args =>
          cases caller with
          | none => exact leaves rfl ⟨self.track, rfl⟩
          | some caller =>
              exact ⟨caller, some returnTo, rest, self.track, rfl, List.suffix_cons _ rest⟩
      | warp => exact leaves rfl ⟨self.track, rfl⟩
      | loop start iteration =>
          cases iteration with
          | repeats remaining => exact leaves rfl ⟨self.track, rfl⟩
          | tracks remaining saved => exact leaves rfl ⟨saved, rfl⟩
      | label script resume =>
          exact ⟨script, resume, rest, self.track, rfl, List.suffix_cons _ rest⟩
      | wait wait => exact leaves rfl ⟨self.track, rfl⟩

/-- What a statement may do to a stack, when there may be something that it waits for. -/
inductive Restacked (awaits : Option Cause) (stack : List Frame) : List Frame → Prop where
  | kept : Restacked awaits stack stack
  | taken {frame : Frame} {rest : List Frame} (top : stack = frame :: rest) :
      Restacked awaits stack rest
  | turned {start : Nat} {before after : Iteration} {rest : List Frame}
      (top : stack = .loop start before :: rest) :
      Restacked awaits stack (.loop start after :: rest)
  | put {frame : Frame} (plain : ∀ wait, frame ≠ .wait wait) :
      Restacked awaits stack (frame :: stack)
  | waited {cause : Cause} (begins : awaits = some cause) :
      Restacked awaits stack (.wait cause.wait :: stack)

namespace Restacked

variable {awaits : Option Cause} {stack later : List Frame}

theorem length_le (restacked : Restacked awaits stack later) :
    later.length ≤ stack.length + 1 := by
  cases restacked with
  | kept => omega
  | taken top => rw [top, List.length_cons]; omega
  | turned top => rw [top, List.length_cons, List.length_cons]; omega
  | put plain => exact Nat.le_refl _
  | waited begins => exact Nat.le_refl _

/-- A wait on the stack was there before, or begins with the statement. -/
theorem wait_mem (restacked : Restacked awaits stack later) {wait : Wait}
    (member : .wait wait ∈ later) :
    .wait wait ∈ stack ∨ ∃ cause, awaits = some cause ∧ wait = cause.wait := by
  cases restacked with
  | kept => exact .inl member
  | taken top => exact .inl (top ▸ List.mem_cons_of_mem _ member)
  | turned top =>
      rcases List.mem_cons.1 member with isLoop | below
      · cases isLoop
      · exact .inl (top ▸ List.mem_cons_of_mem _ below)
  | put plain =>
      rcases List.mem_cons.1 member with isFrame | below
      · exact absurd isFrame.symm (plain wait)
      · exact .inl below
  | @waited cause begins =>
      rcases List.mem_cons.1 member with isWait | below
      · cases isWait
        exact .inr ⟨cause, begins, rfl⟩
      · exact .inl below

end Restacked

namespace Run

variable {ε : Type} [Engine ε]

/-! ## Every statement -/

variable {run : Run ε} {index : Nat}

/-- Whatever a statement does to the stack, a wait that it puts on is its own. -/
theorem Effect.restacked {statement : Statement} {flow : Flow} {later : Run ε}
    (effect : run.Effect index statement flow later) :
    Restacked (run.awaits? statement) run.self.stack later.self.stack := by
  cases effect with
  | resumed top | returned top | warpOver top | lastRound top | lastTrack top => exact .taken top
  | nextRound top | nextTrack top => exact .turned top
  | procCalled room | scriptCalled room found | warped | repeated isCount some | tracked some =>
      exact .put nofun
  | scheduled read schedules =>
      exact .waited ((run.awaits?_wait _).trans (run.waitsFor?_msec read schedules))
  | waited begins atOnce => exact .waited ((run.awaits?_wait _).trans begins)
  | asked requested answered => exact .waited (run.awaits?_request requested answered)
  | _ => exact .kept

end Run

end Looper
