import Looper.Proofs.Dispatch.Delivery
import Looper.Proofs.Script.Effect

/-!
# What statements ask of other scripts

What a running script asks of other scripts is queued.  Only an invocation asks
for anything, and it asks for no more than one thing on each track.
-/

namespace Looper

variable {ε : Type} [Engine ε]

namespace Dispatch

omit [Engine ε] in
/-- Deliveries that queue one request each queue as many as there are tracks. -/
theorem length_fanOut_le {deliver : Action → List ScriptRequest × Rig ε →
      Logged (Action × List ScriptRequest × Rig ε)}
    (each : ∀ action state, (deliver action state).value.2.1.length ≤ state.1.length + 1)
    (action : Action) (tracks : List TrackId) (state : List ScriptRequest × Rig ε) :
    (fanOut deliver action tracks state).value.2.1.length ≤
      state.1.length + tracks.length := by
  have copies (tracks : List TrackId) (state : List ScriptRequest × Rig ε) :
      (deliverCopies deliver action tracks state).value.1.length ≤
        state.1.length + tracks.length := by
    induction tracks generalizing state with
    | nil => exact Nat.le_refl _
    | cons track rest ih =>
        have first := each { action with track := some track } state
        have others := ih (deliver { action with track := some track } state).value.2
        rw [List.length_cons]
        exact Nat.le_trans others (by omega)
  cases tracks with
  | nil => exact Nat.le_refl _
  | cons track rest =>
      have first := each { action with track := some track } state
      have others := copies rest (deliver { action with track := some track } state).value.2
      rw [List.length_cons]
      exact Nat.le_trans others (by omega)

/-- One action of a running script queues at most one request for each track. -/
theorem length_perform_le (action : Action) (state : List ScriptRequest × Rig ε) :
    (perform .queue action state).value.2.1.length ≤ state.1.length + trackLimit := by
  have listed (set : TrackSet) : set.toList.length ≤ trackLimit := by
    unfold TrackSet.toList
    exact Nat.le_trans (List.length_filter_le _ _) (Nat.le_of_eq List.length_range)
  have fans {deliver : Action → List ScriptRequest × Rig ε →
        Logged (Action × List ScriptRequest × Rig ε)}
      (each : ∀ action state, (deliver action state).value.2.1.length ≤ state.1.length + 1)
      (set : TrackSet) :
      (fanOut deliver action set.toList state).value.2.1.length ≤
        state.1.length + trackLimit :=
    Nat.le_trans (length_fanOut_le each action set.toList state)
      (Nat.add_le_add_left (listed set) _)
  have queues {request : ScriptRequest} (requests : List ScriptRequest) :
      (requests ++ [request]).length ≤ requests.length + 1 :=
    Nat.le_of_eq List.length_append
  have stays : state.1.length ≤ state.1.length + trackLimit := Nat.le_add_right _ _
  have onTracks : (performOnTracks .queue action state).value.2.1.length ≤
      state.1.length + trackLimit := by
    rw [value_performOnTracks]
    refine fans (fun action state => ?_) _
    unfold deliverToEngine
    split
    · exact queues state.1
    · exact queues state.1
    · exact Nat.le_succ _
  unfold perform
  split
  · exact stays
  · split
    · simp only [Logged.value_bind, Logged.value_pure]
      unfold sendUp
      split <;> exact stays
    · split
      · split
        · exact stays
        · exact onTracks
      · exact onTracks
      · exact onTracks
      · exact fans (fun action state => queues state.1) _
      · exact stays
      · exact stays
      · exact stays

end Dispatch

namespace Run

/--
Only an invocation asks other scripts for anything, and for no more than one thing on
each track.
-/
theorem Effect.length_requests_le {run : Run ε} {index : Nat} {statement : Statement}
    {flow : Flow} {later : Run ε} (effect : run.Effect index statement flow later) :
    later.shared.requests.length ≤ run.shared.requests.length + trackLimit := by
  cases effect with
  | @invoked invocation action requests rig resolved performed =>
      have queued := Dispatch.length_perform_le
        (run.actionOf invocation (run.expand invocation.args).value)
        (run.shared.requests, run.rig)
      rwa [performed] at queued
  | _ => exact Nat.le_add_right _ _

omit [Engine ε] in
theorem requests_follow (run : Run ε) (index : Nat) (flow : Flow) :
    (run.follow index flow).shared.requests = run.shared.requests := by
  cases flow <;> rfl

end Run

end Looper
