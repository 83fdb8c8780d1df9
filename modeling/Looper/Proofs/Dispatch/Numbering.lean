import Looper.Engine.Recorder
import Looper.Proofs.Dispatch.Reach
import Mathlib.Data.List.Count
import Mathlib.Data.List.Nodup

/-!
# Actions for a track by its number

A scope of digits is the number of a track, counted from one.  If it fits a word, the action
goes to that track, or nowhere when the engine has no such track.  A number that is too large
for a word is read as no number: the action goes where it would go without a scope.
-/

namespace Looper

/-! ## Reading the number -/

/-- A number from one on is read as its track, unless it does not fit a word. -/
theorem Scope.parse_of_digits {s : String} {n : Nat}
    (written : Text.digits? (Text.trim s.toList) = some n) (positive : 1 ≤ n) :
    Scope.parse s = if n < Text.wordSize then .track (n - 1) else .active := by
  obtain ⟨nonempty, allDigits, -⟩ := Text.digits?_eq_some_iff.1 written
  obtain ⟨before, rfl⟩ := Nat.exists_eq_add_of_le' positive
  unfold Scope.parse
  simp only [nonempty, allDigits, Bool.false_eq_true, if_false, if_true,
    Text.nat32?_of_digits written]
  by_cases fits : before + 1 < Text.wordSize
  · rw [if_pos fits, if_pos fits]
    rfl
  · rw [if_neg fits, if_neg fits]

/-! ## Where the action goes -/

theorem TrackSet.toList_empty : empty.toList = [] :=
  List.filter_eq_nil_iff.2 fun track _ => by simp

theorem TrackSet.toList_single {track : TrackId} (low : track < trackLimit) :
    (single track).toList = [track] := by
  have isOnly : ∀ other ∈ List.range trackLimit,
      (single track).contains other = (other == track) := by
    intro other inside
    rw [Bool.eq_iff_iff, contains_single, beq_iff_eq]
    exact and_iff_right (List.mem_range.1 inside)
  rw [toList, List.filter_congr isOnly, List.filter_beq,
    List.count_eq_one_of_mem List.nodup_range (List.mem_range.2 low)]
  rfl

namespace Dispatch

variable {ε : Type} [Engine ε]

/-- An action for one track goes there if there is such a track. -/
theorem destinations_of_track {action : Action} {track : TrackId}
    (isScope : action.scope = .track track) (engine : ε) :
    (destinations action engine).value.toList =
      if track < min (Engine.trackCount engine) trackLimit then [track] else [] := by
  unfold destinations
  rw [isScope]
  dsimp only
  split
  · next inside => exact TrackSet.toList_single (Nat.lt_min.1 inside).2
  · exact TrackSet.toList_empty

/--
An action whose scope is written as a number from one on, in digits of any length and with
blanks around them, goes to the track of this number and to no other, and nowhere if there
is no such track, as long as the number fits a word.  A number that does not fit is passed
over, and the action goes where it would go without a scope.
-/
theorem number_goes_to_its_track (action : Action) (engine : ε) (s : String) (n : Nat)
    (isScope : action.scope = Scope.parse s)
    (written : Text.digits? (Text.trim s.toList) = some n) (positive : 1 ≤ n) :
    (n < Text.wordSize → (destinations action engine).value.toList =
      if n ≤ min (Engine.trackCount engine) trackLimit then [n - 1] else []) ∧
    (Text.wordSize ≤ n →
      destinations action engine = destinations { action with scope := .active } engine) := by
  rw [Scope.parse_of_digits written positive] at isScope
  constructor
  · intro fits
    rw [if_pos fits] at isScope
    rw [destinations_of_track isScope]
    have sameBound : n - 1 < min (Engine.trackCount engine) trackLimit ↔
        n ≤ min (Engine.trackCount engine) trackLimit := by omega
    exact if_congr sameBound rfl rfl
  · intro beyond
    rw [if_neg (Nat.not_lt.2 beyond)] at isScope
    rw [← isScope]

/--
With four tracks of which the second is active, number three goes to the third track and a
number beyond the tracks nowhere; but a number beyond the words goes to the active track.
-/
theorem large_number_goes_to_active_track :
    let action (scope : String) : Action :=
      { symbol := 0, name := "Record", target := .function {}, scope := Scope.parse scope }
    let engine : Recorder := { tracks := 4, active := 1 }
    (destinations (action " 03 ") engine).value.toList = [2] ∧
    (destinations (action "65") engine).value.toList = [] ∧
    (destinations (action "4294967296") engine).value.toList = [1] := by
  intro action engine
  refine ⟨?_, ?_, ?_⟩
  · exact (number_goes_to_its_track (action " 03 ") engine " 03 " 3 rfl (by decide) (by decide)).1
      (by decide)
  · exact (number_goes_to_its_track (action "65") engine "65" 65 rfl (by decide) (by decide)).1
      (by decide)
  · rw [(number_goes_to_its_track (action "4294967296") engine "4294967296" 4294967296 rfl
      (by decide) (by decide)).2 (by decide)]
    decide

end Dispatch

end Looper
