import Looper.Id

/-!
# Sets of tracks

The tracks that an action is delivered to, or that a loop visits, are a set of
tracks below 64.  Members are listed in ascending order.
-/

namespace Looper

def trackLimit : Nat := 64

/-- A set of tracks, one bit each. -/
structure TrackSet where
  bits : BitVec 64
  deriving DecidableEq, Repr

namespace TrackSet

def empty : TrackSet := ⟨0⟩

/-- Add a track; tracks from 64 on are left out. -/
def insert (set : TrackSet) (track : TrackId) : TrackSet :=
  if track < trackLimit then ⟨set.bits ||| BitVec.twoPow 64 track⟩ else set

def single (track : TrackId) : TrackSet :=
  empty.insert track

def insertAll (set : TrackSet) (tracks : List TrackId) : TrackSet :=
  tracks.foldl insert set

def contains (set : TrackSet) (track : TrackId) : Bool :=
  set.bits.getLsbD track

def toList (set : TrackSet) : List TrackId :=
  (List.range trackLimit).filter set.contains

def size (set : TrackSet) : Nat :=
  set.toList.length

def isEmpty (set : TrackSet) : Bool :=
  set.bits == 0

@[simp] theorem contains_empty (track : TrackId) : empty.contains track = false := by
  simp [empty, contains]

@[simp] theorem contains_insert (set : TrackSet) (track other : TrackId) :
    (set.insert track).contains other =
      (set.contains other || (decide (track < 64) && decide (track = other))) := by
  unfold insert
  split
  · next inside =>
      simp [contains, BitVec.getLsbD_twoPow]
  · next outside =>
      have beyond : ¬ track < 64 := outside
      simp [beyond]

@[simp] theorem mem_toList (set : TrackSet) (track : TrackId) :
    track ∈ set.toList ↔ set.contains track = true := by
  simp only [toList, List.mem_filter, List.mem_range, and_iff_right_iff_imp]
  intro member
  exact BitVec.lt_of_getLsbD member

end TrackSet

end Looper
