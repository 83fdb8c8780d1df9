import Looper.Script.Parse
import Looper.Script.Run

/-!
# Structured programs

A structured program is a tree of statements without jumps: invocations,
declarations, assignments, branches, loops, procs and calls of them.  `Program.eval`
says what it means: a branch is one of its two parts, a loop is its body over and
over, and a call is the body of a proc with arguments of its own.  There is no place
in a script and no stack of frames in this; of the frames only their number counts,
since calls nest no deeper than a limit.
-/

namespace Looper

/-- A structured program: a statement, and the program that follows it. -/
inductive Program where
  | done
  | invoke (invocation : Invocation) (next : Program)
  | declare (everywhere : Bool) (name value : String) (next : Program)
  | assign (name value : String) (next : Program)
  | branch (condition : String) (yes next : Program)
  | choice (condition : String) (yes no next : Program)
  | repeats (count : String) (body next : Program)
  | tracks (list : String) (body next : Program)
  | call (callee args : String) (next : Program)
  | proc (name : String) (body next : Program)
  deriving DecidableEq, Repr

/-- The body of the first proc with a name, wherever it stands. -/
def Program.proc? (name : String) : Program → Option Program
  | .done => none
  | .invoke _ next | .declare _ _ _ next | .assign _ _ next | .call _ _ next => next.proc? name
  | .branch _ yes next => (yes.proc? name).or (next.proc? name)
  | .choice _ yes no next => (yes.proc? name).or ((no.proc? name).or (next.proc? name))
  | .repeats _ body next | .tracks _ body next => (body.proc? name).or (next.proc? name)
  | .proc other body next =>
      if Text.sameName other name then some body else (body.proc? name).or (next.proc? name)

def Program.target (entry : String → Option Nat) (callee : String) : CallTarget :=
  match entry callee with
  | some start => .proc start
  | none => .script callee

/-! ## What the parts of a program do -/

namespace Run

variable {ε : Type}

def withArgs (run : Run ε) (args : String) : Run ε :=
  run.withSelf { run.self with bindingArgs := args }

def onTrack (run : Run ε) (track : Option TrackId) : Run ε :=
  run.withSelf { run.self with track }

variable [Engine ε]

/-- How often a loop repeats; it counts up to the number of words at most. -/
def times (run : Run ε) (count : String) : Nat :=
  min (run.repeatCount 0 (run.operand count).value).value.toNat Text.wordSize

def means (run : Run ε) (word : List Char) (track : TrackId) : Bool :=
  match Text.fold (String.ofList word) with
  | "*" | "all" => true
  | "focused" =>
      track == Engine.activeTrack run.rig.engine || Engine.isFocusLocked run.rig.engine track
  | other => Text.nat32? other.toList == some (track + 1)

def listed (run : Run ε) (text : String) : List TrackId :=
  let words := Text.fields (fun c => c == ',' || Text.isBlank c) (run.expand text).value.toList
  (List.range (min (Engine.trackCount run.rig.engine) trackLimit)).filter fun track =>
    words.any (run.means · track)

end Run

/-! ## What a program means -/

section Meaning

variable {ε : Type}

/-- Run a body a number of times. -/
def repeated (body : Run ε → Option (Run ε)) : Nat → Run ε → Option (Run ε)
  | 0, run => some run
  | times + 1, run => (body run).bind fun later => repeated body times later

def onEach (body : Run ε → Option (Run ε)) : List TrackId → Run ε → Option (Run ε)
  | [], run => some run
  | track :: rest, run => (body (run.onTrack (some track))).bind (onEach body rest)

variable [Engine ε]

/--
What a part of a program does, if `enter` says what the body of a proc does.  Loops and
calls take a frame each.  Nothing comes out of a call where frames are nested too deep, or
of a call of what is no proc.
-/
def Program.evalWith (whole : Program) (enter : Nat → Program → Run ε → Option (Run ε)) :
    Nat → Program → Run ε → Option (Run ε)
  | _, .done, run => some run
  | depth, .invoke invocation next, run =>
      evalWith whole enter depth next (run.invoke 0 invocation).value
  | depth, .declare everywhere name value next, run =>
      evalWith whole enter depth next (run.declare everywhere name value).value
  | depth, .assign name value next, run =>
      evalWith whole enter depth next (run.assign 0 name value).value
  | depth, .branch condition yes next, run =>
      if (run.test (Parse.condition condition)).value then
        (evalWith whole enter depth yes run).bind (evalWith whole enter depth next)
      else evalWith whole enter depth next run
  | depth, .choice condition yes no next, run =>
      (if (run.test (Parse.condition condition)).value then evalWith whole enter depth yes run
        else evalWith whole enter depth no run).bind (evalWith whole enter depth next)
  | depth, .repeats count body next, run =>
      (repeated (evalWith whole enter (depth + 1) body) (run.times count) run).bind
        (evalWith whole enter depth next)
  | depth, .tracks list body next, run =>
      (onEach (evalWith whole enter (depth + 1) body) (run.listed list) run).bind
        fun later => evalWith whole enter depth next (later.onTrack run.self.track)
  | depth, .call callee args next, run =>
      if Run.maxDepth ≤ depth then none
      else
        match whole.proc? callee with
        | none => none
        | some body =>
            (enter (depth + 1) body (run.withArgs (run.expand args).value)).bind
              fun later => evalWith whole enter depth next (later.withArgs run.self.bindingArgs)
  | depth, .proc _ _ next, run => evalWith whole enter depth next run

/-- What a part of a program does with a number of calls within one another. -/
def Program.evalWithin (whole : Program) : Nat → Nat → Program → Run ε → Option (Run ε)
  | 0 => fun _ _ _ => none
  | calls + 1 => whole.evalWith (whole.evalWithin calls)

/-- What a part of a program does at a depth of frames. -/
def Program.eval (whole : Program) : Nat → Program → Run ε → Option (Run ε) :=
  whole.evalWithin (Run.maxDepth + 1)

/-- What a whole program does to a run. -/
def Program.run? (program : Program) (run : Run ε) : Option (Run ε) :=
  program.eval 0 program run

/-- Only the depths that a call may reach count for what the bodies of procs do. -/
theorem Program.evalWith_congr (whole : Program)
    {enter other : Nat → Program → Run ε → Option (Run ε)} (program : Program) {depth : Nat}
    (same : ∀ deeper, depth < deeper → deeper ≤ Run.maxDepth → enter deeper = other deeper) :
    whole.evalWith enter depth program = whole.evalWith other depth program := by
  induction program generalizing depth with
  | done => rfl
  | invoke _ next ih | declare _ _ _ next ih | assign _ _ next ih =>
      funext run
      simp only [evalWith, ih same]
  | branch _ body next ihBody ihNext | proc _ body next ihBody ihNext =>
      funext run
      simp only [evalWith, ihBody same, ihNext same]
  | choice _ yes no next ihYes ihNo ihNext =>
      funext run
      simp only [evalWith, ihYes same, ihNo same, ihNext same]
  | repeats _ body next ihBody ihNext | tracks _ body next ihBody ihNext =>
      have within := @ihBody (depth + 1) fun deeper above =>
        same deeper (Nat.lt_of_succ_lt above)
      funext run
      simp only [evalWith, within, ihNext same]
  | call callee args next ih =>
      funext run
      simp only [evalWith, ih same]
      split
      · rfl
      · next below => rw [same (depth + 1) (Nat.lt_succ_self depth) (Nat.lt_of_not_le below)]

/-- Where frames are nested too deep for more calls, allowing more of them changes nothing. -/
theorem Program.evalWithin_succ (whole : Program) (calls : Nat) {depth : Nat}
    (enough : Run.maxDepth ≤ calls + depth) :
    @evalWithin ε _ whole (calls + 2) depth = whole.evalWithin (calls + 1) depth := by
  induction calls generalizing depth with
  | zero =>
      funext program
      exact whole.evalWith_congr program fun deeper above below => by omega
  | succ calls ih =>
      funext program
      exact whole.evalWith_congr program fun deeper above _ => ih (by omega)

/-- The body of a proc does what it does as a part of the program, one frame deeper. -/
theorem Program.eval_eq (whole : Program) (depth : Nat) :
    @eval ε _ whole depth = whole.evalWith whole.eval depth := by
  funext program
  refine whole.evalWith_congr program fun deeper above _ => ?_
  exact (whole.evalWithin_succ 63 (by rw [Run.maxDepth]; omega)).symm

end Meaning

/-! ## The tracks of a loop -/

theorem filter_range_bounded {bound limit : Nat} (below : bound ≤ limit) (keeps : Nat → Bool) :
    (List.range limit).filter (fun n => decide (n < bound) && keeps n) =
      (List.range bound).filter keeps := by
  obtain ⟨more, rfl⟩ := Nat.exists_eq_add_of_le below
  have front : (List.range bound).filter (fun n => decide (n < bound) && keeps n) =
      (List.range bound).filter keeps := by
    refine List.filter_congr fun n member => ?_
    rw [decide_eq_true (List.mem_range.1 member), Bool.true_and]
  have back : ((List.range more).map (bound + ·)).filter
      (fun n => decide (n < bound) && keeps n) = [] := by
    simp only [List.filter_eq_nil_iff, List.mem_map]
    rintro _ ⟨n, _, rfl⟩
    rw [decide_eq_false (Nat.not_lt.2 (Nat.le_add_right _ _)), Bool.false_and]
    exact Bool.false_ne_true
  rw [List.range_add, List.filter_append, front, back, List.append_nil]

namespace TrackSet

def insertBelow (count : Nat) (set : TrackSet) (track : TrackId) : TrackSet :=
  if track < count then set.insert track else set

theorem contains_insertBelow {count : Nat} (below : count ≤ 64) (set : TrackSet)
    (track other : TrackId) :
    (set.insertBelow count track).contains other =
      (set.contains other || (decide (other < count) && decide (track = other))) := by
  unfold insertBelow
  split
  · rw [contains_insert]
    grind
  · grind

theorem contains_foldl_insertBelow {count : Nat} (below : count ≤ 64) (tracks : List TrackId)
    (set : TrackSet) (other : TrackId) :
    (tracks.foldl (insertBelow count) set).contains other =
      (set.contains other || (decide (other < count) && tracks.contains other)) := by
  induction tracks generalizing set with
  | nil => simp
  | cons track rest ih =>
      rw [List.foldl_cons, ih, contains_insertBelow below]
      grind

end TrackSet

namespace Run

variable {ε : Type} [Engine ε]

theorem contains_addTracks (run : Run ε) (set : TrackSet) (word : List Char) (track : TrackId) :
    (run.addTracks set word).value.contains track =
      (set.contains track ||
        (decide (track < min (Engine.trackCount run.rig.engine) trackLimit) &&
          run.means word track)) := by
  have below : min (Engine.trackCount run.rig.engine) trackLimit ≤ 64 := Nat.min_le_right _ _
  rw [addTracks, means]
  generalize min (Engine.trackCount run.rig.engine) trackLimit = count at below ⊢
  generalize Text.fold (String.ofList word) = folded
  have adds : (fun (set : TrackSet) (track : TrackId) =>
      if track < count then set.insert track else set) = TrackSet.insertBelow count := rfl
  have one (other : TrackId) := TrackSet.contains_insertBelow below set other track
  unfold TrackSet.insertBelow at one
  simp only [adds]
  split
  · rw [Logged.value_pure, TrackSet.contains_foldl_insertBelow below]
    grind
  · rw [Logged.value_pure, TrackSet.contains_foldl_insertBelow below]
    grind
  · rw [Logged.value_pure, TrackSet.contains_foldl_insertBelow below, one]
    grind
  · split
    · rw [Logged.value_pure, one]
      grind
    · rw [Logged.value_bind, Logged.value_pure]
      grind

/-- The tracks of a track list are listed once each, in ascending order. -/
theorem toList_trackList (run : Run ε) (text : String) :
    (run.trackList text).value.toList = run.listed text := by
  let words := Text.fields (fun c => c == ',' || Text.isBlank c) (run.expand text).value.toList
  have members (words : List (List Char)) (set : TrackSet) (track : TrackId) :
      (words.foldlM run.addTracks set).value.contains track =
        (set.contains track ||
          (decide (track < min (Engine.trackCount run.rig.engine) trackLimit) &&
            words.any (run.means · track))) := by
    induction words generalizing set with
    | nil => simp
    | cons word rest ih =>
        rw [List.foldlM_cons, Logged.value_bind, ih, contains_addTracks, List.any_cons]
        grind
  rw [listed, ← filter_range_bounded (Nat.min_le_right _ _)]
  refine List.filter_congr fun track _ => ?_
  refine (members words .empty track).trans ?_
  rw [TrackSet.contains_empty, Bool.false_or]

end Run

end Looper
