import Looper.Engine.Recorder
import Looper.Proofs.Script.Spot
import Looper.Proofs.Script.Suspension
import Looper.Proofs.Script.Writing

/-!
# A laid out program does what it means

A range of statements performs a change of runs if a run at the front of the range
comes to its end in finitely many statements, changed.  Performing is closed under
the ways that programs are put together, loops and calls with their frames included,
so the layout of a program performs its meaning.
-/

namespace Looper

namespace Spot

variable {ε : Type}

/-- A run outside of all blocks stands for the run in the frames of a spot. -/
structure Fits (spot : Spot) (run : Run ε) : Prop where
  calm : ∀ wait, Frame.wait wait ∉ spot.stack
  bare : run.self.stack = []
  args : spot.args = run.self.args

namespace Fits

variable {spot : Spot} {run later : Run ε}

theorem of_spot_eq (fits : spot.Fits run) (same : later.self.spot = run.self.spot) :
    spot.Fits later where
  calm := fits.calm
  bare := (congrArg Spot.stack same).trans fits.bare
  args := fits.args.trans (Run.args_eq_of_spot same).symm

theorem args_moved (fits : spot.Fits run) (index : Nat) : (spot.moved index).args = run.self.args :=
  fits.args

theorem underLoop (fits : spot.Fits run) (start : Nat) (iteration : Iteration)
    (track : Option TrackId) : (spot.under (.loop start iteration)).Fits (run.onTrack track) where
  calm := by
    intro wait member
    rcases List.mem_cons.1 member with isLoop | below
    · cases isLoop
    · exact fits.calm wait below
  bare := fits.bare
  args := fits.args

theorem underCall (fits : spot.Fits run) (returnTo : Nat) (args : String) :
    (spot.under (.call none returnTo args)).Fits (run.withArgs args) where
  calm := by
    intro wait member
    rcases List.mem_cons.1 member with isCall | below
    · cases isCall
    · exact fits.calm wait below
  bare := fits.bare
  args := by
    rw [args_under_call, ScriptInstance.args]
    change _ = (List.findSome? _ run.self.stack).getD args
    rw [fits.bare]
    rfl

end Fits

end Spot

namespace Run

variable {ε : Type} [Engine ε] {spot : Spot} {run later : Run ε}

theorem Comes.one {index : Nat} {statement : Statement} {flow : Flow} (fits : spot.Fits run)
    (found : spot.current.statements[index]? = some statement)
    (evaluates : ((run.inSpot (spot.moved index)).evaluate index statement).value = (flow, later)) :
    Comes (run.inSpot (spot.moved index)) 1 (later.follow index flow) := by
  have stands : (run.inSpot (spot.moved index)).here? = some (index, statement) :=
    congrArg (Option.map (index, ·)) found
  refine .step fits.calm stands ?_
  rw [evaluates]
  exact .refl _

end Run

open Run

/--
A range of the statements at a spot performs a change of runs: a run in front of the
range comes to its end with the change made, and in the same spot otherwise.
-/
def Spot.Performs {ε : Type} [Engine ε] (spot : Spot) (first last : Nat)
    (change : Run ε → Option (Run ε)) : Prop :=
  ∀ run later : Run ε, spot.Fits run → change run = some later →
    later.self.spot = run.self.spot ∧
      ∃ count, Comes (run.inSpot (spot.moved first)) count (later.inSpot (spot.moved last))

namespace Spot.Performs

variable {ε : Type} [Engine ε] {spot : Spot} {first middle last index target : Nat}
  {before after body : Run ε → Option (Run ε)} {statement : Statement}

theorem refl (spot : Spot) (index : Nat) : spot.Performs index index (some : Run ε → _) := by
  intro run later fits same
  cases same
  exact ⟨rfl, 0, .refl _⟩

theorem trans (front : spot.Performs first middle before)
    (back : spot.Performs middle last after) :
    spot.Performs first last fun run => (before run).bind after := by
  intro run later fits changes
  obtain ⟨between, isBetween, isLater⟩ := Option.bind_eq_some_iff.1 changes
  obtain ⟨same, count, comes⟩ := front _ _ fits isBetween
  obtain ⟨again, more, goes⟩ := back _ _ (fits.of_spot_eq same) isLater
  exact ⟨again.trans same, count + more, comes.trans goes⟩

theorem next (change : Run ε → Run ε)
    (found : spot.current.statements[index]? = some statement)
    (keeps : ∀ run, (change run).self.spot = run.self.spot)
    (evaluates : ∀ {run : Run ε}, spot.Fits run →
      ((run.inSpot (spot.moved index)).evaluate index statement).value =
        (.next, (change run).inSpot (spot.moved index))) :
    spot.Performs index (index + 1) fun run => some (change run) := by
  intro run later fits isLater
  cases isLater
  exact ⟨keeps run, 1, Comes.one fits found (evaluates fits)⟩

theorem goto (found : spot.current.statements[index]? = some statement)
    (evaluates : ∀ run : Run ε, (run.evaluate index statement).value = (.goto target, run)) :
    spot.Performs index target (some : Run ε → _) := by
  intro run later fits isLater
  cases isLater
  exact ⟨rfl, 1, Comes.one fits found (evaluates _)⟩

/-! ## Statements without blocks -/

theorem invoke {invocation : Invocation}
    (found : spot.current.statements[index]? = some (.invoke invocation)) :
    spot.Performs index (index + 1) fun run : Run ε => some (run.invoke 0 invocation).value := by
  refine next (fun run => (run.invoke 0 invocation).value) found
    (fun run => spot_invoke run 0 invocation) fun {run} fits => ?_
  rw [evaluate, Logged.value_bind, invoke_inSpot (fits.args_moved index) index 0]
  rfl

theorem declare {everywhere : Bool} {name value : String}
    (found : spot.current.statements[index]? = some (.declare everywhere name value)) :
    spot.Performs index (index + 1) fun run : Run ε =>
      some (run.declare everywhere name value).value := by
  refine next (fun run => (run.declare everywhere name value).value) found
    (fun run => spot_declare run everywhere name value) fun {run} fits => ?_
  rw [evaluate, Logged.value_bind, declare_inSpot (fits.args_moved index)]
  rfl

theorem assign {name value : String}
    (found : spot.current.statements[index]? = some (.assign name value)) :
    spot.Performs index (index + 1) fun run : Run ε => some (run.assign 0 name value).value := by
  refine next (fun run => (run.assign 0 name value).value) found
    (fun run => spot_assign run 0 name value) fun {run} fits => ?_
  rw [evaluate, Logged.value_bind, assign_inSpot (fits.args_moved index) index 0]
  rfl

theorem endBranch (found : spot.current.statements[index]? = some .endBranch) :
    spot.Performs index (index + 1) (some : Run ε → _) :=
  next id found (fun _ => rfl) fun _ => rfl

/-! ## Branches -/

/-- Of the two ways that a branch may go, the test takes one. -/
theorem branch {condition : Condition}
    (found : spot.current.statements[index]? = some (.branch condition target))
    (holds : spot.Performs (index + 1) last before)
    (fails : spot.Performs (target + 1) last after) :
    spot.Performs index last fun run =>
      if (run.test condition).value then before run else after run := by
  intro run later fits isLater
  have evaluates :
      ((run.inSpot (spot.moved index)).evaluate index (.branch condition target)).value =
        (if (run.test condition).value then .next else .goto (target + 1),
          run.inSpot (spot.moved index)) := by
    rw [evaluate, Logged.value_bind, test_inSpot (fits.args_moved index)]
    split <;> rfl
  have once := Comes.one fits found evaluates
  by_cases tested : (run.test condition).value
  · obtain ⟨same, count, comes⟩ := holds _ _ fits ((if_pos tested).symm.trans isLater)
    rw [if_pos tested] at once
    exact ⟨same, 1 + count, once.trans comes⟩
  · obtain ⟨same, count, comes⟩ := fails _ _ fits ((if_neg tested).symm.trans isLater)
    rw [if_neg tested] at once
    exact ⟨same, 1 + count, once.trans comes⟩

/-! ## Loops -/

/-- The first statement of a loop that repeats enters it, if it is to repeat at all. -/
theorem evaluate_repeatLoop {run : Run ε} (fits : spot.Fits run) (start close : Nat)
    (times : String) :
    ((run.inSpot (spot.moved start)).evaluate start (.repeatLoop times close)).value =
      match run.times times with
      | 0 => (.goto (close + 1), run.inSpot (spot.moved start))
      | remaining + 1 =>
          (.next, run.inSpot ((spot.under (.loop start (.repeats remaining))).moved start)) := by
  rw [evaluate, Run.repeatLoop, operand_inSpot (fits.args_moved start), Logged.value_bind,
    Logged.value_bind, value_repeatCount]
  generalize isWanted : (Text.int64? (Text.trim (run.operand times).value.toList)).getD 0 = wanted
  have isTimes : run.times times = min wanted.toNat Text.wordSize := by
    rw [Run.times, value_repeatCount, isWanted]
  by_cases nothing : wanted ≤ 0
  · rw [if_pos nothing, isTimes, Int.toNat_of_nonpos nothing, Nat.zero_min]
    rfl
  · have isNext : run.times times = min (wanted - 1).toNat maxRepeats + 1 := by
      rw [isTimes, maxRepeats, Text.wordSize]
      omega
    rw [if_neg nothing, isNext]
    rfl

/-- The first statement of a loop over tracks enters it on the first of them, if there is one. -/
theorem evaluate_trackLoop {run : Run ε} (fits : spot.Fits run) (start close : Nat)
    (tracks : String) :
    ((run.inSpot (spot.moved start)).evaluate start (.trackLoop tracks close)).value =
      match run.listed tracks with
      | [] => (.goto (close + 1), run.inSpot (spot.moved start))
      | track :: rest =>
          (.next, (run.onTrack (some track)).inSpot
            ((spot.under (.loop start (.tracks rest run.self.track))).moved start)) := by
  have isListed : ((run.inSpot (spot.moved start)).trackList tracks).value.toList =
      run.listed tracks := by
    rw [toList_trackList, listed_inSpot (fits.args_moved start)]
  simp only [evaluate, Run.trackLoop, Logged.value_bind, isListed]
  cases run.listed tracks <;> rfl

/-- The last statement of a loop goes round again while there is more to do. -/
theorem evaluate_next_again (run : Run ε) (spot : Spot) (start index remaining : Nat) :
    ((run.inSpot ((spot.under (.loop start (.repeats (remaining + 1)))).moved index)).evaluate index
      (.next start)).value =
        (.goto (start + 1),
          run.inSpot ((spot.under (.loop start (.repeats remaining))).moved index)) := by
  simp [evaluate, Run.next, inSpot, withSelf, Spot.moved, Spot.under]

theorem evaluate_next_last (run : Run ε) (spot : Spot) (start index : Nat) :
    ((run.inSpot ((spot.under (.loop start (.repeats 0))).moved index)).evaluate index
      (.next start)).value = (.next, run.inSpot (spot.moved index)) := by
  simp [evaluate, Run.next, inSpot, withSelf, Spot.moved, Spot.under]

theorem evaluate_next_track (run : Run ε) (spot : Spot) (start index : Nat) (track : TrackId)
    (rest : List TrackId) (saved : Option TrackId) :
    ((run.inSpot ((spot.under (.loop start (.tracks (track :: rest) saved))).moved index)).evaluate
      index (.next start)).value =
        (.goto (start + 1), (run.onTrack (some track)).inSpot
          ((spot.under (.loop start (.tracks rest saved))).moved index)) := by
  simp [evaluate, Run.next, inSpot, onTrack, withSelf, Spot.moved, Spot.under]

theorem evaluate_next_home (run : Run ε) (spot : Spot) (start index : Nat)
    (saved : Option TrackId) :
    ((run.inSpot ((spot.under (.loop start (.tracks [] saved))).moved index)).evaluate index
      (.next start)).value = (.next, (run.onTrack saved).inSpot (spot.moved index)) := by
  simp [evaluate, Run.next, inSpot, onTrack, withSelf, Spot.moved, Spot.under]

section Loops

variable {start close : Nat} (closes : spot.current.statements[close]? = some (.next start))

include closes

/-- Within a loop that repeats, the rounds that are left. -/
theorem rounds (remaining : Nat)
    (round : ∀ remaining, (spot.under (.loop start (.repeats remaining))).Performs
      (start + 1) close body)
    {run later : Run ε} (fits : spot.Fits run)
    (isLater : repeated body (remaining + 1) run = some later) :
    later.self.spot = run.self.spot ∧ ∃ count,
      Comes (run.inSpot ((spot.under (.loop start (.repeats remaining))).moved (start + 1))) count
        (later.inSpot (spot.moved (close + 1))) := by
  induction remaining generalizing run with
  | zero =>
      rw [repeated] at isLater
      obtain ⟨between, isBetween, isLast⟩ := Option.bind_eq_some_iff.1 isLater
      rw [repeated] at isLast
      cases isLast
      have inside := fits.underLoop start (.repeats 0) run.self.track
      obtain ⟨same, count, comes⟩ := round 0 _ _ inside isBetween
      have ends := Comes.one (inside.of_spot_eq same) closes
        (evaluate_next_last later spot start close)
      exact ⟨same, count + 1, comes.trans ends⟩
  | succ remaining ih =>
      rw [repeated] at isLater
      obtain ⟨between, isBetween, isLast⟩ := Option.bind_eq_some_iff.1 isLater
      have inside := fits.underLoop start (.repeats (remaining + 1)) run.self.track
      obtain ⟨same, count, comes⟩ := round (remaining + 1) _ _ inside isBetween
      have again := Comes.one (inside.of_spot_eq same) closes
        (evaluate_next_again between spot start close remaining)
      obtain ⟨still, more, goes⟩ := ih (fits.of_spot_eq same) isLast
      exact ⟨still.trans same, count + 1 + more, (comes.trans again).trans goes⟩

/-- A loop that repeats performs its body as often as its count says. -/
theorem repeatLoop {times : String}
    (opens : spot.current.statements[start]? = some (.repeatLoop times close))
    (round : ∀ remaining, (spot.under (.loop start (.repeats remaining))).Performs
      (start + 1) close body) :
    spot.Performs start (close + 1) fun run => repeated body (run.times times) run := by
  intro run later fits isLater
  have evaluates := evaluate_repeatLoop fits start close times
  have isRepeated : repeated body (run.times times) run = some later := isLater
  cases isTimes : run.times times with
  | zero =>
      rw [isTimes] at evaluates isRepeated
      rw [repeated] at isRepeated
      cases isRepeated
      exact ⟨rfl, 1, Comes.one fits opens evaluates⟩
  | succ remaining =>
      rw [isTimes] at evaluates isRepeated
      obtain ⟨same, count, comes⟩ := rounds closes remaining round fits isRepeated
      exact ⟨same, 1 + count, (Comes.one fits opens evaluates).trans comes⟩

/-- Within a loop over tracks, the tracks that are left. -/
theorem visits (saved : Option TrackId) (tracks : List TrackId) (track : TrackId)
    (visit : ∀ remaining, (spot.under (.loop start (.tracks remaining saved))).Performs
      (start + 1) close body)
    {run later : Run ε} (fits : spot.Fits run)
    (isLater : onEach body (track :: tracks) run = some later) :
    later.self.spot = run.self.spot ∧ ∃ count,
      Comes ((run.onTrack (some track)).inSpot
        ((spot.under (.loop start (.tracks tracks saved))).moved (start + 1))) count
        ((later.onTrack saved).inSpot (spot.moved (close + 1))) := by
  induction tracks generalizing run track with
  | nil =>
      obtain ⟨between, isBetween, isLast⟩ := Option.bind_eq_some_iff.1 isLater
      cases isLast
      have inside := fits.underLoop start (.tracks [] saved) (some track)
      obtain ⟨same, count, comes⟩ := visit [] _ _ inside isBetween
      have ends := Comes.one (inside.of_spot_eq same) closes
        (evaluate_next_home later spot start close saved)
      exact ⟨same, count + 1, comes.trans ends⟩
  | cons second rest ih =>
      obtain ⟨between, isBetween, isLast⟩ := Option.bind_eq_some_iff.1 isLater
      have inside := fits.underLoop start (.tracks (second :: rest) saved) (some track)
      obtain ⟨same, count, comes⟩ := visit (second :: rest) _ _ inside isBetween
      have again := Comes.one (inside.of_spot_eq same) closes
        (evaluate_next_track between spot start close second rest saved)
      obtain ⟨still, more, goes⟩ := ih second (fits.of_spot_eq same) isLast
      exact ⟨still.trans same, count + 1 + more, (comes.trans again).trans goes⟩

/-- A loop over tracks performs its body on each of them, and then is back on its own track. -/
theorem trackLoop {tracks : String}
    (opens : spot.current.statements[start]? = some (.trackLoop tracks close))
    (visit : ∀ saved remaining, (spot.under (.loop start (.tracks remaining saved))).Performs
      (start + 1) close body) :
    spot.Performs start (close + 1) fun run =>
      (onEach body (run.listed tracks) run).map (·.onTrack run.self.track) := by
  intro run later fits isLater
  obtain ⟨visited, isVisited, isHome⟩ := Option.map_eq_some_iff.1 isLater
  subst isHome
  have evaluates := evaluate_trackLoop fits start close tracks
  cases isListed : run.listed tracks with
  | nil =>
      rw [isListed] at evaluates isVisited
      cases isVisited
      exact ⟨rfl, 1, Comes.one fits opens evaluates⟩
  | cons track rest =>
      rw [isListed] at evaluates isVisited
      obtain ⟨same, count, comes⟩ :=
        visits closes run.self.track rest track (visit run.self.track) fits isVisited
      exact ⟨same, 1 + count, (Comes.one fits opens evaluates).trans comes⟩

end Loops

/-! ## Calls -/

theorem evaluate_endProc (run : Run ε) (spot : Spot) (returnTo index : Nat) (args : String) :
    ((run.inSpot ((spot.under (.call none returnTo args)).moved index)).evaluate index
      .endProc).value = (.goto returnTo, run.inSpot (spot.moved index)) := by
  simp [evaluate, Run.endProc, inSpot, withSelf, Spot.moved, Spot.under]

/-- A call performs the body of its proc with other arguments, and then has its own again. -/
theorem call {start close : Nat} {args : String}
    (found : spot.current.statements[index]? = some (.call (.proc start) args))
    (returns : spot.current.statements[close]? = some .endProc)
    (room : spot.stack.length < maxDepth)
    (inside : ∀ args, (spot.under (.call none (index + 1) args)).Performs (start + 1) close body) :
    spot.Performs index (index + 1) fun run =>
      (body (run.withArgs (run.expand args).value)).map (·.withArgs run.self.bindingArgs) := by
  intro run later fits isLater
  obtain ⟨called, isCalled, isBack⟩ := Option.map_eq_some_iff.1 isLater
  subst isBack
  have evaluates :
      ((run.inSpot (spot.moved index)).evaluate index (.call (.proc start) args)).value =
        (.goto (start + 1), run.inSpot
          ((spot.under (.call none (index + 1) (run.expand args).value)).moved index)) := by
    have enters : ¬ maxDepth ≤ (run.inSpot (spot.moved index)).self.stack.length :=
      Nat.not_le.2 room
    rw [evaluate, Run.call, if_neg enters, expand_inSpot (fits.args_moved index)]
    rfl
  have within := fits.underCall (index + 1) (run.expand args).value
  obtain ⟨same, count, comes⟩ := inside _ _ _ within isCalled
  have ends := Comes.one (within.of_spot_eq same) returns
    (evaluate_endProc called spot (index + 1) close (run.expand args).value)
  refine ⟨?_, 1 + count + 1, ((Comes.one fits found evaluates).trans comes).trans ends⟩
  exact congrArg (fun spot : Spot => { spot with bindingArgs := run.self.bindingArgs }) same

/-- Performing speaks of a change only by what it makes of each run. -/
theorem congr {change other : Run ε → Option (Run ε)} (performs : spot.Performs first last change)
    (same : ∀ run, other run = change run) : spot.Performs first last other := by
  rwa [funext same]

end Spot.Performs

/-! ## Programs -/

namespace Program

variable {ε : Type} [Engine ε] {whole : Program}

/-- The bodies of procs, entered from a script that is the layout of a program, perform. -/
def Enters (whole : Program) (enter : Nat → Program → Run ε → Option (Run ε)) : Prop :=
  ∀ (depth : Nat) (spot : Spot) (start : Nat) (body : Program), spot.stack.length = depth →
    spot.current.statements = whole.layout → HasProc whole.layout whole.entry start body →
      spot.Performs (start + 1) (start + body.size + 1) (enter depth body)

/-- A call performs the body of the proc it means, if there is one and it may be entered. -/
theorem performs_call {enter : Nat → Program → Run ε → Option (Run ε)}
    (enters : Enters whole enter) {depth : Nat} {spot : Spot} (level : spot.stack.length = depth)
    (laid : spot.current.statements = whole.layout) {index : Nat} {callee args : String}
    (found : spot.current.statements[index]? = some (.call (target whole.entry callee) args)) :
    spot.Performs index (index + 1) fun run =>
      if maxDepth ≤ depth then none
      else
        match whole.proc? callee with
        | none => none
        | some body =>
            (enter (depth + 1) body (run.withArgs (run.expand args).value)).map
              (·.withArgs run.self.bindingArgs) := by
  by_cases below : maxDepth ≤ depth
  · simp only [if_pos below]
    exact fun run later fits isLater => nomatch isLater
  cases place : whole.find? callee with
  | none =>
      simp only [if_neg below, proc?_eq, place, Option.map_none]
      exact fun run later fits isLater => nomatch isLater
  | some there =>
      obtain ⟨start, body⟩ := there
      simp only [if_neg below, proc?_eq, place, Option.map_some]
      rw [target, entry, place] at found
      have lies : HasProc whole.layout whole.entry start body := by
        have there := hasProc_of_find? (placed_self whole.layout) place
        rwa [Nat.zero_add] at there
      have returns : spot.current.statements[start + body.size + 1]? = some .endProc := by
        rw [laid]
        exact lies.closes
      exact Spot.Performs.call found returns (level ▸ Nat.lt_of_not_le below) fun args =>
        enters (depth + 1) (spot.under (.call none (index + 1) args)) start body
          (congrArg (· + 1) level) laid lies

/--
In a script that is the layout of a program, every part of the program performs what it
means.  The induction is on the part; what it calls is taken to perform already.
-/
theorem performs_evalWith {enter : Nat → Program → Run ε → Option (Run ε)}
    (enters : Enters whole enter) {program : Program} {depth : Nat} {spot : Spot}
    (level : spot.stack.length = depth) (laid : spot.current.statements = whole.layout)
    {start last : Nat} (isLast : last = start + program.size)
    (placed : Placed spot.current.statements start (program.code whole.entry start)) :
    spot.Performs start last (whole.evalWith enter depth program) := by
  induction program generalizing depth spot start last with
  | done =>
      cases isLast
      exact (Spot.Performs.refl spot start).congr fun run => by rw [evalWith]
  | invoke invocation next ih =>
      have others := ih level laid (show last = start + 1 + next.size by grind [size]) placed.tail
      exact ((Spot.Performs.invoke placed.head).trans others).congr fun run => by
        rw [evalWith]
        rfl
  | declare everywhere name value next ih =>
      have others := ih level laid (show last = start + 1 + next.size by grind [size]) placed.tail
      exact ((Spot.Performs.declare placed.head).trans others).congr fun run => by
        rw [evalWith]
        rfl
  | assign name value next ih =>
      have others := ih level laid (show last = start + 1 + next.size by grind [size]) placed.tail
      exact ((Spot.Performs.assign placed.head).trans others).congr fun run => by
        rw [evalWith]
        rfl
  | branch condition yes next ihYes ihNext =>
      obtain ⟨opens, inside, ends⟩ := placed_block placed
      let close := start + yes.size + 1
      have taken := (ihYes level laid (show close = start + 1 + yes.size by omega) inside).trans
        (Spot.Performs.endBranch ends.head)
      have others := ihNext level laid
        (show last = start + (yes.size + 2) + next.size by grind [size]) ends.tail
      exact ((Spot.Performs.branch opens taken (.refl spot (close + 1))).trans others).congr
        fun run => by
          rw [evalWith]
          split <;> simp
  | choice condition yes no next ihYes ihNo ihNext =>
      obtain ⟨opens, inside, divided⟩ := placed_block placed
      obtain ⟨divides, other, ends⟩ := placed_block divided
      let middle := start + yes.size + 1
      let close := middle + no.size + 1
      have first := (ihYes level laid (show middle = start + 1 + yes.size by omega) inside).trans
        (Spot.Performs.goto divides fun run => rfl)
      have second := (ihNo level laid (show close = middle + 1 + no.size by omega) other).trans
        (Spot.Performs.endBranch ends.head)
      have others := ihNext level laid
        (show last = middle + (no.size + 2) + next.size by grind [size]) ends.tail
      exact ((Spot.Performs.branch opens first second).trans others).congr fun run => by
        rw [evalWith]
        split <;> simp
  | repeats count body next ihBody ihNext =>
      obtain ⟨opens, inside, ends⟩ := placed_block placed
      have within (frame : Frame) : (spot.under frame).Performs (start + 1)
          (start + body.size + 1) (whole.evalWith enter (depth + 1) body) :=
        @ihBody (depth + 1) (spot.under frame) (congrArg (· + 1) level) laid (start + 1) _
          (by omega) inside
      have loop := Spot.Performs.repeatLoop ends.head opens fun _ => within _
      have others := ihNext level laid
        (show last = start + (body.size + 2) + next.size by grind [size]) ends.tail
      exact (loop.trans others).congr fun run => by rw [evalWith]
  | tracks list body next ihBody ihNext =>
      obtain ⟨opens, inside, ends⟩ := placed_block placed
      have within (frame : Frame) : (spot.under frame).Performs (start + 1)
          (start + body.size + 1) (whole.evalWith enter (depth + 1) body) :=
        @ihBody (depth + 1) (spot.under frame) (congrArg (· + 1) level) laid (start + 1) _
          (by omega) inside
      have loop := Spot.Performs.trackLoop ends.head opens fun _ _ => within _
      have others := ihNext level laid
        (show last = start + (body.size + 2) + next.size by grind [size]) ends.tail
      exact (loop.trans others).congr fun run => by
        rw [evalWith, Option.bind_map]
        rfl
  | call callee args next ih =>
      have others := ih level laid (show last = start + 1 + next.size by grind [size]) placed.tail
      exact ((performs_call enters level laid placed.head).trans others).congr fun run => by
        rw [evalWith]
        split
        · rfl
        · cases whole.proc? callee with
          | none => rfl
          | some body =>
              rw [Option.bind_map]
              rfl
  | proc name body next ihBody ihNext =>
      obtain ⟨opens, -, ends⟩ := placed_block placed
      have others := ihNext level laid
        (show last = start + (body.size + 2) + next.size by grind [size]) ends.tail
      exact ((Spot.Performs.goto opens fun run => rfl).trans others).congr fun run => by
        rw [evalWith]
        rfl

/-- The bodies of procs perform, by induction on the number of calls within one another. -/
theorem enters_evalWithin (calls : Nat) : Enters whole (@evalWithin ε _ whole calls) := by
  induction calls with
  | zero =>
      intro depth spot start body _ _ _ run later _ isLater
      cases isLater
  | succ calls ih =>
      intro depth spot start body level laid lies
      refine performs_evalWith ih level laid (Nat.add_right_comm start body.size 1) ?_
      rw [laid]
      exact lies.inside

/--
Running the layout of a program does what the program means: the runs together evaluate a
number of statements, and all that is left of them is that the script is at its end.
-/
theorem goAll_layout {program : Program} {start final : Run ε}
    (laid : start.self.current.statements = program.layout) (begins : start.self.pc = some 0)
    (bare : start.self.stack = []) (means : program.run? start = some final) :
    ∃ count, ∀ calls : List Bool, count < budget * calls.length →
      start.goAll calls = final.setPlace none := by
  let spot := start.self.spot
  have fits : spot.Fits start := by
    refine ⟨fun wait member => ?_, bare, rfl⟩
    rw [show spot.stack = [] from bare] at member
    cases member
  have placed : Placed spot.current.statements 0 (program.code program.entry 0) := by
    rw [show spot.current.statements = program.layout from laid]
    exact placed_self program.layout
  have performs := performs_evalWith (@enters_evalWithin ε _ program maxDepth)
    (congrArg List.length bare) laid rfl placed
  obtain ⟨same, count, comes⟩ := performs start final fits means
  have front : start.inSpot (spot.moved 0) = start := by
    rw [Spot.moved, ← begins]
    rfl
  have behind :
      (final.inSpot (spot.moved (0 + program.size))).setPlace none = final.setPlace none := by
    rw [show spot = final.self.spot from same.symm]
    rfl
  have ended : (final.inSpot (spot.moved (0 + program.size))).IsOver := by
    refine ⟨?_, bare⟩
    have past : spot.current.statements[0 + program.size]? = none := by
      rw [show spot.current.statements = program.layout from laid, Nat.zero_add, layout]
      exact List.getElem?_eq_none (Nat.le_of_eq (length_code _ _ _))
    exact congrArg (Option.map (0 + program.size, ·)) past
  refine ⟨count, fun calls enough => ?_⟩
  rw [front] at comes
  exact (comes.goAll ended enough).trans behind

/--
A program that can be written down has a text that writes it.  Any source that writes a
program is read without a fault, whatever words and spacing it uses, and makes no new
symbols.  Run from its first statement, as often as the budget needs and with blocks
beginning between the runs or not, the script leaves exactly what the program means: the
same engine, which has had the same calls, and the same variables and track.
-/
theorem runs_as_meant (symbols : SymbolTable) (program : Program) (name : String) :
    (program.IsWritable symbols → program.IsWritten symbols name program.text) ∧
      ∀ source, program.IsWritten symbols name source → ∃ script,
        (Script.parse name source symbols).value = (.ok script, symbols) ∧
          ∀ start final : Run ε, start.self.current.statements = script.statements →
            start.self.pc = some 0 → start.self.stack = [] → program.run? start = some final →
              ∃ count, ∀ calls : List Bool, count < budget * calls.length →
                start.goAll calls = final.setPlace none := by
  refine ⟨fun writable => writable.isWritten name, ?_⟩
  rintro source ⟨outline, outlined, writes⟩
  refine ⟨outline.scriptOf program, writes.parse outlined, ?_⟩
  intro start final stands begins bare means
  exact goAll_layout stands begins bare means

/-! ## A program that runs as meant -/

def recording : SymbolTable where
  entries := [⟨"Record", some (.function {} .core)⟩]

def record (args : String) : Invocation where
  symbol := 0
  name := "Record"
  target := .function {}
  level := .core
  args := args

/-- On the first track a proc records twice with the argument of its call; others are seen. -/
def recordFirst : Program :=
  .proc "Twice" (.repeats "2" (.invoke (record "$1") .done) .done)
    (.tracks "2 1"
      (.choice "$track == 1" (.call "twice" "5" .done) (.assign "seen" "$track" .done) .done)
      .done)

/-- A run at the first statement, with an engine of two tracks. -/
def atFirst : Run Recorder where
  self := { ScriptInstance.new 1 { statements := recordFirst.layout } with pc := some 0 }
  shared := {}
  rig :=
    { engine := { tracks := 2 }
      kernel := .new { poolSize := 1, poolMax := 1 }
      interface := .new 1 }

def invoked (recorder : Recorder) : List (Option TrackId × String) :=
  recorder.calls.filterMap fun call =>
    match call with
    | .invoke track action _ => some (track, action.args)
    | _ => none

/-- A program with a variable that makes two calls on the first track. -/
theorem recordFirst_runs_as_meant :
    recordFirst.IsWritable recording ∧ ∃ script final,
      (Script.parse "Sample" recordFirst.text recording).value = (.ok script, recording) ∧
      atFirst.self.current.statements = script.statements ∧
      recordFirst.run? atFirst = some final ∧
      invoked final.rig.engine = [(some 0, "5"), (some 0, "5")] ∧
      final.self.locals = [("seen", "2")] ∧ final.self.track = none ∧
      ∃ count, ∀ calls : List Bool, count < budget * calls.length →
        atFirst.goAll calls = final.setPlace none := by
  have writable : recordFirst.IsWritable recording := ⟨by decide, by decide⟩
  have outcome : (recordFirst.run? atFirst).map
      (fun final => (invoked final.rig.engine, final.self.locals, final.self.track)) =
        some ([(some 0, "5"), (some 0, "5")], [("seen", "2")], none) := by
    decide +kernel
  obtain ⟨final, means, isOutcome⟩ := Option.map_eq_some_iff.1 outcome
  simp only [Prod.mk.injEq] at isOutcome
  obtain ⟨texts, runs⟩ := @runs_as_meant Recorder _ recording recordFirst "Sample"
  have written := texts writable
  obtain ⟨script, reads, goes⟩ := runs recordFirst.text written
  have laid : atFirst.self.current.statements = script.statements := by
    obtain ⟨outline, outlined, writes⟩ := written
    rw [writes.parse outlined] at reads
    cases reads
    rfl
  exact ⟨writable, script, final, reads, laid, means, isOutcome.1, isOutcome.2.1, isOutcome.2.2,
    goes atFirst final laid rfl rfl means⟩

end Program

end Looper
