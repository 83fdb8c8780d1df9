import Looper.Proofs.Dispatch.Delivery
import Looper.Proofs.Kernel.Circulation
import Looper.Proofs.Script.Effect

/-!
# What a run can do

`Run.Evolves` says what lies between two states of one run: the instance keeps
its launch, its timers and the track it belongs to, the library stays, requests
to other scripts are only added, and envelopes go round as they should.  Every
statement evolves a run, and so does running from statement to statement.
-/

namespace Looper

def Frame.savedTrack? : Frame → Option (Option TrackId)
  | .loop _ (.tracks _ saved) => some saved
  | _ => none

@[simp] theorem Frame.savedTrack?_mapWait (change : Wait → Wait) (frame : Frame) :
    (frame.mapWait change).savedTrack? = frame.savedTrack? := by
  cases frame <;> rfl

namespace ScriptInstance

/-- The track that some frames lead back to when all their loops are left. -/
def homeFrom (track : Option TrackId) (frames : List Frame) : Option TrackId :=
  frames.foldl (fun track frame => frame.savedTrack?.getD track) track

/--
The track that an instance belongs to.  Within loops over tracks it is elsewhere,
but they all lead back.
-/
def homeTrack (self : ScriptInstance) : Option TrackId :=
  homeFrom self.track self.stack

@[simp] theorem homeFrom_nil (track : Option TrackId) : homeFrom track [] = track := rfl

@[simp] theorem homeFrom_cons (track : Option TrackId) (frame : Frame)
    (frames : List Frame) :
    homeFrom track (frame :: frames) = homeFrom (frame.savedTrack?.getD track) frames := rfl

@[simp] theorem homeFrom_map_mapWait (change : Wait → Wait) (track : Option TrackId)
    (frames : List Frame) :
    homeFrom track (frames.map (Frame.mapWait change)) = homeFrom track frames := by
  induction frames generalizing track with
  | nil => rfl
  | cons frame rest ih => simp [ih]

/-- What running an instance never changes: its launch, its flags and its timers. -/
def steady (self : ScriptInstance) : ScriptInstance :=
  { self with
    current := self.script
    pc := none
    stack := []
    track := none
    lastEvent := none
    lastKernelEvent := none
    returnCode := 0
    locals := []
    uses := [] }

/-- Leaving a script level ends at the track that its loops lead back to. -/
theorem steady_unwind (self : ScriptInstance) (frames : List Frame) :
    (self.unwind frames).steady = self.steady ∧
      (self.unwind frames).homeTrack = homeFrom self.track frames ∧
      (self.unwind frames).returnCode = self.returnCode := by
  induction frames generalizing self with
  | nil => exact ⟨rfl, rfl, rfl⟩
  | cons frame rest ih =>
      cases frame with
      | call caller returnTo args =>
          cases caller with
          | none => exact ih self
          | some caller => exact ⟨rfl, rfl, rfl⟩
      | warp => exact ih self
      | loop start iteration =>
          cases iteration with
          | repeats remaining => exact ih self
          | tracks remaining saved => exact ih { self with track := saved }
      | label script resume => exact ⟨rfl, rfl, rfl⟩
      | wait wait => exact ih self

end ScriptInstance

/-- A request that a running instance makes: it holds nothing and releases nothing. -/
def ScriptRequest.IsFrom (author : InstanceId) : ScriptRequest → Prop
  | .launch action =>
      action.author = some author ∧ action.sustainEnd = false ∧ action.sustainId = 0 ∧
        action.triggerId = 0
  | .cancel other _ => other = some author

namespace Run

variable {ε : Type}

structure Evolves (before after : Run ε) : Prop where
  steady : after.self.steady = before.self.steady
  home : after.self.homeTrack = before.self.homeTrack
  returnCode : after.self.returnCode = before.self.returnCode
  library : after.shared.library = before.shared.library
  block : after.shared.block = before.shared.block
  requests : ∃ asked, after.shared.requests = before.shared.requests ++ asked ∧
    ∀ request ∈ asked, request.IsFrom before.self.id
  kernel : before.rig.kernel.Carries after.rig.kernel

namespace Evolves

theorem refl (run : Run ε) : Evolves run run where
  steady := rfl
  home := rfl
  returnCode := rfl
  library := rfl
  block := rfl
  requests := ⟨[], by simp, by simp⟩
  kernel := .refl _

theorem id_eq {before after : Run ε} (evolves : Evolves before after) :
    after.self.id = before.self.id := by
  have same := congrArg ScriptInstance.id evolves.steady
  exact same

theorem trans {first second third : Run ε} (earlier : Evolves first second)
    (later : Evolves second third) : Evolves first third where
  steady := later.steady.trans earlier.steady
  home := later.home.trans earlier.home
  returnCode := later.returnCode.trans earlier.returnCode
  library := later.library.trans earlier.library
  block := later.block.trans earlier.block
  requests := by
    obtain ⟨asked, asks, own⟩ := earlier.requests
    obtain ⟨more, adds, ownMore⟩ := later.requests
    refine ⟨asked ++ more, by rw [adds, asks, List.append_assoc], fun request member => ?_⟩
    rcases List.mem_append.1 member with inAsked | inMore
    · exact own request inAsked
    · exact earlier.id_eq ▸ ownMore request inMore
  kernel := earlier.kernel.trans later.kernel

theorem withSelf {run : Run ε} {self : ScriptInstance}
    (steady : self.steady = run.self.steady) (home : self.homeTrack = run.self.homeTrack)
    (returnCode : self.returnCode = run.self.returnCode) : Evolves run (run.withSelf self) :=
  { refl run with steady, home, returnCode }

theorem push (run : Run ε) {frame : Frame} (none : frame.savedTrack? = none) :
    Evolves run (run.push frame) := by
  refine withSelf rfl ?_ rfl
  simp [ScriptInstance.homeTrack, none]

theorem withEngine (run : Run ε) (engine : ε) : Evolves run (run.withEngine engine) :=
  { refl run with }

theorem withGlobals (run : Run ε) (globals : Variables) :
    Evolves run { run with shared := { run.shared with globals } } :=
  { refl run with }

end Evolves

/-! ## Statements -/

section Statements

variable [Engine ε]

theorem respects_queue (author : InstanceId) {action : Action}
    (own : (ScriptRequest.launch action).IsFrom author) :
    Dispatch.Respects (ε := ε) .queue action fun before after =>
      (∃ asked, after.1 = before.1 ++ asked ∧ ∀ request ∈ asked, request.IsFrom author) ∧
        before.2.kernel.Carries after.2.kernel where
  refl state := ⟨⟨[], by simp, by simp⟩, .refl _⟩
  trans := by
    rintro first second third ⟨⟨asked, asks, own⟩, earlier⟩ ⟨⟨more, adds, ownMore⟩, later⟩
    refine ⟨⟨asked ++ more, by rw [adds, asks, List.append_assoc], fun request member => ?_⟩,
      earlier.trans later⟩
    rcases List.mem_append.1 member with inAsked | inMore
    · exact own request inAsked
    · exact ownMore request inMore
  run track state := by
    refine ⟨⟨[_], rfl, fun request member => ?_⟩, .refl _⟩
    rw [List.mem_singleton.1 member]
    exact own
  cancel track state := by
    refine ⟨⟨[_], rfl, fun request member => ?_⟩, .refl _⟩
    rw [List.mem_singleton.1 member]
    exact own.1
  invoke state track sent := ⟨⟨[], by simp, by simp⟩, .refl _⟩
  request state kind args requestId := ⟨⟨[], by simp, by simp⟩, .request _ _ _ _⟩
  interface state _ _ := ⟨⟨[], by simp, by simp⟩, .refl _⟩

omit [Engine ε] in
theorem isFrom_actionOf (run : Run ε) (invocation : Invocation) (args : String) :
    (ScriptRequest.launch (run.actionOf invocation args)).IsFrom run.self.id := by
  unfold actionOf
  dsimp only
  split <;> exact ⟨rfl, rfl, rfl, rfl⟩

variable {run : Run ε} {index : Nat}

/--
Every statement evolves the run.  A loop over tracks saves the track to return to where
it starts, and comes back to it where it is left.  Only an invocation asks other scripts
for something.
-/
theorem Effect.evolves {statement : Statement} {flow : Flow} {later : Run ε}
    (effect : run.Effect index statement flow later) : Evolves run later := by
  -- Frames that are taken off or changed lead back to the same track.
  have restacks {self : ScriptInstance} {frame : Frame} {rest : List Frame}
      (top : run.self.stack = frame :: rest) (steady : self.steady = run.self.steady)
      (returnCode : self.returnCode = run.self.returnCode)
      (home : self.homeTrack =
        ScriptInstance.homeFrom (frame.savedTrack?.getD run.self.track) rest) :
      Evolves run (run.withSelf self) := by
    refine .withSelf steady (home.trans ?_) returnCode
    rw [ScriptInstance.homeTrack, top, ScriptInstance.homeFrom_cons]
  have sends {kind : KernelKind} {args : List String} {event : Option KernelEventId}
      {kernel : KernelChannel} {self : ScriptInstance}
      (requested : (run.rig.kernel.request kind (run.expandAll args).value
        run.self.requestId).value = (event, kernel))
      (steady : self.steady = run.self.steady) (home : self.homeTrack = run.self.homeTrack)
      (returnCode : self.returnCode = run.self.returnCode) :
      Evolves run { run with self, rig := { run.rig with kernel } } := by
    have carries := KernelChannel.Carries.request run.rig.kernel kind (run.expandAll args).value
      run.self.requestId
    rw [requested] at carries
    exact { Evolves.refl run with steady, home, returnCode, kernel := carries }
  cases effect with
  | resumed top | returned top | warpOver top | nextRound top | lastRound top | nextTrack top
  | lastTrack top => exact restacks top rfl rfl rfl
  | scriptCalled room found => exact .withSelf rfl rfl rfl
  | procCalled room | warped | repeated isCount some => exact .push run rfl
  | declared | assigned settable own | tracked some => exact .withSelf rfl rfl rfl
  | declaredForAll | assignedForAll settable shared => exact .withGlobals run _
  | used isNumber saves | scheduled read schedules =>
      exact { Evolves.refl run with steady := rfl, home := rfl, returnCode := rfl }
  | unscheduled read refuses => exact .withEngine run _
  | waited begins atOnce => exact .push run rfl
  | refused requested forgets => exact sends requested rfl rfl rfl
  | sent requested unanswered => exact sends requested rfl rfl rfl
  | asked requested answered => exact sends requested rfl rfl rfl
  | @invoked invocation action requests rig resolved performed =>
      obtain ⟨asks, carries⟩ := (respects_queue run.self.id
        (run.isFrom_actionOf invocation (run.expand invocation.args).value)).perform
        (run.shared.requests, run.rig)
      rw [performed] at asks carries
      exact { Evolves.refl run with
        steady := rfl
        home := rfl
        returnCode := rfl
        requests := asks
        kernel := carries }
  | _ => exact .refl run

end Statements

/-! ## From statement to statement -/

section Advancing

theorem evolves_endLevel (run : Run ε) : Evolves run (run.withSelf run.self.endLevel) :=
  have left := run.self.steady_unwind run.self.stack
  .withSelf left.1 left.2.1 left.2.2

theorem evolves_follow (run : Run ε) (index : Nat) (flow : Flow) :
    Evolves run (run.follow index flow) := by
  cases flow with
  | next => exact .withSelf rfl rfl rfl
  | goto target => exact .withSelf rfl rfl rfl
  | placed => exact .refl run
  | finish => exact evolves_endLevel run

theorem evolves_wake {run woken : Run ε} (wakes : run.wake? = some woken) :
    Evolves run woken := by
  obtain ⟨wait, rest, stack, -, rfl⟩ := wake?_eq_some.1 wakes
  exact .withSelf rfl (by simp [ScriptInstance.homeTrack, stack, Frame.savedTrack?]) rfl

variable [Engine ε]

/-- A relation that everything respects which an instance does from statement to statement. -/
structure Respects (related : Run ε → Run ε → Prop) : Prop where
  refl : ∀ run, related run run
  trans : ∀ {first second third}, related first second → related second third →
    related first third
  wake : ∀ {run woken}, run.wake? = some woken → related run woken
  endLevel : ∀ run, related run (run.withSelf run.self.endLevel)
  finish : ∀ run, run.here? = none → run.self.stack = [] → related run (run.setPlace none)
  evaluate : ∀ run index statement, run.here? = some (index, statement) →
    related run
      ((run.evaluate index statement).value.2.follow index
        (run.evaluate index statement).value.1)

theorem Respects.step {related : Run ε → Run ε → Prop} (respects : Respects related)
    {run next : Run ε} {statement : Option Statement} (step : Step run statement next) :
    related run next := by
  cases step with
  | wake wakes => exact respects.wake wakes
  | endLevel past opened => exact respects.endLevel run
  | finish past closed => exact respects.finish run past closed
  | evaluate ready stands => exact respects.evaluate run _ _ stands

theorem Respects.advance {related : Run ε → Run ε → Prop} (respects : Respects related)
    (steps : Nat) (run : Run ε) : related run (run.advance steps).value :=
  advance_induction respects.refl
    (fun step later => respects.trans (respects.step step) later) steps run

/-- Where a run is sent off, waits for the next block may be over first. -/
theorem Respects.go {related : Run ε → Run ε → Prop} (respects : Respects related)
    (release : ∀ run : Run ε,
      related run (run.withSelf (run.self.releaseBlock run.shared.block)))
    (fresh : Bool) (run : Run ε) : related run (run.go fresh).value := by
  cases fresh with
  | false => exact respects.advance budget run
  | true => exact respects.trans (release run) (respects.advance budget _)

theorem respects_evolves : Respects (ε := ε) Evolves where
  refl := .refl
  trans := .trans
  wake := evolves_wake
  endLevel := evolves_endLevel
  finish _ _ _ := .withSelf rfl rfl rfl
  evaluate run index statement _ :=
    .trans (run.effect_evaluate index statement).evolves (evolves_follow _ index _)

omit [Engine ε] in
theorem evolves_mapWaits (run : Run ε) (change : Wait → Wait) :
    Evolves run (run.withSelf (run.self.mapWaits change)) :=
  .withSelf rfl (ScriptInstance.homeFrom_map_mapWait change _ _) rfl

theorem evolves_go (fresh : Bool) (run : Run ε) : Evolves run (run.go fresh).value :=
  respects_evolves.go (fun run => evolves_mapWaits run _) fresh run

end Advancing

end Run

end Looper
