import Looper.Engine.Recorder
import Looper.Proofs.Binding.Sustain
import Looper.Proofs.Dispatch.Reach
import Looper.Script.Roster

/-!
# A press and its release

The desk fires one action for the press and for the release of a trigger: the two
have the same scope, target and trigger id.  Where each goes is decided when it
is dispatched.  So the release goes where the press went just if the scope still
designates the same tracks by then.
-/

namespace Looper

/-- What refreshing leaves alone is the same for actions that are refreshed to the same. -/
theorem Action.read_of_refresh {β : Type} {action other : Action} (read : Action → β)
    (kept : ∀ action, read action.refresh = read action)
    (same : other.refresh = action.refresh) : read other = read action := by
  rw [← kept other, same, kept]

namespace Desk

open Dispatch (reached)

variable {ε η : Type} [Engine ε]

theorem designates_of_refresh {action other : Action} (same : other.refresh = action.refresh)
    (engine : ε) (track : TrackId) :
    other.Designates engine track ↔ action.Designates engine track := by
  have level := Action.read_of_refresh Action.level (fun _ => rfl) same
  have scope := Action.read_of_refresh Action.scope (fun _ => rfl) same
  have target := Action.read_of_refresh Action.target (fun _ => rfl) same
  unfold Action.Designates
  rw [level, scope, target]

theorem designates_track {action : Action} {wanted : TrackId} (scope : action.scope = .track wanted)
    {engine engine' : ε}
    (there : wanted < Engine.trackCount engine' ↔ wanted < Engine.trackCount engine)
    (track : TrackId) :
    action.Designates engine' track ↔ action.Designates engine track := by
  unfold Action.Designates
  rw [scope]
  constructor
  · rintro ⟨core, low, rfl, within⟩
    exact ⟨core, low, rfl, there.1 within⟩
  · rintro ⟨core, low, rfl, within⟩
    exact ⟨core, low, rfl, there.2 within⟩

/--
However a desk with compiled tables has been played, and whatever the engine has
become in between: an action that ends a sustain has the trigger id of every
action that its trigger fires.  Each of the two goes to the tracks that their
common scope designates when it is dispatched, and to no others.  So they go to
the same tracks just if the scope designates the same tracks at both times; for
the scope of a numbered track that is so as long as the engine has the track, or
has not.  An engine that is watched, to see where its actions go, is told what it
would be told unwatched.
-/
theorem release_goes_where_designated {start earlier later : Desk}
    (isCompiled : start.IsCompiled) (before : Played start earlier) (after : Played start later)
    {press release : Event} (same : release.place? = press.place?) {pressed released : Action}
    (presses : earlier.firing? press = some pressed)
    (releases : later.firing? release = some released) (ends : released.sustainEnd = true)
    (host : ScriptHost η ε) (state state' : η × Rig ε) :
    released.triggerId = pressed.triggerId ∧ released.scope = pressed.scope ∧
      (∀ track, some track ∈ reached host pressed state ↔
        pressed.Designates state.2.engine track) ∧
      (∀ track, some track ∈ reached host released state' ↔
        pressed.Designates state'.2.engine track) ∧
      ((∀ track, some track ∈ reached host released state' ↔
          some track ∈ reached host pressed state) ↔
        ∀ track, pressed.Designates state'.2.engine track ↔
          pressed.Designates state.2.engine track) ∧
      (∀ wanted, pressed.scope = .track wanted →
        (wanted < Engine.trackCount state'.2.engine ↔ wanted < Engine.trackCount state.2.engine) →
        ∀ track, some track ∈ reached host released state' ↔
          some track ∈ reached host pressed state) ∧
      ∀ (action : Action) (watched : η × Rig (Watched ε)),
        Dispatch.lookSent id Watched.engine <$> Dispatch.perform host.watched action watched =
          Dispatch.perform host action (Dispatch.look id Watched.engine watched) := by
  obtain ⟨entry, answers, isEntry, closing⟩ := after.refresh_of_fires releases
  obtain ⟨other, answersPress, isOther, _⟩ := before.refresh_of_fires presses
  -- Press and release are answered by one entry.
  rw [← answering?_of_place same, answers] at answersPress
  cases answersPress
  have alike : released.refresh = pressed.refresh := isEntry.trans isOther.symm
  have held : entry.action.target.isSustainable = true :=
    isCompiled.sustainsRightly answers (closing ends).2
  have heldPress : pressed.target.isSustainable = true := by
    rw [Action.read_of_refresh Action.target (fun _ => rfl) isOther]
    exact held
  have heldRelease : released.target.isSustainable = true := by
    rw [Action.read_of_refresh Action.target (fun _ => rfl) isEntry]
    exact held
  have reachesPress (track : TrackId) := Dispatch.mem_reached host pressed state heldPress track
  have reachesRelease (track : TrackId) :=
    (Dispatch.mem_reached host released state' heldRelease track).trans
      (designates_of_refresh alike state'.2.engine track)
  have coincide : (∀ track, some track ∈ reached host released state' ↔
      some track ∈ reached host pressed state) ↔
      ∀ track, pressed.Designates state'.2.engine track ↔
        pressed.Designates state.2.engine track := by
    simp only [reachesPress, reachesRelease]
  have sameId := Action.read_of_refresh Action.triggerId (fun _ => rfl) alike
  have sameScope := Action.read_of_refresh Action.scope (fun _ => rfl) alike
  refine ⟨sameId, sameScope, reachesPress, reachesRelease, coincide, ?_,
    Dispatch.perform_watched host⟩
  intro wanted scope there
  exact coincide.2 (designates_track scope there)

def twoTrackRig (active : TrackId) : Rig Recorder where
  engine := { tracks := 2, active }
  kernel := .new {}
  interface := .new 8

def heldPress : Action :=
  { (holdAction .note 36).refresh with triggerValue := 90 }

def heldRelease : Action :=
  { (holdAction .note 36).refresh with sustainEnd := true }

theorem answering?_holdDesk (event : Event)
    (place : event.place? = some ⟨.note, 36, 1, true⟩) :
    holdDesk.answering? event = some ⟨0, holdAction .note 36⟩ := by
  unfold answering? table
  rw [place, midi_holdDesk]
  rfl

theorem presses_holdDesk : holdDesk.firing? (.midi (.noteOn 0 36 90)) = some heldPress := by
  rw [firing?_eq, answering?_holdDesk _ rfl]
  rfl

theorem releases_holdDesk :
    (holdDesk.respond (.midi (.noteOn 0 36 90))).value.1.firing? (.midi (.noteOff 0 36)) =
      some heldRelease := by
  rw [(Played.event .start _).firing?_eq, answering?_holdDesk _ rfl, Option.bind_some]
  have sustains : (holdAction .note 36).refresh.sustain = true := by decide +kernel
  have ends : release (holdAction .note 36).refresh = ⟨heldRelease, true⟩ := if_pos sustains
  exact (Response.fired?_eq_some_iff _ _).2
    ⟨congrArg Response.fires ends, congrArg Response.action ends⟩

/-- With another active track, the release goes to that one, and not to where the press went. -/
theorem release_misses_press :
    holdDesk.IsCompiled ∧ heldPress.sustain = true ∧
      holdDesk.firing? (.midi (.noteOn 0 36 90)) = some heldPress ∧
      (holdDesk.respond (.midi (.noteOn 0 36 90))).value.1.firing? (.midi (.noteOff 0 36)) =
        some heldRelease ∧
      heldRelease.sustainEnd = true ∧ heldRelease.triggerId = heldPress.triggerId ∧
      reached .roster heldPress (Roster.new {} {}, twoTrackRig 0) = [some 0] ∧
      reached .roster heldRelease (Roster.new {} {}, twoTrackRig 1) = [some 1] := by
  refine ⟨isCompiled_holdDesk, by decide +kernel, presses_holdDesk, releases_holdDesk,
    rfl, rfl, ?_, ?_⟩
  · rw [Dispatch.reached_eq .roster heldPress _ (by decide +kernel)]
    decide +kernel
  · rw [Dispatch.reached_eq .roster heldRelease _ (by decide +kernel)]
    decide +kernel

/-- With the same active track, the release goes where the press went. -/
theorem release_follows_press :
    (holdDesk.respond (.midi (.noteOn 0 36 90))).value.1.firing? (.midi (.noteOff 0 36)) =
        some heldRelease ∧
      ∀ track, some track ∈ reached .roster heldRelease (Roster.new {} {}, twoTrackRig 0) ↔
        some track ∈ reached .roster heldPress (Roster.new {} {}, twoTrackRig 0) := by
  have same : (Event.midi (.noteOff 0 36)).place? = (Event.midi (.noteOn 0 36 90)).place? := rfl
  obtain ⟨_, _, _, _, coincide, _⟩ :=
    release_goes_where_designated isCompiled_holdDesk .start
      (.event .start (.midi (.noteOn 0 36 90))) same presses_holdDesk releases_holdDesk rfl
      .roster (Roster.new {} {}, twoTrackRig 0) (Roster.new {} {}, twoTrackRig 0)
  exact ⟨releases_holdDesk, coincide.2 fun _ => Iff.rfl⟩

end Desk

end Looper
