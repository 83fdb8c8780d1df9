import Looper.Proofs.Script.Enclosing
import Looper.Proofs.Script.Leaving
import Looper.Proofs.Script.Places

/-!
# How high frames pile up

A loop that is gone through to its end takes its frame off again, a call is made only as
long as there are few frames, and a wait lies on top.  So the frames of an instance are
bounded by the depth of its loops and the room for calls, except for those that are left
behind.  A jump out of an open loop does not take the frame of the loop off, and a warp
lays a frame without asking, as a call does, how many there are.  Each of these leaves at
most as many frames behind as loops can be nested, and one more.
-/

namespace Looper

/-! ## Frames left behind -/

namespace Frame

def isLabel : Frame → Bool
  | .label .. => true
  | _ => false

def isCall : Frame → Bool
  | .call .. => true
  | _ => false

def isWait : Frame → Bool
  | .wait _ => true
  | _ => false

@[simp] theorem isLabel_mapWait (change : Wait → Wait) (frame : Frame) :
    (frame.mapWait change).isLabel = frame.isLabel := by
  cases frame <;> rfl

@[simp] theorem isCall_mapWait (change : Wait → Wait) (frame : Frame) :
    (frame.mapWait change).isCall = frame.isCall := by
  cases frame <;> rfl

end Frame

namespace Script

/-- The loops on top of some frames that are open around a place, each within the next. -/
def openLoops (script : Script) (place : Nat) : Nat → List Frame → List Nat
  | limit, .loop start _ :: rest =>
      if start < limit ∧ script.surrounds place start = true then
        start :: script.openLoops place start rest
      else []
  | limit, .wait _ :: rest => script.openLoops place limit rest
  | _, _ => []

/--
The frames that nothing around their places accounts for: warps, and the loops that are
not open around the place where their level goes on, or that lie below such a frame.
-/
def stranded (script : Script) (place : Nat) : Nat → List Frame → Nat
  | _, [] => 0
  | limit, .loop start _ :: rest =>
      if start < limit ∧ script.surrounds place start = true then
        script.stranded place start rest
      else script.stranded place 0 rest + 1
  | _, .warp :: rest => script.stranded place 0 rest + 1
  | limit, .wait _ :: rest => script.stranded place limit rest
  | _, .call caller returnTo _ :: rest =>
      (caller.getD script).stranded returnTo returnTo rest
  | _, .label interrupted resume :: rest =>
      interrupted.stranded (resume.getD 0) (resume.getD 0) rest

variable {script : Script} {place limit : Nat} {frames : List Frame}

theorem of_mem_openLoops {start : Nat} (isOpen : start ∈ script.openLoops place limit frames) :
    start < limit ∧ script.surrounds place start = true := by
  fun_induction openLoops script place limit frames with
  | case1 limit first iteration rest around ih =>
      rcases List.mem_cons.1 isOpen with rfl | below
      · exact around
      · obtain ⟨before, surrounds⟩ := ih below
        exact ⟨Nat.lt_trans before around.1, surrounds⟩
  | case2 limit first iteration rest apart => cases isOpen
  | case3 limit wait rest ih => exact ih isOpen
  | case4 limit frames noLoop noWait => cases isOpen

theorem openLoops_zero : script.openLoops place 0 frames = [] :=
  List.eq_nil_iff_forall_not_mem.2 fun start isOpen =>
    Nat.not_lt_zero start (of_mem_openLoops isOpen).1

theorem length_openLoops_le :
    (script.openLoops place limit frames).length ≤ script.enclosing place limit := by
  fun_induction openLoops script place limit frames with
  | case1 limit first iteration rest around ih =>
      have fewer := script.enclosing_lt around.2 around.1
      rw [List.length_cons]
      omega
  | case2 limit first iteration rest apart => exact Nat.zero_le _
  | case3 limit wait rest ih => exact ih
  | case4 limit frames noLoop noWait => exact Nat.zero_le _

/-- At another place around which the open loops are open, too, no more frames are left behind. -/
theorem stranded_le {other further : Nat}
    (stays : ∀ start ∈ script.openLoops place limit frames,
      start < further ∧ script.surrounds other start = true) :
    script.stranded other further frames ≤ script.stranded place limit frames := by
  induction frames generalizing limit further with
  | nil => exact Nat.le_refl _
  | cons frame rest ih =>
      -- Below a frame that is left behind no loop counts as open.
      have below {limit : Nat} : script.stranded other limit rest ≤ script.stranded place 0 rest :=
        ih (by simp [openLoops_zero])
      cases frame with
      | call caller returnTo args => exact Nat.le_refl _
      | label interrupted resume => exact Nat.le_refl _
      | wait wait => exact ih stays
      | warp => exact Nat.succ_le_succ below
      | loop start iteration =>
          rw [stranded, stranded]
          rw [openLoops] at stays
          by_cases around : start < limit ∧ script.surrounds place start = true
          · rw [if_pos around] at stays ⊢
            rw [if_pos (stays start List.mem_cons_self)]
            exact ih fun inner isOpen =>
              ⟨(of_mem_openLoops isOpen).1, (stays inner (List.mem_cons_of_mem _ isOpen)).2⟩
          · rw [if_neg around]
            split
            · exact Nat.le_succ_of_le below
            · exact Nat.succ_le_succ below

theorem stranded_le_add (other further : Nat) :
    script.stranded other further frames ≤
      script.stranded place limit frames + (script.openLoops place limit frames).length := by
  induction frames generalizing limit further with
  | nil => exact Nat.zero_le _
  | cons frame rest ih =>
      have below (further : Nat) :
          script.stranded other further rest ≤ script.stranded place 0 rest := by
        have isBelow := @ih 0 further
        rwa [openLoops_zero, List.length_nil, Nat.add_zero] at isBelow
      cases frame with
      | call caller returnTo args => exact Nat.le_add_right _ _
      | label interrupted resume => exact Nat.le_add_right _ _
      | wait wait => exact ih further
      | warp => exact Nat.succ_le_succ (below 0)
      | loop start iteration =>
          rw [stranded, stranded, openLoops]
          by_cases around : start < limit ∧ script.surrounds place start = true
          · rw [if_pos around, if_pos around, List.length_cons]
            have kept := @ih start start
            have lost := @ih start 0
            split
            · omega
            · omega
          · rw [if_neg around, if_neg around]
            have lost := below 0
            have kept := below start
            split
            · exact Nat.le_trans kept (by simp)
            · exact Nat.le_trans (Nat.succ_le_succ lost) (by simp)

theorem stranded_map_mapWait (change : Wait → Wait) :
    script.stranded place limit (frames.map (Frame.mapWait change)) =
      script.stranded place limit frames := by
  induction frames generalizing script place limit with
  | nil => rfl
  | cons frame rest ih =>
      cases frame <;> simp only [List.map_cons, Frame.mapWait, stranded, ih]

/-- The loops of a sound script are nested at most so deep. -/
structure IsShallow (depth : Nat) (script : Script) : Prop where
  sound : script.IsSound
  depth_le : script.loopDepth ≤ depth

end Script

/-! ## Piles of frames -/

/-- A frame may lie on others: a call only on few, and only a label on a wait. -/
structure Frame.Lies (depth : Nat) (frame : Frame) (rest : List Frame) : Prop where
  script : ∀ script, frame.savedScript? = some script → script.IsShallow depth
  room : frame.isCall = true → rest.length < Run.maxDepth
  cover : frame.isLabel = false → ∀ wait more, rest ≠ .wait wait :: more

theorem Frame.lies_of_local {depth : Nat} {frame : Frame} {rest : List Frame}
    (noScript : frame.savedScript? = none) (noCall : frame.isCall = false)
    (free : ∀ wait more, rest ≠ .wait wait :: more) : frame.Lies depth rest where
  script script saved := by
    rw [noScript] at saved
    cases saved
  room isCall := by
    rw [noCall] at isCall
    cases isCall
  cover _ := free

theorem Frame.takeWhile_isWait {frames : List Frame}
    (free : ∀ wait more, frames ≠ .wait wait :: more) : frames.takeWhile Frame.isWait = [] := by
  cases frames with
  | nil => rfl
  | cons frame rest =>
      cases frame with
      | wait wait => exact absurd rfl (free wait rest)
      | _ => rfl

def Piled (depth : Nat) (frames : List Frame) : Prop :=
  ∀ frame rest, frame :: rest <:+ frames → frame.Lies depth rest

namespace Piled

variable {depth : Nat} {frame : Frame} {rest frames : List Frame}

theorem nil (depth : Nat) : Piled depth [] := by
  intro frame rest isSuffix
  cases List.suffix_nil.1 isSuffix

theorem cons (piled : Piled depth frames) (lies : frame.Lies depth frames) :
    Piled depth (frame :: frames) := by
  intro other rest isSuffix
  rcases List.suffix_cons_iff.1 isSuffix with isAll | below
  · cases isAll
    exact lies
  · exact piled other rest below

theorem suffix (piled : Piled depth frames) (isSuffix : rest <:+ frames) : Piled depth rest :=
  fun frame more below => piled frame more (below.trans isSuffix)

theorem head (piled : Piled depth (frame :: rest)) : frame.Lies depth rest :=
  piled frame rest (List.suffix_refl _)

theorem tail (piled : Piled depth (frame :: rest)) : Piled depth rest :=
  piled.suffix (List.suffix_cons frame rest)

theorem mapWait (piled : Piled depth frames) (change : Wait → Wait) :
    Piled depth (frames.map (Frame.mapWait change)) := by
  induction frames with
  | nil => exact piled
  | cons frame rest ih =>
      refine (ih piled.tail).cons ?_
      obtain ⟨script, room, cover⟩ := piled.head
      refine ⟨by rwa [Frame.savedScript?_mapWait], ?_, ?_⟩
      · rwa [Frame.isCall_mapWait, List.length_map]
      · intro noLabel wait more isWait
        rw [Frame.isLabel_mapWait] at noLabel
        obtain ⟨first, below, rfl, isFirst, -⟩ := List.map_eq_cons_iff.1 isWait
        cases first with
        | wait wait => exact cover noLabel wait below rfl
        | _ => cases isFirst

theorem waits_le (piled : Piled depth frames) : (frames.takeWhile Frame.isWait).length ≤ 1 := by
  cases frames with
  | nil => exact Nat.zero_le _
  | cons frame rest =>
      cases frame with
      | wait wait =>
          rw [List.takeWhile_cons_of_pos rfl, Frame.takeWhile_isWait (piled.head.cover rfl)]
          exact Nat.le_refl _
      | _ => exact Nat.zero_le _

/-- Piled frames are as many as there is room for calls, loops, labels and what is left behind. -/
theorem length_le (piled : Piled depth frames) (script : Script) (place limit : Nat) :
    frames.length ≤ Run.maxDepth + (frames.takeWhile Frame.isWait).length +
      script.enclosing place limit + (depth + 2) * frames.countP Frame.isLabel +
      script.stranded place limit frames := by
  induction frames generalizing script place limit with
  | nil => exact Nat.zero_le _
  | cons frame rest ih =>
      have lies := piled.head
      have lone : frame.isLabel = false → (rest.takeWhile Frame.isWait).length = 0 := by
        intro noLabel
        rw [Frame.takeWhile_isWait (lies.cover noLabel), List.length_nil]
      have none_before : script.enclosing place 0 = 0 := rfl
      rw [List.length_cons]
      cases frame with
      | call caller returnTo args =>
          have room := lies.room rfl
          omega
      | warp =>
          have below := ih piled.tail script place 0
          have noWait := lone rfl
          rw [List.countP_cons_of_neg Bool.false_ne_true, Script.stranded]
          omega
      | wait wait =>
          have below := ih piled.tail script place limit
          have noWait := lone rfl
          rw [List.countP_cons_of_neg Bool.false_ne_true, List.takeWhile_cons_of_pos rfl,
            List.length_cons, Script.stranded]
          omega
      | label interrupted resume =>
          have shallow := lies.script interrupted rfl
          have below := ih piled.tail interrupted (resume.getD 0) (resume.getD 0)
          have enclosing := shallow.sound.enclosing_le (resume.getD 0)
          have depth_le := shallow.depth_le
          have waits := piled.tail.waits_le
          rw [List.countP_cons_of_pos rfl, Nat.mul_add, Script.stranded]
          omega
      | loop start iteration =>
          have noWait := lone rfl
          rw [List.countP_cons_of_neg Bool.false_ne_true, Script.stranded]
          by_cases around : start < limit ∧ script.surrounds place start = true
          · have below := ih piled.tail script place start
            have fewer := script.enclosing_lt around.2 around.1
            rw [if_pos around]
            omega
          · have below := ih piled.tail script place 0
            rw [if_neg around]
            omega

end Piled

/-! ## Instances -/

namespace ScriptInstance

/-- The loops that an instance is in: on top of its frames, and around its place. -/
def openLoops (self : ScriptInstance) : List Nat :=
  self.current.openLoops (self.pc.getD 0) (self.pc.getD 0) self.stack

def stranded (self : ScriptInstance) : Nat :=
  self.current.stranded (self.pc.getD 0) (self.pc.getD 0) self.stack

/-- Whether all loops that an instance is in are around a place. -/
def StaysWithin (self : ScriptInstance) (target : Nat) : Prop :=
  ∀ start ∈ self.openLoops, self.current.surrounds target start = true

theorem StaysWithin.stranded_le {self : ScriptInstance} {target : Nat}
    (stays : self.StaysWithin target) :
    self.current.stranded target target self.stack ≤ self.stranded :=
  Script.stranded_le fun start isOpen =>
    ⟨(Script.surrounds_iff.1 (stays start isOpen)).1, stays start isOpen⟩

/-- An instance is to go on with the statement at an index. -/
structure StandsAt (it : ScriptInstance) (index : Nat) (statement : Statement) : Prop where
  place : it.pc = some index
  found : it.current.statements[index]? = some statement

namespace StandsAt

variable {self : ScriptInstance} {index start : Nat} {statement : Statement}

theorem openLoops_eq (stands : self.StandsAt index statement) :
    self.openLoops = self.current.openLoops index index self.stack := by
  rw [openLoops, stands.place, Option.getD_some]

theorem stranded_eq (stands : self.StandsAt index statement) :
    self.stranded = self.current.stranded index index self.stack := by
  rw [stranded, stands.place, Option.getD_some]

theorem surrounds (stands : self.StandsAt index statement) (isOpen : start ∈ self.openLoops) :
    self.current.surrounds index start = true := by
  rw [stands.openLoops_eq] at isOpen
  exact (Script.of_mem_openLoops isOpen).2

/-- Behind a statement that is not the end of a loop, an instance is in the same loops. -/
theorem behind (stands : self.StandsAt index statement) (sound : self.current.IsSound)
    (noNext : ∀ start, statement ≠ .next start) : self.StaysWithin (index + 1) := by
  intro start isOpen
  refine sound.surrounds_succ (stands.surrounds isOpen) fun isNext => ?_
  exact noNext start (Option.some.inj (stands.found.symm.trans isNext))

theorem skipped (stands : self.StandsAt index statement) (sound : self.current.IsSound)
    {target : Nat} (skips : statement.skipsTo? = some target) : self.StaysWithin (target + 1) :=
  fun _ isOpen => sound.surrounds_skipped (stands.surrounds isOpen) stands.found skips

/-- The end of a loop that is not on top leaves no loop that an instance is in. -/
theorem passed (stands : self.StandsAt index (.next start)) (sound : self.current.IsSound)
    (free : ∀ wait more, self.stack ≠ .wait wait :: more)
    (elsewhere : ∀ iteration rest, self.stack ≠ .loop start iteration :: rest) :
    self.StaysWithin (index + 1) := by
  intro inner isOpen
  refine sound.surrounds_succ (stands.surrounds isOpen) fun isNext => ?_
  cases Option.some.inj (stands.found.symm.trans isNext)
  rw [stands.openLoops_eq] at isOpen
  -- The loop would have to lie below another one around its end that begins later.
  cases top : self.stack with
  | nil =>
      rw [top] at isOpen
      cases isOpen
  | cons frame rest =>
      rw [top] at isOpen
      cases frame with
      | loop first iteration =>
          rw [Script.openLoops] at isOpen
          split at isOpen
          · next around =>
              rcases List.mem_cons.1 isOpen with rfl | below
              · exact elsewhere iteration rest top
              · have before := (Script.of_mem_openLoops below).1
                have later := sound.le_of_next stands.found around.2
                omega
          · cases isOpen
      | wait wait => exact free wait rest top
      | _ => cases isOpen

/-- At the end of its loop an instance leaves nothing behind, whether it goes round or on. -/
theorem stranded_le (stands : self.StandsAt index (.next start)) (sound : self.current.IsSound)
    {iteration : Iteration} {rest : List Frame} (top : self.stack = .loop start iteration :: rest) :
    (∀ turned, self.current.stranded (start + 1) (start + 1) (.loop start turned :: rest) ≤
      self.stranded) ∧
    self.current.stranded (index + 1) (index + 1) rest ≤ self.stranded := by
  obtain ⟨before, ends⟩ := sound.loopEnd?_of_next stands.found
  have around : self.current.surrounds index start = true :=
    Script.surrounds_iff.2 ⟨before, index, ends, Nat.le_refl _⟩
  rw [stands.stranded_eq, top, Script.stranded, if_pos ⟨before, around⟩]
  -- The loops that are open below are those that enclose this one.
  constructor
  · intro turned
    rw [Script.stranded, if_pos ⟨Nat.lt_succ_self _,
      Script.surrounds_between around (Nat.lt_succ_self _) before⟩]
    refine Script.stranded_le fun outer isOpen => ?_
    obtain ⟨first, surrounds⟩ := Script.of_mem_openLoops isOpen
    exact ⟨first, Script.surrounds_between surrounds (Nat.lt_succ_of_lt first) before⟩
  · refine Script.stranded_le fun outer isOpen => ?_
    obtain ⟨first, surrounds⟩ := Script.of_mem_openLoops isOpen
    refine ⟨by omega, sound.surrounds_succ surrounds fun isNext => ?_⟩
    cases Option.some.inj (stands.found.symm.trans isNext)
    exact Nat.lt_irrefl _ first

/-- At the beginning of a loop an instance enters it within the loops that it is in. -/
theorem stranded_entered (stands : self.StandsAt index statement) (sound : self.current.IsSound)
    {close : Nat} (opens : self.current.loopEnd? index = some close)
    (stays : self.StaysWithin (index + 1)) (iteration : Iteration) :
    self.current.stranded (index + 1) (index + 1) (.loop index iteration :: self.stack) ≤
      self.stranded := by
  have around : self.current.surrounds (index + 1) index = true :=
    Script.surrounds_iff.2 ⟨Nat.lt_succ_self _, close, opens, (sound.loopEnd?_eq opens).2.1⟩
  rw [Script.stranded, if_pos ⟨Nat.lt_succ_self _, around⟩, stands.stranded_eq]
  refine Script.stranded_le fun outer isOpen => ?_
  exact ⟨(Script.of_mem_openLoops isOpen).1, stays outer (stands.openLoops_eq ▸ isOpen)⟩

end StandsAt

/-- Whether a statement leaves frames behind: a jump out of an open loop, or a warp. -/
def strands (self : ScriptInstance) : Statement → Bool
  | .jump label => self.openLoops.any fun start => !self.current.surrounds (label + 1) start
  | .warp _ => true
  | _ => false

/-- An instance of shallow scripts has piled frames, of which only some are left behind. -/
structure Fits (depth stranded labels : Nat) (it : ScriptInstance) : Prop where
  script : it.script.IsShallow depth
  current : it.current.IsShallow depth
  piled : Piled depth it.stack
  stranded_le : it.stranded ≤ stranded
  labels_le : it.stack.countP Frame.isLabel ≤ labels

namespace Fits

variable {depth stranded labels : Nat} {self : ScriptInstance}

theorem length_le (fits : self.Fits depth stranded labels) :
    self.stack.length ≤ Run.maxDepth + depth + 1 + (depth + 2) * labels + stranded := by
  have height := fits.piled.length_le self.current (self.pc.getD 0) (self.pc.getD 0)
  have waits := fits.piled.waits_le
  have enclosing := fits.current.sound.enclosing_le (self.pc.getD 0)
  have depth_le := fits.current.depth_le
  have left_behind := fits.stranded_le
  have labelled := Nat.mul_le_mul_left (depth + 2) fits.labels_le
  unfold ScriptInstance.stranded at left_behind
  omega

theorem length_openLoops_le (fits : self.Fits depth stranded labels) :
    self.openLoops.length ≤ depth :=
  Nat.le_trans Script.length_openLoops_le
    (Nat.le_trans (fits.current.sound.enclosing_le _) fits.current.depth_le)

theorem mono (fits : self.Fits depth stranded labels) {more further : Nat}
    (stranded_le : stranded ≤ more) (labels_le : labels ≤ further) :
    self.Fits depth more further where
  script := fits.script
  current := fits.current
  piled := fits.piled
  stranded_le := Nat.le_trans fits.stranded_le stranded_le
  labels_le := Nat.le_trans fits.labels_le labels_le

theorem unwind {frames : List Frame} (script : self.script.IsShallow depth)
    (current : self.current.IsShallow depth) (piled : Piled depth frames) (place limit : Nat) :
    (self.unwind frames).Fits depth (self.current.stranded place limit frames)
      (frames.countP Frame.isLabel) := by
  induction frames generalizing self place limit with
  | nil => exact ⟨script, current, .nil depth, Nat.le_refl _, Nat.le_refl _⟩
  | cons frame rest ih =>
      have labels_le : rest.countP Frame.isLabel ≤ (frame :: rest).countP Frame.isLabel :=
        (List.sublist_cons_self frame rest).countP_le
      cases frame with
      | call caller returnTo args =>
          cases caller with
          | none =>
              exact (ih script current piled.tail returnTo returnTo).mono (Nat.le_refl _) labels_le
          | some caller =>
              exact ⟨script, piled.head.script caller rfl, piled.tail, Nat.le_refl _, labels_le⟩
      | warp =>
          exact (ih script current piled.tail place 0).mono (Nat.le_succ _) labels_le
      | loop start iteration =>
          rw [Script.stranded]
          have below : ∀ limit, (self.unwind (.loop start iteration :: rest)).Fits depth
              (self.current.stranded place limit rest) (rest.countP Frame.isLabel) := by
            intro limit
            cases iteration with
            | repeats remaining => exact ih script current piled.tail place limit
            | tracks remaining saved =>
                exact @ih { self with track := saved } script current piled.tail place limit
          split
          · exact (below start).mono (Nat.le_refl _) labels_le
          · exact (below 0).mono (Nat.le_succ _) labels_le
      | label interrupted resume =>
          exact ⟨script, piled.head.script interrupted rfl, piled.tail, Nat.le_refl _, labels_le⟩
      | wait wait =>
          exact (ih script current piled.tail place limit).mono (Nat.le_refl _) labels_le

theorem endLevel (fits : self.Fits depth stranded labels) :
    self.endLevel.Fits depth stranded labels :=
  (unwind fits.script fits.current fits.piled _ _).mono fits.stranded_le fits.labels_le

theorem pushed (fits : self.Fits depth stranded labels) {after : ScriptInstance} {frame : Frame}
    {further : Nat} (script : after.script = self.script) (current : after.current.IsShallow depth)
    (stack : after.stack = frame :: self.stack) (noLabel : frame.isLabel = false)
    (lies : frame.Lies depth self.stack) (few : after.stranded ≤ further) :
    after.Fits depth further labels where
  script := script ▸ fits.script
  current := current
  piled := stack ▸ fits.piled.cons lies
  stranded_le := few
  labels_le := by
    rw [stack, List.countP_cons_of_neg (Bool.eq_false_iff.1 noLabel)]
    exact fits.labels_le

theorem taken (fits : self.Fits depth stranded labels) {after : ScriptInstance} {frame : Frame}
    {rest : List Frame} (top : self.stack = frame :: rest) (script : after.script = self.script)
    (current : after.current.IsShallow depth) (stack : after.stack = rest)
    (few : after.stranded ≤
      self.current.stranded (self.pc.getD 0) (self.pc.getD 0) (frame :: rest)) :
    after.Fits depth stranded labels where
  script := script ▸ fits.script
  current := current
  piled := by
    rw [stack]
    exact (top ▸ fits.piled).tail
  stranded_le := by
    rw [← top] at few
    exact Nat.le_trans few fits.stranded_le
  labels_le := by
    rw [stack]
    exact Nat.le_trans (top ▸ (List.sublist_cons_self frame rest).countP_le) fits.labels_le

/-- An instance may go to a place within the loops that it is in, and it may wait there. -/
theorem remains (fits : self.Fits depth stranded labels)
    (free : ∀ wait more, self.stack ≠ .wait wait :: more) {after : ScriptInstance}
    (remains : self.Remains after) {target : Nat} (stays : self.StaysWithin target) :
    Fits depth stranded labels { after with pc := some target } := by
  have few := Nat.le_trans stays.stranded_le fits.stranded_le
  obtain ⟨script, current, same | ⟨wait, waits⟩⟩ := remains
  · refine ⟨script ▸ fits.script, current ▸ fits.current, ?_, ?_, ?_⟩
    · exact same ▸ fits.piled
    · rw [ScriptInstance.stranded, current, same]
      exact few
    · exact same ▸ fits.labels_le
  · refine ⟨script ▸ fits.script, current ▸ fits.current, ?_, ?_, ?_⟩
    · exact waits ▸ fits.piled.cons (Frame.lies_of_local rfl rfl free)
    · rw [ScriptInstance.stranded, current, waits]
      exact few
    · rw [waits, List.countP_cons_of_neg Bool.false_ne_true]
      exact fits.labels_le

theorem goTo (fits : self.Fits depth stranded labels)
    (free : ∀ wait more, self.stack ≠ .wait wait :: more) {target : Nat}
    (stays : self.StaysWithin target) :
    Fits depth stranded labels { self with pc := some target } :=
  fits.remains free (.refl self) stays

/-- An instance may enter a loop at its beginning. -/
theorem entersLoop (fits : self.Fits depth stranded labels)
    (free : ∀ wait more, self.stack ≠ .wait wait :: more) {index close : Nat}
    {statement : Statement} {iteration : Iteration} {after : ScriptInstance}
    (stands : self.StandsAt index statement) (opens : self.current.loopEnd? index = some close)
    (stays : self.StaysWithin (index + 1)) (script : after.script = self.script)
    (current : after.current = self.current) (pc : after.pc = some (index + 1))
    (stack : after.stack = .loop index iteration :: self.stack) :
    after.Fits depth stranded labels := by
  refine fits.pushed script (current ▸ fits.current) stack rfl
    (Frame.lies_of_local rfl rfl free) ?_
  rw [ScriptInstance.stranded, current, pc, stack]
  exact Nat.le_trans (stands.stranded_entered fits.current.sound opens stays iteration)
    fits.stranded_le

/-- At the end of a loop an instance goes round, or on behind it. -/
theorem next (fits : self.Fits depth stranded labels) {index start : Nat} {later : ScriptInstance}
    (stands : self.StandsAt index (.next start))
    (free : ∀ wait more, self.stack ≠ .wait wait :: more)
    (shifts : self.Shifts (some (.next start)) later) : later.Fits depth stranded labels := by
  have sound := fits.current.sound
  cases shifts with
  | grow goesOn => cases goesOn
  | pass elsewhere =>
      rw [stands.place]
      exact fits.goTo free (stands.passed sound free elsewhere)
  | round top again =>
      have piled := fits.piled
      have labels_le := fits.labels_le
      rw [top, List.countP_cons_of_neg Bool.false_ne_true] at labels_le
      rw [top] at piled
      refine ⟨fits.script, fits.current, ?_, ?_, ?_⟩
      · exact piled.tail.cons (Frame.lies_of_local rfl rfl (piled.head.cover rfl))
      · exact Nat.le_trans ((stands.stranded_le sound top).1 _) fits.stranded_le
      · exact Nat.le_trans (Nat.le_of_eq (List.countP_cons_of_neg Bool.false_ne_true)) labels_le
  | take top ends =>
      cases ends with
      | loop _ last =>
          refine fits.taken top rfl fits.current rfl ?_
          have isOver := (stands.stranded_le sound top).2
          rw [ScriptInstance.stranded, top] at isOver
          unfold ScriptInstance.takeOff Frame.leadsTo
          rw [stands.place] at isOver ⊢
          exact isOver
  | leave ends => rcases ends _ rfl with isFinish | ⟨isEndProc, -⟩ <;> contradiction

/-- Whatever else takes a frame off, or leaves a level, leaves nothing behind. -/
theorem shifted (fits : self.Fits depth stranded labels) {statement : Option Statement}
    {later : ScriptInstance} (shifts : self.Shifts statement later)
    (ends : ∀ given ∈ statement, given.isEnd = true ∧ ∀ start, given ≠ .next start) :
    later.Fits depth stranded labels := by
  cases shifts with
  | grow goesOn =>
      rw [(ends _ rfl).1] at goesOn
      cases goesOn
  | pass => exact absurd rfl ((ends _ rfl).2 _)
  | round => exact absurd rfl ((ends _ rfl).2 _)
  | take top by_own =>
      cases by_own with
      | loop start last => exact absurd rfl ((ends _ rfl).2 start)
      | proc returnTo args =>
          refine fits.taken top rfl fits.current rfl ?_
          rw [Script.stranded]
          exact Nat.le_refl _
      | label => cases (ends _ rfl).1
      | wait wait =>
          refine fits.taken top rfl fits.current rfl ?_
          rw [Script.stranded]
          exact Nat.le_refl _
  | leave => exact fits.endLevel

end Fits

end ScriptInstance

/-! ## Statements -/

namespace ScriptLibrary

def loopDepth (library : ScriptLibrary) : Nat :=
  (library.scripts.map Script.loopDepth).max?.getD 0

def IsShallow (depth : Nat) (library : ScriptLibrary) : Prop :=
  ∀ script ∈ library.scripts, script.IsShallow depth

theorem IsSound.isShallow {library : ScriptLibrary} (sound : library.IsSound) {depth : Nat}
    (depth_le : library.loopDepth ≤ depth) : library.IsShallow depth := by
  intro script member
  refine ⟨sound script member, Nat.le_trans ?_ depth_le⟩
  exact List.le_max?_getD_of_mem (List.mem_map_of_mem member)

end ScriptLibrary

namespace Run

open ScriptInstance (Fits)

variable {ε : Type} {run : Run ε} {index depth stranded labels : Nat} {statement : Statement}

theorem standsAt_of_here (stands : run.here? = some (index, statement)) :
    run.self.StandsAt index statement :=
  have isHere := here?_eq_some.1 stands
  ⟨isHere.1, isHere.2⟩

section Each

variable (fits : run.self.Fits depth stranded labels)
  (free : ∀ wait more, run.self.stack ≠ .wait wait :: more)

include fits free

variable [Engine ε] {flow : Flow} {later : Run ε}

theorem fits_label {name : String} {kind : LabelKind}
    (effect : run.Effect index (.label name kind) flow later)
    (stays : run.self.StaysWithin (index + 1)) :
    (later.follow index flow).self.Fits depth stranded labels := by
  cases effect with
  | @resumed _ _ interrupted resume rest top =>
      have piled := fits.piled
      rw [top] at piled
      refine fits.taken top rfl (piled.head.script interrupted rfl) rfl ?_
      rw [Script.stranded]
      exact Nat.le_refl _
  | labelPassed noLabel => exact fits.goTo free stays

theorem fits_call {target : CallTarget} {args : String}
    (effect : run.Effect index (.call target args) flow later)
    (library : run.shared.library.IsShallow depth) (stays : run.self.StaysWithin (index + 1)) :
    (later.follow index flow).self.Fits depth stranded labels := by
  have few := Nat.le_trans stays.stranded_le fits.stranded_le
  cases effect with
  | callTooDeep deep | callUnknown missing => exact fits.goTo free stays
  | procCalled room =>
      refine fits.pushed rfl fits.current rfl rfl ?_ ?_
      · refine ⟨fun _ saved => ?_, fun _ => room, fun _ => free⟩
        cases saved
      · change Script.stranded _ _ _ (.call none (index + 1) _ :: run.self.stack) ≤ stranded
        rw [Script.stranded]
        exact few
  | @scriptCalled _ _ callee room found =>
      have shallow := library callee (List.mem_of_find?_eq_some found)
      refine fits.pushed rfl shallow rfl rfl ?_ ?_
      · exact ⟨fun caller isCaller => Option.some.inj isCaller ▸ fits.current, fun _ => room,
          fun _ => free⟩
      · change Script.stranded _ _ _
          (.call (some run.self.current) (index + 1) _ :: run.self.stack) ≤ stranded
        rw [Script.stranded]
        exact few

theorem fits_repeatLoop {count : String} {next : Nat}
    (effect : run.Effect index (.repeatLoop count next) flow later)
    (stands : run.self.StandsAt index (.repeatLoop count next)) :
    (later.follow index flow).self.Fits depth stranded labels := by
  have sound := fits.current.sound
  cases effect with
  | noRepeat isCount none => exact fits.goTo free (stands.skipped sound rfl)
  | repeated isCount some =>
      have opens : run.self.current.loopEnd? index = .some next := by
        rw [Script.loopEnd?, stands.found]
      exact fits.entersLoop free stands opens (stands.behind sound (by simp)) rfl rfl rfl rfl

theorem fits_trackLoop {tracks : String} {next : Nat}
    (effect : run.Effect index (.trackLoop tracks next) flow later)
    (stands : run.self.StandsAt index (.trackLoop tracks next)) :
    (later.follow index flow).self.Fits depth stranded labels := by
  have sound := fits.current.sound
  cases effect with
  | noTrack none => exact fits.goTo free (stands.skipped sound rfl)
  | tracked some =>
      have opens : run.self.current.loopEnd? index = .some next := by
        rw [Script.loopEnd?, stands.found]
      exact fits.entersLoop free stands opens (stands.behind sound (by simp)) rfl rfl rfl rfl

end Each

variable [Engine ε]

/-- A statement leaves at most as many frames behind as loops can be nested, and one more. -/
theorem Effect.fits {flow : Flow} {later : Run ε}
    (effect : run.Effect index statement flow later) (fits : run.self.Fits depth stranded labels)
    (free : ∀ wait more, run.self.stack ≠ .wait wait :: more)
    (library : run.shared.library.IsShallow depth)
    (stands : run.self.StandsAt index statement) :
    (later.follow index flow).self.Fits depth
      (stranded + (depth + 1) * (run.self.strands statement).toNat) labels := by
  have sound := fits.current.sound
  have few_open := fits.length_openLoops_le
  -- Only a jump or a warp leaves anything behind.
  have keeps {after : ScriptInstance} (fitting : after.Fits depth stranded labels) :
      after.Fits depth (stranded + (depth + 1) * (run.self.strands statement).toNat) labels :=
    fitting.mono (Nat.le_add_right _ _) (Nat.le_refl _)
  cases statement with
  | label name kind => exact keeps (fits_label fits free effect (stands.behind sound (by simp)))
  | jump target =>
      cases effect
      cases leaves : run.self.strands (.jump target) with
      | false =>
          refine fits.goTo free fun start isOpen => ?_
          simpa using List.any_eq_false.1 leaves start isOpen
      | true =>
          refine ⟨fits.script, fits.current, fits.piled, ?_, fits.labels_le⟩
          have stranded_le := fits.stranded_le
          have behind : run.self.current.stranded (target + 1) (target + 1) run.self.stack ≤
              run.self.stranded + run.self.openLoops.length := Script.stranded_le_add _ _
          change run.self.current.stranded (target + 1) (target + 1) run.self.stack ≤ _
          rw [Bool.toNat_true]
          omega
  | warp start =>
      cases effect
      refine fits.pushed rfl fits.current rfl rfl (Frame.lies_of_local rfl rfl free) ?_
      have stranded_le := fits.stranded_le
      have behind : run.self.current.stranded (start + 1) 0 run.self.stack ≤
          run.self.stranded + run.self.openLoops.length := Script.stranded_le_add _ _
      change run.self.current.stranded (start + 1) 0 run.self.stack + 1 ≤ _
      rw [ScriptInstance.strands, Bool.toNat_true]
      omega
  | call target args =>
      exact keeps (fits_call fits free effect library (stands.behind sound (by simp)))
  | proc name close =>
      cases effect
      exact keeps (fits.goTo free (stands.skipped sound rfl))
  | endProc =>
      exact keeps (fits.shifted (effect.shifts stands.place) (by simp [Statement.isEnd]))
  | branch condition otherwise =>
      cases effect with
      | held holds => exact keeps (fits.goTo free (stands.behind sound (by simp)))
      | failed fails => exact keeps (fits.goTo free (stands.skipped sound rfl))
  | otherwise close =>
      cases effect
      exact keeps (fits.goTo free (stands.skipped sound rfl))
  | repeatLoop count next => exact keeps (fits_repeatLoop fits free effect stands)
  | trackLoop tracks next => exact keeps (fits_trackLoop fits free effect stands)
  | next start => exact keeps (fits.next stands free (effect.shifts stands.place))
  | finish =>
      cases effect
      exact keeps fits.endLevel
  | _ =>
      obtain ⟨rfl, remains⟩ := effect.remains rfl
      exact keeps (fits.remains free remains (stands.behind sound (by simp)))

/-- What a step may leave behind. -/
theorem Due.fits {later : Run ε} {statement : Option Statement} (due : run.Due statement later)
    (library : run.shared.library.IsShallow depth) (fits : run.self.Fits depth stranded labels) :
    later.self.Fits depth
      (stranded + (depth + 1) * (statement.any run.self.strands).toNat) labels := by
  cases statement with
  | none => exact fits.shifted due.shifts nofun
  | some statement =>
      cases due with
      | evaluate free stands =>
          exact (run.effect_evaluate _ _).fits fits free.top library (standsAt_of_here stands)

end Run

end Looper
