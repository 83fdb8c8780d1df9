import Looper.Proofs.Script.Unfolding

/-!
# Waiting for the control side

An instance remembers the last kernel event that it sent, and its frames wait for
kernel events.  Whatever happens to it but sending a request, it comes to know of
no other kernel event; and the completion of an event that it does not know of
leaves it as it is.
-/

namespace Looper

/-! ## Knowing of an event -/

def awaited (frames : List Frame) : List KernelEventId :=
  frames.filterMap Frame.awaitedKernel?

@[simp] theorem awaited_nil : awaited [] = [] := rfl

theorem awaited_cons (frame : Frame) (rest : List Frame) :
    awaited (frame :: rest) = frame.awaitedKernel?.toList ++ awaited rest := by
  unfold awaited
  rw [List.filterMap_cons]
  cases frame.awaitedKernel? <;> rfl

theorem awaited_cons_of_none {frame : Frame} (plain : frame.awaitedKernel? = none)
    (rest : List Frame) : awaited (frame :: rest) = awaited rest := by
  rw [awaited_cons, plain]
  rfl

theorem mem_awaited_of_mem_rest {id : KernelEventId} (frame : Frame) {rest : List Frame}
    (member : id ∈ awaited rest) : id ∈ awaited (frame :: rest) := by
  rw [awaited_cons]
  exact List.mem_append_right _ member

theorem awaited_map_mapWait {change : Wait → Wait}
    (kept : ∀ wait, (change wait).kernel = wait.kernel) (frames : List Frame) :
    awaited (frames.map (Frame.mapWait change)) = awaited frames := by
  unfold awaited
  rw [List.filterMap_map]
  refine congrArg (frames.filterMap ·) (funext fun frame => ?_)
  cases frame with
  | wait wait => exact kept wait
  | _ => rfl

namespace ScriptInstance

/-- An instance has to do with a kernel event: it was its last one, or it waits for it. -/
def Refers (self : ScriptInstance) (id : KernelEventId) : Prop :=
  self.lastKernelEvent = some id ∨ id ∈ awaited self.stack

instance (self : ScriptInstance) (id : KernelEventId) : Decidable (self.Refers id) :=
  inferInstanceAs (Decidable (_ ∨ _))

/-- An instance comes to know of no other kernel event. -/
def Forgets (self later : ScriptInstance) : Prop :=
  ∀ id, later.Refers id → self.Refers id

namespace Forgets

theorem refl (self : ScriptInstance) : Forgets self self :=
  fun _ refers => refers

theorem trans {first second third : ScriptInstance} (earlier : Forgets first second)
    (later : Forgets second third) : Forgets first third :=
  fun id refers => earlier id (later id refers)

theorem of_awaited {self later : ScriptInstance}
    (last : later.lastKernelEvent = self.lastKernelEvent)
    (waits : ∀ id ∈ awaited later.stack, id ∈ awaited self.stack) : Forgets self later := by
  rintro id (isLast | waiting)
  · exact .inl (last ▸ isLast)
  · exact .inr (waits id waiting)

theorem of_same {self later : ScriptInstance}
    (last : later.lastKernelEvent = self.lastKernelEvent)
    (waits : awaited later.stack = awaited self.stack) : Forgets self later :=
  of_awaited last fun _ waiting => waits ▸ waiting

end Forgets

theorem forgets_notify (self : ScriptInstance) (label : Nat) : Forgets self (self.notify label) :=
  .of_same rfl (awaited_cons_of_none rfl self.stack)

theorem forgets_notifyKind (self : ScriptInstance) (kind : LabelKind) :
    Forgets self (self.notifyKind kind).2 := by
  unfold notifyKind
  split
  · exact self.forgets_notify _
  · exact .refl self

theorem forgets_unwind (self : ScriptInstance) (frames : List Frame)
    (within : ∀ id ∈ awaited frames, id ∈ awaited self.stack) :
    Forgets self (self.unwind frames) := by
  obtain ⟨current, pc, stack, track, isLater, suffix⟩ := self.unwind_eq frames
  rw [isLater]
  exact .of_awaited rfl fun id waiting =>
    within id ((suffix.sublist.filterMap Frame.awaitedKernel?).subset waiting)

theorem forgets_endLevel (self : ScriptInstance) : Forgets self self.endLevel :=
  self.forgets_unwind self.stack fun _ waiting => waiting

theorem Elapses.forgets {self later : ScriptInstance} (elapses : self.Elapses later) :
    Forgets self later := by
  cases elapses with
  | count => exact .of_same rfl rfl
  | enter sustainElapsed sustainCount clickElapsed clicking kind =>
      exact Forgets.trans (.of_same rfl rfl) (forgets_notifyKind _ kind)

theorem forgets_finishEvent (self : ScriptInstance) (event : EventId) :
    Forgets self (self.finishEvent event) := by
  have kept (wait : Wait) : (wait.finishEvent event).kernel = wait.kernel := by
    unfold Wait.finishEvent
    split <;> rfl
  rw [finishEvent_eq]
  exact .of_same rfl (awaited_map_mapWait kept self.stack)

/-- Whatever an instance is told of but completions tells it of no kernel event. -/
theorem Noted.forgets {self later : ScriptInstance} (noted : self.Noted later) :
    Forgets self later := by
  cases noted with
  | event event => exact self.forgets_finishEvent event
  | function symbol =>
      refine .of_same rfl (awaited_map_mapWait (fun wait => ?_) self.stack)
      unfold Wait.finishFunction
      split <;> rfl
  | block block =>
      refine .of_same rfl (awaited_map_mapWait (fun wait => ?_) self.stack)
      unfold Wait.releaseBlock
      split <;> rfl
  | held msec holdTime => exact (self.elapses_advanceSustain msec holdTime).forgets
  | clicking msec window => exact (self.elapses_advanceClick msec window).forgets

theorem Entered.forgets {self later : ScriptInstance} (entered : self.Entered later) :
    Forgets self later := by
  cases entered with
  | release => exact Forgets.trans (.of_same rfl rfl) (forgets_notifyKind _ _)
  | click => exact Forgets.trans (.of_same rfl rfl) (forgets_notifyKind _ _)
  | reentry slot => exact self.forgets_notify _

theorem forgets_stop {ε : Type} [Engine ε] (self : ScriptInstance) (engine : ε) :
    Forgets self (self.stop engine).1 :=
  .of_awaited rfl fun _ waiting => by cases waiting

end ScriptInstance

/-! ## Completions -/

theorem awaitedKernel?_finishKernel (id other : KernelEventId) (frame : Frame) :
    (frame.mapWait (Wait.finishKernel id)).awaitedKernel? = some other ↔
      frame.awaitedKernel? = some other ∧ other ≠ id := by
  cases frame with
  | wait wait =>
      change (wait.finishKernel id).kernel = some other ↔ wait.kernel = some other ∧ other ≠ id
      unfold Wait.finishKernel
      split
      · next finished =>
          rw [finished]
          constructor
          · intro impossible
            cases impossible
          · rintro ⟨isOther, different⟩
            exact absurd (Option.some.inj isOther).symm different
      · next unfinished =>
          constructor
          · intro waits
            exact ⟨waits, fun same => unfinished (same ▸ waits)⟩
          · exact fun waits => waits.1
  | _ =>
      constructor
      · intro impossible
        cases impossible
      · intro impossible
        cases impossible.1

/-- Once an event is over, nothing waits for it, and everything else waits as before. -/
theorem mem_awaited_finishKernel (id other : KernelEventId) (frames : List Frame) :
    other ∈ awaited (frames.map (Frame.mapWait (Wait.finishKernel id))) ↔
      other ∈ awaited frames ∧ other ≠ id := by
  unfold awaited
  simp only [List.filterMap_map, List.mem_filterMap, Function.comp_apply,
    awaitedKernel?_finishKernel]
  constructor
  · rintro ⟨frame, member, waits, different⟩
    exact ⟨⟨frame, member, waits⟩, different⟩
  · rintro ⟨⟨frame, member, waits⟩, different⟩
    exact ⟨frame, member, waits, different⟩

/-- Frames that do not wait for an event are not changed when it is over. -/
theorem map_finishKernel_of_not_mem {id : KernelEventId} {frames : List Frame}
    (unawaited : id ∉ awaited frames) :
    frames.map (Frame.mapWait (Wait.finishKernel id)) = frames := by
  refine (List.map_congr_left fun frame member => ?_).trans (List.map_id frames)
  cases frame with
  | wait wait =>
      have other : wait.kernel ≠ some id := by
        intro waits
        exact unawaited (List.mem_filterMap.2 ⟨.wait wait, member, waits⟩)
      change Frame.wait (wait.finishKernel id) = .wait wait
      unfold Wait.finishKernel
      rw [if_neg other]
  | _ => rfl

namespace ScriptInstance

/-- What `finishKernel` asks of an instance is whether it has to do with the event. -/
theorem refers_iff (self : ScriptInstance) (id : KernelEventId) :
    self.Refers id ↔ self.lastKernelEvent = some id ∨
      (self.stack.any fun frame => frame.awaitedKernel? == some id) = true := by
  simp [Refers, awaited, List.mem_filterMap]

/-- An instance that has nothing to do with an event is not changed by its completion. -/
theorem finishKernel_of_not_refers {self : ScriptInstance} {id : KernelEventId}
    (returnCode : Int) (unconcerned : ¬ self.Refers id) :
    self.finishKernel id returnCode = self := by
  obtain ⟨notLast, unawaited⟩ := not_or.1 unconcerned
  have kept : self.mapWaits (Wait.finishKernel id) = self := by
    unfold mapWaits
    rw [map_finishKernel_of_not_mem unawaited]
  rw [finishKernel_eq, kept, if_neg notLast, if_neg (mt (self.refers_iff id).2 unconcerned)]

/-- What a completion does to an instance that has to do with the event, and all that it does. -/
theorem finishKernel_of_refers {self : ScriptInstance} {id : KernelEventId} (returnCode : Int)
    (concerned : self.Refers id) :
    self.finishKernel id returnCode =
      { self with
        stack := self.stack.map (Frame.mapWait (Wait.finishKernel id))
        lastKernelEvent := if self.lastKernelEvent = some id then none else self.lastKernelEvent
        returnCode } := by
  rw [finishKernel_eq, if_pos ((self.refers_iff id).1 concerned)]
  rfl

/-- A completion leaves no trace of its event, and of other events all there is. -/
theorem refers_finishKernel (self : ScriptInstance) (id other : KernelEventId)
    (returnCode : Int) :
    (self.finishKernel id returnCode).Refers other ↔ self.Refers other ∧ other ≠ id := by
  by_cases concerned : self.Refers id
  · rw [finishKernel_of_refers returnCode concerned]
    unfold Refers
    dsimp only
    rw [mem_awaited_finishKernel]
    split
    · next last =>
        rw [last]
        grind
    · next notLast => grind
  · rw [finishKernel_of_not_refers returnCode concerned]
    constructor
    · intro refers
      exact ⟨refers, fun same => concerned (same ▸ refers)⟩
    · exact fun refers => refers.1

end ScriptInstance

end Looper
