import Looper.Proofs.Script.Asking
import Mathlib.Data.List.Perm.Basic

/-!
# The roll of instances

Every launch of a script and every departure of an instance is put on a roll.
Whoever has been launched is either running or has left, and never both; and
whoever has left had finished.
-/

namespace Looper

def ScriptInstance.ticket (self : ScriptInstance) : InstanceId × Script × Nat :=
  (self.id, self.script, self.requestId)

structure Departure where
  /-- The instance as it was when it left. -/
  self : ScriptInstance
  /-- Whether there was an envelope for the report. -/
  supplied : Bool
  deriving DecidableEq, Repr

/-- The report of a departure, if there is something to report and an envelope for it. -/
def Departure.notice? (departure : Departure) : Option (InstanceId × Ask) :=
  if departure.supplied then departure.self.notice?.map fun ask => (departure.self.id, ask)
  else none

/-- Who has come and gone, each list in the order of time. -/
structure Roll where
  /-- The instances as they were launched. -/
  launched : List ScriptInstance := []
  departed : List Departure := []

namespace Roll

variable {ε : Type}

/-- A launch and a departure are put on the roll. -/
def turn (roll : Roll) (before after : Moment ε) : Deed ε → Roll
  | .launch id => { roll with launched := roll.launched ++ (after.instance? id).toList }
  | .leave id =>
      { roll with
        departed := roll.departed ++
          ((before.instance? id).map fun self =>
            ⟨self, decide (0 < before.rig.kernel.available)⟩).toList }
  | _ => roll

theorem turn_launch (roll : Roll) {before after : Moment ε} {id : InstanceId}
    {self : ScriptInstance} (read : after.instance? id = some self) :
    roll.turn before after (.launch id) =
      { roll with launched := roll.launched ++ [self] } := by
  unfold turn
  dsimp only
  rw [read]
  rfl

theorem turn_leave (roll : Roll) {before after : Moment ε} {id : InstanceId}
    {self : ScriptInstance} (read : before.instance? id = some self) :
    roll.turn before after (.leave id) =
      { roll with
        departed := roll.departed ++ [⟨self, decide (0 < before.rig.kernel.available)⟩] } := by
  unfold turn
  dsimp only
  rw [read]
  rfl

/-- What the roll says is so: who was launched is running or has left, each once. -/
structure Tallies (roll : Roll) (active : List ScriptInstance) (lastId : InstanceId) : Prop where
  numbers : roll.launched.map ScriptInstance.id = List.range' 1 lastId
  present : (active.map ScriptInstance.ticket ++
    roll.departed.map fun departure => departure.self.ticket).Perm
      (roll.launched.map ScriptInstance.ticket)
  finished : ∀ departure ∈ roll.departed, departure.self.isFinished = true

end Roll

/-! ## Tickets are kept -/

namespace ScriptInstance

theorem ticket_notifyKind (self : ScriptInstance) (kind : LabelKind) :
    (self.notifyKind kind).2.ticket = self.ticket := by
  unfold notifyKind
  split <;> rfl

theorem ticket_finishKernel (self : ScriptInstance) (event : KernelEventId) (returnCode : Int) :
    (self.finishKernel event returnCode).ticket = self.ticket := by
  rw [finishKernel_eq]
  rfl

theorem Elapses.ticket {self later : ScriptInstance} (elapses : self.Elapses later) :
    later.ticket = self.ticket := by
  cases elapses with
  | count => rfl
  | enter sustainElapsed sustainCount clickElapsed clicking kind =>
      exact ticket_notifyKind _ kind

theorem Noted.ticket {self later : ScriptInstance} (noted : self.Noted later) :
    later.ticket = self.ticket := by
  cases noted with
  | event event =>
      rw [finishEvent_eq]
      rfl
  | function symbol => rfl
  | block block => rfl
  | held msec holdTime => exact (self.elapses_advanceSustain msec holdTime).ticket
  | clicking msec window => exact (self.elapses_advanceClick msec window).ticket

theorem Entered.ticket {self later : ScriptInstance} (entered : self.Entered later) :
    later.ticket = self.ticket := by
  cases entered with
  | release => exact ticket_notifyKind _ _
  | click => exact ticket_notifyKind _ _
  | reentry slot => rfl

end ScriptInstance

variable {ε : Type} [Engine ε]

theorem Run.Step.ticket {run later : Run ε} {statement : Option Statement}
    (step : run.Step statement later) : later.self.ticket = run.self.ticket :=
  ScriptInstance.read_of_steady ScriptInstance.ticket (fun _ => rfl) step.evolves.steady

namespace Roll

variable {roll : Roll} {active : List ScriptInstance} {lastId : InstanceId}

theorem Tallies.of_same {later : List ScriptInstance} (tallies : roll.Tallies active lastId)
    (same : later.map ScriptInstance.ticket = active.map ScriptInstance.ticket) :
    roll.Tallies later lastId := by
  constructor
  case numbers => exact tallies.numbers
  case present =>
    rw [same]
    exact tallies.present
  case finished => exact tallies.finished

theorem Tallies.set (tallies : roll.Tallies active lastId) {position : Nat}
    {self later : ScriptInstance} (stands : active[position]? = some self)
    (same : later.ticket = self.ticket) : roll.Tallies (active.set position later) lastId := by
  apply tallies.of_same
  have there : (active.map ScriptInstance.ticket)[position]? = some self.ticket := by
    rw [List.getElem?_map, stands, Option.map_some]
  obtain ⟨within, isTicket⟩ := List.getElem?_eq_some_iff.1 there
  rw [List.map_set, same, ← isTicket, List.set_getElem_self]

theorem Tallies.launch (tallies : roll.Tallies active lastId) {self : ScriptInstance}
    (isNext : self.id = lastId + 1) :
    Tallies { roll with launched := roll.launched ++ [self] } (active ++ [self]) (lastId + 1) := by
  constructor
  case numbers =>
    rw [List.map_append, tallies.numbers, List.range'_1_concat, List.map_singleton, isNext,
      Nat.add_comm]
  case present =>
    rw [List.map_append, List.map_append, List.append_assoc]
    refine (List.Perm.append_left _ List.perm_append_comm).trans ?_
    rw [← List.append_assoc]
    exact tallies.present.append_right _
  case finished => exact tallies.finished

theorem Tallies.leave (tallies : roll.Tallies active lastId) {position : Nat}
    {self : ScriptInstance} (stands : active[position]? = some self)
    (finished : self.isFinished = true) (supplied : Bool) :
    Tallies { roll with departed := roll.departed ++ [⟨self, supplied⟩] }
      (active.eraseIdx position) lastId := by
  obtain ⟨within, isSelf⟩ := List.getElem?_eq_some_iff.1 stands
  have moved : (self :: active.eraseIdx position).Perm active := by
    rw [← isSelf]
    exact List.getElem_cons_eraseIdx_perm within
  constructor
  case numbers => exact tallies.numbers
  case present =>
    refine List.Perm.trans ?_ tallies.present
    refine List.Perm.trans ?_ ((moved.map ScriptInstance.ticket).append_right _)
    rw [List.map_append, ← List.append_assoc]
    exact List.perm_append_singleton _ _
  case finished =>
    intro departure member
    rcases List.mem_append.1 member with earlier | isNew
    · exact tallies.finished departure earlier
    · rw [List.mem_singleton.1 isNew]
      exact finished

/-- The work of scripts keeps the roll right. -/
theorem Tallies.work {before after : Moment ε} {deed : Deed ε}
    (tallies : roll.Tallies before.roster.active before.roster.lastId)
    (numbered : before.IsNumbered) (work : Work before deed after) :
    (roll.turn before after deed).Tallies after.roster.active after.roster.lastId := by
  have numberedAfter := work.move.numbered numbered
  cases work with
  | note stands noted => exact tallies.set stands noted.ticket
  | act move own =>
      cases move with
      | begin rests operation => cases own
      | tell stands told => cases own
      | mail kernel => cases own
      | step stands steps => exact tallies.set stands steps.ticket
      | enter front stands unfinished entered => exact tallies.set stands entered.ticket
      | @launch action rest id script front found =>
          have isNext := (before.roster.launched_eq script action).1
          have read := numberedAfter.instance?_eq
            (List.mem_append_right before.roster.active List.mem_cons_self)
          rw [isNext] at read
          rw [roll.turn_launch read]
          exact tallies.launch isNext
      | stop front stands concerns => exact tallies.set stands rfl
      | @leave position self rests stands finished =>
          have read := numbered.instance?_eq (List.mem_of_getElem? stands)
          rw [roll.turn_leave read]
          exact tallies.leave stands finished _
      | _ => exact tallies

end Roll

end Looper
