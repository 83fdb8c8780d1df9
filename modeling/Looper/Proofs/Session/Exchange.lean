import Looper.Config
import Looper.Proofs.Script.Roll

/-!
# The exchange between scripts and the control side

Between any two steps of either side the other may take steps of its own.  An
`Exchange` is a moment of the scripts together with what the control side has in
hand, the ledger of the kernel channel, and a roll of the instances that have
been launched and of those that have left.  `Exchange.Step` is one step of either
side, and `Exchange.Sound` is what every step keeps.
-/

namespace Looper

open Roster (Operation)

/-! ## Exchanges -/

/-- The scripts and the control side at one moment, and what has been between them so far. -/
structure Exchange (ε : Type) where
  moment : Moment ε
  /-- The events that the control side has in hand. -/
  held : List KernelEvent := []
  ledger : Ledger := {}
  roll : Roll := {}

namespace Moment

variable {ε : Type}

def withKernel (moment : Moment ε) (kernel : KernelChannel) : Moment ε :=
  { moment with rig := { moment.rig with kernel } }

def hear (moment : Moment ε) (event : KernelEvent) : Moment ε :=
  { moment with
    roster := moment.roster.mapActive fun self => self.finishKernel event.id event.returnCode }

end Moment

namespace Exchange

variable {ε : Type}

def start (config : Config) (rig : Rig ε) : Exchange ε :=
  { moment := (Moment.start config.scripts rig).withKernel (.new config.kernel) }

variable [Engine ε]

def act (exchange : Exchange ε) (deed : Deed ε) (after : Moment ε) : Exchange ε :=
  { exchange with
    moment := after
    ledger := exchange.ledger.note exchange.moment.rig.kernel (exchange.moment.asks deed)
    roll := exchange.roll.turn exchange.moment after deed }

omit [Engine ε] in
def ask (exchange : Exchange ε) (ask : Ask) : Exchange ε :=
  { exchange with
    moment := exchange.moment.withKernel (exchange.moment.rig.kernel.serve (some ask)).2
    ledger := exchange.ledger.note exchange.moment.rig.kernel (some (.outside, ask)) }

inductive Step : Exchange ε → Exchange ε → Prop where
  /-- An operation on the scripts begins, with the channel that there is. -/
  | begin {exchange : Exchange ε} {operation : Operation ε} (rests : exchange.moment.IsAtRest)
      (same : (exchange.moment.begin operation).rig.kernel = exchange.moment.rig.kernel) :
      Step exchange { exchange with moment := exchange.moment.begin operation }
  | work {exchange : Exchange ε} {deed : Deed ε} {after : Moment ε}
      (work : Work exchange.moment deed after) : Step exchange (exchange.act deed after)
  | ask (exchange : Exchange ε) (ask : Ask) : Step exchange (exchange.ask ask)
  /-- The next completion is told of, and its envelope is laid ready. -/
  | tell {exchange : Exchange ε} {event : KernelEvent} {after : KernelChannel}
      (polls : exchange.moment.rig.kernel.pollCompleted = (some event, after)) :
      Step exchange
        { exchange with
          moment := (exchange.moment.hear event).withKernel (after.recycle event)
          ledger := exchange.ledger.tell event.id }
  /-- The control side takes the next event in hand. -/
  | receive {exchange : Exchange ε} {event : KernelEvent} {after : KernelChannel}
      (receives : exchange.moment.rig.kernel.receive = (some event, after)) :
      Step exchange
        { exchange with
          moment := exchange.moment.withKernel after
          held := exchange.held ++ [event]
          ledger := exchange.ledger.receive event }
  /-- The control side sends an event in hand back, whatever it has written into it. -/
  | complete {exchange : Exchange ε} {front back : List KernelEvent}
      {event answered : KernelEvent} (holds : exchange.held = front ++ event :: back)
      (envelope : answered.envelope = event.envelope) :
      Step exchange
        { exchange with
          moment := exchange.moment.withKernel
            (exchange.moment.rig.kernel.complete answered).value
          held := front ++ back
          ledger := exchange.ledger.answer answered }
  /-- The control side makes envelopes. -/
  | grow (exchange : Exchange ε) (count : Nat) :
      Step exchange
        { exchange with
          moment := exchange.moment.withKernel
            (exchange.moment.rig.kernel.grow count).value }

abbrev Steps : Exchange ε → Exchange ε → Prop :=
  Relation.ReflTransGen Step

/-- What either side can make of a new channel and an empty roster. -/
def Reachable (config : Config) (exchange : Exchange ε) : Prop :=
  ∃ rig, Steps (.start config rig) exchange

omit [Engine ε] in
/-- The control side has answered every event but those in hand, once and under its id. -/
def IsHonest (exchange : Exchange ε) : Prop :=
  exchange.ledger.IsHonest exchange.held

omit [Engine ε] in
/-- Moreover, it has answered events in the order in which it has received them. -/
def IsOrderly (exchange : Exchange ε) : Prop :=
  exchange.ledger.IsOrderly exchange.held

/-! ## Answering in turn -/

omit [Engine ε] in
/-- The control side answers nothing, or the event that it took first, under its id. -/
def InTurn (exchange later : Exchange ε) : Prop :=
  later.ledger.answered = exchange.ledger.answered ∨
    ∃ event, exchange.held = event :: later.held ∧
      later.ledger.answered = exchange.ledger.answered ++ [event.id]

/-- Steps of both sides; if the control side is faithful, it answers in turn. -/
def Leads (faithful : Prop) : Exchange ε → Exchange ε → Prop :=
  Relation.ReflTransGen fun exchange later =>
    Step exchange later ∧ (faithful → exchange.InTurn later)

theorem IsOrderly.step {exchange later : Exchange ε} (orderly : exchange.IsOrderly)
    (step : Step exchange later) (inTurn : exchange.InTurn later) : later.IsOrderly := by
  cases step with
  | work work =>
      unfold IsOrderly Ledger.IsOrderly act at *
      obtain ⟨received, answered⟩ := exchange.ledger.received_note exchange.moment.rig.kernel
        (exchange.moment.asks _)
      rw [received, answered]
      exact orderly
  | receive receives => exact Ledger.IsOrderly.receive orderly _
  | complete holds envelope =>
      rcases inTurn with nothing | ⟨event, first, answered⟩
      · exact absurd (List.append_right_eq_self.1 nothing) (List.cons_ne_nil _ _)
      · unfold IsOrderly Ledger.IsOrderly at *
        rw [answered, List.append_assoc]
        rw [first] at orderly
        exact orderly
  | _ => exact orderly

/-- A control side that answers in turn keeps the order, whatever scripts do meanwhile. -/
theorem Leads.orderly {faithful : Prop} {exchange later : Exchange ε}
    (leads : Leads faithful exchange later) (faithfully : faithful)
    (orderly : exchange.IsOrderly) : later.IsOrderly := by
  induction leads with
  | refl => exact orderly
  | tail _ step ih => exact ih.step step.1 (step.2 faithfully)

/-! ## Soundness -/

omit [Engine ε] in
/-- A request was sent by a running instance. -/
def HasSent (exchange : Exchange ε) (sender : InstanceId) (id : KernelEventId) : Prop :=
  ∃ ask, ⟨id, .running sender, ask⟩ ∈ exchange.ledger.posted

omit [Engine ε] in
/--
What every step keeps: the books balance, instances know of their own requests
only, the roll is right, and each departure has been reported if it could be.
-/
structure Sound (config : Config) (exchange : Exchange ε) : Prop where
  numbered : exchange.moment.IsNumbered
  balances : Ledger.Balances config.kernel exchange.ledger exchange.moment.rig.kernel
    exchange.held
  known : ∀ self ∈ exchange.moment.roster.active, ∀ id, self.Refers id →
    exchange.HasSent self.id id
  tallies : exchange.roll.Tallies exchange.moment.roster.active exchange.moment.roster.lastId
  reported : exchange.ledger.notices = exchange.roll.departed.filterMap Departure.notice?

end Exchange

theorem mem_posted_note {ledger : Ledger} {posted : Posted} (member : posted ∈ ledger.posted)
    (channel : KernelChannel) (asked : Option (Sender × Ask)) :
    posted ∈ (ledger.note channel asked).posted := by
  cases asked with
  | none => exact member
  | some asked => exact List.mem_append_left _ member

theorem mem_posted_of_sent (ledger : Ledger) {channel : KernelChannel} (sender : Sender)
    {ask : Ask} {id : KernelEventId} (sent : (channel.serve (some ask)).1 = some id) :
    ⟨id, sender, ask⟩ ∈ (ledger.note channel (some (sender, ask))).posted := by
  change _ ∈ ledger.posted ++ ((channel.serve (some ask)).1.map (⟨·, sender, ask⟩)).toList
  rw [sent]
  exact List.mem_append_right _ List.mem_cons_self

namespace Exchange

variable {ε : Type}

theorem sound_start (config : Config) (rig : Rig ε) : (start config rig).Sound config where
  numbered := ⟨.nil, fun _ member => by cases member⟩
  balances := Ledger.balances_new config.kernel
  known := by
    intro self member
    cases member
  tallies := ⟨rfl, .nil, fun _ member => by cases member⟩
  reported := rfl

variable {config : Config} {exchange : Exchange ε}

theorem Sound.hear (sound : exchange.Sound config) (event : KernelEvent) :
    (exchange.moment.hear event).IsNumbered ∧
      (∀ self ∈ (exchange.moment.hear event).roster.active, ∀ id, self.Refers id →
        exchange.HasSent self.id id) ∧
      exchange.roll.Tallies (exchange.moment.hear event).roster.active
        exchange.moment.roster.lastId := by
  have kept (self : ScriptInstance) :
      (self.finishKernel event.id event.returnCode).id = self.id :=
    (self.continues_finishKernel event.id event.returnCode).1.id
  have ids : (exchange.moment.hear event).roster.active.map ScriptInstance.id =
      exchange.moment.roster.active.map ScriptInstance.id := by
    unfold Moment.hear Roster.mapActive
    rw [List.map_map]
    exact List.map_congr_left fun self _ => kept self
  refine ⟨⟨?_, ?_⟩, ?_, ?_⟩
  · rw [ids]
    exact sound.numbered.distinct
  · intro self member
    obtain ⟨first, isFirst, rfl⟩ := List.mem_map.1 member
    rw [kept]
    exact sound.numbered.launched first isFirst
  · intro self member id refers
    obtain ⟨first, isFirst, rfl⟩ := List.mem_map.1 member
    rw [kept]
    exact sound.known first isFirst id
      ((first.refers_finishKernel event.id id event.returnCode).1 refers).1
  · apply sound.tallies.of_same
    unfold Moment.hear Roster.mapActive
    rw [List.map_map]
    exact List.map_congr_left fun self _ => self.ticket_finishKernel _ _

variable [Engine ε]

/-- Whoever knows of an event after some work of scripts has sent it. -/
theorem Sound.known_act (sound : exchange.Sound config) {deed : Deed ε} {after : Moment ε}
    (work : Work exchange.moment deed after) {self : ScriptInstance}
    (member : self ∈ after.roster.active) {id : KernelEventId} (refers : self.Refers id) :
    (exchange.act deed after).HasSent self.id id := by
  rcases work.refers sound.numbered member refers with ⟨first, isFirst, same, earlier⟩ |
    ⟨ask, asked, sent⟩
  · obtain ⟨ask, posted⟩ := sound.known first isFirst id earlier
    rw [same] at posted
    exact ⟨ask, mem_posted_note posted _ _⟩
  · refine ⟨ask, ?_⟩
    unfold Exchange.act
    dsimp only
    rw [asked]
    exact mem_posted_of_sent exchange.ledger _ sent

omit [Engine ε] in
/-- An instance that leaves is reported just if there is something to report and an envelope. -/
theorem Sound.notices_leave (sound : exchange.Sound config) (self : ScriptInstance) :
    (exchange.ledger.note exchange.moment.rig.kernel
      (self.notice?.map fun ask => (.leaving self.id, ask))).notices =
      exchange.ledger.notices ++
        (Departure.notice?
          ⟨self, decide (0 < exchange.moment.rig.kernel.available)⟩).toList := by
  unfold Departure.notice?
  dsimp only
  cases self.notice? with
  | none =>
      rw [Option.map_none, Option.map_none, ite_self]
      exact (List.append_nil _).symm
  | some ask =>
      change (exchange.ledger.post _ _ _).notices = _
      rw [Ledger.notices_post]
      rcases KernelChannel.serve_cases sound.balances.accounted sound.balances.clean ask with
        ⟨exhausted, nothing⟩ | ⟨sent, serves⟩
      · rw [nothing, exhausted]
        rfl
      · rw [sent, decide_eq_true serves.supplied]
        rfl

theorem Sound.reported_act (sound : exchange.Sound config) {deed : Deed ε} {after : Moment ε}
    (work : Work exchange.moment deed after) :
    (exchange.act deed after).ledger.notices =
      (exchange.act deed after).roll.departed.filterMap Departure.notice? := by
  have reported := sound.reported
  unfold act
  dsimp only
  cases work with
  | note stands noted => exact reported
  | act move own =>
      cases move with
      | begin rests operation => cases own
      | tell stands told => cases own
      | mail kernel => cases own
      | @step position self statement later stands steps =>
          rw [sound.numbered.asks_step (List.mem_of_getElem? stands)]
          cases statement.bind (exchange.moment.runOf self).ask? with
          | none => exact reported
          | some ask =>
              exact (Ledger.notices_note exchange.ledger _ ask fun _ => rfl).trans reported
      | @leave position self rests stands finished =>
          have there := List.mem_of_getElem? stands
          rw [sound.numbered.asks_leave there, sound.notices_leave self, reported,
            exchange.roll.turn_leave (sound.numbered.instance?_eq there),
            List.filterMap_append, List.filterMap_eq_flatMap_toList _ [_],
            List.flatMap_singleton]
      | _ => exact reported

theorem Sound.act (sound : exchange.Sound config) {deed : Deed ε} {after : Moment ε}
    (work : Work exchange.moment deed after) : (exchange.act deed after).Sound config := by
  constructor
  case numbered => exact work.move.numbered sound.numbered
  case balances =>
    have noted := sound.balances.note (exchange.moment.asks deed)
    rw [← work.kernel sound.numbered] at noted
    exact noted
  case known =>
    intro self member id refers
    exact sound.known_act work member refers
  case tallies => exact sound.tallies.work sound.numbered work
  case reported => exact sound.reported_act work

omit [Engine ε] in
/-- What is asked from outside is known to no instance, and reports none. -/
theorem Sound.ask (sound : exchange.Sound config) (ask : Ask) :
    (exchange.ask ask).Sound config := by
  constructor
  case numbered => exact ⟨sound.numbered.distinct, sound.numbered.launched⟩
  case balances => exact sound.balances.note (some (.outside, ask))
  case known =>
    intro self member id refers
    obtain ⟨sent, posted⟩ := sound.known self member id refers
    exact ⟨sent, mem_posted_note posted _ _⟩
  case tallies => exact sound.tallies
  case reported =>
    exact (Ledger.notices_note exchange.ledger _ ask fun _ => rfl).trans sound.reported

/-- Every step of either side keeps an exchange sound. -/
theorem Sound.step (sound : exchange.Sound config) {later : Exchange ε}
    (step : Step exchange later) : later.Sound config := by
  have numbered : ∀ kernel, (exchange.moment.withKernel kernel).IsNumbered := fun _ =>
    ⟨sound.numbered.distinct, sound.numbered.launched⟩
  cases step with
  | @begin operation rests same =>
      have begun : (exchange.moment.begin operation).roster.active =
            exchange.moment.roster.active ∧
          (exchange.moment.begin operation).roster.lastId = exchange.moment.roster.lastId := by
        cases operation <;> exact ⟨rfl, rfl⟩
      constructor
      case numbered => exact (Move.begin rests operation).numbered sound.numbered
      case balances =>
        rw [same]
        exact sound.balances
      case known =>
        rw [begun.1]
        exact sound.known
      case tallies =>
        rw [begun.1, begun.2]
        exact sound.tallies
      case reported => exact sound.reported
  | work work => exact sound.act work
  | ask ask => exact sound.ask ask
  | @tell event after polls =>
      obtain ⟨heard, known, tallies⟩ := sound.hear event
      exact ⟨⟨heard.distinct, heard.launched⟩, sound.balances.tell polls, known, tallies,
        sound.reported⟩
  | @receive event after receives =>
      exact ⟨numbered after, sound.balances.receive receives, sound.known, sound.tallies,
        sound.reported⟩
  | @complete front back event answered holds envelope =>
      have balances := sound.balances
      rw [holds] at balances
      exact ⟨numbered _, balances.complete envelope, sound.known, sound.tallies, sound.reported⟩
  | grow count =>
      exact ⟨numbered _, sound.balances.grow count, sound.known, sound.tallies, sound.reported⟩

/-- However the steps of both sides follow each other, an exchange stays sound. -/
theorem Reachable.sound (reachable : exchange.Reachable config) : exchange.Sound config := by
  obtain ⟨rig, steps⟩ := reachable
  induction steps with
  | refl => exact sound_start config rig
  | tail _ step ih => exact ih.step step

end Exchange

end Looper
