import Mathlib.Data.List.Range
import Mathlib.Logic.Relation
import Looper.Kernel.Channel

/-!
# Envelopes in circulation

An envelope is free, in one of the three boxes, or in the hands of one side.
`Traffic` is a kernel channel together with both pairs of hands, and `Step` is
one operation of either side.  However the operations follow each other, each
envelope made so far is in exactly one place, and no box is ever found full.
-/

namespace Looper

/-- A kernel channel and the envelopes that either side has in hand. -/
structure Traffic where
  channel : KernelChannel
  /-- Envelopes in the hands of the real-time side. -/
  taken : List KernelEvent := []
  /-- Envelopes in the hands of the control side. -/
  held : List KernelEvent := []

namespace Traffic

/-- Every envelope there is, place by place. -/
def places (traffic : Traffic) : List KernelEvent :=
  traffic.channel.free ++ traffic.channel.replenish.letters ++
    traffic.channel.outbound.letters ++ traffic.channel.completed.letters ++
    traffic.taken ++ traffic.held

def envelopes (traffic : Traffic) : List Nat :=
  traffic.places.map KernelEvent.envelope

/--
One operation on the channel.  Either side may write into an envelope that it
has in hand, but the envelope stays the one it is.
-/
inductive Step : Traffic → Traffic → Prop where
  | alloc (channel : KernelChannel) (taken held : List KernelEvent) :
      Step ⟨channel, taken, held⟩
        ⟨channel.alloc.value.2, taken ++ channel.alloc.value.1.toList, held⟩
  | write (channel : KernelChannel) (first rest held : List KernelEvent)
      {event written : KernelEvent} (same : written.envelope = event.envelope) :
      Step ⟨channel, first ++ event :: rest, held⟩ ⟨channel, first ++ written :: rest, held⟩
  | send (channel : KernelChannel) (first rest held : List KernelEvent)
      (event : KernelEvent) :
      Step ⟨channel, first ++ event :: rest, held⟩
        ⟨(channel.send event).value.2, first ++ rest, held⟩
  | recycle (channel : KernelChannel) (first rest held : List KernelEvent)
      (event : KernelEvent) :
      Step ⟨channel, first ++ event :: rest, held⟩
        ⟨channel.recycle event, first ++ rest, held⟩
  | poll (channel : KernelChannel) (taken held : List KernelEvent) :
      Step ⟨channel, taken, held⟩
        ⟨channel.pollCompleted.2, taken ++ channel.pollCompleted.1.toList, held⟩
  | receive (channel : KernelChannel) (taken held : List KernelEvent) :
      Step ⟨channel, taken, held⟩
        ⟨channel.receive.2, taken, held ++ channel.receive.1.toList⟩
  | answer (channel : KernelChannel) (taken first rest : List KernelEvent)
      {event answered : KernelEvent} (same : answered.envelope = event.envelope) :
      Step ⟨channel, taken, first ++ event :: rest⟩
        ⟨channel, taken, first ++ answered :: rest⟩
  | complete (channel : KernelChannel) (taken first rest : List KernelEvent)
      (event : KernelEvent) :
      Step ⟨channel, taken, first ++ event :: rest⟩
        ⟨(channel.complete event).value, taken, first ++ rest⟩
  | grow (channel : KernelChannel) (taken held : List KernelEvent) (count : Nat) :
      Step ⟨channel, taken, held⟩ ⟨(channel.grow count).value, taken, held⟩

abbrev Steps : Traffic → Traffic → Prop :=
  Relation.ReflTransGen Step

/-- What the operations make of a new channel. -/
def Reachable (config : KernelConfig) (traffic : Traffic) : Prop :=
  Steps ⟨.new config, [], []⟩ traffic

/-- The books of a kernel channel are in order. -/
structure Accounted (config : KernelConfig) (traffic : Traffic) : Prop where
  poolMax_eq : traffic.channel.poolMax = max (max config.poolMax config.poolSize) 1
  lowWater_eq : traffic.channel.lowWater = min config.lowWater traffic.channel.poolMax
  replenish_open : traffic.channel.replenish.IsOpen traffic.channel.poolMax
  outbound_open : traffic.channel.outbound.IsOpen traffic.channel.poolMax
  completed_open : traffic.channel.completed.IsOpen traffic.channel.poolMax
  /-- Each envelope made so far is in one place, once. -/
  each_once : traffic.envelopes.Perm (List.range traffic.channel.allocated)
  allocated_le : traffic.channel.allocated ≤ traffic.channel.poolMax
  available_eq : traffic.channel.available =
    traffic.channel.free.length + traffic.channel.replenish.letters.length

/-- Nothing that either side may do next finds a box full or no room for a free envelope. -/
structure Unobstructed (traffic : Traffic) : Prop where
  send : traffic.taken ≠ [] → ∀ event,
    ∃ box, traffic.channel.outbound.post event = .ok box
  recycle : traffic.taken ≠ [] → traffic.channel.free.length < traffic.channel.poolMax
  complete : traffic.held ≠ [] → ∀ event,
    ∃ box, traffic.channel.completed.post event = .ok box
  grow : traffic.channel.allocated < traffic.channel.poolMax → ∀ event,
    ∃ box, traffic.channel.replenish.post event = .ok box

/-- The control side has done what it can to keep the supply up. -/
def Supplied (channel : KernelChannel) : Prop :=
  channel.lowWater ≤ channel.available ∨ channel.allocated = channel.poolMax

/-! ## What an operation finds -/

theorem Accounted.length_places {config : KernelConfig} {traffic : Traffic}
    (accounted : Accounted config traffic) :
    traffic.places.length = traffic.channel.allocated := by
  have counted := accounted.each_once.length_eq
  simpa [envelopes] using counted

theorem Accounted.unobstructed {config : KernelConfig} {traffic : Traffic}
    (accounted : Accounted config traffic) : Unobstructed traffic := by
  have counted := accounted.length_places
  have bounded := accounted.allocated_le
  simp only [places, List.length_append] at counted
  refine ⟨fun taken event => ?_, fun taken => ?_, fun held event => ?_, fun room event => ?_⟩
  · have inHand := List.length_pos_iff.2 taken
    exact ⟨_, accounted.outbound_open.post (by omega) event⟩
  · have inHand := List.length_pos_iff.2 taken
    omega
  · have inHand := List.length_pos_iff.2 held
    exact ⟨_, accounted.completed_open.post (by omega) event⟩
  · exact ⟨_, accounted.replenish_open.post (by omega) event⟩

end Traffic

namespace KernelChannel

/-- Where the envelope comes from that is taken, if there is one. -/
theorem alloc_cases (channel : KernelChannel) :
    (∃ event free, channel.free = event :: free ∧
      channel.alloc.value =
        (some event, { channel with free, available := channel.available - 1 })) ∨
    (∃ event letters, channel.free = [] ∧ channel.replenish.letters = event :: letters ∧
      channel.alloc.value =
        (some event,
          { channel with
            replenish := { channel.replenish with letters }
            available := channel.available - 1 })) ∨
    (channel.free = [] ∧ channel.replenish.letters = [] ∧
      channel.alloc.value = (none, channel)) := by
  cases free : channel.free with
  | cons event rest => exact .inl ⟨event, rest, rfl, by simp [alloc, free]⟩
  | nil =>
      cases letters : channel.replenish.letters with
      | cons event rest =>
          exact .inr (.inl
            ⟨event, rest, rfl, rfl, by simp [alloc, free, Mailbox.take_of_cons letters]⟩)
      | nil =>
          exact .inr (.inr ⟨rfl, rfl, by simp [alloc, free, Mailbox.take_of_empty letters]⟩)

theorem send_of_post {channel : KernelChannel} {event : KernelEvent}
    {box : Mailbox KernelEvent}
    (posted : channel.outbound.post { event with id := channel.lastId + 1 } = .ok box) :
    (channel.send event).value =
      (some (channel.lastId + 1),
        { channel with lastId := channel.lastId + 1, outbound := box }) := by
  simp [send, posted]

theorem recycle_of_room {channel : KernelChannel} (event : KernelEvent)
    (room : channel.free.length < channel.poolMax) :
    channel.recycle event =
      { channel with
        free := .blank event.envelope :: channel.free
        available := channel.available + 1 } := by
  simp [recycle, room]

theorem complete_of_post {channel : KernelChannel} {event : KernelEvent}
    {box : Mailbox KernelEvent} (posted : channel.completed.post event = .ok box) :
    (channel.complete event).value = { channel with completed := box } := by
  simp [complete, posted]

/-- The channel with one more envelope on its way to the real-time side. -/
def withOneMore (channel : KernelChannel) : KernelChannel :=
  { channel with
    replenish := { channel.replenish with
      letters := channel.replenish.letters ++ [.blank channel.allocated] }
    allocated := channel.allocated + 1
    available := channel.available + 1 }

theorem grow_eq (count : Nat) (channel : KernelChannel) :
    ∃ allocated replenish available,
      (channel.grow count).value = { channel with allocated, replenish, available } := by
  induction count generalizing channel with
  | zero => exact ⟨_, _, _, rfl⟩
  | succ count ih =>
      unfold grow
      split
      · split
        · exact ⟨_, _, _, rfl⟩
        · exact ih _
      · exact ⟨_, _, _, rfl⟩

/-- While the supply is low and the limit not reached, growing goes on from one more envelope. -/
theorem grow_succ_of_low {channel : KernelChannel} (count : Nat)
    (low : channel.available < channel.lowWater) (below : channel.allocated < channel.poolMax)
    (opened : channel.replenish.IsOpen channel.poolMax)
    (room : channel.replenish.letters.length < channel.poolMax) :
    (channel.grow (count + 1)).value = (channel.withOneMore.grow count).value := by
  rw [grow, if_pos (by simp [low, below]), opened.post room]
  rfl

theorem grow_of_supplied {channel : KernelChannel} (count : Nat)
    (supplied : ¬ (channel.available < channel.lowWater ∧
      channel.allocated < channel.poolMax)) :
    (channel.grow count).value = channel := by
  cases count with
  | zero => rfl
  | succ count => simp [grow, supplied]

end KernelChannel

namespace Traffic

/-! ## What an operation keeps -/

section Operations

variable {config : KernelConfig} {channel : KernelChannel}
  {taken held first rest : List KernelEvent} {event written : KernelEvent}

theorem Accounted.alloc (accounted : Accounted config ⟨channel, taken, held⟩) :
    Accounted config
      ⟨channel.alloc.value.2, taken ++ channel.alloc.value.1.toList, held⟩ := by
  obtain ⟨poolMax, lowWater, replenish, outbound, completed, once, bounded, available⟩ :=
    accounted
  rcases channel.alloc_cases with ⟨event, free, shelf, allocated⟩ |
    ⟨event, letters, shelf, waiting, allocated⟩ | ⟨shelf, waiting, allocated⟩
  · rw [allocated]
    refine ⟨poolMax, lowWater, replenish, outbound, completed, ?_, bounded, ?_⟩
    · refine (List.perm_iff_count.2 fun number => ?_).trans once
      simp [envelopes, places, shelf, List.count_append, List.count_cons]
      omega
    · simp only [shelf, List.length_cons] at available
      simp only [available]
      omega
  · rw [allocated]
    refine ⟨poolMax, lowWater, replenish.withLetters _, outbound, completed, ?_, bounded, ?_⟩
    · refine (List.perm_iff_count.2 fun number => ?_).trans once
      simp [envelopes, places, waiting, List.count_append, List.count_cons]
      omega
    · simp only [waiting, List.length_cons] at available
      simp only [available]
      omega
  · rw [allocated]
    simp only [Option.toList_none, List.append_nil]
    exact ⟨poolMax, lowWater, replenish, outbound, completed, once, bounded, available⟩

theorem Accounted.write (accounted : Accounted config ⟨channel, first ++ event :: rest, held⟩)
    (same : written.envelope = event.envelope) :
    Accounted config ⟨channel, first ++ written :: rest, held⟩ := by
  refine { accounted with each_once := ?_ }
  simpa [envelopes, places, same] using accounted.each_once

theorem Accounted.send (accounted : Accounted config ⟨channel, first ++ event :: rest, held⟩) :
    Accounted config ⟨(channel.send event).value.2, first ++ rest, held⟩ := by
  obtain ⟨box, posted⟩ := accounted.unobstructed.send (by simp)
    { event with id := channel.lastId + 1 }
  obtain ⟨-, -, rfl⟩ := Mailbox.post_eq_ok_iff.1 posted
  rw [KernelChannel.send_of_post posted]
  refine { accounted with each_once := ?_, outbound_open := accounted.outbound_open.withLetters _ }
  refine (List.perm_iff_count.2 fun number => ?_).trans accounted.each_once
  simp [envelopes, places, List.count_append, List.count_cons]
  omega

theorem Accounted.recycle
    (accounted : Accounted config ⟨channel, first ++ event :: rest, held⟩) :
    Accounted config ⟨channel.recycle event, first ++ rest, held⟩ := by
  have room := accounted.unobstructed.recycle (by simp)
  have available : channel.available =
      channel.free.length + channel.replenish.letters.length := accounted.available_eq
  rw [KernelChannel.recycle_of_room event room]
  refine { accounted with each_once := ?_, available_eq := ?_ }
  · refine (List.perm_iff_count.2 fun number => ?_).trans accounted.each_once
    simp [envelopes, places, KernelEvent.blank, List.count_append, List.count_cons]
    omega
  · simp only [List.length_cons]
    omega

theorem Accounted.poll (accounted : Accounted config ⟨channel, taken, held⟩) :
    Accounted config
      ⟨channel.pollCompleted.2, taken ++ channel.pollCompleted.1.toList, held⟩ := by
  cases waiting : channel.completed.letters with
  | nil =>
      simpa [KernelChannel.pollCompleted, Mailbox.take_of_empty waiting] using accounted
  | cons event letters =>
      simp only [KernelChannel.pollCompleted, Mailbox.take_of_cons waiting]
      refine { accounted with
        each_once := ?_, completed_open := accounted.completed_open.withLetters _ }
      refine (List.perm_iff_count.2 fun number => ?_).trans accounted.each_once
      simp [envelopes, places, waiting, List.count_append, List.count_cons]
      omega

theorem Accounted.receive (accounted : Accounted config ⟨channel, taken, held⟩) :
    Accounted config ⟨channel.receive.2, taken, held ++ channel.receive.1.toList⟩ := by
  cases waiting : channel.outbound.letters with
  | nil => simpa [KernelChannel.receive, Mailbox.take_of_empty waiting] using accounted
  | cons event letters =>
      simp only [KernelChannel.receive, Mailbox.take_of_cons waiting]
      refine { accounted with
        each_once := ?_, outbound_open := accounted.outbound_open.withLetters _ }
      refine (List.perm_iff_count.2 fun number => ?_).trans accounted.each_once
      simp [envelopes, places, waiting, List.count_append, List.count_cons]
      omega

theorem Accounted.answer (accounted : Accounted config ⟨channel, taken, first ++ event :: rest⟩)
    (same : written.envelope = event.envelope) :
    Accounted config ⟨channel, taken, first ++ written :: rest⟩ := by
  refine { accounted with each_once := ?_ }
  simpa [envelopes, places, same] using accounted.each_once

theorem Accounted.complete
    (accounted : Accounted config ⟨channel, taken, first ++ event :: rest⟩) :
    Accounted config ⟨(channel.complete event).value, taken, first ++ rest⟩ := by
  obtain ⟨box, posted⟩ := accounted.unobstructed.complete (by simp) event
  obtain ⟨-, -, rfl⟩ := Mailbox.post_eq_ok_iff.1 posted
  rw [KernelChannel.complete_of_post posted]
  refine { accounted with
    each_once := ?_, completed_open := accounted.completed_open.withLetters _ }
  refine (List.perm_iff_count.2 fun number => ?_).trans accounted.each_once
  simp [envelopes, places, List.count_append, List.count_cons]
  omega

/-- A new envelope has the next number, and the supply is one larger. -/
theorem Accounted.withOneMore (accounted : Accounted config ⟨channel, taken, held⟩)
    (below : channel.allocated < channel.poolMax) :
    Accounted config ⟨channel.withOneMore, taken, held⟩ := by
  have available : channel.available =
      channel.free.length + channel.replenish.letters.length := accounted.available_eq
  refine { accounted with
    replenish_open := accounted.replenish_open.withLetters _
    each_once := ?_
    allocated_le := below
    available_eq := ?_ }
  · simp only [KernelChannel.withOneMore, List.range_succ]
    refine (List.perm_iff_count.2 fun number => ?_).trans (accounted.each_once.append_right _)
    simp only [envelopes, places, KernelEvent.blank, List.map_append, List.count_append,
      List.map_cons, List.map_nil]
    omega
  · simp only [KernelChannel.withOneMore, List.length_append, List.length_singleton]
    omega

/-- Growing keeps the books, and given time brings the supply up as far as the limit allows. -/
theorem Accounted.grow (count : Nat) (accounted : Accounted config ⟨channel, taken, held⟩) :
    Accounted config ⟨(channel.grow count).value, taken, held⟩ ∧
      (channel.poolMax - channel.allocated ≤ count →
        Supplied (channel.grow count).value) := by
  induction count generalizing channel with
  | zero =>
      have bounded : channel.allocated ≤ channel.poolMax := accounted.allocated_le
      refine ⟨accounted, fun enough => .inr ?_⟩
      simp only [KernelChannel.grow, Logged.value_pure]
      omega
  | succ count ih =>
      by_cases low : channel.available < channel.lowWater ∧
          channel.allocated < channel.poolMax
      -- Each round brings the limit one envelope closer, so it is reached before the rounds end.
      · have counted := accounted.length_places
        simp only [places, List.length_append] at counted
        rw [KernelChannel.grow_succ_of_low count low.1 low.2 accounted.replenish_open
          (by omega)]
        have grown := ih (accounted.withOneMore low.2)
        refine ⟨grown.1, fun enough => grown.2 ?_⟩
        simp only [KernelChannel.withOneMore]
        omega
      · have bounded : channel.allocated ≤ channel.poolMax := accounted.allocated_le
        rw [KernelChannel.grow_of_supplied (count + 1) low]
        refine ⟨accounted, fun _ => ?_⟩
        unfold Supplied
        omega

end Operations

theorem accounted_new (config : KernelConfig) :
    Accounted config ⟨.new config, [], []⟩ where
  poolMax_eq := rfl
  lowWater_eq := rfl
  replenish_open := Mailbox.isOpen_new _
  outbound_open := Mailbox.isOpen_new _
  completed_open := Mailbox.isOpen_new _
  each_once := by
    simp [envelopes, places, KernelChannel.new, KernelEvent.blank,
      Function.comp_def]
  allocated_le := by
    simp only [KernelChannel.new]
    omega
  available_eq := by simp [KernelChannel.new]

/-- Every operation keeps the books in order. -/
theorem Accounted.step {config : KernelConfig} {before after : Traffic}
    (accounted : Accounted config before) (step : Step before after) :
    Accounted config after := by
  cases step with
  | alloc => exact accounted.alloc
  | write _ _ _ _ same => exact accounted.write same
  | send => exact accounted.send
  | recycle => exact accounted.recycle
  | poll => exact accounted.poll
  | receive => exact accounted.receive
  | answer _ _ _ _ same => exact accounted.answer same
  | complete => exact accounted.complete
  | grow _ _ _ count => exact (accounted.grow count).1

/-- However operations follow each other, the books stay in order. -/
theorem Reachable.accounted {config : KernelConfig} {traffic : Traffic}
    (reachable : Reachable config traffic) : Accounted config traffic := by
  induction reachable with
  | refl => exact accounted_new config
  | tail _ step ih => exact ih.step step

end Traffic

/-! ## Whole operations -/

def KernelChannel.Carries (before after : KernelChannel) : Prop :=
  ∀ taken held, Traffic.Steps ⟨before, taken, held⟩ ⟨after, taken, held⟩

namespace KernelChannel.Carries

theorem refl (channel : KernelChannel) : Carries channel channel :=
  fun _ _ => .refl

theorem trans {first second third : KernelChannel} (earlier : Carries first second)
    (later : Carries second third) : Carries first third :=
  fun taken held => (earlier taken held).trans (later taken held)

theorem of_alloc_none {channel after : KernelChannel}
    (exhausted : channel.alloc.value = (none, after)) : Carries channel after := by
  intro taken held
  have step := Traffic.Step.alloc channel taken held
  rw [exhausted] at step
  simpa using Relation.ReflTransGen.single step

theorem of_alloc_send {channel after : KernelChannel} {event written : KernelEvent}
    (allocated : channel.alloc.value = (some event, after))
    (same : written.envelope = event.envelope) :
    Carries channel (after.send written).value.2 := by
  intro taken held
  have alloc := Traffic.Step.alloc channel taken held
  rw [allocated] at alloc
  have write := Traffic.Step.write after taken [] held same
  have send := Traffic.Step.send after taken [] held written
  rw [List.append_nil] at send
  exact ((Relation.ReflTransGen.single alloc).tail write).tail send

theorem request (channel : KernelChannel) (kind : KernelKind) (args : List String)
    (requestId : Nat) : Carries channel (channel.request kind args requestId).value.2 := by
  unfold KernelChannel.request
  simp only [Logged.value_bind]
  cases taking : channel.alloc.value with
  | mk event after =>
      cases event with
      | none => exact of_alloc_none taking
      | some event => exact of_alloc_send taking (by simp)

theorem topUp (channel : KernelChannel) : Carries channel channel.topUp.value :=
  fun taken held => .single (.grow channel taken held _)

theorem drain_completed (channel : KernelChannel) (taken held : List KernelEvent) :
    Traffic.Steps ⟨channel, taken, held⟩
      ⟨{ channel with completed := channel.completed.drain.2 },
        taken ++ channel.completed.letters, held⟩ := by
  generalize waiting : channel.completed.letters = letters
  induction letters generalizing channel taken with
  | nil => rw [Mailbox.drain_of_empty waiting, List.append_nil]
  | cons event letters ih =>
      have takes := Mailbox.take_of_cons waiting
      have polls : Traffic.Step ⟨channel, taken, held⟩ _ := .poll channel taken held
      simp only [KernelChannel.pollCompleted, takes] at polls
      rw [Mailbox.drain_of_take takes, List.append_cons]
      exact .head polls (ih _ _ rfl)

theorem drain_outbound (channel : KernelChannel) (taken held : List KernelEvent) :
    Traffic.Steps ⟨channel, taken, held⟩
      ⟨{ channel with outbound := channel.outbound.drain.2 }, taken,
        held ++ channel.outbound.letters⟩ := by
  generalize waiting : channel.outbound.letters = letters
  induction letters generalizing channel held with
  | nil => rw [Mailbox.drain_of_empty waiting, List.append_nil]
  | cons event letters ih =>
      have takes := Mailbox.take_of_cons waiting
      have receives : Traffic.Step ⟨channel, taken, held⟩ _ := .receive channel taken held
      simp only [KernelChannel.receive, takes] at receives
      rw [Mailbox.drain_of_take takes, List.append_cons]
      exact .head receives (ih _ _ rfl)

end KernelChannel.Carries

end Looper
