import Mathlib.Data.List.Forall2
import Looper.Proofs.Kernel.Circulation

/-!
# The ledger of a kernel channel

A ledger notes each request that is sent, with whoever sent it, each event that
the control side receives and answers, and each completion that the real-time
side tells of.  However often an envelope has been used, an event carries what
was asked this time and nothing else; requests arrive once and in the order of
sending, and completions come back in that order.
-/

namespace Looper

/-- Something to be asked of the control side. -/
structure Ask where
  kind : KernelKind
  args : List String
  requestId : Nat
  deriving DecidableEq, Repr

inductive Sender where
  /-- A running script instance asks for something. -/
  | running (id : InstanceId)
  /-- An instance has left, and this is reported. -/
  | leaving (id : InstanceId)
  /-- An action that no script has issued. -/
  | outside
  deriving DecidableEq, Repr

/-- A request that was sent, under the id that it got. -/
structure Posted where
  id : KernelEventId
  sender : Sender
  ask : Ask
  deriving DecidableEq, Repr

def Posted.notice? (posted : Posted) : Option (InstanceId × Ask) :=
  match posted.sender with
  | .leaving id => some (id, posted.ask)
  | _ => none

/-- What has gone through a kernel channel, each list in the order of time. -/
structure Ledger where
  /-- Requests that were sent. -/
  posted : List Posted := []
  /-- Events that the control side has received. -/
  received : List KernelEvent := []
  /-- The ids that stood on the answers of the control side. -/
  answered : List KernelEventId := []
  /-- Events whose completion the real-time side has told of. -/
  told : List KernelEventId := []

/-! ## What an event carries -/

namespace KernelEvent

/-- What ends up in an argument slot: the text given for it, clipped, or nothing. -/
def slotText (args : List String) (slot : Nat) : String :=
  (args[slot]?.map (Text.clip maxArg)).getD ""

/-- An event carries what was asked, and nothing of an earlier use of its envelope. -/
structure Bears (event : KernelEvent) (ask : Ask) : Prop where
  kind : event.kind = ask.kind
  requestId : event.requestId = ask.requestId
  returnCode : event.returnCode = 0
  arg : ∀ slot < 3, event.arg slot = slotText ask.args slot

theorem arg_setArg (event : KernelEvent) (slot : Nat) (text : String) (other : Nat) :
    (event.setArg slot text).arg other =
      if other = slot ∧ other < 3 then Text.clip maxArg text else event.arg other := by
  unfold setArg arg
  by_cases within : other < 3
  · by_cases same : other = slot
    · subst same
      simp [within]
    · by_cases inside : slot < 3
      · simp only [within, inside, same, dif_pos, false_and, if_false]
        exact Vector.getElem_set_ne _ _ (Ne.symm same)
      · simp [within, inside, same]
  · simp [within]

/-- Each slot from the first one on gets its text, and the other slots stay. -/
theorem arg_setArgs (event : KernelEvent) (slot : Nat) (args : List String) (other : Nat)
    (within : other < 3) :
    (event.setArgs slot args).arg other =
      if slot ≤ other then
        (args[other - slot]?.map (Text.clip maxArg)).getD (event.arg other)
      else event.arg other := by
  induction args generalizing event slot with
  | nil => simp [setArgs]
  | cons text rest ih =>
      rw [setArgs, ih, arg_setArg]
      by_cases here : other = slot
      · subst here
        simp [within]
      · by_cases later : slot + 1 ≤ other
        · obtain ⟨gap, rfl⟩ := Nat.exists_eq_add_of_le later
          have before : slot ≤ slot + 1 + gap := by omega
          have place : slot + 1 + gap - slot = gap + 1 := by omega
          simp [here, before, place]
        · have beyond : ¬ slot ≤ other := by omega
          simp [here, later, beyond]

theorem kind_setArgs (event : KernelEvent) (slot : Nat) (args : List String) :
    (event.setArgs slot args).kind = event.kind ∧
      (event.setArgs slot args).requestId = event.requestId ∧
      (event.setArgs slot args).returnCode = event.returnCode := by
  induction args generalizing event slot with
  | nil => exact ⟨rfl, rfl, rfl⟩
  | cons text rest ih =>
      have one : (event.setArg slot text).kind = event.kind ∧
          (event.setArg slot text).requestId = event.requestId ∧
          (event.setArg slot text).returnCode = event.returnCode := by
        unfold setArg
        split <;> exact ⟨rfl, rfl, rfl⟩
      obtain ⟨kind, requestId, returnCode⟩ := ih (event.setArg slot text) (slot + 1)
      exact ⟨kind.trans one.1, requestId.trans one.2.1, returnCode.trans one.2.2⟩

def filled (event : KernelEvent) (ask : Ask) (id : KernelEventId) : KernelEvent :=
  { setArgs { event with kind := ask.kind, requestId := ask.requestId } 0 ask.args with id }

theorem bears_filled (envelope : Nat) (ask : Ask) (id : KernelEventId) :
    ((blank envelope).filled ask id).Bears ask := by
  obtain ⟨kind, requestId, returnCode⟩ := kind_setArgs
    { blank envelope with kind := ask.kind, requestId := ask.requestId } 0 ask.args
  refine ⟨kind, requestId, returnCode, ?_⟩
  intro slot within
  have empty : ({ blank envelope with kind := ask.kind, requestId := ask.requestId } :
      KernelEvent).arg slot = "" := by
    unfold arg
    simp [within, blank]
  have filled := arg_setArgs
    { blank envelope with kind := ask.kind, requestId := ask.requestId } 0 ask.args slot within
  rw [if_pos (Nat.zero_le slot), Nat.sub_zero, empty] at filled
  exact filled

end KernelEvent

/-! ## Requests -/

namespace KernelChannel

theorem receive_eq_some {channel after : KernelChannel} {event : KernelEvent}
    (receives : channel.receive = (some event, after)) :
    ∃ rest, channel.outbound.letters = event :: rest ∧
      after = { channel with outbound := { channel.outbound with letters := rest } } := by
  obtain ⟨taken, isAfter⟩ := Prod.ext_iff.1 receives
  obtain ⟨rest, letters, box⟩ := Mailbox.take_eq_some (Prod.ext taken rfl)
  refine ⟨rest, letters, isAfter.symm.trans ?_⟩
  rw [← box]
  rfl

theorem pollCompleted_eq_some {channel after : KernelChannel} {event : KernelEvent}
    (polls : channel.pollCompleted = (some event, after)) :
    ∃ rest, channel.completed.letters = event :: rest ∧
      after = { channel with completed := { channel.completed with letters := rest } } := by
  obtain ⟨taken, isAfter⟩ := Prod.ext_iff.1 polls
  obtain ⟨rest, letters, box⟩ := Mailbox.take_eq_some (Prod.ext taken rfl)
  refine ⟨rest, letters, isAfter.symm.trans ?_⟩
  rw [← box]
  rfl

/-- The id of the request that is sent if something is asked, and the channel afterwards. -/
def serve (channel : KernelChannel) : Option Ask → Option KernelEventId × KernelChannel
  | none => (none, channel)
  | some ask => (channel.request ask.kind ask.args ask.requestId).value

/-- Envelopes that are ready for use are blank. -/
def IsClean (channel : KernelChannel) : Prop :=
  ∀ event ∈ channel.free ++ channel.replenish.letters, event = .blank event.envelope

/-- What a request that finds an envelope does. -/
structure Serves (channel : KernelChannel) (ask : Ask) (after : KernelChannel) : Prop where
  supplied : 0 < channel.available
  lastId : after.lastId = channel.lastId + 1
  completed : after.completed = channel.completed
  clean : after.IsClean
  outbound : ∃ event, event.id = channel.lastId + 1 ∧ event.Bears ask ∧
    after.outbound.letters = channel.outbound.letters ++ [event]

/--
A request is sent under the next id if there is an envelope; if there is none,
nothing happens.
-/
theorem serve_cases {config : KernelConfig} {channel : KernelChannel} {held : List KernelEvent}
    (accounted : Traffic.Accounted config ⟨channel, [], held⟩) (clean : channel.IsClean)
    (ask : Ask) :
    (channel.available = 0 ∧ channel.serve (some ask) = (none, channel)) ∨
      ((channel.serve (some ask)).1 = some (channel.lastId + 1) ∧
        channel.Serves ask (channel.serve (some ask)).2) := by
  have supply : channel.available = channel.free.length + channel.replenish.letters.length :=
    accounted.available_eq
  -- With the envelope in hand there is room in the box, whichever envelope it is.
  have sends {event : KernelEvent} {after : KernelChannel}
      (allocated : channel.alloc.value = (some event, after))
      (blank : event = .blank event.envelope)
      (lastId : after.lastId = channel.lastId) (outbound : after.outbound = channel.outbound)
      (completed : after.completed = channel.completed) (stillClean : after.IsClean)
      (supplied : 0 < channel.available) :
      (channel.serve (some ask)).1 = some (channel.lastId + 1) ∧
        channel.Serves ask (channel.serve (some ask)).2 := by
    have taken := accounted.alloc
    rw [allocated] at taken
    obtain ⟨box, posted⟩ := taken.unobstructed.send (by simp)
      (event.filled ask (after.lastId + 1))
    have letters : box.letters = after.outbound.letters ++ [event.filled ask (after.lastId + 1)] :=
      Mailbox.letters_of_post posted
    have served : channel.serve (some ask) =
        (some (after.lastId + 1), { after with lastId := after.lastId + 1, outbound := box }) := by
      unfold serve request
      simp only [Logged.value_bind, allocated]
      exact send_of_post posted
    rw [lastId] at served letters
    rw [served]
    refine ⟨rfl, supplied, rfl, completed, stillClean, event.filled ask _, rfl, ?_, ?_⟩
    · rw [blank]
      exact KernelEvent.bears_filled _ ask _
    · rw [letters, outbound]
  rcases channel.alloc_cases with ⟨event, free, shelf, allocated⟩ |
    ⟨event, letters, shelf, waiting, allocated⟩ | ⟨shelf, waiting, allocated⟩
  · right
    have ready : event ∈ channel.free ++ channel.replenish.letters := by simp [shelf]
    have supplied : 0 < channel.available := by
      rw [supply, shelf, List.length_cons]
      omega
    refine sends allocated (clean event ready) rfl rfl rfl ?_ supplied
    intro other member
    refine clean other ?_
    rw [shelf]
    exact List.mem_cons_of_mem _ member
  · right
    have ready : event ∈ channel.free ++ channel.replenish.letters := by simp [waiting]
    have supplied : 0 < channel.available := by
      rw [supply, waiting, List.length_cons]
      omega
    refine sends allocated (clean event ready) rfl rfl rfl ?_ supplied
    intro other member
    refine clean other ?_
    simp only [shelf, List.nil_append] at member
    rw [shelf, waiting]
    exact List.mem_cons_of_mem _ member
  · left
    refine ⟨by simp [supply, shelf, waiting], ?_⟩
    unfold serve request
    simp only [Logged.value_bind, allocated]
    rfl

end KernelChannel

/-! ## Balance -/

namespace Ledger

def post (ledger : Ledger) (sender : Sender) (ask : Ask) (id : Option KernelEventId) : Ledger :=
  { ledger with posted := ledger.posted ++ (id.map (⟨·, sender, ask⟩)).toList }

def note (ledger : Ledger) (channel : KernelChannel) : Option (Sender × Ask) → Ledger
  | none => ledger
  | some (sender, ask) => ledger.post sender ask (channel.serve (some ask)).1

def receive (ledger : Ledger) (event : KernelEvent) : Ledger :=
  { ledger with received := ledger.received ++ [event] }

def answer (ledger : Ledger) (event : KernelEvent) : Ledger :=
  { ledger with answered := ledger.answered ++ [event.id] }

def tell (ledger : Ledger) (id : KernelEventId) : Ledger :=
  { ledger with told := ledger.told ++ [id] }

def notices (ledger : Ledger) : List (InstanceId × Ask) :=
  ledger.posted.filterMap Posted.notice?

/-- Every event but those in hand has been answered, once and under its id. -/
def IsHonest (ledger : Ledger) (held : List KernelEvent) : Prop :=
  (ledger.answered ++ held.map KernelEvent.id).Perm (ledger.received.map KernelEvent.id)

/-- Moreover, events are answered in the order in which they were received. -/
def IsOrderly (ledger : Ledger) (held : List KernelEvent) : Prop :=
  ledger.answered ++ held.map KernelEvent.id = ledger.received.map KernelEvent.id

theorem IsOrderly.honest {ledger : Ledger} {held : List KernelEvent}
    (orderly : ledger.IsOrderly held) : ledger.IsHonest held :=
  .of_eq orderly

/--
What a ledger says is so: the events that were received and those still on their
way are the requests that were sent, in order and each once, and the completions
that were told of and those on their way back are the answers.
-/
structure Balances (config : KernelConfig) (ledger : Ledger) (channel : KernelChannel)
    (held : List KernelEvent) : Prop where
  accounted : Traffic.Accounted config ⟨channel, [], held⟩
  clean : channel.IsClean
  carried : List.Forall₂ (fun posted event => event.id = posted.id ∧ event.Bears posted.ask)
    ledger.posted (ledger.received ++ channel.outbound.letters)
  ordered : (ledger.posted.map Posted.id).Pairwise (· < ·)
  issued : ∀ posted ∈ ledger.posted, posted.id ≤ channel.lastId
  returned : ledger.told ++ channel.completed.letters.map KernelEvent.id = ledger.answered

end Ledger

theorem Traffic.Accounted.steps {config : KernelConfig} {before after : Traffic}
    (accounted : Traffic.Accounted config before) (steps : Traffic.Steps before after) :
    Traffic.Accounted config after := by
  induction steps with
  | refl => exact accounted
  | tail _ step ih => exact ih.step step

namespace Ledger

theorem balances_new (config : KernelConfig) : Balances config {} (.new config) [] where
  accounted := Traffic.accounted_new config
  clean := by
    intro event member
    simp only [KernelChannel.new, Mailbox.letters_new, List.append_nil, List.mem_map] at member
    obtain ⟨number, -, rfl⟩ := member
    rfl
  carried := .nil
  ordered := .nil
  issued := by
    intro posted member
    cases member
  returned := rfl

variable {config : KernelConfig} {ledger : Ledger} {channel : KernelChannel}
  {held : List KernelEvent}

/-- A request that is sent is the last one, and its id is the largest. -/
theorem Balances.post (balances : Balances config ledger channel held) (sender : Sender)
    (ask : Ask) :
    Balances config (ledger.post sender ask (channel.serve (some ask)).1)
      (channel.serve (some ask)).2 held := by
  rcases channel.serve_cases balances.accounted balances.clean ask with
    ⟨-, exhausted⟩ | ⟨sent, serves⟩
  · rw [exhausted]
    unfold Ledger.post
    rw [Option.map_none, Option.toList_none, List.append_nil]
    exact balances
  · obtain ⟨event, isNext, bears, letters⟩ := serves.outbound
    rw [sent]
    constructor
    case accounted =>
      exact balances.accounted.steps
        (KernelChannel.Carries.request channel ask.kind ask.args ask.requestId [] _)
    case clean => exact serves.clean
    case carried =>
      rw [letters, ← List.append_assoc]
      exact List.rel_append balances.carried (.cons ⟨isNext, bears⟩ .nil)
    case ordered =>
      unfold Ledger.post
      rw [List.map_append, List.pairwise_append]
      refine ⟨balances.ordered, List.pairwise_singleton _ _, ?_⟩
      intro earlier member later isLater
      obtain ⟨posted, isPosted, rfl⟩ := List.mem_map.1 member
      have bound := balances.issued posted isPosted
      rw [List.mem_singleton.1 isLater]
      exact Nat.lt_succ_of_le bound
    case issued =>
      intro posted member
      rw [serves.lastId]
      rcases List.mem_append.1 member with earlier | isNew
      · exact Nat.le_succ_of_le (balances.issued posted earlier)
      · rw [List.mem_singleton.1 isNew]
    case returned =>
      rw [serves.completed]
      exact balances.returned

/-- Only what is asked when an instance leaves is a report, and only if it is sent. -/
theorem notices_post (ledger : Ledger) (sender : Sender) (ask : Ask)
    (id : Option KernelEventId) :
    (ledger.post sender ask id).notices =
      ledger.notices ++ (id.bind fun id => Posted.notice? ⟨id, sender, ask⟩).toList := by
  unfold notices Ledger.post
  rw [List.filterMap_append]
  cases id with
  | none => rfl
  | some id =>
      change _ ++ List.filterMap Posted.notice? [_] = _
      rw [List.filterMap_eq_flatMap_toList _ [_], List.flatMap_singleton]
      rfl

theorem notices_note (ledger : Ledger) (channel : KernelChannel) {sender : Sender} (ask : Ask)
    (stays : ∀ id, Posted.notice? ⟨id, sender, ask⟩ = none) :
    (ledger.note channel (some (sender, ask))).notices = ledger.notices := by
  refine (ledger.notices_post sender ask (channel.serve (some ask)).1).trans ?_
  rw [Option.bind_congr fun id _ => stays id, Option.bind_fun_none]
  exact List.append_nil _

/-- To note what is asked is not to receive or to answer anything. -/
theorem received_note (ledger : Ledger) (channel : KernelChannel)
    (asked : Option (Sender × Ask)) :
    (ledger.note channel asked).received = ledger.received ∧
      (ledger.note channel asked).answered = ledger.answered := by
  cases asked <;> exact ⟨rfl, rfl⟩

theorem Balances.note (balances : Balances config ledger channel held)
    (asked : Option (Sender × Ask)) :
    Balances config (ledger.note channel asked) (channel.serve (asked.map Prod.snd)).2 held := by
  cases asked with
  | none => exact balances
  | some asked => exact balances.post asked.1 asked.2

theorem Balances.receive (balances : Balances config ledger channel held) {event : KernelEvent}
    {after : KernelChannel} (receives : channel.receive = (some event, after)) :
    Balances config (ledger.receive event) after (held ++ [event]) := by
  have accounted := balances.accounted.step (.receive channel [] held)
  obtain ⟨rest, letters, isAfter⟩ := KernelChannel.receive_eq_some receives
  rw [receives] at accounted
  have carried := balances.carried
  rw [letters] at carried
  subst isAfter
  constructor
  case accounted => exact accounted
  case clean => exact balances.clean
  case carried =>
    unfold Ledger.receive
    rw [List.append_assoc]
    exact carried
  case ordered => exact balances.ordered
  case issued => exact balances.issued
  case returned => exact balances.returned

theorem IsOrderly.receive (orderly : ledger.IsOrderly held) (event : KernelEvent) :
    (ledger.receive event).IsOrderly (held ++ [event]) := by
  unfold IsOrderly Ledger.receive at *
  rw [List.map_append, List.map_append, ← orderly, List.append_assoc]

/-- Any event in hand may be answered, and its answer goes back behind the others. -/
theorem Balances.complete {front back : List KernelEvent} {event answered : KernelEvent}
    (balances : Balances config ledger channel (front ++ event :: back))
    (envelope : answered.envelope = event.envelope) :
    Balances config (ledger.answer answered) (channel.complete answered).value
      (front ++ back) := by
  have answers := balances.accounted.step (.answer channel [] front back envelope)
  obtain ⟨box, posted⟩ := answers.unobstructed.complete (by simp) answered
  have completes := KernelChannel.complete_of_post posted
  have letters := Mailbox.letters_of_post posted
  have accounted := answers.step (.complete channel [] front back answered)
  rw [completes] at accounted ⊢
  constructor
  case accounted => exact accounted
  case clean => exact balances.clean
  case carried => exact balances.carried
  case ordered => exact balances.ordered
  case issued => exact balances.issued
  case returned =>
    unfold Ledger.answer
    dsimp only
    rw [letters, List.map_append, ← List.append_assoc, balances.returned]
    rfl

/-- What is told of next is next on its way back, and leaves a blank envelope. -/
theorem Balances.tell (balances : Balances config ledger channel held) {event : KernelEvent}
    {after : KernelChannel} (polls : channel.pollCompleted = (some event, after)) :
    Balances config (ledger.tell event.id) (after.recycle event) held := by
  have taken := balances.accounted.poll
  obtain ⟨rest, letters, isAfter⟩ := KernelChannel.pollCompleted_eq_some polls
  rw [polls] at taken
  have recycled := taken.step (.recycle after [] [] held event)
  have room : after.free.length < after.poolMax := taken.unobstructed.recycle (by simp)
  have returned := balances.returned
  rw [letters, List.map_cons] at returned
  rw [KernelChannel.recycle_of_room event room] at recycled ⊢
  subst isAfter
  constructor
  case accounted => exact recycled
  case clean =>
    intro other member
    rcases List.mem_cons.1 member with isFirst | isOther
    · rw [isFirst]
      rfl
    · exact balances.clean other isOther
  case carried => exact balances.carried
  case ordered => exact balances.ordered
  case issued => exact balances.issued
  case returned =>
    unfold Ledger.tell
    dsimp only
    rw [← returned, List.append_assoc]
    rfl

theorem isClean_grow (count : Nat) {channel : KernelChannel}
    (accounted : Traffic.Accounted config ⟨channel, [], held⟩)
    (clean : channel.IsClean) :
    (channel.grow count).value.IsClean ∧
      (channel.grow count).value.outbound = channel.outbound ∧
      (channel.grow count).value.completed = channel.completed ∧
      (channel.grow count).value.lastId = channel.lastId := by
  induction count generalizing channel with
  | zero => exact ⟨clean, rfl, rfl, rfl⟩
  | succ count ih =>
      by_cases low : channel.available < channel.lowWater ∧ channel.allocated < channel.poolMax
      · have counted := accounted.length_places
        simp only [Traffic.places, List.length_append] at counted
        have below : channel.replenish.letters.length < channel.poolMax := by omega
        rw [KernelChannel.grow_succ_of_low count low.1 low.2 accounted.replenish_open below]
        refine ih (accounted.withOneMore low.2) ?_
        intro event member
        rcases List.mem_append.1 member with free | letter
        · exact clean event (List.mem_append_left _ free)
        · rcases List.mem_append.1 letter with earlier | isNew
          · exact clean event (List.mem_append_right _ earlier)
          · rw [List.mem_singleton.1 isNew]
            rfl
      · rw [KernelChannel.grow_of_supplied (count + 1) low]
        exact ⟨clean, rfl, rfl, rfl⟩

theorem Balances.grow (balances : Balances config ledger channel held) (count : Nat) :
    Balances config ledger (channel.grow count).value held := by
  obtain ⟨clean, outbound, completed, lastId⟩ :=
    isClean_grow count balances.accounted balances.clean
  constructor
  case accounted => exact (balances.accounted.grow count).1
  case clean => exact clean
  case carried =>
    rw [outbound]
    exact balances.carried
  case ordered => exact balances.ordered
  case issued =>
    rw [lastId]
    exact balances.issued
  case returned =>
    rw [completed]
    exact balances.returned

end Ledger

end Looper
