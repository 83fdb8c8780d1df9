import Looper.Engine.Recorder
import Looper.Proofs.Session.Correspondence

/-!
# Requests and their completions

However the steps of scripts and control side are interleaved, every request
that was sent reaches the control side once and in order, with what was asked
and nothing else, and completions come back in that order.  Envelopes and
instances are used again, but ids of requests and numbers of instances are not:
a completion concerns the one instance that has sent the request, or no one.
-/

namespace Looper

namespace Exchange

variable {ε : Type}

/-- Requests, completions and the instances that they concern belong together. -/
structure Correlates (exchange : Exchange ε) : Prop where
  /-- What the control side has received and what is on its way are the requests that were sent. -/
  carried : List.Forall₂ (fun posted event => event.id = posted.id ∧ event.Bears posted.ask)
    exchange.ledger.posted
    (exchange.ledger.received ++ exchange.moment.rig.kernel.outbound.letters)
  ordered : (exchange.ledger.posted.map Posted.id).Pairwise (· < ·)
  /-- Completions are told of in the order in which they were sent back, each once. -/
  told : exchange.ledger.told ++
    exchange.moment.rig.kernel.completed.letters.map KernelEvent.id = exchange.ledger.answered
  /-- Each received event is in hand, or its completion is on its way or has been told of, once. -/
  returned : exchange.IsHonest →
    (exchange.ledger.told ++ exchange.moment.rig.kernel.completed.letters.map KernelEvent.id ++
      exchange.held.map KernelEvent.id).Perm (exchange.ledger.received.map KernelEvent.id)
  /-- Completions come back, and are told of, in the order of sending. -/
  inOrder : exchange.IsOrderly →
    exchange.ledger.told ++ exchange.moment.rig.kernel.completed.letters.map KernelEvent.id <+:
      exchange.ledger.posted.map Posted.id
  /-- Once nothing is on its way or in hand, every completion has been told of. -/
  drained : exchange.IsOrderly → exchange.held = [] →
    exchange.moment.rig.kernel.outbound.letters = [] →
    exchange.moment.rig.kernel.completed.letters = [] →
      exchange.ledger.told = exchange.ledger.posted.map Posted.id
  /-- A request has no more than one sender. -/
  sender : ∀ first second id, exchange.HasSent first id → exchange.HasSent second id →
    first = second
  /-- A number stands for one launch, and no two running instances have the same. -/
  numbers : (exchange.roll.launched.map ScriptInstance.id).Nodup ∧
    (exchange.moment.roster.active.map ScriptInstance.id).Nodup ∧
    ∀ self ∈ exchange.moment.roster.active, ∃ first ∈ exchange.roll.launched,
      first.ticket = self.ticket
  /-- A completion does not change an instance that has not sent the request. -/
  others : ∀ self ∈ exchange.moment.roster.active, ∀ id returnCode,
    ¬ exchange.HasSent self.id id → self.finishKernel id returnCode = self
  /-- The sender gets the return code, and neither waits for the event nor has it as its last. -/
  own : ∀ self ∈ exchange.moment.roster.active, ∀ id returnCode,
    self.finishKernel id returnCode =
      if self.Refers id then
        { self with
          stack := self.stack.map (Frame.mapWait (Wait.finishKernel id))
          lastKernelEvent := if self.lastKernelEvent = some id then none else self.lastKernelEvent
          returnCode }
      else self

theorem Sound.ids {config : Config} {exchange : Exchange ε} (sound : exchange.Sound config) :
    exchange.ledger.posted.map Posted.id =
      exchange.ledger.received.map KernelEvent.id ++
        exchange.moment.rig.kernel.outbound.letters.map KernelEvent.id := by
  have same : List.Forall₂ (· = ·) (exchange.ledger.posted.map Posted.id)
      ((exchange.ledger.received ++ exchange.moment.rig.kernel.outbound.letters).map
        KernelEvent.id) := by
    rw [List.forall₂_map_left_iff, List.forall₂_map_right_iff]
    exact sound.balances.carried.imp fun _ _ bears => bears.1.symm
  rw [List.forall₂_eq_eq_eq] at same
  exact same.trans List.map_append

/-- If events are answered in order, each is in one place on its way there and back. -/
theorem Sound.inOrder {config : Config} {exchange : Exchange ε} (sound : exchange.Sound config)
    (orderly : exchange.IsOrderly) :
    exchange.ledger.told ++ exchange.moment.rig.kernel.completed.letters.map KernelEvent.id ++
      exchange.held.map KernelEvent.id ++
        exchange.moment.rig.kernel.outbound.letters.map KernelEvent.id =
      exchange.ledger.posted.map Posted.id := by
  rw [sound.balances.returned, sound.ids]
  exact congrArg (· ++ _) orderly

/-- Requests that have the same id are one request. -/
theorem Sound.sender_eq {config : Config} {exchange : Exchange ε} (sound : exchange.Sound config)
    {first second : InstanceId} {id : KernelEventId} (sent : exchange.HasSent first id)
    (sentAlso : exchange.HasSent second id) : first = second := by
  obtain ⟨ask, posted⟩ := sent
  obtain ⟨other, postedAlso⟩ := sentAlso
  have distinct : (exchange.ledger.posted.map Posted.id).Nodup :=
    sound.balances.ordered.imp Nat.ne_of_lt
  have same := List.inj_on_of_nodup_map distinct posted postedAlso rfl
  exact Sender.running.inj (Posted.mk.inj same).2.1

/-- A sound exchange correlates requests, completions and instances. -/
theorem Sound.correlates {config : Config} {exchange : Exchange ε}
    (sound : exchange.Sound config) : exchange.Correlates := by
  constructor
  case carried => exact sound.balances.carried
  case ordered => exact sound.balances.ordered
  case told => exact sound.balances.returned
  case returned =>
    intro honest
    rw [sound.balances.returned]
    exact honest
  case inOrder =>
    intro orderly
    rw [← sound.inOrder orderly, List.append_assoc]
    exact List.prefix_append _ _
  case drained =>
    intro orderly nothingHeld nothingSent nothingBack
    have inOrder := sound.inOrder orderly
    rw [nothingHeld, nothingSent, nothingBack] at inOrder
    simpa using inOrder
  case sender =>
    intro first second id sent sentAlso
    exact sound.sender_eq sent sentAlso
  case numbers =>
    refine ⟨?_, sound.numbered.distinct, ?_⟩
    · rw [sound.tallies.numbers]
      exact List.nodup_range'
    · intro self member
      have present := sound.tallies.present.subset
        (List.mem_append_left _ (List.mem_map_of_mem member))
      exact List.mem_map.1 present
  case others =>
    intro self member id returnCode unsent
    apply ScriptInstance.finishKernel_of_not_refers
    intro refers
    exact unsent (sound.known self member id refers)
  case own =>
    intro self member id returnCode
    split
    · next refers => exact ScriptInstance.finishKernel_of_refers returnCode refers
    · next unconcerned => exact ScriptInstance.finishKernel_of_not_refers returnCode unconcerned

end Exchange

namespace Session

variable {ε χ : Type} [Engine ε]

/--
Whatever steps either side takes, requests reach the control side once and in
order with what was asked, completions come back in the order of the answers, and
each concerns the instance that has sent the request or no one.  If the control
side answers in turn, that is the order of sending.  Every history of a session is
made of such steps, and the control side answers in turn there if handlers leave
the ids of events alone.
-/
theorem requests_correlate (config : Config) (symbols : SymbolTable) (engine : ε) :
    (∀ exchange : Exchange ε, exchange.Reachable config → exchange.Correlates) ∧
    (∀ (rig : Rig ε) (exchange : Exchange ε),
      Exchange.Leads True (.start config rig) exchange →
        exchange.IsHonest ∧ exchange.IsOrderly) ∧
    ∀ history : List (Operation ε χ),
      ∃ exchange : Exchange ε, exchange.Reachable config ∧
        exchange.Shows ((Session.new config symbols).run engine history).value.1.loop.roster
          ((Session.new config symbols).run engine history).value.1.wires.kernel ∧
        ((∀ operation ∈ history, operation.KeepsIds) → exchange.IsOrderly) := by
  refine ⟨?_, ?_, ?_⟩
  · intro exchange reachable
    exact reachable.sound.correlates
  · intro rig exchange leads
    have orderly := leads.orderly trivial rfl
    exact ⟨Ledger.IsOrderly.honest orderly, orderly⟩
  · intro history
    exact exchange_run config symbols engine history

def firstScript (requestId : Nat) : Action where
  symbol := 0
  name := ""
  target := .script 0 {}
  scope := .track 0
  requestId := requestId

def launching (source : String) (requestId : Nat) : List (Operation Recorder Unit) :=
  [.loadScript "" source, .applyUpdates, .perform (firstScript requestId)]

def prompting : List (Operation Recorder Unit) :=
  launching "!name Ask\nPrompt\n" 0 ++ [.processKernelEvents logHandler ()]

set_option maxRecDepth 20000 in
/-- One script has asked a prompt, and its answer is on the way back to it. -/
theorem requests_correlate_prompting :
    ∃ exchange : Exchange Recorder, exchange.Reachable {} ∧ exchange.IsOrderly ∧
      exchange.Correlates ∧
      exchange.moment.roster.active.map ScriptInstance.lastKernelEvent = [some 1] ∧
      exchange.moment.rig.kernel.completed.letters.map KernelEvent.id = [1] := by
  have general := requests_correlate (χ := Unit) {} {} ({} : Recorder)
  obtain ⟨exchange, reachable, shows, orderly⟩ := general.2.2 prompting
  refine ⟨exchange, reachable, orderly ?_, general.1 exchange reachable, ?_, ?_⟩
  · intro operation member
    simp only [prompting, launching, List.cons_append, List.nil_append, List.mem_cons,
      List.not_mem_nil, or_false] at member
    rcases member with rfl | rfl | rfl | rfl
    · trivial
    · trivial
    · trivial
    · exact keepsIds_logHandler
  · rw [shows.roster]
    decide +kernel
  · rw [shows.kernel]
    decide +kernel

end Session

end Looper
