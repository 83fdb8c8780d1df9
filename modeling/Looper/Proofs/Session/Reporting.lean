import Looper.Proofs.Script.Reset
import Looper.Proofs.Session.Correlation

/-!
# Reports of departures

A caller that has numbered a launch is told when the instance has left, by a
request to the control side that needs an envelope like any other.  If there is
one, the report is sent once and arrives; if scripts have all envelopes in use at
that moment, it is never sent.  Whoever has finished or is cancelled stays
finished and leaves at the end of the next block.
-/

namespace Looper

variable {ε : Type} [Engine ε]

/-! ## From the end of a script to its departure -/

theorem Work.finished {before after : Moment ε} {deed : Deed ε} (work : Work before deed after)
    {self : ScriptInstance} (member : self ∈ before.roster.active)
    (finished : self.isFinished = true) :
    deed = .leave self.id ∨
      ∃ later ∈ after.roster.active, later.ticket = self.ticket ∧ later.isFinished = true := by
  have stays (isThere : self ∈ after.roster.active) :
      ∃ later ∈ after.roster.active, later.ticket = self.ticket ∧ later.isFinished = true :=
    ⟨self, isThere, rfl, finished⟩
  -- If one instance changes, it is another one, or keeps its ticket and has still finished.
  have changes {position : Nat} {other changed : ScriptInstance}
      (stands : before.roster.active[position]? = some other)
      (same : changed.ticket = other.ticket)
      (still : other.isFinished = true → changed.isFinished = true) :
      ∃ later ∈ before.roster.active.set position changed,
        later.ticket = self.ticket ∧ later.isFinished = true := by
    obtain ⟨within, -⟩ := List.getElem?_eq_some_iff.1 stands
    rcases mem_set_or_eq stands member changed with isOther | elsewhere
    · subst isOther
      exact ⟨changed, List.mem_set within changed, same, still finished⟩
    · exact ⟨self, elsewhere, rfl, finished⟩
  cases work with
  | note stands noted =>
      exact .inr (changes stands noted.ticket fun done => (noted.told.finished done).1)
  | act move own =>
      cases move with
      | begin rests operation => cases own
      | tell stands told => cases own
      | mail kernel => cases own
      | step stands steps =>
          exact .inr (changes stands steps.ticket fun done => (steps.finished done).2.1)
      | enter front stands unfinished entered =>
          refine .inr (changes stands entered.ticket fun done => ?_)
          rw [unfinished] at done
          cases done
      | launch front found => exact .inr (stays (List.mem_append_left _ member))
      | stop front stands concerns => exact .inr (changes stands rfl fun _ => rfl)
      | @leave position other rests stands finishedOther =>
          obtain ⟨within, isOther⟩ := List.getElem?_eq_some_iff.1 stands
          have split := (List.getElem_cons_eraseIdx_perm within).mem_iff.2 member
          rcases List.mem_cons.1 split with isSelf | remains
          · left
            rw [isSelf, isOther]
          · exact .inr (stays remains)
      | _ => exact .inr (stays member)

namespace Exchange

/-- What is on the roll stays there, and whoever has finished stays so until it is on the roll. -/
structure Retains (exchange later : Exchange ε) : Prop where
  launched : exchange.roll.launched <+: later.roll.launched
  departed : exchange.roll.departed <+: later.roll.departed
  finished : ∀ self ∈ exchange.moment.roster.active, self.isFinished = true →
    (∃ same ∈ later.moment.roster.active,
      same.ticket = self.ticket ∧ same.isFinished = true) ∨
    ∃ departure ∈ later.roll.departed, departure.self = self

variable {config : Config} {exchange later : Exchange ε}

omit [Engine ε] in
theorem Retains.of_same (roll : later.roll = exchange.roll)
    (active : later.moment.roster.active = exchange.moment.roster.active) :
    Retains exchange later := by
  constructor
  case launched => exact roll ▸ List.prefix_rfl
  case departed => exact roll ▸ List.prefix_rfl
  case finished =>
    intro self member finished
    exact .inl ⟨self, active ▸ member, rfl, finished⟩

theorem Sound.retains_act (sound : exchange.Sound config) {deed : Deed ε} {after : Moment ε}
    (work : Work exchange.moment deed after) : exchange.Retains (exchange.act deed after) := by
  constructor
  case launched =>
    unfold Exchange.act Roll.turn
    cases deed with
    | launch id => exact List.prefix_append _ _
    | _ => exact List.prefix_rfl
  case departed =>
    unfold Exchange.act Roll.turn
    cases deed with
    | leave id => exact List.prefix_append _ _
    | _ => exact List.prefix_rfl
  case finished =>
    intro self member finished
    rcases work.finished member finished with leaves | stays
    · right
      subst leaves
      refine ⟨⟨self, decide (0 < exchange.moment.rig.kernel.available)⟩, ?_, rfl⟩
      unfold Exchange.act
      dsimp only
      rw [exchange.roll.turn_leave (sound.numbered.instance?_eq member)]
      exact List.mem_append_right _ List.mem_cons_self
    · exact .inl stays

/-- No step of either side lets anybody leave unnoticed. -/
theorem Sound.retains (sound : exchange.Sound config) (step : Step exchange later) :
    exchange.Retains later := by
  cases step with
  | @begin operation rests same =>
      have active : (exchange.moment.begin operation).roster.active =
          exchange.moment.roster.active := by
        cases operation <;> rfl
      exact .of_same rfl active
  | work work => exact sound.retains_act work
  | @tell event after polls =>
      refine ⟨List.prefix_rfl, List.prefix_rfl, ?_⟩
      intro self member finished
      have told : self.Told (self.finishKernel event.id event.returnCode) := .kernel _ _
      exact .inl ⟨_, List.mem_map_of_mem member, self.ticket_finishKernel _ _,
        (told.finished finished).1⟩
  | _ => exact .of_same rfl rfl

end Exchange

/-! ## Who is reported -/

omit [Engine ε] in
theorem asks_of_leaving (ledger : Ledger) (id : InstanceId) :
    (ledger.posted.filter fun posted => posted.sender = .leaving id).map Posted.ask =
      (ledger.notices.filter fun notice => notice.1 = id).map Prod.snd := by
  unfold Ledger.notices
  induction ledger.posted with
  | nil => rfl
  | cons posted rest ih =>
      obtain ⟨number, sender, ask⟩ := posted
      rw [List.filterMap_cons]
      cases sender with
      | running other => simpa [Posted.notice?] using ih
      | outside => simpa [Posted.notice?] using ih
      | leaving other =>
          by_cases same : other = id
          · simpa [Posted.notice?, same] using ih
          · simpa [Posted.notice?, same] using ih

theorem Departure.notice?_eq_some {departure : Departure} {notice : InstanceId × Ask}
    (reports : departure.notice? = some notice) :
    notice.1 = departure.self.id ∧ departure.supplied = true ∧
      departure.self.notice? = some notice.2 := by
  unfold notice? at reports
  split at reports
  · next supplied =>
      obtain ⟨ask, isAsk, rfl⟩ := Option.map_eq_some_iff.1 reports
      exact ⟨rfl, supplied, isAsk⟩
  · cases reports

namespace Roll.Tallies

variable {roll : Roll} {active : List ScriptInstance} {lastId : InstanceId}

theorem distinct (tallies : roll.Tallies active lastId) :
    (active.map ScriptInstance.id ++
      roll.departed.map fun departure => departure.self.id).Nodup := by
  have ids := tallies.present.map Prod.fst
  rw [List.map_append, List.map_map, List.map_map, List.map_map] at ids
  refine ids.nodup_iff.2 ?_
  change (roll.launched.map ScriptInstance.id).Nodup
  rw [tallies.numbers]
  exact List.nodup_range'

end Roll.Tallies

/-- In a list of departures, the reports under a number are those of the one departure. -/
theorem reports_of_departure {departed : List Departure}
    (distinct : (departed.map fun departure => departure.self.id).Nodup) {departure : Departure}
    (member : departure ∈ departed) :
    ((departed.filterMap Departure.notice?).filter fun notice =>
      notice.1 = departure.self.id) = departure.notice?.toList := by
  induction departed with
  | nil => cases member
  | cons first rest ih =>
      obtain ⟨isNew, distinctRest⟩ := List.nodup_cons.1 distinct
      have elsewhere {other : Departure} (isOther : other ∈ rest) :
          other.self.id ≠ first.self.id := by
        intro same
        exact isNew (List.mem_map.2 ⟨other, isOther, same⟩)
      rw [List.filterMap_cons]
      rcases List.mem_cons.1 member with isFirst | later
      · subst isFirst
        have none : ((rest.filterMap Departure.notice?).filter fun notice =>
            notice.1 = departure.self.id) = [] := by
          rw [List.filter_eq_nil_iff]
          intro notice isNotice
          obtain ⟨other, isOther, reports⟩ := List.mem_filterMap.1 isNotice
          rw [(Departure.notice?_eq_some reports).1]
          simpa using elsewhere isOther
        cases reports : departure.notice? with
        | none => exact none
        | some notice =>
            dsimp only
            rw [List.filter_cons_of_pos (by simpa using (Departure.notice?_eq_some reports).1),
              none]
            rfl
      · cases reports : first.notice? with
        | none => exact ih distinctRest later
        | some notice =>
            have other : ¬ notice.1 = departure.self.id := by
              rw [(Departure.notice?_eq_some reports).1]
              exact (elsewhere later).symm
            dsimp only
            rw [List.filter_cons_of_neg (by simpa using other)]
            exact ih distinctRest later

namespace Exchange

/-- What is reported of departures, and to whom it happens. -/
structure Reports (exchange : Exchange ε) : Prop where
  /-- Every launch has a number of its own. -/
  numbers : exchange.roll.launched.map ScriptInstance.id =
    List.range' 1 exchange.moment.roster.lastId
  /-- Who was launched is running or has left, once, and with its script and caller's number. -/
  present : (exchange.moment.roster.active.map ScriptInstance.ticket ++
    exchange.roll.departed.map fun departure => departure.self.ticket).Perm
      (exchange.roll.launched.map ScriptInstance.ticket)
  finished : ∀ departure ∈ exchange.roll.departed, departure.self.isFinished = true
  /-- A departure with a caller's number is reported once if there was an envelope, else never. -/
  once : ∀ departure ∈ exchange.roll.departed,
    (exchange.ledger.posted.filter fun posted =>
      posted.sender = .leaving departure.self.id).map Posted.ask =
      if departure.self.requestId ≠ 0 ∧ departure.supplied = true then
        [⟨.scriptFinished, [departure.self.script.name], departure.self.requestId⟩]
      else []
  /-- Nobody is reported who has not left. -/
  before : ∀ self ∈ exchange.moment.roster.active, ∀ posted ∈ exchange.ledger.posted,
    posted.sender ≠ .leaving self.id
  /-- Every report, as every request, arrives once and in order, and says what it is to say. -/
  carried : List.Forall₂ (fun posted event => event.id = posted.id ∧ event.Bears posted.ask)
    exchange.ledger.posted
    (exchange.ledger.received ++ exchange.moment.rig.kernel.outbound.letters)

variable {config : Config} {exchange : Exchange ε}

omit [Engine ε] in
theorem Sound.reports (sound : exchange.Sound config) : exchange.Reports := by
  have distinct := sound.tallies.distinct
  obtain ⟨-, distinctDeparted, apart⟩ := List.nodup_append.1 distinct
  constructor
  case numbers => exact sound.tallies.numbers
  case present => exact sound.tallies.present
  case finished => exact sound.tallies.finished
  case once =>
    intro departure member
    rw [asks_of_leaving, sound.reported, reports_of_departure distinctDeparted member]
    unfold Departure.notice? ScriptInstance.notice?
    by_cases numbered : departure.self.requestId ≠ 0
    · cases departure.supplied <;> simp [numbered]
    · cases departure.supplied <;> simp [numbered]
  case before =>
    intro self member posted isPosted sender
    have isNotice : (self.id, posted.ask) ∈ exchange.ledger.notices := by
      refine List.mem_filterMap.2 ⟨posted, isPosted, ?_⟩
      unfold Posted.notice?
      rw [sender]
    rw [sound.reported] at isNotice
    obtain ⟨departure, isDeparture, reports⟩ := List.mem_filterMap.1 isNotice
    exact apart self.id (List.mem_map_of_mem member) departure.self.id
      (List.mem_map.2 ⟨departure, isDeparture, rfl⟩) (Departure.notice?_eq_some reports).1
  case carried => exact sound.balances.carried

end Exchange

namespace Session

variable {χ : Type}

theorem unfinished_processBlock (session : Session) (frames rate : Nat) (engine : ε) :
    ∀ self ∈ (session.processBlock frames rate engine).value.1.loop.roster.active,
      self.isFinished = false := by
  have upkeep (roster : Roster) (rig : Rig ε) :
      ∀ self ∈ (roster.maintain frames rate rig).value.1.active, self.isFinished = false := by
    intro self member
    rw [Roster.maintain_eq_upkeep] at member
    unfold Roster.upkeep at member
    simp only [Logged.value_bind, Logged.value_pure] at member
    obtain ⟨-, -, active⟩ := Roster.reclaim_spec (ε := ε) _ _
    rw [active] at member
    simpa using (List.mem_filter.1 member).2
  exact upkeep _ _

omit [Engine ε] in
theorem outbound_grow (count : Nat) (channel : KernelChannel) :
    (channel.grow count).value.outbound = channel.outbound := by
  obtain ⟨_, _, _, grows⟩ := channel.grow_eq count
  rw [grows]

omit [Engine ε] in
theorem outbound_handleKernelEvents (handler : KernelHandler χ) (events : List KernelEvent)
    (session : Session) (state : χ) :
    (handleKernelEvents handler events session state).value.1.wires.kernel.outbound =
      session.wires.kernel.outbound := by
  induction events generalizing session state with
  | nil => rfl
  | cons event rest ih =>
      have decides := (decides_handleKernelEvent handler event session state).1
      refine (ih _ _).trans ?_
      rw [← decides.kernel]
      unfold KernelChannel.complete
      dsimp only
      split <;> rfl

omit [Engine ε] in
/-- Once the control side has handled what there was, no request is on its way any more. -/
theorem drained_processKernelEvents (handler : KernelHandler χ) (session : Session) (state : χ) :
    (processKernelEvents handler session state).value.2.1.wires.kernel.outbound.letters = [] := by
  have handled := outbound_handleKernelEvents handler session.wires.kernel.outbound.letters
    { session with
      wires := { session.wires with
        kernel := { session.wires.kernel with
          outbound := session.wires.kernel.outbound.drain.2 } } } state
  exact congrArg Mailbox.letters ((outbound_grow _ _).trans handled)

/--
A caller that has numbered a launch hears of its end once, just if there is an
envelope when the instance leaves: the report is sent then, with the caller's
number and the name of the script, and arrives like any request.  Whoever has
finished stays so and leaves by the end of the next block, whoever is cancelled
has finished, and whatever has been sent is with the control side when that has
handled its requests.
-/
theorem departures_reported (config : Config) (symbols : SymbolTable) (engine : ε) :
    (∀ exchange : Exchange ε, exchange.Reachable config →
      exchange.Reports ∧ ∀ later, Exchange.Step exchange later → exchange.Retains later) ∧
    (∀ history : List (Operation ε χ), ∃ exchange : Exchange ε, exchange.Reachable config ∧
      exchange.Shows ((Session.new config symbols).run engine history).value.1.loop.roster
        ((Session.new config symbols).run engine history).value.1.wires.kernel) ∧
    (∀ (session : Session) (frames rate : Nat) (engine : ε),
      ∀ self ∈ (session.processBlock frames rate engine).value.1.loop.roster.active,
        self.isFinished = false) ∧
    (∀ (roster : Roster) (author : Option InstanceId) (track : Option TrackId) (rig : Rig ε),
      ∀ self ∈ (roster.stopOthers author track rig).value.1.active,
        Roster.isCancelled author track self = true → self.isFinished = true) ∧
    ∀ (handler : KernelHandler χ) (session : Session) (state : χ),
      (processKernelEvents handler session state).value.2.1.wires.kernel.outbound.letters = [] := by
  refine ⟨?_, ?_, unfinished_processBlock, ?_, drained_processKernelEvents⟩
  · intro exchange reachable
    exact ⟨reachable.sound.reports, fun later step => reachable.sound.retains step⟩
  · intro history
    obtain ⟨exchange, reachable, shows, -⟩ := exchange_run config symbols engine history
    exact ⟨exchange, reachable, shows⟩
  · intro roster author track rig self member concerns
    exact (Moment.stopped_of_cancelIn member concerns).1

def talk : String := "!name Talk\nEcho hello\n"

set_option maxRecDepth 20000 in
/-- A script that sends a message and ends: both the message and the report of its end are sent. -/
theorem departures_reported_talk :
    ∃ exchange : Exchange Recorder, exchange.Reachable {} ∧ exchange.Reports ∧
      exchange.moment.roster.active = [] ∧ exchange.moment.roster.lastId = 1 ∧
      exchange.moment.rig.kernel.outbound.letters.map
          (fun event => (event.kind, event.requestId, event.arg 0)) =
        [(.echo, 42, "hello"), (.scriptFinished, 42, "Talk")] := by
  have general := departures_reported (χ := Unit) {} {} ({} : Recorder)
  obtain ⟨exchange, reachable, shows⟩ := general.2.1
    (launching talk 42 ++ [.processBlock 256 44100])
  refine ⟨exchange, reachable, (general.1 exchange reachable).1, ?_, ?_, ?_⟩
  · rw [shows.roster]
    decide +kernel
  · rw [shows.roster]
    decide +kernel
  · rw [shows.kernel]
    decide +kernel

def collector : KernelHandler (List KernelEvent) := fun event seen => pure (event, seen ++ [event])

/-- One envelope, and no other to come. -/
def oneEnvelope : Config where
  kernel := { poolSize := 1, poolMax := 1 }

def talking : Session :=
  ((Session.new oneEnvelope {}).run ({} : Recorder)
    (launching talk 42)).value.1

def talked : Session :=
  (talking.processBlock 256 44100 ({} : Recorder)).value.1

def heardOut : Session :=
  ((processKernelEvents collector talked []).value.2.1.processBlock 256 44100
    ({} : Recorder)).value.1

set_option maxRecDepth 20000 in
/-- The script has left, but its own message held the envelope, and the caller never hears of it. -/
theorem departure_unreported :
    talking.loop.roster.active.map (fun self => (self.requestId, self.script.name)) =
        [(42, "Talk")] ∧
      talked.loop.roster.active = [] ∧
      (processKernelEvents collector talked []).value.2.2.map KernelEvent.kind = [.echo] ∧
      (processKernelEvents collector heardOut []).value.2.2 = [] := by
  refine ⟨?_, ?_, ?_, ?_⟩
  · decide +kernel
  · decide +kernel
  · decide +kernel
  · decide +kernel

end Session

end Looper
