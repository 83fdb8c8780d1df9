import Looper.Proofs.Binding.Reuse
import Looper.Proofs.Session.Agreement

/-!
# Replaced tables go home

The loop half never discards a table.  What an update replaces goes into a box of
its own, which the control half empties each time before it sends an update; so
the two boxes together never hold more than one of them could, and there is
always room.  The tables that were ever in place are those that were sent back,
in the order of their replacement, and the ones in place now.
-/

namespace Looper

/-! ## Seats -/

def BindingTable.fresh (table : BindingTable) : BindingTable :=
  ⟨table.buckets.map fun entries => entries.map TableEntry.refresh⟩

theorem BindingTable.Alike.fresh_eq {before after : BindingTable} (alike : Alike before after) :
    after.fresh = before.fresh := by
  have same (index : Nat) (inside : index < 256) :
      after.buckets[index].map TableEntry.refresh =
        before.buckets[index].map TableEntry.refresh := by
    simpa only [bucket, dif_pos inside] using alike index
  unfold fresh
  rw [mk.injEq]
  ext index inside : 1
  rw [Vector.getElem_map, Vector.getElem_map]
  exact same index inside

def MidiTables.fresh (tables : MidiTables) : MidiTables where
  note := tables.note.fresh
  program := tables.program.fresh
  control := tables.control.fresh

/-- A seat on the loop half, where updates put things of one kind in place. -/
structure Seat (α : Type) where
  /-- What an update has for the seat. -/
  brought : TableUpdate → Option α
  /-- What sits there. -/
  held : LoopHalf → α
  /-- What sits there without what uses have left behind on it. -/
  fresh : α → α
  brought_isEmpty : ∀ {update}, update.isEmpty = true → brought update = none
  brought_apply : ∀ half update, brought (half.apply update).1 =
    (brought update).map fun _ => held half
  held_apply : ∀ half update, held (half.apply update).2 = (brought update).getD (held half)
  fresh_held : ∀ {before after : LoopHalf}, before.desk.Alike after.desk →
    after.roster.shared.library = before.roster.shared.library →
    fresh (held after) = fresh (held before)

theorem TableUpdate.none_of_isEmpty {update : TableUpdate} (isEmpty : update.isEmpty = true) :
    update.keyboard = none ∧ update.midi = none ∧ update.scripts = none := by
  simp only [TableUpdate.isEmpty, Bool.and_eq_true, Option.isNone_iff_eq_none] at isEmpty
  exact ⟨isEmpty.1.1.1, isEmpty.1.1.2, isEmpty.1.2⟩

theorem LoopHalf.desk_apply (half : LoopHalf) (update : TableUpdate) :
    (half.apply update).2.desk.keyboard = update.keyboard.getD half.desk.keyboard ∧
      (half.apply update).2.desk.midi = update.midi.getD half.desk.midi := by
  unfold apply
  cases update.threshold <;> exact ⟨rfl, rfl⟩

namespace Seat

/-- The seat of the keyboard table. -/
def keyboard : Seat BindingTable where
  brought := TableUpdate.keyboard
  held half := half.desk.keyboard
  fresh := BindingTable.fresh
  brought_isEmpty isEmpty := (TableUpdate.none_of_isEmpty isEmpty).1
  brought_apply _ _ := rfl
  held_apply half update := (half.desk_apply update).1
  fresh_held alike _ := (alike .keyboard).fresh_eq

/-- The seat of the MIDI tables. -/
def midi : Seat MidiTables where
  brought := TableUpdate.midi
  held half := half.desk.midi
  fresh := MidiTables.fresh
  brought_isEmpty isEmpty := (TableUpdate.none_of_isEmpty isEmpty).2.1
  brought_apply _ _ := rfl
  held_apply half update := (half.desk_apply update).2
  fresh_held alike _ := by
    have note := (alike .note).fresh_eq
    have program := (alike .program).fresh_eq
    have control := (alike .control).fresh_eq
    exact MidiTables.mk.injEq .. ▸ ⟨note, program, control⟩

/-- The seat of the script library, on which uses leave nothing behind. -/
def library : Seat ScriptLibrary where
  brought := TableUpdate.scripts
  held half := half.roster.shared.library
  fresh := id
  brought_isEmpty isEmpty := (TableUpdate.none_of_isEmpty isEmpty).2.2
  brought_apply _ _ := rfl
  held_apply half update := half.library_apply update
  fresh_held _ same := same

end Seat

/-! ## Putting updates in place -/

def LoopHalf.sentBack (half : LoopHalf) : List TableUpdate → List TableUpdate
  | [] => []
  | update :: rest =>
      let old := (half.apply update).1
      (if old.isEmpty then [] else [old]) ++ (half.apply update).2.sentBack rest

/--
Whoever sat on a seat first, and then whoever took it, have been sent back but
for the last, who sits there.
-/
theorem Seat.succession {α : Type} (seat : Seat α) (half : LoopHalf)
    (updates : List TableUpdate) :
    seat.held half :: updates.filterMap seat.brought =
      (half.sentBack updates).filterMap seat.brought ++ [seat.held (half.applyAll updates)] := by
  induction updates generalizing half with
  | nil => rfl
  | cons update rest ih =>
      have following := ih (half.apply update).2
      rw [seat.held_apply] at following
      have sends : (if (half.apply update).1.isEmpty then [] else
          [(half.apply update).1]).filterMap seat.brought =
            ((seat.brought update).map fun _ => seat.held half).toList := by
        rw [← seat.brought_apply]
        split
        · next isEmpty => rw [seat.brought_isEmpty isEmpty]; rfl
        · rw [List.filterMap_cons]
          cases seat.brought (half.apply update).1 <;> rfl
      unfold LoopHalf.sentBack
      dsimp only
      rw [List.filterMap_append, sends, List.filterMap_cons, List.append_assoc]
      cases brings : seat.brought update with
      | none =>
          rw [brings] at following
          exact following
      | some item =>
          rw [brings] at following
          exact congrArg (seat.held half :: ·) following

namespace Session

/-- Both boxes for tables are open, and together they hold no more than one of them could. -/
structure IsBalanced (session : Session) : Prop where
  updates : session.wires.updates.IsOpen updateCapacity
  retired : session.wires.retired.IsOpen updateCapacity
  within : session.wires.updates.letters.length + session.wires.retired.letters.length ≤
    updateCapacity

theorem isBalanced_new (config : Config) (symbols : SymbolTable) :
    (Session.new config symbols).IsBalanced where
  updates := Mailbox.isOpen_new updateCapacity
  retired := Mailbox.isOpen_new updateCapacity
  within := Nat.zero_le _

def withRetired (session : Session) (more : List TableUpdate) : Session :=
  { session with
    wires := { session.wires with
      retired := { session.wires.retired with
        letters := session.wires.retired.letters ++ more } } }

theorem withRetired_append (session : Session) (more further : List TableUpdate) :
    (session.withRetired more).withRetired further = session.withRetired (more ++ further) := by
  unfold withRetired
  dsimp only
  rw [List.append_assoc]

theorem withRetired_nil (session : Session) : session.withRetired [] = session := by
  unfold withRetired
  rw [List.append_nil]

theorem retire_of_room (session : Session) (old : TableUpdate)
    (opened : session.wires.retired.IsOpen updateCapacity)
    (room : session.wires.retired.letters.length < updateCapacity) :
    session.retire old = pure (session.withRetired (if old.isEmpty then [] else [old])) := by
  unfold retire
  split
  · rw [withRetired_nil]
  · rw [opened.post room old]
    rfl

/-- With room for all of it, whatever is replaced is sent back, and nothing is reported. -/
theorem applyAll_of_room (updates : List TableUpdate) (session : Session)
    (opened : session.wires.retired.IsOpen updateCapacity)
    (room : updates.length + session.wires.retired.letters.length ≤ updateCapacity) :
    applyAll updates session =
      pure ({ session with loop := session.loop.applyAll updates }.withRetired
        (session.loop.sentBack updates)) := by
  induction updates generalizing session with
  | nil => exact congrArg pure (withRetired_nil session).symm
  | cons update rest ih =>
      rw [List.length_cons] at room
      let old := (session.loop.apply update).1
      let sent := if old.isEmpty then [] else [old]
      let applied : Session := { session with loop := (session.loop.apply update).2 }
      have retires : applied.retire old = pure (applied.withRetired sent) :=
        retire_of_room applied old opened (by
          change session.wires.retired.letters.length < _
          omega)
      have atMost : sent.length ≤ 1 := by
        dsimp only [sent]
        split <;> simp
      have goesOn := ih (applied.withRetired sent) (opened.withLetters _) (by
        change rest.length + (session.wires.retired.letters ++ sent).length ≤ _
        rw [List.length_append]
        omega)
      have applies : applyAll (update :: rest) session = applied.retire old >>= applyAll rest := rfl
      rw [applies, retires, pure_bind, goesOn]
      exact congrArg pure (withRetired_append
        { session with loop := session.loop.applyAll (update :: rest) } sent _)

/-- While the boxes are balanced, nothing that is replaced is ever refused. -/
theorem applyUpdates_of_balanced {session : Session} (balanced : session.IsBalanced) :
    session.applyUpdates =
      pure ({ session with
        loop := session.loop.applyAll session.wires.updates.letters
        wires := { session.wires with updates := session.wires.updates.drain.2 } }.withRetired
          (session.loop.sentBack session.wires.updates.letters)) :=
  applyAll_of_room _ _ balanced.retired balanced.within

/-- What replaced updates send back takes no more room than the updates took. -/
theorem length_sentBack_le (half : LoopHalf) (updates : List TableUpdate) :
    (half.sentBack updates).length ≤ updates.length := by
  induction updates generalizing half with
  | nil => exact Nat.le_refl 0
  | cons update rest ih =>
      have following := ih (half.apply update).2
      unfold LoopHalf.sentBack
      dsimp only
      rw [List.length_append, List.length_cons]
      split
      · rw [List.length_nil]; omega
      · rw [List.length_singleton]; omega

/-! ## The way of tables -/

/--
What happens to tables between two states, while some updates are put in place
and the control half takes some letters back: on each seat, whoever had been
sent back, sat there or took it, is taken back, lies in the box or sits there.
-/
structure Forwards (installed taken : List TableUpdate) (before after : Session) : Prop where
  balanced : after.IsBalanced
  conserves : ∀ {α : Type} (seat : Seat α),
    (before.wires.retired.letters.filterMap seat.brought ++ seat.held before.loop ::
        installed.filterMap seat.brought).map seat.fresh =
      ((taken ++ after.wires.retired.letters).filterMap seat.brought ++
        [seat.held after.loop]).map seat.fresh

theorem Forwards.trans {installed taken more further : List TableUpdate}
    {first second third : Session} (earlier : Forwards installed taken first second)
    (later : Forwards more further second third) :
    Forwards (installed ++ more) (taken ++ further) first third where
  balanced := later.balanced
  conserves seat := by
    have front := earlier.conserves seat
    have back := later.conserves seat
    simp only [List.filterMap_append, List.map_append, List.map_cons, List.map_nil,
      List.append_assoc] at front back ⊢
    rw [← List.cons_append, ← List.append_assoc, front]
    simp only [List.append_assoc, List.cons_append, List.nil_append]
    rw [back]

/-! ## The loop half -/

/-- Between two states the tables in place have been used, and no others were touched. -/
structure Uses (before after : Session) : Prop where
  updates : after.wires.updates = before.wires.updates
  retired : after.wires.retired = before.wires.retired
  desk : before.loop.desk.Alike after.loop.desk
  library : after.loop.roster.shared.library = before.loop.roster.shared.library

theorem Uses.forwards {before after : Session} (uses : Uses before after)
    (balanced : before.IsBalanced) : Forwards [] [] before after where
  balanced :=
    { updates := uses.updates ▸ balanced.updates
      retired := uses.retired ▸ balanced.retired
      within := by
        rw [uses.updates, uses.retired]
        exact balanced.within }
  conserves seat := by
    rw [uses.retired, List.nil_append, List.filterMap_nil, List.map_append, List.map_append]
    exact congrArg (_ ++ [·]) (seat.fresh_held uses.desk uses.library).symm

theorem forwards_applyUpdates {session : Session} (balanced : session.IsBalanced) :
    Forwards session.wires.updates.letters [] session session.applyUpdates.value := by
  rw [applyUpdates_of_balanced balanced]
  have oneForOne := length_sentBack_le session.loop session.wires.updates.letters
  have within := balanced.within
  constructor
  case balanced =>
    refine ⟨balanced.updates.withLetters [], balanced.retired.withLetters _, ?_⟩
    change 0 + (session.wires.retired.letters ++ _).length ≤ updateCapacity
    rw [List.length_append]
    omega
  case conserves =>
    intro α seat
    rw [seat.succession]
    exact congrArg (List.map seat.fresh) (by
      change _ = (session.wires.retired.letters ++ _).filterMap seat.brought ++ _
      rw [List.filterMap_append, List.append_assoc]
      rfl)

section Playing

variable {ε : Type} [Engine ε]

omit [Engine ε] in
theorem uses_withRig (session : Session) {roster : Roster} {rig : Rig ε}
    (library : roster.shared.library = session.loop.roster.shared.library) :
    Uses session (session.withRig roster rig) :=
  ⟨rfl, rfl, fun _ _ => rfl, library⟩

theorem uses_perform (session : Session) (action : Action) (engine : ε)
    (settled : session.IsSettled) : Uses session (session.perform action engine).value.2.1 :=
  session.uses_withRig (session.plays_perform action engine settled).library

/-- An event uses the tables, and what fires for it may do so too. -/
theorem uses_fire (session : Session) (event : Desk.Event) (engine : ε)
    (settled : session.IsSettled) :
    Uses session
      ({ session with
          loop := { session.loop with desk := (session.loop.desk.respond event).value.1 } }.fire
        (session.loop.desk.respond event).value.2 engine).value.1 := by
  have played := session.played_fire .start event engine
  have plays := plays_fire
    { session with
      loop := { session.loop with desk := (session.loop.desk.respond event).value.1 } }
    (session.loop.desk.respond event).value.2 engine settled
  refine ⟨plays.updates, ?_, played.alike, plays.library⟩
  cases (session.loop.desk.respond event).value.2 <;> rfl

theorem uses_midiBytes (session : Session) (bytes : List UInt8) (engine : ε)
    (settled : session.IsSettled) : Uses session (session.midiBytes bytes engine).value.1 := by
  unfold midiBytes
  split
  · next event _ => exact session.uses_fire (.midi event) engine settled
  · exact ⟨rfl, rfl, fun _ _ => rfl, rfl⟩

/-- A block puts the updates that have arrived in place, and uses the library. -/
theorem forwards_processBlock (session : Session) (frames rate : Nat) (engine : ε)
    (settled : session.IsSettled) (balanced : session.IsBalanced) :
    Forwards session.wires.updates.letters [] session
      (session.processBlock frames rate engine).value.1 := by
  have applied := forwards_applyUpdates balanced
  have plays := session.plays_processBlock frames rate engine settled
  have uses : Uses session.applyUpdates.value (session.processBlock frames rate engine).value.1 :=
    uses_withRig _ plays.library
  simpa only [List.append_nil] using applied.trans (uses.forwards applied.balanced)

end Playing

/-! ## The control half -/

/-- Between two states the control half may have taken letters back and sent updates. -/
structure Supplies (before after : Session) : Prop where
  loop : after.loop = before.loop
  balanced : before.IsBalanced → after.IsBalanced

theorem Supplies.refl (session : Session) : Supplies session session :=
  ⟨rfl, id⟩

theorem Supplies.trans {first second third : Session} (earlier : Supplies first second)
    (later : Supplies second third) : Supplies first third :=
  ⟨later.loop.trans earlier.loop, later.balanced ∘ earlier.balanced⟩

theorem Supplies.forwards {before after : Session} (supplies : Supplies before after)
    (balanced : before.IsBalanced) {taken : List TableUpdate}
    (takes : before.wires.retired.letters = taken ++ after.wires.retired.letters) :
    Forwards [] taken before after where
  balanced := supplies.balanced balanced
  conserves seat := by
    rw [takes, supplies.loop]
    rfl

/-- Sending an update empties the box of replaced tables first, so there is room for its own. -/
theorem supplies_publish (session : Session) (update : TableUpdate) :
    Supplies session (session.publish update).value ∧
      (session.publish update).value.wires.retired.letters = [] := by
  have loop := (decides_publish session update).loop
  have empties : (session.publish update).value.wires.retired = session.wires.retired.drain.2 := by
    unfold publish
    dsimp only
    split <;> rfl
  refine ⟨⟨loop, fun balanced => ⟨isOpen_publish session update balanced.updates, ?_, ?_⟩⟩, ?_⟩
  · rw [empties]
    exact balanced.retired.withLetters []
  · rw [empties]
    change (session.publish update).value.wires.updates.letters.length + 0 ≤ updateCapacity
    by_cases room : session.wires.updates.letters.length < updateCapacity
    · rw [publish_of_room session update balanced.updates room, List.length_append]
      exact room
    · rw [(publish_of_full session update balanced.updates (Nat.le_of_not_lt room)).1]
      exact (Nat.le_add_right _ _).trans balanced.within
  · rw [empties]
    rfl

theorem supplies_withControl (session : Session) (control : Control) :
    Supplies session (session.withControl control) :=
  ⟨rfl, fun balanced => ⟨balanced.updates, balanced.retired, balanced.within⟩⟩

theorem supplies_publishCompiled (session : Session)
    (compile : Control → Logged (TableUpdate × Control)) :
    Supplies session (session.publishCompiled compile).value ∧
      (session.publishCompiled compile).value.wires.retired.letters = [] := by
  obtain ⟨supplies, empty⟩ := supplies_publish
    (session.withControl (compile session.control).value.2) (compile session.control).value.1
  exact ⟨(supplies_withControl session _).trans supplies, empty⟩

theorem supplies_configureAll (session : Session) (control : Control) :
    Supplies session (session.withControl control).configureAll.value ∧
      (session.withControl control).configureAll.value.wires.retired.letters = [] := by
  obtain ⟨supplies, empty⟩ :=
    supplies_publishCompiled (session.withControl control) Control.compileAll
  exact ⟨(supplies_withControl session control).trans supplies, empty⟩

section Deciding

variable {ε χ : Type}

/-- Whether an operation takes back what lies in the box of replaced tables. -/
def takesBack (session : Session) : Operation ε χ → Bool
  | .setBindings _ | .selectBindings _ | .setThreshold _ => true
  | .configureKeyboard | .configureMidi | .configureAll => true
  | .processKernelEvents .. | .collectRetired => true
  | .activateBindings name =>
      (session.control.selection.activate? name session.control.bindings.sets).isSome
  | .loadScript name source =>
      (session.control.library.load name source session.control.symbols).value.1.isOk
  | _ => false

/-- What an operation takes back. -/
def takenBack (session : Session) (operation : Operation ε χ) : List TableUpdate :=
  if session.takesBack operation then session.wires.retired.letters else []

/-- The updates that an operation puts in place. -/
def putInPlace (session : Session) : Operation ε χ → List TableUpdate
  | .processBlock .. | .applyUpdates => session.wires.updates.letters
  | _ => []

/-- Activating binding sets sends new tables if there is a set with the name. -/
theorem supplies_activateBindings (session : Session) (name : String) :
    Supplies session (session.activateBindings name).value.2 ∧
      if (session.control.selection.activate? name session.control.bindings.sets).isSome then
        (session.activateBindings name).value.2.wires.retired.letters = []
      else (session.activateBindings name).value.2 = session := by
  unfold activateBindings
  cases session.control.selection.activate? name session.control.bindings.sets with
  | none => exact ⟨.refl session, rfl⟩
  | some selection => exact supplies_configureAll session { session.control with selection }

theorem supplies_loadScript (session : Session) (name source : String) :
    Supplies session (session.loadScript name source).value.2 ∧
      if (session.control.library.load name source session.control.symbols).value.1.isOk then
        (session.loadScript name source).value.2.wires.retired.letters = []
      else (session.loadScript name source).value.2.wires = session.wires := by
  unfold loadScript
  rw [Logged.value_bind]
  obtain ⟨result, symbols, library⟩ :=
    (session.control.library.load name source session.control.symbols).value
  cases result with
  | error error => exact ⟨supplies_withControl session _, rfl⟩
  | ok script =>
      let control := ({ session.control with symbols, library }.announce script).value
      have announces := (supplies_withControl session control).trans
        (supplies_publish (session.withControl control) { scripts := some control.library }).1
      obtain ⟨configures, empty⟩ := supplies_publishCompiled
        ((session.withControl control).publish { scripts := some control.library }).value
        Control.compileAll
      exact ⟨announces.trans configures, empty⟩

theorem supplies_handleKernelEvents (handler : KernelHandler χ) (events : List KernelEvent)
    (session : Session) (state : χ) :
    Supplies session (handleKernelEvents handler events session state).value.1 := by
  induction events generalizing session state with
  | nil => exact .refl session
  | cons event rest ih =>
      have handles : Supplies session
          (handleKernelEvent handler event session state).value.2.1 := by
        unfold handleKernelEvent
        split
        · exact (supplies_activateBindings session _).1
        · exact .refl session
      have completes (kernel : KernelChannel) (handled : Session) :
          Supplies handled { handled with wires := { handled.wires with kernel } } :=
        ⟨rfl, fun balanced => ⟨balanced.updates, balanced.retired, balanced.within⟩⟩
      exact (handles.trans (completes _ _)).trans (ih _ _)

/-- Once the control half has handled the requests, the box of replaced tables is empty. -/
theorem supplies_processKernelEvents (handler : KernelHandler χ) (session : Session)
    (state : χ) :
    Supplies session (processKernelEvents handler session state).value.2.1 ∧
      (processKernelEvents handler session state).value.2.1.wires.retired.letters = [] := by
  have handles := supplies_handleKernelEvents handler session.wires.kernel.outbound.drain.1
    { session with
      wires := { session.wires with
        kernel := { session.wires.kernel with
          outbound := session.wires.kernel.outbound.drain.2 } } } state
  refine ⟨⟨handles.loop, fun balanced => ?_⟩, rfl⟩
  have handled := handles.balanced ⟨balanced.updates, balanced.retired, balanced.within⟩
  refine ⟨handled.updates, handled.retired.withLetters [], ?_⟩
  exact (Nat.le_add_right _ _).trans handled.within

end Deciding

/-! ## Histories -/

variable {ε χ : Type} [Engine ε]

/-- An operation that empties the box of replaced tables has taken all that was in it. -/
theorem Supplies.takes_all {before after : Session} (supplies : Supplies before after)
    (balanced : before.IsBalanced) (empty : after.wires.retired.letters = []) :
    Forwards [] before.wires.retired.letters before after :=
  supplies.forwards balanced (by rw [empty, List.append_nil])

/-- Whatever a session does, replaced tables are on their way home. -/
theorem forwards_operate (session : Session) (engine : ε) (operation : Operation ε χ)
    (settled : session.IsSettled) (balanced : session.IsBalanced) :
    Forwards (session.putInPlace operation) (session.takenBack operation) session
      (session.operate engine operation).value.1 := by
  cases operation with
  | define name definition => exact (supplies_withControl session _).forwards balanced rfl
  | setBindings bindings =>
      obtain ⟨supplies, empty⟩ :=
        supplies_configureAll session { session.control with bindings }
      exact supplies.takes_all balanced empty
  | selectBindings selection =>
      obtain ⟨supplies, empty⟩ :=
        supplies_configureAll session { session.control with selection }
      exact supplies.takes_all balanced empty
  | activateBindings name =>
      obtain ⟨supplies, takes⟩ := supplies_activateBindings session name
      unfold takenBack takesBack
      split at takes
      · next known =>
          rw [if_pos known]
          exact supplies.takes_all balanced takes
      · next unknown =>
          rw [if_neg unknown]
          exact supplies.forwards balanced (congrArg (·.wires.retired.letters) takes.symm)
  | loadScript name source =>
      obtain ⟨supplies, takes⟩ := supplies_loadScript session name source
      unfold takenBack takesBack
      split at takes
      · next reads =>
          rw [if_pos reads]
          exact supplies.takes_all balanced takes
      · next faulty =>
          rw [if_neg faulty]
          exact supplies.forwards balanced (congrArg (·.retired.letters) takes.symm)
  | setThreshold threshold =>
      obtain ⟨supplies, empty⟩ := supplies_publish
        (session.withControl { session.control with threshold }) { threshold := some threshold }
      exact ((supplies_withControl session _).trans supplies).takes_all balanced empty
  | configureKeyboard =>
      obtain ⟨supplies, empty⟩ := supplies_publishCompiled session Control.compileKeyboard
      exact supplies.takes_all balanced empty
  | configureMidi =>
      obtain ⟨supplies, empty⟩ := supplies_publishCompiled session Control.compileMidi
      exact supplies.takes_all balanced empty
  | configureAll =>
      obtain ⟨supplies, empty⟩ := supplies_publishCompiled session Control.compileAll
      exact supplies.takes_all balanced empty
  | processKernelEvents handler state =>
      obtain ⟨supplies, empty⟩ := supplies_processKernelEvents handler session state
      exact supplies.takes_all balanced empty
  | collectRetired =>
      have supplies : Supplies session session.collectRetired.2 :=
        ⟨rfl, fun balanced => ⟨balanced.updates, balanced.retired.withLetters [],
          (Nat.le_add_right _ _).trans balanced.within⟩⟩
      exact supplies.takes_all balanced rfl
  | drainInterface =>
      have supplies : Supplies session session.drainInterface.2 :=
        ⟨rfl, fun balanced => ⟨balanced.updates, balanced.retired, balanced.within⟩⟩
      exact supplies.forwards balanced rfl
  | keyEvent qualifier down =>
      exact (session.uses_fire (.key qualifier down) engine settled).forwards balanced
  | midiEvent event => exact (session.uses_fire (.midi event) engine settled).forwards balanced
  | midiBytes bytes => exact (session.uses_midiBytes bytes engine settled).forwards balanced
  | perform action => exact (session.uses_perform action engine settled).forwards balanced
  | processBlock frames rate =>
      exact session.forwards_processBlock frames rate engine settled balanced
  | applyUpdates => exact forwards_applyUpdates balanced
  | cancelScripts track =>
      exact (session.uses_withRig
        (session.plays_cancelScripts track engine settled).library).forwards balanced
  | finishEvent event => exact Uses.forwards ⟨rfl, rfl, fun _ _ => rfl, rfl⟩ balanced
  | finishFunction symbol => exact Uses.forwards ⟨rfl, rfl, fun _ _ => rfl, rfl⟩ balanced
  | engine change => exact Uses.forwards ⟨rfl, rfl, fun _ _ => rfl, rfl⟩ balanced

def along {β : Type} (read : Session → Operation ε χ → List β) (session : Session)
    (engine : ε) : List (Operation ε χ) → List β
  | [] => []
  | operation :: rest =>
      let after := (session.operate engine operation).value
      read session operation ++ along read after.1 after.2 rest

theorem forwards_run (session : Session) (engine : ε) (history : List (Operation ε χ))
    (settled : session.IsSettled) (balanced : session.IsBalanced) :
    Forwards (along putInPlace session engine history) (along takenBack session engine history)
      session (session.run engine history).value.1 := by
  induction history generalizing session engine with
  | nil => exact (Supplies.refl session).forwards balanced rfl
  | cons operation rest ih =>
      have first := forwards_operate session engine operation settled balanced
      have others := ih (session.operate engine operation).value.1
        (session.operate engine operation).value.2
        (continues_operate session engine operation settled).settled first.balanced
      exact first.trans others

/--
However the operations of both halves follow each other, the updates that wait
and the replaced tables that wait are no more than one box holds, so nothing
that is replaced is ever refused.  On each seat, the first table or library and
those that have been put in place are, in this order, those that the control
half has taken back, those that wait for it, and the one in place.
-/
theorem replaced_tables_go_home (config : Config) (symbols : SymbolTable) (engine : ε)
    (history : List (Operation ε χ)) :
    let start := Session.new config symbols
    let session := (start.run engine history).value.1
    let installed := along putInPlace start engine history
    let returned := along takenBack start engine history ++ session.wires.retired.letters
    session.wires.updates.letters.length + session.wires.retired.letters.length ≤
        updateCapacity ∧
      session.applyUpdates.records = [] ∧
      (BindingTable.empty :: installed.filterMap TableUpdate.keyboard).map BindingTable.fresh =
        (returned.filterMap TableUpdate.keyboard ++ [session.loop.desk.keyboard]).map
          BindingTable.fresh ∧
      ({} :: installed.filterMap TableUpdate.midi).map MidiTables.fresh =
        (returned.filterMap TableUpdate.midi ++ [session.loop.desk.midi]).map
          MidiTables.fresh ∧
      {} :: installed.filterMap TableUpdate.scripts =
        returned.filterMap TableUpdate.scripts ++ [session.loop.roster.shared.library] := by
  intro start session installed returned
  have forwards : Forwards installed (along takenBack start engine history) start session :=
    forwards_run start engine history rfl (isBalanced_new config symbols)
  refine ⟨forwards.balanced.within, ?_, ?_, ?_, ?_⟩
  · rw [applyUpdates_of_balanced forwards.balanced]
    rfl
  · exact forwards.conserves Seat.keyboard
  · exact forwards.conserves Seat.midi
  · have libraries := forwards.conserves Seat.library
    simp only [Seat.library, List.map_id] at libraries
    exact libraries

end Session

end Looper
