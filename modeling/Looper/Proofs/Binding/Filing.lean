import Looper.Proofs.Binding.Recompile
import Looper.Binding.Desk
import Mathlib.Data.List.Perm.Basic

/-!
# How bindings are filed

A trigger is looked up in one bucket of one table.  What is found there is what
a plain search through the live bindings would find first, whichever bindings
share the bucket; and the tables together hold each binding that compiles once.
-/

namespace Looper

/-- Distributing a list over all values of a key loses nothing and repeats nothing. -/
theorem perm_flatMap_filter {α κ : Type} [BEq κ] [LawfulBEq κ] (key : α → κ) (list : List α)
    {keys : List κ} (distinct : keys.Nodup) (within : ∀ item ∈ list, key item ∈ keys) :
    (keys.flatMap fun value => list.filter fun item => key item == value).Perm list := by
  induction keys generalizing list with
  | nil =>
      have isEmpty : list = [] :=
        List.eq_nil_iff_forall_not_mem.2 fun item member => nomatch within item member
      rw [isEmpty]
      exact .nil
  | cons first rest ih =>
      obtain ⟨absent, restDistinct⟩ := List.nodup_cons.1 distinct
      let others := list.filter fun item => !(key item == first)
      have ofOthers : ∀ value ∈ rest, (list.filter fun item => key item == value) =
          others.filter fun item => key item == value := by
        intro value member
        rw [List.filter_filter]
        apply List.filter_congr
        intro item _
        cases same : key item == value with
        | false => rfl
        | true =>
            have apart : (key item == first) = false := by
              rw [eq_of_beq same]
              exact beq_false_of_ne fun equal => absent (equal ▸ member)
            rw [apart]
            rfl
      have restPerm := ih others restDistinct fun item member => by
        obtain ⟨there, apart⟩ := List.mem_filter.1 member
        rcases List.mem_cons.1 (within item there) with isFirst | inRest
        · simp [isFirst] at apart
        · exact inRest
      rw [List.flatMap_cons, List.flatMap_congr ofOthers]
      exact (restPerm.append_left _).trans (List.filter_append_perm _ list)

/-! ## Tables filled from a list -/

def CompiledBinding.entry (compiled : CompiledBinding) : TableEntry :=
  ⟨compiled.qualifier, compiled.action⟩

namespace BindingTable

def fileAll (table : BindingTable) (list : List CompiledBinding) : BindingTable :=
  list.foldl (fun table compiled => table.add compiled.index compiled.qualifier compiled.action)
    table

theorem bucket_add (table : BindingTable) {index : Nat} (inside : index < 256)
    (qualifier : Nat) (action : Action) (other : Nat) :
    (table.add index qualifier action).bucket other =
      table.bucket other ++ if index == other then [⟨qualifier, action⟩] else [] := by
  unfold add
  rw [bucket_updateBucket table index other _ inside]
  by_cases same : index = other
  · simp [same]
  · simp [same]

theorem bucket_fileAll (list : List CompiledBinding) (inside : ∀ each ∈ list, each.index < 256)
    (table : BindingTable) (index : Nat) :
    (table.fileAll list).bucket index = table.bucket index ++
      (list.filter fun compiled => compiled.index == index).map CompiledBinding.entry := by
  induction list generalizing table with
  | nil => exact (List.append_nil _).symm
  | cons first rest ih =>
      have filed := ih (fun each member => inside each (List.mem_cons_of_mem _ member))
        (table.add first.index first.qualifier first.action)
      rw [bucket_add table (inside first List.mem_cons_self)] at filed
      refine filed.trans ?_
      rw [List.filter_cons, List.append_assoc]
      cases first.index == index <;> rfl

theorem lookup?_fileAll (list : List CompiledBinding)
    (inside : ∀ each ∈ list, each.index < 256) (index qualifier : Nat) (wild : Bool) :
    (empty.fileAll list).lookup? index qualifier wild =
      (list.find? fun compiled =>
        compiled.index == index && compiled.entry.answers qualifier wild).map
          CompiledBinding.entry := by
  unfold lookup?
  rw [bucket_fileAll list inside, bucket_empty, List.nil_append, List.find?_map,
    List.find?_filter]
  simp only [Function.comp_apply, Bool.decide_and, Bool.decide_eq_true]

/-- A filled table holds the bindings it was filled with, each once. -/
theorem entries_fileAll (list : List CompiledBinding)
    (inside : ∀ each ∈ list, each.index < 256) :
    (empty.fileAll list).entries.Perm
      (list.map fun compiled => (compiled.index, compiled.entry)) := by
  have asDistributed : (empty.fileAll list).entries =
      ((List.range 256).flatMap fun index =>
        list.filter fun compiled => compiled.index == index).map
          fun compiled => (compiled.index, compiled.entry) := by
    unfold entries
    rw [List.map_flatMap]
    apply List.flatMap_congr
    intro index _
    rw [bucket_fileAll list inside, bucket_empty, List.nil_append, List.map_map]
    apply List.map_congr_left
    intro compiled member
    rw [eq_of_beq (List.mem_filter.1 member).2]
    rfl
  rw [asDistributed]
  apply List.Perm.map
  exact perm_flatMap_filter CompiledBinding.index list List.nodup_range
    fun compiled member => List.mem_range.2 (inside compiled member)

end BindingTable

/-! ## What bindings compile to -/

def Board.kind : Board → TriggerKind
  | .keyboard => .key
  | .note => .note
  | .program => .program
  | .control => .control

def Board.all : List Board :=
  [.keyboard, .note, .program, .control]

namespace Binding

def compiled? (binding : Binding) (symbols : SymbolTable) : Option CompiledBinding :=
  (binding.compile symbols).value.1

/-- A MIDI number is the value of its binding; it and the channel are within their bounds. -/
theorem value_of_midiNumber? {binding : Binding} {number : Nat}
    (found : binding.midiNumber?.value = some number) :
    binding.value = number ∧ number ≤ 127 ∧ binding.channel ≤ 16 := by
  unfold midiNumber? at found
  by_cases inRange : 0 ≤ binding.value ∧ binding.value ≤ 127
  · by_cases onChannel : binding.channel > 16
    · simp [inRange, onChannel] at found
    · simp [inRange, onChannel] at found
      omega
  · rw [if_pos inRange] at found
    cases found

theorem value_address? (binding : Binding) :
    binding.address?.value =
      match binding.trigger with
      | .key => binding.keyQualifier?.value.map fun q => ⟨Chord.bucket q, q, q, 0⟩
      | .note | .program | .control =>
          binding.midiNumber?.value.map fun n => ⟨n, binding.channel, n, binding.channel⟩
      | _ => none := by
  unfold address?
  cases binding.trigger <;> rfl

/-- An address is where the trigger of its binding is looked up. -/
structure Address.Serves (address : Address) (binding : Binding) : Prop where
  board : ∃ board : Board, board.kind = binding.trigger
  inside : address.index < 256
  key : binding.trigger = .key → address.index = Chord.bucket address.qualifier
  midi : binding.trigger.isMidi = true →
    binding.value = address.index ∧ address.qualifier = binding.channel

theorem serves_of_midiNumber? {binding : Binding} (board : Board)
    (kind : board.kind = binding.trigger) (isMidi : board.kind.isMidi = true)
    {address : Address}
    (found : (binding.midiNumber?.value.map fun n =>
      (⟨n, binding.channel, n, binding.channel⟩ : Address)) = some address) :
    address.Serves binding := by
  obtain ⟨number, isNumber, rfl⟩ := Option.map_eq_some_iff.1 found
  obtain ⟨isValue, inRange, -⟩ := value_of_midiNumber? isNumber
  have inside : number < 256 := Nat.lt_of_le_of_lt inRange (by decide)
  refine ⟨⟨board, kind⟩, inside, fun isKey => ?_, fun _ => ⟨isValue, rfl⟩⟩
  rw [kind, isKey] at isMidi
  cases isMidi

theorem serves_of_address? {binding : Binding} {address : Address}
    (found : binding.address?.value = some address) : address.Serves binding := by
  rw [value_address?] at found
  cases kind : binding.trigger with
  | key =>
      rw [kind] at found
      obtain ⟨qualifier, -, rfl⟩ := Option.map_eq_some_iff.1 found
      refine ⟨⟨.keyboard, kind.symm⟩, Nat.mod_lt qualifier (by decide), fun _ => rfl, ?_⟩
      intro isMidi
      rw [kind] at isMidi
      cases isMidi
  | note =>
      rw [kind] at found
      exact serves_of_midiNumber? .note kind.symm rfl found
  | program =>
      rw [kind] at found
      exact serves_of_midiNumber? .program kind.symm rfl found
  | control =>
      rw [kind] at found
      exact serves_of_midiNumber? .control kind.symm rfl found
  | _ =>
      rw [kind] at found
      cases found

/-- A binding that compiles is filed at its address, and its action identified by it. -/
theorem eq_of_compiled? {binding : Binding} {symbols : SymbolTable}
    {compiled : CompiledBinding} (compiles : binding.compiled? symbols = some compiled) :
    ∃ address action, binding.address?.value = some address ∧
      compiled =
        { trigger := binding.trigger
          index := address.index
          qualifier := address.qualifier
          action := binding.identify address action } := by
  unfold compiled? at compiles
  rw [value_compile] at compiles
  cases found : binding.address?.value with
  | none =>
      rw [found] at compiles
      cases compiles
  | some address =>
      rw [found] at compiles
      dsimp only at compiles
      obtain ⟨action, -, rfl⟩ := Option.map_eq_some_iff.1 compiles
      exact ⟨address, action, rfl, rfl⟩

/-- What a binding compiles to is filed at an address of the binding. -/
theorem address_of_compiled? {binding : Binding} {symbols : SymbolTable}
    {compiled : CompiledBinding} (compiles : binding.compiled? symbols = some compiled) :
    compiled.trigger = binding.trigger ∧ ∃ address : Address, address.Serves binding ∧
      compiled.index = address.index ∧ compiled.qualifier = address.qualifier := by
  obtain ⟨address, action, found, rfl⟩ := eq_of_compiled? compiles
  exact ⟨rfl, address, serves_of_address? found, rfl, rfl⟩

end Binding

/-! ## Compiled lists -/

namespace Compile

def accepted (list : List Binding) (symbols : SymbolTable) : List CompiledBinding :=
  list.filterMap fun binding => binding.compiled? symbols

/-- Compiling in turn gives what compiling each by itself gives once the names are known. -/
theorem bindings_eq_accepted (list : List Binding) {symbols known : SymbolTable}
    (extension : (bindings list symbols).value.2.Extends known) :
    (bindings list symbols).value.1 = accepted list known := by
  induction list generalizing symbols with
  | nil => rfl
  | cons binding rest ih =>
      have restExtension :
          (bindings rest (binding.compile symbols).value.2).value.2.Extends known := extension
      have grownRest := (bindings_again rest restExtension).1
      have again := (binding.compile_again (grownRest.trans restExtension)).2
      have compiled : binding.compiled? known = (binding.compile symbols).value.1 :=
        congrArg (fun outcome => outcome.1) again
      unfold accepted
      rw [List.filterMap_cons, compiled]
      unfold bindings
      rw [Logged.value_bind, Logged.value_bind, Logged.value_pure, ih restExtension]
      cases (binding.compile symbols).value.1 <;> rfl

theorem accepted_filter (list : List Binding) (known : SymbolTable)
    (chosen : TriggerKind → Bool) :
    accepted (list.filter fun binding => chosen binding.trigger) known =
      (accepted list known).filter fun compiled => chosen compiled.trigger := by
  unfold accepted
  rw [List.filterMap_filter, List.filter_filterMap]
  apply List.filterMap_congr
  intro binding _
  cases compiles : binding.compiled? known with
  | none => exact ite_self none
  | some compiled =>
      have sameKind := (Binding.address_of_compiled? compiles).1
      rw [Option.filter_some, sameKind]

theorem mem_accepted {list : List Binding} {known : SymbolTable} {compiled : CompiledBinding}
    (member : compiled ∈ accepted list known) :
    ∃ binding ∈ list, binding.compiled? known = some compiled :=
  List.mem_filterMap.1 member

/-- There is a bucket for what the bindings of a kind compile to. -/
theorem accepted_inside (list : List Binding) (known : SymbolTable) (kind : TriggerKind) :
    ∀ compiled ∈ (accepted list known).filter (fun compiled => compiled.trigger == kind),
      compiled.index < 256 := by
  intro compiled member
  obtain ⟨binding, -, compiles⟩ := mem_accepted (List.mem_filter.1 member).1
  obtain ⟨-, address, serves, index, -⟩ := Binding.address_of_compiled? compiles
  rw [index]
  exact serves.inside

/-- The first binding of a list to meet a condition gives the action. -/
def first? (list : List Binding) (known : SymbolTable)
    (meets : Binding → CompiledBinding → Bool) : Option Action :=
  list.findSome? fun binding =>
    ((binding.compiled? known).filter (meets binding)).map CompiledBinding.action

theorem first?_eq (list : List Binding) (known : SymbolTable)
    (meets : Binding → CompiledBinding → Bool) (condition : CompiledBinding → Bool)
    (agree : ∀ binding ∈ list, ∀ compiled, binding.compiled? known = some compiled →
      condition compiled = meets binding compiled) :
    first? list known meets =
      ((accepted list known).find? condition).map CompiledBinding.action := by
  induction list with
  | nil => rfl
  | cons binding rest ih =>
      have later := ih fun other member => agree other (List.mem_cons_of_mem _ member)
      unfold first? accepted at later ⊢
      rw [List.findSome?_cons, List.filterMap_cons]
      cases compiles : binding.compiled? known with
      | none => exact later
      | some compiled =>
          have here := agree binding List.mem_cons_self compiled compiles
          rw [List.find?_cons, here, Option.filter_some]
          cases meets binding compiled with
          | true => rfl
          | false => exact later

/-! ## Compiled tables -/

theorem keyboard_eq_fileAll (sets : List BindingSet) {symbols known : SymbolTable}
    (extension : (keyboard sets symbols).value.2.Extends known) :
    (keyboard sets symbols).value.1 = BindingTable.empty.fileAll
      ((accepted (inOrder sets) known).filter fun compiled => compiled.trigger == .key) := by
  rw [value_keyboard] at extension ⊢
  have compiled := bindings_eq_accepted _ extension
  rw [accepted_filter (inOrder sets) known fun kind => kind == .key] at compiled
  dsimp only
  rw [compiled]
  rfl

theorem extends_refilled (sets : List BindingSet) (symbols : SymbolTable)
    (previous : BindingTable) (previousMidi : MidiTables) :
    let keyed := (refillKeyboard previous sets symbols).value
    let filed := (refillMidi previousMidi sets keyed.2).value
    (keyboard sets symbols).value.2.Extends filed.2 ∧
      (midi sets keyed.2).value.2.Extends filed.2 := by
  intro keyed filed
  have midiExtends : (midi sets keyed.2).value.2.Extends filed.2 := by
    rw [← refillMidi_eq previousMidi]
    exact .refl _
  refine ⟨?_, midiExtends⟩
  rw [← refillKeyboard_eq previous]
  exact (midi_again sets midiExtends).1.trans midiExtends

/-- Filing on the MIDI boards files each binding on the board of its kind. -/
theorem foldl_file (list : List CompiledBinding) (tables : MidiTables) :
    list.foldl MidiTables.file tables =
      { note := tables.note.fileAll (list.filter fun compiled => compiled.trigger == .note)
        program :=
          tables.program.fileAll (list.filter fun compiled => compiled.trigger == .program)
        control :=
          tables.control.fileAll (list.filter fun compiled => compiled.trigger == .control) } := by
  induction list generalizing tables with
  | nil => rfl
  | cons first rest ih =>
      rw [List.foldl_cons, ih]
      unfold MidiTables.file
      cases kind : first.trigger <;> simp [kind, BindingTable.fileAll]

theorem midi_eq_fileAll (sets : List BindingSet) {symbols known : SymbolTable}
    (extension : (midi sets symbols).value.2.Extends known) :
    (midi sets symbols).value.1 =
      let filed (kind : TriggerKind) := BindingTable.empty.fileAll
        ((accepted (inOrder sets) known).filter fun compiled => compiled.trigger == kind)
      { note := filed .note, program := filed .program, control := filed .control } := by
  rw [value_midi] at extension ⊢
  have compiled := bindings_eq_accepted _ extension
  rw [accepted_filter (inOrder sets) known TriggerKind.isMidi] at compiled
  dsimp only
  rw [compiled, foldl_file]
  have narrowed (kind : TriggerKind) (isMidi : kind.isMidi = true) :
      ((accepted (inOrder sets) known).filter fun compiled => compiled.trigger.isMidi).filter
        (fun compiled => compiled.trigger == kind) =
      (accepted (inOrder sets) known).filter fun compiled => compiled.trigger == kind := by
    rw [List.filter_filter]
    apply List.filter_congr
    intro compiled _
    cases same : compiled.trigger == kind with
    | false => rfl
    | true => rw [eq_of_beq same, isMidi]; rfl
  rw [narrowed .note rfl, narrowed .program rfl, narrowed .control rfl]

end Compile

namespace Desk

/-- The boards of a desk hold the bindings of a list, each on the board of its kind. -/
def Holds (desk : Desk) (list : List Binding) (known : SymbolTable) : Prop :=
  ∀ board, desk.table board = BindingTable.empty.fileAll
    ((Compile.accepted list known).filter fun compiled => compiled.trigger == board.kind)

/-- Compiling the live sets onto a desk files their bindings, whatever was there before. -/
theorem holds_refilled (sets : List BindingSet) (symbols : SymbolTable)
    (previous : BindingTable) (previousMidi : MidiTables) (threshold : Nat) :
    let keyed := (Compile.refillKeyboard previous sets symbols).value
    let filed := (Compile.refillMidi previousMidi sets keyed.2).value
    ({ keyboard := keyed.1, midi := filed.1, threshold } : Desk).Holds
      (Compile.inOrder sets) filed.2 := by
  intro keyed filed
  obtain ⟨keyExtends, midiExtends⟩ :=
    Compile.extends_refilled sets symbols previous previousMidi
  have keyboard := Compile.keyboard_eq_fileAll sets keyExtends
  have midi := Compile.midi_eq_fileAll sets midiExtends
  rw [← Compile.refillKeyboard_eq previous] at keyboard
  rw [← Compile.refillMidi_eq previousMidi] at midi
  intro board
  cases board with
  | keyboard => exact keyboard
  | note => exact congrArg MidiTables.note midi
  | program => exact congrArg MidiTables.program midi
  | control => exact congrArg MidiTables.control midi

section

variable {desk : Desk} {list : List Binding} {known : SymbolTable}

/-- A lookup on a board finds the first binding of its kind, index and qualifier. -/
theorem Holds.lookup? (holds : desk.Holds list known) (board : Board) (index qualifier : Nat)
    (wild : Bool) (meets : Binding → CompiledBinding → Bool)
    (agree : ∀ binding ∈ list, ∀ compiled, binding.compiled? known = some compiled →
      (compiled.trigger == board.kind && (compiled.index == index &&
        compiled.entry.answers qualifier wild)) = meets binding compiled) :
    ((desk.table board).lookup? index qualifier wild).map TableEntry.action =
      Compile.first? list known meets := by
  rw [holds board, BindingTable.lookup?_fileAll _ (Compile.accepted_inside list known board.kind),
    Compile.first?_eq list known meets _ agree, List.find?_filter, Option.map_map]
  simp only [Bool.decide_and, Bool.decide_eq_true]
  rfl

/-- A key finds the first key binding with its qualifier, whatever else is in its bucket. -/
theorem Holds.lookup?_key (holds : desk.Holds list known) (qualifier : Nat) :
    (desk.keyboard.lookup? (Chord.bucket qualifier) qualifier false).map TableEntry.action =
      Compile.first? list known fun binding compiled =>
        binding.trigger == .key && compiled.qualifier == qualifier := by
  apply holds.lookup? .keyboard
  intro binding _ compiled compiles
  obtain ⟨trigger, address, serves, index, isQualifier⟩ := Binding.address_of_compiled? compiles
  rw [trigger]
  change (binding.trigger == .key && _) = _
  cases isKey : binding.trigger == .key with
  | false => rfl
  | true =>
      have filed := serves.key (eq_of_beq isKey)
      rw [← index, ← isQualifier] at filed
      simp only [Bool.true_and, TableEntry.answers, CompiledBinding.entry, Bool.false_and,
        Bool.or_false, filed]
      -- With the qualifier, the bucket agrees too.
      cases same : compiled.qualifier == qualifier with
      | false => exact Bool.and_false _
      | true => rw [eq_of_beq same, beq_self_eq_true]; rfl

end

end Desk

/-- Whether a binding is for a kind of message, a number and a channel counted from zero. -/
def Binding.isHeard (kind : TriggerKind) (number channel : Nat) (binding : Binding) : Bool :=
  binding.trigger == kind && (binding.value == number &&
    (binding.channel == 0 || binding.channel == channel + 1))

namespace Desk

section

variable {desk : Desk} {list : List Binding} {known : SymbolTable}

/-- A MIDI message finds the first binding of its kind for its number and channel. -/
theorem Holds.lookup?_midi (holds : desk.Holds list known) (board : Board)
    (isMidi : board.kind.isMidi = true) (number channel : Nat) :
    ((desk.table board).lookup? number (channel + 1) true).map TableEntry.action =
      Compile.first? list known fun binding _ =>
        binding.isHeard board.kind number channel := by
  apply holds.lookup? board
  intro binding _ compiled compiles
  obtain ⟨trigger, address, serves, index, isQualifier⟩ := Binding.address_of_compiled? compiles
  unfold Binding.isHeard
  rw [trigger]
  cases kind : binding.trigger == board.kind with
  | false => rfl
  | true =>
      obtain ⟨isValue, isChannel⟩ := serves.midi (eq_of_beq kind ▸ isMidi)
      have sameNumber : (compiled.index == number) = (binding.value == number) := by
        rw [isValue, ← index]
        exact Bool.eq_iff_iff.2 (by rw [beq_iff_eq, beq_iff_eq, Int.ofNat_inj])
      rw [sameNumber]
      simp only [TableEntry.answers, CompiledBinding.entry, isQualifier, isChannel,
        Bool.true_and, Bool.or_comm]

/-- The boards hold what the bindings compile to, each under its index, and nothing else. -/
theorem Holds.entries (holds : desk.Holds list known) :
    (Board.all.flatMap fun board =>
      (desk.table board).entries.map fun filed => (board.kind, filed)).Perm
    (list.filterMap fun binding => (binding.compiled? known).map fun compiled =>
      (binding.trigger, compiled.index, compiled.entry)) := by
  let tagged (compiled : CompiledBinding) := (compiled.trigger, compiled.index, compiled.entry)
  let accepted := Compile.accepted list known
  have onBoard : ∀ board ∈ Board.all,
      ((desk.table board).entries.map fun filed => (board.kind, filed)).Perm
        ((accepted.filter fun compiled => compiled.trigger == board.kind).map tagged) := by
    intro board _
    have filed := BindingTable.entries_fileAll _ (Compile.accepted_inside list known board.kind)
    rw [holds board]
    refine (filed.map _).trans (.of_eq ?_)
    rw [List.map_map]
    apply List.map_congr_left
    intro compiled member
    have kind := eq_of_beq (List.mem_filter.1 member).2
    change (board.kind, _) = (compiled.trigger, _)
    rw [kind]
  have everyKind : ∀ compiled ∈ accepted, compiled.trigger ∈ Board.all.map Board.kind := by
    intro compiled member
    obtain ⟨binding, -, compiles⟩ := Compile.mem_accepted member
    obtain ⟨trigger, address, serves, -⟩ := Binding.address_of_compiled? compiles
    obtain ⟨board, kind⟩ := serves.board
    rw [trigger, ← kind]
    cases board <;> decide
  have together := perm_flatMap_filter CompiledBinding.trigger accepted
    (by decide : (Board.all.map Board.kind).Nodup) everyKind
  have isTagged : (list.filterMap fun binding => (binding.compiled? known).map fun compiled =>
      (binding.trigger, compiled.index, compiled.entry)) = accepted.map tagged := by
    refine Eq.trans ?_ (List.map_filterMap ..).symm
    apply List.filterMap_congr
    intro binding _
    cases compiles : binding.compiled? known with
    | none => rfl
    | some compiled =>
        change some (binding.trigger, _) = some (compiled.trigger, _)
        rw [(Binding.address_of_compiled? compiles).1]
  rw [isTagged]
  refine (List.Perm.flatMap_left _ onBoard).trans ?_
  rw [← List.map_flatMap]
  rw [List.flatMap_map] at together
  exact together.map tagged

end

end Desk

namespace BindingSelection

/-- The live sets are the base set and then the chosen overlays, in the order of choice. -/
theorem resolve_eq (selection : BindingSelection) (sets : List BindingSet) :
    ∃ overlays, selection.resolve sets = (selection.base? sets).toList ++ overlays ∧
      (∀ set ∈ overlays, set ∈ sets ∧ set.overlay = true) ∧
      (overlays.map BindingSet.name).Sublist selection.overlays := by
  have added (chosen : List BindingSet) (names : List String) :
      ∃ overlays, names.foldl (addOverlay sets) chosen = chosen ++ overlays ∧
        (∀ set ∈ overlays, set ∈ sets ∧ set.overlay = true) ∧
        (overlays.map BindingSet.name).Sublist names := by
    induction names generalizing chosen with
    | nil => exact ⟨[], (List.append_nil _).symm, by simp, .slnil⟩
    | cons name rest ih =>
        obtain ⟨later, isLater, within, inOrder⟩ := ih (addOverlay sets chosen name)
        rw [List.foldl_cons, isLater]
        unfold addOverlay
        cases found : sets.find? fun set => set.name == name && set.overlay with
        | none => exact ⟨later, rfl, within, inOrder.cons name⟩
        | some set =>
            dsimp only
            split
            · exact ⟨later, rfl, within, inOrder.cons name⟩
            · have named := List.find?_some found
              simp only [Bool.and_eq_true, beq_iff_eq] at named
              refine ⟨set :: later, List.append_assoc .., ?_, ?_⟩
              · intro other member
                rcases List.mem_cons.1 member with rfl | isLater
                · exact ⟨List.mem_of_find?_eq_some found, named.2⟩
                · exact within other isLater
              · rw [List.map_cons, named.1]
                exact inOrder.cons_cons name
  exact added (selection.base? sets).toList selection.overlays

end BindingSelection

/--
After compiling the live sets into tables that held anything before, a lookup
gives what reading through the live bindings in their order would: for a key,
the first key binding that compiles with the qualifier; for a MIDI message, the
first binding that compiles for its kind and number and for its channel or any.
What a binding compiled to in its turn is what it compiles to with all names
known.  And the tables together hold the bindings that compile, each once, and nothing
else.
-/
theorem lookups_agree_with_search (sets : List BindingSet) (selection : BindingSelection)
    (symbols : SymbolTable) (previous : BindingTable) (previousMidi : MidiTables)
    (threshold : Nat) :
    let live := selection.resolve sets
    let keyed := (Compile.refillKeyboard previous live symbols).value
    let filed := (Compile.refillMidi previousMidi live keyed.2).value
    let bindings := Compile.inOrder live
    let desk : Desk := { keyboard := keyed.1, midi := filed.1, threshold }
    (∃ overlays, live = (selection.base? sets).toList ++ overlays ∧
      (∀ set ∈ overlays, set ∈ sets ∧ set.overlay = true) ∧
      (overlays.map BindingSet.name).Sublist selection.overlays) ∧
    (Compile.bindings (bindings.filter fun binding => binding.trigger == .key) symbols).value.1 =
      Compile.accepted (bindings.filter fun binding => binding.trigger == .key) filed.2 ∧
    (Compile.bindings (bindings.filter fun binding => binding.trigger.isMidi) keyed.2).value.1 =
      Compile.accepted (bindings.filter fun binding => binding.trigger.isMidi) filed.2 ∧
    (∀ qualifier,
      (desk.keyboard.lookup? (Chord.bucket qualifier) qualifier false).map TableEntry.action =
        Compile.first? bindings filed.2 fun binding compiled =>
          binding.trigger == .key && compiled.qualifier == qualifier) ∧
    (∀ number channel,
      (desk.midi.note.lookup? number (channel + 1) true).map TableEntry.action =
        Compile.first? bindings filed.2 (fun binding _ =>
          binding.isHeard .note number channel) ∧
      (desk.midi.program.lookup? number (channel + 1) true).map TableEntry.action =
        Compile.first? bindings filed.2 (fun binding _ =>
          binding.isHeard .program number channel) ∧
      (desk.midi.control.lookup? number (channel + 1) true).map TableEntry.action =
        Compile.first? bindings filed.2 (fun binding _ =>
          binding.isHeard .control number channel)) ∧
    (Board.all.flatMap fun board =>
      (desk.table board).entries.map fun entry => (board.kind, entry)).Perm
      (bindings.filterMap fun binding => (binding.compiled? filed.2).map fun compiled =>
        (binding.trigger, compiled.index, compiled.entry)) := by
  intro live keyed filed bindings desk
  have holds : desk.Holds bindings filed.2 :=
    Desk.holds_refilled live symbols previous previousMidi threshold
  obtain ⟨keyExtends, midiExtends⟩ :=
    Compile.extends_refilled live symbols previous previousMidi
  rw [Compile.value_keyboard] at keyExtends
  rw [Compile.value_midi] at midiExtends
  refine ⟨selection.resolve_eq sets, Compile.bindings_eq_accepted _ keyExtends,
    Compile.bindings_eq_accepted _ midiExtends, holds.lookup?_key,
    fun number channel => ⟨?_, ?_, ?_⟩, holds.entries⟩
  · exact holds.lookup?_midi .note rfl number channel
  · exact holds.lookup?_midi .program rfl number channel
  · exact holds.lookup?_midi .control rfl number channel

end Looper
