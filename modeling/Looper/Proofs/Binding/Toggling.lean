import Looper.Binding.Selection
import Mathlib.Data.List.Induction
import Mathlib.Data.List.Nodup

/-!
# Activating binding sets

The chosen overlays are kept as a list of names, as they were stored or activated; it may
repeat names, and name sets that are no overlays or that there are not.  Resolving reads
such a list as the overlays that it names, each where it is first named.  Activating an
overlay adds its name to the list or takes one occurrence out, so it switches the overlay
on or off just as long as the name is not repeated.
-/

namespace Looper

/-! ## Lists without their repetitions -/

section Repetitions

variable {α : Type} [BEq α] [LawfulBEq α]

theorem eraseDups_concat (list : List α) (last : α) :
    (list ++ [last]).eraseDups =
      list.eraseDups ++ if list.contains last then [] else [last] := by
  rw [List.eraseDups_append]
  cases occurs : list.contains last with
  | true => simp [List.removeAll, List.contains_iff_mem.1 occurs]
  | false =>
      have absent : last ∉ list := by simpa using occurs
      simp [List.removeAll, absent, List.eraseDups_cons]

theorem nodup_eraseDups (list : List α) : list.eraseDups.Nodup := by
  induction list using List.reverseRecOn with
  | nil => exact List.nodup_nil
  | append_singleton list last ih =>
      rw [eraseDups_concat]
      cases occurs : list.contains last with
      | true => simpa using ih
      | false =>
          have absent : last ∉ list := by simpa using occurs
          simpa [List.nodup_append] using ⟨ih, fun other member same => absent (same ▸ member)⟩

theorem eraseDups_filter (keep : α → Bool) (list : List α) :
    (list.filter keep).eraseDups = list.eraseDups.filter keep := by
  induction list using List.reverseRecOn with
  | nil => rfl
  | append_singleton list last ih =>
      rw [List.filter_append, eraseDups_concat, List.filter_append]
      cases kept : keep last with
      | true =>
          have sameOccurrence : (list.filter keep).contains last = list.contains last := by
            simp [kept]
          rw [List.filter_singleton, kept, cond_true, eraseDups_concat, ih, sameOccurrence]
          cases list.contains last <;> simp [kept]
      | false =>
          rw [List.filter_singleton, kept, cond_false, List.append_nil, ih]
          cases list.contains last <;> simp [kept]

theorem filter_erase_self (list : List α) (element : α) :
    (list.erase element).filter (· != element) = list.filter (· != element) := by
  induction list with
  | nil => rfl
  | cons first rest ih =>
      rw [List.erase_cons]
      cases same : first == element with
      | true => simp [eq_of_beq same]
      | false =>
          rw [if_neg Bool.false_ne_true, List.filter_cons, List.filter_cons, ih]

end Repetitions

namespace BindingSelection

/-! ## What a selection resolves to -/

def overlay? (sets : List BindingSet) (name : String) : Option BindingSet :=
  sets.find? fun set => set.name == name && set.overlay

def overlaysOf (sets : List BindingSet) (names : List String) : List BindingSet :=
  names.eraseDups.filterMap (overlay? sets)

theorem overlay?_eq_some {sets : List BindingSet} {name : String} {set : BindingSet}
    (found : overlay? sets name = some set) :
    set ∈ sets ∧ set.name = name ∧ set.overlay = true := by
  have meets := List.find?_some found
  rw [Bool.and_eq_true, beq_iff_eq] at meets
  exact ⟨List.mem_of_find?_eq_some found, meets⟩

theorem base?_eq_some {selection : BindingSelection} {sets : List BindingSet} {set : BindingSet}
    (found : selection.base? sets = some set) : set ∈ sets ∧ set.overlay = false := by
  simp only [base?, Option.orElse_eq_orElse, Option.orElse_eq_or] at found
  rcases Option.or_eq_some_iff.1 found with chosen | ⟨-, first⟩
  · obtain ⟨name, -, named⟩ := Option.bind_eq_some_iff.1 chosen
    have meets := List.find?_some named
    simp only [Bool.and_eq_true, Bool.not_eq_true'] at meets
    exact ⟨List.mem_of_find?_eq_some named, meets.2⟩
  · have meets := List.find?_some first
    rw [Bool.not_eq_true'] at meets
    exact ⟨List.mem_of_find?_eq_some first, meets⟩

theorem nodup_overlaysOf (sets : List BindingSet) (names : List String) :
    (overlaysOf sets names).Nodup := by
  apply List.Nodup.filterMap _ (nodup_eraseDups names)
  intro name other set isNamed isOther
  rw [← (overlay?_eq_some isNamed).2.1, ← (overlay?_eq_some isOther).2.1]

section

variable {sets : List BindingSet} (distinct : (sets.map BindingSet.name).Nodup)

include distinct

theorem eq_of_name {set other : BindingSet} (member : set ∈ sets) (isOther : other ∈ sets)
    (same : set.name = other.name) : set = other :=
  List.inj_on_of_nodup_map distinct member isOther same

theorem find?_name {set : BindingSet} (member : set ∈ sets) :
    sets.find? (fun other => other.name == set.name) = some set := by
  cases isFound : sets.find? fun other => other.name == set.name with
  | none => exact absurd (beq_self_eq_true set.name) (List.find?_eq_none.1 isFound set member)
  | some found =>
      have named : (found.name == set.name) = true := by simpa using List.find?_some isFound
      rw [eq_of_name distinct (List.mem_of_find?_eq_some isFound) member (eq_of_beq named)]

theorem overlay?_name {set : BindingSet} (member : set ∈ sets) (isOverlay : set.overlay = true) :
    overlay? sets set.name = some set := by
  cases isFound : overlay? sets set.name with
  | none => simpa [isOverlay] using List.find?_eq_none.1 isFound set member
  | some found =>
      obtain ⟨there, named, -⟩ := overlay?_eq_some isFound
      rw [eq_of_name distinct there member named]

/-- An overlay is among those that some names stand for just if its name is. -/
theorem mem_overlaysOf {set : BindingSet} (member : set ∈ sets) (isOverlay : set.overlay = true)
    (names : List String) : set ∈ overlaysOf sets names ↔ set.name ∈ names := by
  rw [overlaysOf, List.mem_filterMap]
  constructor
  · rintro ⟨name, named, found⟩
    rw [(overlay?_eq_some found).2.1]
    exact List.mem_eraseDups.1 named
  · intro named
    exact ⟨set.name, List.mem_eraseDups.2 named, overlay?_name distinct member isOverlay⟩

theorem filter_overlaysOf {set : BindingSet} (member : set ∈ sets) (names : List String) :
    (overlaysOf sets names).filter (· != set) = overlaysOf sets (names.filter (· != set.name)) := by
  rw [overlaysOf, overlaysOf, eraseDups_filter, List.filter_filterMap, List.filterMap_filter]
  apply List.filterMap_congr
  intro name _
  cases found : overlay? sets name with
  | none => simp
  | some other =>
      obtain ⟨there, named, -⟩ := overlay?_eq_some found
      have sameSet : (other != set) = (name != set.name) := by
        rw [← named, Bool.eq_iff_iff, bne_iff_ne, bne_iff_ne]
        constructor
        · intro apart same
          exact apart (eq_of_name distinct there member same)
        · intro apart same
          exact apart (congrArg BindingSet.name same)
      rw [Option.filter_some, sameSet]

/-- The live sets are the base set and then the overlays that are named, as they are first named. -/
theorem resolve_eq_overlaysOf (selection : BindingSelection) :
    selection.resolve sets =
      (selection.base? sets).toList ++ overlaysOf sets selection.overlays := by
  rw [resolve]
  -- The induction goes by the last name, which is added to what the names before it stand for.
  induction selection.overlays using List.reverseRecOn with
  | nil => simp [overlaysOf]
  | append_singleton names last ih =>
      rw [List.foldl_append, ih, List.foldl_cons, List.foldl_nil]
      have reads : overlaysOf sets (names ++ [last]) = overlaysOf sets names ++
          if names.contains last then [] else (overlay? sets last).toList := by
        rw [overlaysOf, eraseDups_concat, List.filterMap_append, overlaysOf]
        cases names.contains last <;> cases found : overlay? sets last <;> simp [found]
      rw [reads]
      cases found : overlay? sets last with
      | none =>
          rw [addOverlay, show sets.find? _ = none from found]
          cases names.contains last <;> simp
      | some set =>
          obtain ⟨member, named, isOverlay⟩ := overlay?_eq_some found
          have present : (((selection.base? sets).toList ++ overlaysOf sets names).any
              fun other => other.name == set.name) = names.contains last := by
            rw [Bool.eq_iff_iff, List.any_eq_true, List.contains_iff_mem, ← named,
              ← mem_overlaysOf distinct member isOverlay names]
            constructor
            · rintro ⟨other, live, same⟩
              rcases List.mem_append.1 live with isBase | isOther
              · obtain ⟨there, noOverlay⟩ := base?_eq_some (Option.mem_toList.1 isBase)
                rw [eq_of_name distinct there member (beq_iff_eq.1 same), isOverlay] at noOverlay
                cases noOverlay
              · obtain ⟨name, -, isNamed⟩ := List.mem_filterMap.1 isOther
                have there := (overlay?_eq_some isNamed).1
                exact eq_of_name distinct there member (beq_iff_eq.1 same) ▸ isOther
            · intro live
              exact ⟨set, List.mem_append_right _ live, beq_self_eq_true _⟩
          rw [addOverlay, show sets.find? _ = some set from found]
          dsimp only
          rw [present]
          cases names.contains last <;> simp

/-! ## What activating does -/

/-- An overlay is live just if it is named, and the others are live without regard to it. -/
theorem resolve_overlay (selection : BindingSelection) {set : BindingSet} (member : set ∈ sets)
    (isOverlay : set.overlay = true) :
    (set ∈ selection.resolve sets ↔ set.name ∈ selection.overlays) ∧
      (selection.resolve sets).filter (· != set) = (selection.base? sets).toList ++
        overlaysOf sets (selection.overlays.filter (· != set.name)) := by
  have apart : set ∉ (selection.base? sets).toList := by
    intro isBase
    have noOverlay := (base?_eq_some (Option.mem_toList.1 isBase)).2
    rw [isOverlay] at noOverlay
    cases noOverlay
  rw [resolve_eq_overlaysOf distinct]
  constructor
  · rw [List.mem_append, or_iff_right apart, mem_overlaysOf distinct member isOverlay]
  · rw [List.filter_append, filter_overlaysOf distinct member, List.filter_eq_self.2]
    intro other isBase
    exact bne_iff_ne.2 fun same => apart (same ▸ isBase)

def toggled (name : String) (names : List String) : List String :=
  if names.contains name then names.erase name else names ++ [name]

omit distinct in
theorem filter_toggled (name : String) (names : List String) :
    (toggled name names).filter (· != name) = names.filter (· != name) := by
  rw [toggled]
  split
  · exact filter_erase_self names name
  · simp [List.filter_append]

omit distinct in
theorem mem_toggled (name : String) (names : List String) :
    (name ∈ toggled name names ↔ name ∉ names) ↔ names.count name ≤ 1 := by
  rw [toggled]
  split
  · next isNamed =>
      have named : name ∈ names := List.contains_iff_mem.1 isNamed
      have counted := List.count_erase_self (a := name) (l := names)
      rw [← List.count_pos_iff, counted]
      simp only [named, not_true_eq_false, iff_false]
      omega
  · next isNew =>
      have absent : name ∉ names := fun named => isNew (List.contains_iff_mem.2 named)
      simp [absent, List.count_eq_zero_of_not_mem absent]

theorem activate?_name (selection : BindingSelection) {set : BindingSet} (member : set ∈ sets) :
    selection.activate? set.name sets = some
      (if set.overlay then { selection with overlays := toggled set.name selection.overlays }
      else { selection with active := some set.name }) := by
  rw [activate?, find?_name distinct member, Option.map_some, toggled]
  split
  · split <;> rfl
  · rfl

/-- A set that is no overlay is the base once it is active. -/
theorem base?_active {set : BindingSet} (member : set ∈ sets) (noOverlay : set.overlay = false)
    (overlays : List String) :
    base? { active := some set.name, overlays } sets = some set := by
  have found : sets.find? (fun other => other.name == set.name && !other.overlay) = some set := by
    cases isFound : sets.find? fun other => other.name == set.name && !other.overlay with
    | none => simpa [noOverlay] using List.find?_eq_none.1 isFound set member
    | some found =>
        have meets := List.find?_some isFound
        rw [Bool.and_eq_true, beq_iff_eq] at meets
        rw [eq_of_name distinct (List.mem_of_find?_eq_some isFound) member meets.1]
  simp [base?, found]

/--
Among sets with distinct names, every selection resolves to at most one set that is no
overlay, in first place, and then to overlays without repetition, in the order in which
they are first named.  Activating a name that no set has does nothing.  Activating a set
that is no overlay puts it in first place and leaves the overlays as they are.  Activating
an overlay leaves all other sets as they are, and switches the overlay on or off just if
its name is not repeated in the selection.
-/
theorem activates_one_set :
    (∀ selection : BindingSelection,
      selection.resolve sets =
        (selection.base? sets).toList ++ overlaysOf sets selection.overlays ∧
      (∀ set ∈ selection.base? sets, set ∈ sets ∧ set.overlay = false) ∧
      (∀ set ∈ overlaysOf sets selection.overlays, set ∈ sets ∧ set.overlay = true) ∧
      (overlaysOf sets selection.overlays).Nodup) ∧
    ∀ (selection : BindingSelection) (name : String),
      ((∀ set ∈ sets, set.name ≠ name) → selection.activate? name sets = none) ∧
      ∀ set ∈ sets, set.name = name → ∃ later, selection.activate? name sets = some later ∧
        (set.overlay = false →
          later.resolve sets = set :: overlaysOf sets selection.overlays) ∧
        (set.overlay = true →
          later.base? sets = selection.base? sets ∧
          (later.resolve sets).filter (· != set) = (selection.resolve sets).filter (· != set) ∧
          ((set ∈ later.resolve sets ↔ set ∉ selection.resolve sets) ↔
            selection.overlays.count name ≤ 1)) := by
  constructor
  · intro selection
    refine ⟨resolve_eq_overlaysOf distinct selection, fun set => base?_eq_some, ?_,
      nodup_overlaysOf sets selection.overlays⟩
    intro set live
    obtain ⟨name, -, isNamed⟩ := List.mem_filterMap.1 live
    obtain ⟨member, -, isOverlay⟩ := overlay?_eq_some isNamed
    exact ⟨member, isOverlay⟩
  · intro selection name
    constructor
    · intro unknown
      rw [activate?, List.find?_eq_none.2, Option.map_none]
      intro set member
      simpa using unknown set member
    · rintro set member rfl
      refine ⟨_, activate?_name distinct selection member, ?_, ?_⟩
      · intro noOverlay
        rw [noOverlay, if_neg Bool.false_ne_true, resolve_eq_overlaysOf distinct,
          base?_active distinct member noOverlay, Option.toList_some, List.singleton_append]
      · intro isOverlay
        rw [if_pos isOverlay]
        obtain ⟨wasLive, others⟩ := resolve_overlay distinct selection member isOverlay
        let later : BindingSelection :=
          { selection with overlays := toggled set.name selection.overlays }
        obtain ⟨isLive, othersLater⟩ := resolve_overlay distinct later member isOverlay
        refine ⟨rfl, ?_, ?_⟩
        · rw [others, othersLater, filter_toggled]
          rfl
        · rw [wasLive, isLive]
          exact mem_toggled set.name selection.overlays

end

def pedals : BindingSet :=
  { name := "Pedals", overlay := true }

def pedalSets : List BindingSet :=
  [{ name := "Common" }, pedals]

/-- A stored selection that names an overlay twice: activating it leaves it live. -/
theorem repeated_overlay_stays_live :
    ∃ later, activate? { overlays := ["Pedals", "Pedals"] } "Pedals" pedalSets = some later ∧
      ¬ (pedals ∈ later.resolve pedalSets ↔
        pedals ∉ resolve { overlays := ["Pedals", "Pedals"] } pedalSets) := by
  have distinct : (pedalSets.map BindingSet.name).Nodup := by decide
  obtain ⟨later, activates, -, switches⟩ :=
    (activates_one_set distinct).2 { overlays := ["Pedals", "Pedals"] } "Pedals" |>.2 pedals
      (by decide) rfl
  exact ⟨later, activates, fun flips => absurd ((switches rfl).2.2.1 flips) (by decide)⟩

end BindingSelection

end Looper
