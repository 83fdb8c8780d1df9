import Looper.Binding.Basic
import Looper.Proofs.Binding.Toggling

/-!
# Merging binding sets

A user's sets are placed one after another: each in the place of the first set with its
name, which may be one that was placed just before, or at the end.  So under every name the
last of the user's sets is found, the default sets stay where they are, and the names that
are new follow them in the order in which they first appear.
-/

namespace Looper.BindingConfig

def names (config : BindingConfig) : List String :=
  config.sets.map BindingSet.name

def last? (config : BindingConfig) (name : String) : Option BindingSet :=
  config.sets.reverse.find? fun set => set.name == name

def newNames (base user : BindingConfig) : List String :=
  (user.names.filter fun name => !base.names.contains name).eraseDups

/-! ## Placing one set -/

theorem find?_name_cons (first : BindingSet) (rest : List BindingSet) (name : String) :
    (first :: rest).find? (fun set => set.name == name) =
      if first.name = name then some first else rest.find? fun set => set.name == name := by
  by_cases wanted : first.name = name <;> simp [wanted]

/-- A set that was placed is found under its name, and every other name means what it did. -/
theorem find?_place (set : BindingSet) (sets : List BindingSet) (name : String) :
    (place set sets).find? (fun other => other.name == name) =
      if set.name = name then some set else sets.find? fun other => other.name == name := by
  induction sets with
  | nil => exact find?_name_cons set [] name
  | cons first rest ih =>
      rw [place]
      by_cases taken : first.name = set.name
      · rw [if_pos taken, find?_name_cons, find?_name_cons, taken]
        by_cases wanted : set.name = name
        · rw [if_pos wanted, if_pos wanted]
        · rw [if_neg wanted, if_neg wanted, if_neg wanted]
      · rw [if_neg taken, find?_name_cons, find?_name_cons, ih]
        by_cases wanted : first.name = name
        · rw [if_pos wanted, if_pos wanted,
            if_neg fun same : set.name = name => taken (wanted.trans same.symm)]
        · rw [if_neg wanted, if_neg wanted]

/-- Placing a set leaves the names as they are, unless its name is new. -/
theorem map_name_place (set : BindingSet) (sets : List BindingSet) :
    (place set sets).map BindingSet.name = sets.map BindingSet.name ++
      if (sets.map BindingSet.name).contains set.name then [] else [set.name] := by
  induction sets with
  | nil => rfl
  | cons first rest ih =>
      rw [place, List.map_cons, List.contains_cons]
      by_cases taken : first.name = set.name
      · simp [taken]
      · have apart : (set.name == first.name) = false := beq_false_of_ne (Ne.symm taken)
        rw [if_neg taken, List.map_cons, ih, apart, Bool.false_or, List.cons_append]

/-- Only the first set with the name of the one that is placed gives way to it. -/
theorem getElem?_place (set : BindingSet) {sets : List BindingSet} {index : Nat}
    {other : BindingSet} (stands : sets[index]? = some other) :
    (place set sets)[index]? = some
      (if other.name = set.name ∧ other.name ∉ (sets.map BindingSet.name).take index then set
      else other) := by
  induction sets generalizing index with
  | nil => cases stands
  | cons first rest ih =>
      rw [place]
      cases index with
      | zero =>
          obtain rfl : first = other := Option.some.inj stands
          by_cases taken : first.name = set.name <;> simp [taken]
      | succ index =>
          have standsThen : rest[index]? = some other := stands
          by_cases taken : first.name = set.name
          · have stays : ¬ (other.name = set.name ∧
                other.name ∉ ((first :: rest).map BindingSet.name).take (index + 1)) := by
              rintro ⟨same, isFirst⟩
              exact isFirst (by simp [same, taken])
            rw [if_pos taken, if_neg stays]
            exact standsThen
          · have sameChoice : (other.name = set.name ∧
                other.name ∉ ((first :: rest).map BindingSet.name).take (index + 1)) ↔
                other.name = set.name ∧ other.name ∉ (rest.map BindingSet.name).take index := by
              rw [List.map_cons, List.take_succ_cons, List.mem_cons, not_or]
              constructor
              · rintro ⟨same, -, isFirst⟩
                exact ⟨same, isFirst⟩
              · rintro ⟨same, isFirst⟩
                exact ⟨same, fun isTaken => taken (isTaken.symm.trans same), isFirst⟩
            rw [if_neg taken, List.getElem?_cons_succ, ih standsThen, if_congr sameChoice rfl rfl]

/-! ## Placing all of a user's sets -/

theorem merge_concat (base : BindingConfig) (sets : List BindingSet) (set : BindingSet) :
    (base.merge ⟨sets ++ [set]⟩).sets = place set (base.merge ⟨sets⟩).sets := by
  simp only [merge, List.foldl_append, List.foldl_cons, List.foldl_nil]

theorem last?_concat (sets : List BindingSet) (set : BindingSet) (name : String) :
    last? ⟨sets ++ [set]⟩ name = if set.name = name then some set else last? ⟨sets⟩ name := by
  rw [last?, List.reverse_append, List.reverse_singleton, List.singleton_append]
  exact find?_name_cons set sets.reverse name

theorem name_of_last? {config : BindingConfig} {name : String} {set : BindingSet}
    (isLast : config.last? name = some set) : set.name = name :=
  beq_iff_eq.1 (@List.find?_some _ _ set _ isLast)

/-- The user's last set with a name is found, and what the base has where there is none. -/
theorem find?_merge (base user : BindingConfig) (name : String) :
    (base.merge user).find? name = (user.last? name).or (base.find? name) := by
  obtain ⟨sets⟩ := user
  induction sets using List.reverseRecOn with
  | nil => rfl
  | append_singleton sets set ih =>
      rw [find?, merge_concat, find?_place, last?_concat]
      by_cases same : set.name = name
      · rw [if_pos same, if_pos same, Option.some_or]
      · rw [if_neg same, if_neg same]
        exact ih

theorem mem_newNames {base user : BindingConfig} {name : String} :
    name ∈ base.newNames user ↔ name ∈ user.names ∧ name ∉ base.names := by
  simp [newNames]

theorem newNames_concat (base : BindingConfig) (sets : List BindingSet) (set : BindingSet) :
    base.newNames ⟨sets ++ [set]⟩ = base.newNames ⟨sets⟩ ++
      if (base.names ++ base.newNames ⟨sets⟩).contains set.name then [] else [set.name] := by
  have appended : names ⟨sets ++ [set]⟩ = names ⟨sets⟩ ++ [set.name] := List.map_append
  rw [newNames, appended, List.filter_append, List.filter_singleton]
  by_cases known : set.name ∈ base.names
  · simp [known, newNames]
  · have sameOccurrence : ((names ⟨sets⟩).filter fun name => !base.names.contains name).contains
        set.name = (base.names ++ base.newNames ⟨sets⟩).contains set.name := by
      rw [Bool.eq_iff_iff, List.contains_iff_mem, List.contains_iff_mem, List.mem_append,
        mem_newNames, List.mem_filter]
      simp [known]
    have isNew : (!base.names.contains set.name) = true := by simpa using known
    rw [isNew, cond_true, eraseDups_concat, sameOccurrence]
    rfl

/-- The names of the base stay in their places, and each new name is appended once. -/
theorem names_merge (base user : BindingConfig) :
    (base.merge user).names = base.names ++ base.newNames user := by
  obtain ⟨sets⟩ := user
  induction sets using List.reverseRecOn with
  | nil => exact (List.append_nil _).symm
  | append_singleton sets set ih =>
      rw [names, merge_concat, map_name_place, newNames_concat, ← List.append_assoc, ← ih]
      rfl

/-- A set of the base gives way to the user's last of its name, unless it is repeated there. -/
theorem getElem?_merge (base user : BindingConfig) {index : Nat} {set : BindingSet}
    (stands : base.sets[index]? = some set) :
    (base.merge user).sets[index]? = some
      (if set.name ∈ base.names.take index then set else (user.last? set.name).getD set) := by
  obtain ⟨sets⟩ := user
  have within : index < base.names.length := by
    rw [names, List.length_map]
    exact (List.getElem?_eq_some_iff.1 stands).1
  -- The names before the place are those of the base, however many sets were placed.
  induction sets using List.reverseRecOn with
  | nil =>
      rw [show base.merge ⟨[]⟩ = base from rfl, stands]
      split <;> rfl
  | append_singleton sets placed ih =>
      have before : ((base.merge ⟨sets⟩).sets.map BindingSet.name).take index =
          base.names.take index := by
        rw [← names, names_merge, List.take_append_of_le_length (Nat.le_of_lt within)]
      rw [merge_concat, getElem?_place placed ih, before, last?_concat]
      by_cases repeated : set.name ∈ base.names.take index
      · simp [repeated]
      · rw [if_neg repeated, if_neg repeated]
        have keepsName : ((last? ⟨sets⟩ set.name).getD set).name = set.name := by
          cases isLast : last? ⟨sets⟩ set.name with
          | none => rfl
          | some other => exact name_of_last? isLast
        rw [keepsName]
        by_cases same : placed.name = set.name
        · rw [if_pos ⟨same.symm, repeated⟩, if_pos same, Option.getD_some]
        · rw [if_neg fun both => same both.1.symm, if_neg same]

/-! ## The law of merging -/

theorem nodup_newNames (base user : BindingConfig) : (base.newNames user).Nodup :=
  nodup_eraseDups _

theorem disjoint_newNames (base user : BindingConfig) :
    ∀ name ∈ base.names, ∀ other ∈ base.newNames user, name ≠ other := by
  rintro name known _ isNew rfl
  exact (mem_newNames.1 isNew).2 known

theorem newNames_merge (base user : BindingConfig) : (base.merge user).newNames user = [] := by
  apply List.eq_nil_iff_forall_not_mem.2
  intro name isNew
  obtain ⟨used, unknown⟩ := mem_newNames.1 isNew
  rw [names_merge, List.mem_append, mem_newNames] at unknown
  tauto

theorem find?_of_first {config : BindingConfig} {index : Nat} {set : BindingSet}
    (stands : config.sets[index]? = some set) (isFirst : set.name ∉ config.names.take index) :
    config.find? set.name = some set := by
  obtain ⟨within, isSet⟩ := List.getElem?_eq_some_iff.1 stands
  refine List.find?_eq_some_iff_getElem.2 ⟨beq_self_eq_true _, index, within, isSet, ?_⟩
  intro earlier isEarlier
  have stays : (config.sets[earlier].name == set.name) = false := by
    refine beq_false_of_ne fun same => isFirst ?_
    rw [← same, names, ← List.map_take]
    exact List.mem_map_of_mem (List.mem_take_iff_getElem.2 ⟨earlier, by omega, rfl⟩)
  rw [stays, Bool.not_false]

theorem merge_merge (base user : BindingConfig) :
    (base.merge user).merge user = base.merge user := by
  have sameNames : ((base.merge user).merge user).names = (base.merge user).names := by
    rw [names_merge (base.merge user), newNames_merge, List.append_nil]
  have sameLength : ((base.merge user).merge user).sets.length = (base.merge user).sets.length := by
    simpa only [names, List.length_map] using congrArg List.length sameNames
  have sameSets : ((base.merge user).merge user).sets = (base.merge user).sets := by
    refine List.ext_getElem? fun index => ?_
    cases stands : (base.merge user).sets[index]? with
    | none =>
        rw [List.getElem?_eq_none_iff] at stands ⊢
        exact Nat.le_trans (Nat.le_of_eq sameLength) stands
    | some set =>
        rw [getElem?_merge _ user stands]
        by_cases repeated : set.name ∈ (base.merge user).names.take index
        · rw [if_pos repeated]
        · -- The set is found in the merged configuration, so the user's last set is no other.
          have found := find?_of_first stands repeated
          rw [find?_merge] at found
          rw [if_neg repeated]
          cases isLast : user.last? set.name with
          | none => rfl
          | some other =>
              rw [isLast, Option.some_or] at found
              rw [Option.getD_some, found]
  exact congrArg BindingConfig.mk sameSets

/--
Merging overrides by name, whatever names are repeated in the base or by the user.  Under
every name the user's last set is found, or else what the base has.  The sets of the base
stay in their places, where the first of each name gives way to the user's last; the new
names follow, each once, in the order in which they first appear, and nothing else does.
So names are distinct afterwards just if they were before, and merging the same sets again
changes nothing.
-/
theorem merge_overrides_by_name (base user : BindingConfig) :
    (∀ name, (base.merge user).find? name = (user.last? name).or (base.find? name)) ∧
    (base.merge user).names = base.names ++ base.newNames user ∧
    (base.merge user).sets.take base.sets.length = base.sets.mapIdx (fun index set =>
      if set.name ∈ base.names.take index then set else (user.last? set.name).getD set) ∧
    ((base.merge user).names.Nodup ↔ base.names.Nodup) ∧
    (base.merge user).merge user = base.merge user := by
  refine ⟨find?_merge base user, names_merge base user, ?_, ?_, merge_merge base user⟩
  · refine List.ext_getElem? fun index => ?_
    rw [List.getElem?_mapIdx, List.getElem?_take]
    cases stands : base.sets[index]? with
    | none => exact if_neg (Nat.not_lt.2 (List.getElem?_eq_none_iff.1 stands))
    | some set =>
        rw [if_pos (List.getElem?_eq_some_iff.1 stands).1, getElem?_merge base user stands]
        rfl
  · rw [names_merge, List.nodup_append]
    exact ⟨And.left, fun distinct =>
      ⟨distinct, nodup_newNames base user, disjoint_newNames base user⟩⟩

/-- Of two sets of one name the user's second stands, where the first was appended. -/
example :
    merge ⟨[{ name := "Common" }, { name := "Pedals" }]⟩
      ⟨[{ name := "Pads" }, { name := "Common", overlay := true },
        { name := "Pads", overlay := true }]⟩ =
      ⟨[{ name := "Common", overlay := true }, { name := "Pedals" },
        { name := "Pads", overlay := true }]⟩ := by
  decide

end Looper.BindingConfig
