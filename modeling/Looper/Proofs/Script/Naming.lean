import Looper.Script.Run
import Mathlib.Data.List.Nodup
import Mathlib.Data.List.TakeWhile

/-!
# Names of variables

Variables of a list are told apart by their names, without regard to case.  Setting one
gives it the value, whether it is there or has to be made, and leaves the others.  A name is
read in a fixed order: a computed variable comes first, then one of the instance, then one
of all scripts, and a parameter of the engine last.
-/

namespace Looper

namespace Text

/-- Whichever of two names that are the same another one is compared with. -/
theorem sameName_congr {name other : String} (same : sameName name other = true)
    (third : String) : sameName third name = sameName third other := by
  rw [sameName, sameName, sameName_iff.1 same]

theorem sameName_congr_left {name other : String} (same : sameName name other = true)
    (third : String) : sameName name third = sameName other third := by
  rw [sameName, sameName, sameName_iff.1 same]

end Text

/-! ## Lists of variables -/

namespace Variables

/-- The names of a list of variables, as far as they count. -/
def names (vars : Variables) : List String :=
  vars.map fun entry => Text.fold entry.1

def IsDistinct (vars : Variables) : Prop :=
  vars.names.Nodup

variable (vars : Variables)

theorem get?_cons (entry : String × String) (name : String) :
    get? (entry :: vars) name =
      if Text.sameName entry.1 name then some entry.2 else get? vars name := by
  rw [get?, List.find?_cons]
  cases Text.sameName entry.1 name <;> rfl

theorem get?_congr {name other : String} (same : Text.sameName name other = true) :
    get? vars name = get? vars other := by
  induction vars with
  | nil => rfl
  | cons entry rest ih =>
      rw [get?_cons, get?_cons, Text.sameName_congr same, ih]

theorem has_eq (name : String) : vars.has name = (get? vars name).isSome := by
  induction vars with
  | nil => rfl
  | cons entry rest ih =>
      rw [get?_cons, has, List.any_cons, ← has, ih]
      cases Text.sameName entry.1 name <;> rfl

theorem mem_names (name : String) : Text.fold name ∈ vars.names ↔ vars.has name = true := by
  rw [names, List.mem_map, has, List.any_eq_true]
  simp only [Text.sameName_iff]

/-- Setting a variable gives its name the value, and leaves what other names read. -/
theorem get?_set (name value other : String) :
    get? (set name value vars) other =
      if Text.sameName name other then some value else get? vars other := by
  induction vars with
  | nil => rw [set, get?_cons]
  | cons entry rest ih =>
      rw [set]
      by_cases here : Text.sameName entry.1 name = true
      · rw [if_pos here, get?_cons, get?_cons, Text.sameName_congr_left here]
        cases Text.sameName name other <;> rfl
      · rw [if_neg here, get?_cons, get?_cons, ih]
        by_cases isEntry : Text.sameName entry.1 other = true
        · have apart : ¬ Text.sameName name other = true := fun isName =>
            here (Text.sameName_trans isEntry (Text.sameName_symm isName))
          rw [if_pos isEntry, if_pos isEntry, if_neg apart]
        · rw [if_neg isEntry, if_neg isEntry]

/-- Setting a variable keeps the spelling of the one that is there, or makes one at the end. -/
theorem names_set (name value : String) :
    names (set name value vars) =
      if vars.has name then vars.names else vars.names ++ [Text.fold name] := by
  induction vars with
  | nil => rfl
  | cons entry rest ih =>
      rw [set, has, List.any_cons, ← has]
      cases Text.sameName entry.1 name with
      | true => rfl
      | false =>
          rw [if_neg Bool.false_ne_true, Bool.false_or, names, List.map_cons, ← names, ih]
          cases has rest name <;> rfl

theorem IsDistinct.set {vars : Variables} (distinct : vars.IsDistinct) (name value : String) :
    (Variables.set name value vars).IsDistinct := by
  rw [IsDistinct, names_set]
  cases isThere : vars.has name with
  | true => exact distinct
  | false =>
      rw [if_neg Bool.false_ne_true]
      refine List.nodup_append.2 ⟨distinct, List.nodup_singleton _, ?_⟩
      rintro other member isName same rfl
      rw [List.mem_singleton.1 same] at member
      rw [(vars.mem_names name).1 member] at isThere
      cases isThere

/-- A variable that is not there yet is declared as it is set. -/
theorem declare_eq (name value : String) :
    declare vars name value = if vars.has name then vars else set name value vars := by
  rw [declare]
  cases isThere : vars.has name with
  | true => rfl
  | false =>
      rw [if_neg Bool.false_ne_true, if_neg Bool.false_ne_true]
      induction vars with
      | nil => rfl
      | cons entry rest ih =>
          rw [has, List.any_cons, Bool.or_eq_false_iff] at isThere
          rw [List.cons_append, ih isThere.2, set, isThere.1, if_neg Bool.false_ne_true]

end Variables

/-! ## References to names -/

namespace Reference

theorem isDigit_of_startsName {c : Char} (starts : startsName c = true) :
    Text.isDigit c = false := by
  rw [Bool.eq_false_iff]
  intro isDigit
  have inRange : 48 ≤ c.val.toNat ∧ c.val.toNat ≤ 57 := by
    simpa [Text.isDigit, Char.le_def, UInt32.le_iff_toNat_le] using isDigit
  rw [startsName, Bool.or_eq_true] at starts
  rcases starts with isLetter | isUnderscore
  · have isCode : 65 ≤ c.val.toNat := by
      have eitherCase : (c.isUpper || c.isLower) = true := isLetter
      rcases Bool.or_eq_true_iff.1 eitherCase with upper | lower
      · have inCase : decide (65 ≤ c.val ∧ c.val ≤ 90) = true := upper
        exact UInt32.le_iff_toNat_le.1 (of_decide_eq_true inCase).1
      · have inCase : (decide (97 ≤ c.val) && decide (c.val ≤ 122)) = true := lower
        have from_a := (Bool.and_eq_true_iff.1 inCase).1
        exact Nat.le_trans (by decide) (UInt32.le_iff_toNat_le.1 (of_decide_eq_true from_a))
    omega
  · rw [beq_iff_eq.1 isUnderscore] at inRange
    exact absurd inRange.2 (by decide)

theorem scan_name {name : List Char} (named : isName name = true) :
    scan ('$' :: name) = [.reference (.named (String.ofList name)) ('$' :: name)] := by
  cases name with
  | nil => cases named
  | cons c rest =>
      rw [isName, Bool.and_eq_true, List.all_eq_true] at named
      obtain ⟨starts, continues⟩ := named
      have found : name? (c :: rest) = some (c :: rest, []) := by
        rw [name?, if_pos starts, List.takeWhile_eq_self_iff.2 continues,
          List.dropWhile_eq_nil_iff.2 continues]
      have refers : afterDollar (c :: rest) =
          (.reference (.named (String.ofList (c :: rest))) ('$' :: c :: rest), []) := by
        have noDollar : c ≠ '$' := by
          rintro rfl
          cases starts
        have noParenthesis : parenthesized? (c :: rest) = none := by
          rw [parenthesized?]
          intro _ isParenthesis
          rw [(List.cons.inj isParenthesis).1] at starts
          cases starts
        rw [afterDollar]
        · simp only [noParenthesis, isDigit_of_startsName starts, found, Bool.false_eq_true,
            if_false]
        · intro _ isDollar
          exact noDollar (List.cons.inj isDollar).1
      rw [scan, if_pos rfl, refers, scan]

/-- A reference to a name is replaced by what the name stands for. -/
theorem value_expand_name (resolve : Reference → Option String) {name : String}
    (named : isName name.toList = true) :
    (expand resolve ("$" ++ name)).value = (resolve (.named name)).getD "" := by
  have written : ("$" ++ name).toList = '$' :: name.toList := by rw [String.toList_append]; rfl
  rw [expand, expandWith, written, scan_name named, String.ofList_toList]
  rw [expandPieces, expandPieces, expandPiece, pure_bind]
  cases resolve (.named name) with
  | none => rfl
  | some value => simp

end Reference

/-! ## What a name reads -/

theorem Internal.ofName?_congr {name other : String} (same : Text.sameName name other = true) :
    ofName? name = ofName? other := by
  rw [ofName?, ofName?]
  simp only [Text.sameName_congr same]

namespace Run

variable {ε : Type} [Engine ε]

omit [Engine ε] in
/-- The variable that a name stands for unless it is computed: one of the instance, else of all. -/
def stored? (run : Run ε) (name : String) : Option String :=
  Variables.get? run.self.locals name <|> Variables.get? run.shared.globals name

omit [Engine ε] in
theorem stored?_congr (run : Run ε) {name other : String}
    (same : Text.sameName name other = true) : run.stored? name = run.stored? other := by
  rw [stored?, stored?, Variables.get?_congr _ same, Variables.get?_congr _ same]

theorem named?_of_internal (run : Run ε) {name : String} {which : Internal}
    (computed : Internal.ofName? name = some which) :
    run.named? name = some (toString (run.internal which)) := by
  rw [named?, computed]
  rfl

theorem named?_of_stored {run : Run ε} {name value : String}
    (plain : Internal.ofName? name = none) (found : run.stored? name = some value) :
    run.named? name = some value := by
  rw [stored?] at found
  rw [named?, plain]
  cases own : Variables.get? run.self.locals name with
  | some read =>
      rw [own] at found
      exact found
  | none =>
      rw [own] at found
      have common : Variables.get? run.shared.globals name = some value := found
      rw [common]
      rfl

/-- A name and a reference to it read a value. -/
structure Reads (run : Run ε) (name value : String) : Prop where
  named : run.named? name = some value
  expanded : (run.expand ("$" ++ name)).value = value

theorem reads_of_stored {run : Run ε} {name value : String}
    (isName : Reference.isName name.toList = true) (plain : Internal.ofName? name = none)
    (found : run.stored? name = some value) : run.Reads name value := by
  have named := named?_of_stored plain found
  refine ⟨named, ?_⟩
  rw [expand, Reference.value_expand_name _ isName, resolve, named, Option.getD_some]

/-- All that a run can read but one name reads as before. -/
structure Spares (name : String) (run later : Run ε) : Prop where
  internal : ∀ which, later.internal which = run.internal which
  resolve : ∀ reference, (∀ other, reference = .named other → Text.sameName name other = false) →
    later.resolve reference = run.resolve reference

omit [Engine ε] in
def withVariables (run : Run ε) (locals globals : Variables) : Run ε :=
  { run with
    self := { run.self with locals }
    shared := { run.shared with globals } }

theorem internal_withVariables (run : Run ε) (locals globals : Variables) (which : Internal) :
    (run.withVariables locals globals).internal which = run.internal which := by
  cases which <;> rfl

theorem spares_withVariables {name : String} {run : Run ε} {locals globals : Variables}
    (own : ∀ other, Text.sameName name other = false →
      Variables.get? locals other = Variables.get? run.self.locals other)
    (common : ∀ other, Text.sameName name other = false →
      Variables.get? globals other = Variables.get? run.shared.globals other) :
    Spares name run (run.withVariables locals globals) := by
  constructor
  · exact run.internal_withVariables locals globals
  · intro reference apart
    cases reference with
    | argument position => rfl
    | named other =>
        have isOther := apart other rfl
        change (((Internal.ofName? other).map fun which =>
            toString ((run.withVariables locals globals).internal which))
          <|> Variables.get? locals other <|> Variables.get? globals other <|> _) =
            run.named? other
        simp only [internal_withVariables, own other isOther, common other isOther]
        rfl

end Run

end Looper
