import Looper.Proofs.Script.Reading

/-!
# Loops around a place

The blocks of a sound script lie one after another and one within another.  What skips
ahead from within a loop therefore stays within it, and of two loops around a place the
one that begins later ends first.  How many loops lie around a place is bounded by the
text of the script.
-/

namespace Looper

/-! ## Skipping ahead -/

namespace Statement

def skipsTo? : Statement → Option Nat
  | .proc _ close | .branch _ close | .otherwise close => some close
  | .repeatLoop _ close | .trackLoop _ close => some close
  | _ => none

theorem skipsTo?_of_isPlain {statement : Statement} (alone : statement.isPlain = true) :
    statement.skipsTo? = none := by
  cases statement <;> first | rfl | cases alone

/-- A block skips from its first statement to its last one, which skips nothing. -/
theorem Encloses.skips {start close : Nat} {opening closing : Statement}
    (pair : Encloses start close opening closing) :
    opening.skipsTo? = some close ∧ closing.skipsTo? = none := by
  cases pair <;> exact ⟨rfl, rfl⟩

end Statement

/-- What the statements that lie from an index on skip lies one within another. -/
structure Laminar (start : Nat) (part : List Statement) : Prop where
  ends : ∀ {offset target : Nat} {statement : Statement}, part[offset]? = some statement →
    statement.skipsTo? = some target → target < start + part.length
  inside : ∀ {outer inner last target : Nat} {opening statement : Statement},
    part[outer]? = some opening → opening.skipsTo? = some last →
    part[inner]? = some statement → statement.skipsTo? = some target →
    outer < inner → start + inner < last → target < last

namespace Laminar

variable {start : Nat} {statement : Statement} {body rest : List Statement}

theorem nil (start : Nat) : Laminar start [] where
  ends found := by simp at found
  inside found := by simp at found

theorem plain (skips : statement.skipsTo? = none) (others : Laminar (start + 1) rest) :
    Laminar start (statement :: rest) where
  ends {offset target found} isFound spans := by
    cases offset with
    | zero =>
        rw [← Option.some.inj isFound, skips] at spans
        cases spans
    | succ offset =>
        have before := others.ends isFound spans
        rw [List.length_cons]
        omega
  inside {outer inner last target opening found} opens spans isFound skipsToo behind before := by
    obtain ⟨inner, rfl⟩ := Nat.exists_eq_succ_of_ne_zero (Nat.ne_zero_of_lt behind)
    cases outer with
    | zero =>
        rw [← Option.some.inj opens, skips] at spans
        cases spans
    | succ outer => exact others.inside opens spans isFound skipsToo (by omega) (by omega)

/-- A statement may come first that skips others, up to more that follow. -/
theorem opened (inner : Laminar (start + 1) body)
    (skips : statement.skipsTo? = some (start + 1 + body.length))
    (others : Laminar (start + 1 + body.length) rest) (goesOn : rest ≠ []) :
    Laminar start (statement :: (body ++ rest)) where
  ends {offset target found} isFound spans := by
    have some_rest := List.length_pos_iff.2 goesOn
    rw [List.length_cons, List.length_append]
    cases offset with
    | zero =>
        rw [← Option.some.inj isFound, skips] at spans
        cases spans
        omega
    | succ offset =>
        rw [List.getElem?_cons_succ] at isFound
        rcases Nat.lt_or_ge offset body.length with inBody | behind
        · rw [List.getElem?_append_left inBody] at isFound
          have before := inner.ends isFound spans
          omega
        · rw [List.getElem?_append_right behind] at isFound
          have before := others.ends isFound spans
          omega
  inside {outer place last target opening found} opens spans isFound skipsToo behind before := by
    obtain ⟨place, rfl⟩ := Nat.exists_eq_succ_of_ne_zero (Nat.ne_zero_of_lt behind)
    rw [List.getElem?_cons_succ] at isFound
    cases outer with
    | zero =>
        rw [← Option.some.inj opens, skips] at spans
        cases spans
        rw [List.getElem?_append_left (by omega)] at isFound
        exact inner.ends isFound skipsToo
    | succ outer =>
        rw [List.getElem?_cons_succ] at opens
        rcases Nat.lt_or_ge outer body.length with inBody | beyond
        · -- What is skipped from within the body lies in the body.
          rw [List.getElem?_append_left inBody] at opens
          have within := inner.ends opens spans
          rw [List.getElem?_append_left (by omega)] at isFound
          exact inner.inside opens spans isFound skipsToo (by omega) (by omega)
        · rw [List.getElem?_append_right beyond] at opens
          rw [List.getElem?_append_right (by omega)] at isFound
          exact others.inside opens spans isFound skipsToo (by omega) (by omega)

end Laminar

theorem Nested.laminar {start : Nat} {part : List Statement} (nested : Nested start part) :
    Laminar start part := by
  induction nested with
  | nil start => exact .nil start
  | plain alone others ih => exact ih.plain (Statement.skipsTo?_of_isPlain alone)
  | block pair inner others ihInner ihOthers =>
      exact ihInner.opened pair.skips.1 (ihOthers.plain pair.skips.2) (List.cons_ne_nil _ _)
  | @choice start condition body other rest inner second others ihInner ihSecond ihOthers =>
      have ending : Laminar (start + 1 + body.length + 1 + other.length) (.endBranch :: rest) :=
        ihOthers.plain rfl
      have half : Laminar (start + 1 + body.length)
          (.otherwise (start + 1 + body.length + 1 + other.length) ::
            (other ++ .endBranch :: rest)) :=
        ihSecond.opened rfl ending (List.cons_ne_nil _ _)
      exact ihInner.opened rfl half (List.cons_ne_nil _ _)

/-! ## Loops -/

namespace Script

variable {script : Script} {index place start close : Nat} {statement : Statement}

def loopEnd? (script : Script) (start : Nat) : Option Nat :=
  match script.statements[start]? with
  | some (.repeatLoop _ close) | some (.trackLoop _ close) => some close
  | _ => none

/-- Whether a place lies within the loop that begins at an index, its `Next` included. -/
def surrounds (script : Script) (place start : Nat) : Bool :=
  decide (start < place) && (script.loopEnd? start).any fun close => decide (place ≤ close)

theorem surrounds_iff : script.surrounds place start = true ↔
    start < place ∧ ∃ close, script.loopEnd? start = some close ∧ place ≤ close := by
  simp [surrounds, Option.any_eq_true]

theorem IsSound.loopEnd?_eq (sound : script.IsSound) (ends : script.loopEnd? start = some close) :
    (∃ opening, script.statements[start]? = some opening ∧ opening.skipsTo? = some close) ∧
      start < close ∧ script.statements[close]? = some (.next start) := by
  unfold loopEnd? at ends
  split at ends
  · next operand other opens =>
      cases ends
      exact ⟨⟨_, opens, rfl⟩, sound.closes start _ opens⟩
  · next operand other opens =>
      cases ends
      exact ⟨⟨_, opens, rfl⟩, sound.closes start _ opens⟩
  · cases ends

theorem IsSound.loopEnd?_of_next (sound : script.IsSound)
    (found : script.statements[index]? = some (.next start)) :
    start < index ∧ script.loopEnd? start = some index := by
  obtain ⟨before, operand, opens | opens⟩ := sound.closes index _ found
  · exact ⟨before, by rw [loopEnd?, opens]⟩
  · exact ⟨before, by rw [loopEnd?, opens]⟩

theorem IsSound.skips_ahead (sound : script.IsSound)
    (found : script.statements[index]? = some statement) {target : Nat}
    (skips : statement.skipsTo? = some target) : index < target := by
  have closes := sound.closes index statement found
  cases statement with
  | proc | branch | otherwise | repeatLoop | trackLoop =>
      cases skips
      exact closes.1
  | _ => cases skips

/-- Behind a statement one is still within the loops around it, unless it was the end of one. -/
theorem IsSound.surrounds_succ (sound : script.IsSound)
    (around : script.surrounds index start = true)
    (isOther : script.statements[index]? ≠ some (.next start)) :
    script.surrounds (index + 1) start = true := by
  obtain ⟨behind, close, ends, within⟩ := surrounds_iff.1 around
  refine surrounds_iff.2 ⟨by omega, close, ends, ?_⟩
  have apart : index ≠ close := by
    rintro rfl
    exact isOther (sound.loopEnd?_eq ends).2.2
  omega

theorem IsSound.surrounds_skipped (sound : script.IsSound)
    (around : script.surrounds index start = true)
    (found : script.statements[index]? = some statement) {target : Nat}
    (skips : statement.skipsTo? = some target) :
    script.surrounds (target + 1) start = true := by
  obtain ⟨behind, close, ends, within⟩ := surrounds_iff.1 around
  obtain ⟨⟨opening, opens, spans⟩, -, isNext⟩ := sound.loopEnd?_eq ends
  have apart : index ≠ close := by
    rintro rfl
    rw [Option.some.inj (found.symm.trans isNext)] at skips
    cases skips
  have inside := sound.nested.laminar.inside opens spans found skips behind (by omega)
  have ahead := sound.skips_ahead found skips
  exact surrounds_iff.2 ⟨by omega, close, ends, inside⟩

/-- At the end of a loop, no loop that begins later is around. -/
theorem IsSound.le_of_next (sound : script.IsSound)
    (found : script.statements[index]? = some (.next start)) {inner : Nat}
    (around : script.surrounds index inner = true) : inner ≤ start := by
  refine Nat.le_of_not_lt fun later => ?_
  obtain ⟨behind, last, ends, within⟩ := surrounds_iff.1 around
  obtain ⟨before, endsHere⟩ := sound.loopEnd?_of_next found
  obtain ⟨⟨opening, opens, spans⟩, -, -⟩ := sound.loopEnd?_eq endsHere
  obtain ⟨⟨inside, opensInside, spansInside⟩, -, -⟩ := sound.loopEnd?_eq ends
  have first := sound.nested.laminar.inside opens spans opensInside spansInside (by omega)
    (by omega)
  omega

/-- Whatever loop is around a place is around all places behind its beginning and before that. -/
theorem surrounds_between (around : script.surrounds place start = true) {between : Nat}
    (behind : start < between) (before : between ≤ place) :
    script.surrounds between start = true := by
  obtain ⟨-, close, ends, within⟩ := surrounds_iff.1 around
  exact surrounds_iff.2 ⟨behind, close, ends, by omega⟩

/-! ## Depth -/

/-- How many loops that begin before an index are around a place. -/
def enclosing (script : Script) (place limit : Nat) : Nat :=
  (List.range limit).countP (script.surrounds place)

def loopDepth (script : Script) : Nat :=
  ((List.range script.statements.length).map fun place => script.enclosing place place).max?.getD 0

/-- A loop around a place is one more than those that begin before it. -/
theorem enclosing_lt {limit : Nat} (around : script.surrounds place start = true)
    (before : start < limit) : script.enclosing place start < script.enclosing place limit := by
  have one_more : script.enclosing place (start + 1) = script.enclosing place start + 1 := by
    rw [enclosing, List.range_succ, List.countP_append, List.countP_singleton, if_pos around,
      enclosing]
  have sublist : (List.range (start + 1)).Sublist (List.range limit) := List.range_sublist.2 before
  have grows := sublist.countP_le (p := script.surrounds place)
  rw [enclosing, enclosing] at one_more
  rw [enclosing, enclosing]
  omega

theorem IsSound.enclosing_le (sound : script.IsSound) (place : Nat) :
    script.enclosing place place ≤ script.loopDepth := by
  by_cases inside : place < script.statements.length
  · exact List.le_max?_getD_of_mem (List.mem_map.2 ⟨place, List.mem_range.2 inside, rfl⟩)
  · -- No loop is around a place behind the last statement.
    have none_around : script.enclosing place place = 0 := by
      refine List.countP_eq_zero.2 fun start _ around => inside ?_
      obtain ⟨-, close, ends, within⟩ := surrounds_iff.1 around
      obtain ⟨there, -⟩ := List.getElem?_eq_some_iff.1 (sound.loopEnd?_eq ends).2.2
      omega
    omega

end Script

end Looper
