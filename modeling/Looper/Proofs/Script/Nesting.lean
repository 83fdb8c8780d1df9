import Looper.Script.Load

/-!
# Nested blocks

The statements of a script that could be read consist of whole blocks, one after
another and one within another.  The first statement of a block names the index
of the one that continues or closes it, and every other index in a statement is
that of a label or of the beginning of a proc.

Reading keeps an invariant: what has been read is a row of whole blocks, cut off
within the blocks that are still open.  `Script.IsSound` is what is left of it
when none is open.
-/

namespace Looper

/-! ## Blocks -/

namespace Statement

def isPlain : Statement → Bool
  | .proc .. | .endProc | .branch .. | .otherwise _ | .endBranch => false
  | .repeatLoop .. | .trackLoop .. | .next _ => false
  | _ => true

/-- The first and the last statement of a block, which name each other's index. -/
inductive Encloses (first last : Nat) : Statement → Statement → Prop where
  | proc (name : String) : Encloses first last (.proc name last) .endProc
  | branch (condition : Condition) : Encloses first last (.branch condition last) .endBranch
  | repeatLoop (count : String) : Encloses first last (.repeatLoop count last) (.next first)
  | trackLoop (tracks : String) : Encloses first last (.trackLoop tracks last) (.next first)

end Statement

/-- Statements that lie from an index on and form whole blocks. -/
inductive Nested : Nat → List Statement → Prop where
  | nil (start : Nat) : Nested start []
  | plain {start : Nat} {statement : Statement} {rest : List Statement}
      (alone : statement.isPlain = true) (others : Nested (start + 1) rest) :
      Nested start (statement :: rest)
  | block {start : Nat} {first last : Statement} {body rest : List Statement}
      (pair : Statement.Encloses start (start + 1 + body.length) first last)
      (inner : Nested (start + 1) body)
      (others : Nested (start + 1 + body.length + 1) rest) :
      Nested start (first :: (body ++ last :: rest))
  | choice {start : Nat} {condition : Condition} {body other rest : List Statement}
      (inner : Nested (start + 1) body)
      (second : Nested (start + 1 + body.length + 1) other)
      (others : Nested (start + 1 + body.length + 1 + other.length + 1) rest) :
      Nested start
        (.branch condition (start + 1 + body.length) ::
          (body ++ .otherwise (start + 1 + body.length + 1 + other.length) ::
            (other ++ .endBranch :: rest)))

theorem Nested.append {start : Nat} {front back : List Statement} (first : Nested start front)
    (second : Nested (start + front.length) back) : Nested start (front ++ back) := by
  induction first with
  | nil start => exact second
  | @plain start statement rest alone others ih =>
      refine .plain alone (ih ?_)
      rw [List.length_cons] at second
      rwa [show start + 1 + rest.length = start + (rest.length + 1) by omega]
  | @block start opening closing body rest pair inner others _ ih =>
      have behind : Nested (start + 1 + body.length + 1 + rest.length) back := by
        simp only [List.length_cons, List.length_append] at second
        rwa [show start + 1 + body.length + 1 + rest.length =
          start + (body.length + (rest.length + 1) + 1) by omega]
      have whole := Nested.block pair inner (ih behind)
      rwa [List.cons_append, List.append_assoc, List.cons_append]
  | @choice start condition body other rest inner within others _ _ ih =>
      have behind : Nested
          (start + 1 + body.length + 1 + other.length + 1 + rest.length) back := by
        simp only [List.length_cons, List.length_append] at second
        rwa [show start + 1 + body.length + 1 + other.length + 1 + rest.length =
          start + (body.length + (other.length + (rest.length + 1) + 1) + 1) by omega]
      have whole := @Nested.choice start condition _ _ _ inner within (ih behind)
      simpa only [List.cons_append, List.append_assoc] using whole

/-! ## Where the indices lead -/

/-- Statements that lie within others from an index on. -/
def Placed (whole : List Statement) (start : Nat) (part : List Statement) : Prop :=
  ∀ (offset : Nat) (statement : Statement), part[offset]? = some statement →
    whole[start + offset]? = some statement

theorem placed_self (whole : List Statement) : Placed whole 0 whole := by
  intro offset statement found
  rwa [Nat.zero_add]

theorem Placed.head {whole rest : List Statement} {start : Nat} {statement : Statement}
    (placed : Placed whole start (statement :: rest)) : whole[start]? = some statement :=
  placed 0 statement rfl

theorem Placed.tail {whole rest : List Statement} {start : Nat} {statement : Statement}
    (placed : Placed whole start (statement :: rest)) : Placed whole (start + 1) rest := by
  intro offset other found
  have there := placed (offset + 1) other found
  rwa [show start + 1 + offset = start + (offset + 1) by omega]

theorem Placed.left {whole front back : List Statement} {start : Nat}
    (placed : Placed whole start (front ++ back)) : Placed whole start front := by
  intro offset statement found
  obtain ⟨within, _⟩ := List.getElem?_eq_some_iff.1 found
  exact placed offset statement ((List.getElem?_append_left within).trans found)

theorem Placed.right {whole front back : List Statement} {start : Nat}
    (placed : Placed whole start (front ++ back)) :
    Placed whole (start + front.length) back := by
  intro offset statement found
  have there : (front ++ back)[front.length + offset]? = some statement := by
    rw [List.getElem?_append_right (Nat.le_add_right _ _), Nat.add_sub_cancel_left]
    exact found
  have inWhole := placed _ statement there
  rwa [Nat.add_assoc]

namespace Statement

/-- A statement of a block, at an index, leads to the statement that goes on with the block. -/
def Closes (statements : List Statement) (index : Nat) : Statement → Prop
  | .proc _ close => index < close ∧ statements[close]? = some .endProc
  | .branch _ target =>
      index < target ∧ (statements[target]? = some .endBranch ∨
        ∃ close, statements[target]? = some (.otherwise close))
  | .otherwise close => index < close ∧ statements[close]? = some .endBranch
  | .repeatLoop _ close => index < close ∧ statements[close]? = some (.next index)
  | .trackLoop _ close => index < close ∧ statements[close]? = some (.next index)
  | .next start => start < index ∧ ∃ operand,
      statements[start]? = some (.repeatLoop operand index) ∨
        statements[start]? = some (.trackLoop operand index)
  | _ => True

/-- The other indices in a statement lead to a label or to the beginning of a proc. -/
def Refers (statements : List Statement) : Statement → Prop
  | .jump target => ∃ name kind, statements[target]? = some (.label name kind)
  | .call (.proc start) _ => ∃ name close, statements[start]? = some (.proc name close)
  | .warp start => ∃ name close, statements[start]? = some (.proc name close)
  | _ => True

theorem closes_of_isPlain {statements : List Statement} {index : Nat} {statement : Statement}
    (alone : statement.isPlain = true) : statement.Closes statements index := by
  cases statement <;> trivial

theorem Encloses.closes {statements : List Statement} {start close : Nat}
    {opening closing : Statement} (pair : Encloses start close opening closing)
    (ordered : start < close) (opens : statements[start]? = some opening)
    (ends : statements[close]? = some closing) :
    opening.Closes statements start ∧ closing.Closes statements close := by
  cases pair with
  | proc name => exact ⟨⟨ordered, ends⟩, trivial⟩
  | branch condition => exact ⟨⟨ordered, .inl ends⟩, trivial⟩
  | repeatLoop count => exact ⟨⟨ordered, ends⟩, ordered, count, .inl opens⟩
  | trackLoop tracks => exact ⟨⟨ordered, ends⟩, ordered, tracks, .inr opens⟩

end Statement

/-- An element of a row with one statement in its middle is that statement or lies beside it. -/
theorem getElem?_around {front back : List Statement} {middle found : Statement} {offset : Nat}
    (at_offset : (front ++ middle :: back)[offset]? = some found) :
    front[offset]? = some found ∨ (offset = front.length ∧ found = middle) ∨
      ∃ behind, offset = front.length + 1 + behind ∧ back[behind]? = some found := by
  rcases Nat.lt_trichotomy offset front.length with before | same | after
  · left
    rwa [List.getElem?_append_left before] at at_offset
  · right
    left
    subst same
    rw [List.getElem?_append_right (Nat.le_refl _), Nat.sub_self] at at_offset
    exact ⟨rfl, (Option.some.inj at_offset).symm⟩
  · right
    right
    refine ⟨offset - (front.length + 1), by omega, ?_⟩
    rw [List.getElem?_append_right (by omega),
      show offset - front.length = offset - (front.length + 1) + 1 by omega,
      List.getElem?_cons_succ] at at_offset
    exact at_offset

/-- In whole blocks, every statement leads to where its block goes on. -/
theorem Nested.closes {start : Nat} {part whole : List Statement} (nested : Nested start part)
    (placed : Placed whole start part) {offset : Nat} {statement : Statement}
    (found : part[offset]? = some statement) : statement.Closes whole (start + offset) := by
  induction nested generalizing offset with
  | nil start => simp at found
  | @plain start first rest alone others ih =>
      cases offset with
      | zero =>
          have isFirst : first = statement := Option.some.inj found
          subst isFirst
          exact Statement.closes_of_isPlain alone
      | succ offset =>
          have behind := ih placed.tail found
          rwa [show start + (offset + 1) = start + 1 + offset by omega]
  | @block start first last body rest pair inner others ihInner ihOthers =>
      have ends : Placed whole (start + 1 + body.length) (last :: rest) := placed.tail.right
      have both := pair.closes (by omega) placed.head ends.head
      cases offset with
      | zero =>
          have isFirst : first = statement := Option.some.inj found
          subst isFirst
          exact both.1
      | succ offset =>
          rw [List.getElem?_cons_succ] at found
          rcases getElem?_around found with inBody | ⟨isLast, same⟩ | ⟨behind, isBehind, inRest⟩
          · have within := ihInner placed.tail.left inBody
            rwa [show start + (offset + 1) = start + 1 + offset by omega]
          · subst same
            rw [show start + (offset + 1) = start + 1 + body.length by omega]
            exact both.2
          · have later := ihOthers ends.tail inRest
            rwa [show start + (offset + 1) = start + 1 + body.length + 1 + behind by omega]
  | @choice start condition body other rest inner second others ihInner ihSecond ihOthers =>
      have middle : Placed whole (start + 1 + body.length)
          (.otherwise (start + 1 + body.length + 1 + other.length) ::
            (other ++ .endBranch :: rest)) := placed.tail.right
      have ends : Placed whole (start + 1 + body.length + 1 + other.length)
          (.endBranch :: rest) := middle.tail.right
      cases offset with
      | zero =>
          have isFirst := Option.some.inj found
          subst isFirst
          exact ⟨by omega, .inr ⟨_, middle.head⟩⟩
      | succ offset =>
          rw [List.getElem?_cons_succ] at found
          rcases getElem?_around found with inBody | ⟨isElse, same⟩ | ⟨behind, isBehind, inOther⟩
          · have within := ihInner placed.tail.left inBody
            rwa [show start + (offset + 1) = start + 1 + offset by omega]
          · subst same
            rw [show start + (offset + 1) = start + 1 + body.length by omega]
            exact ⟨by omega, ends.head⟩
          · rw [show start + (offset + 1) = start + 1 + body.length + 1 + behind by omega]
            rcases getElem?_around inOther with inSecond | ⟨_, same⟩ | ⟨further, isFurther, inRest⟩
            · exact ihSecond middle.tail.left inSecond
            · subst same
              trivial
            · have later := ihOthers ends.tail inRest
              rwa [show start + 1 + body.length + 1 + behind =
                start + 1 + body.length + 1 + other.length + 1 + further by omega]

end Looper
