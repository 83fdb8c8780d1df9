/-!
# Patterns

A pattern describes a stretch of text and numbers parts of it as groups.  When there are
several ways to match, one is preferred: of two alternatives the first one, and of a stretch
of characters the longest one, unless what comes after it does not match then.  Searching a
text from left to right takes the first match that it meets, in the preferred way, and goes on
behind it.
-/

namespace Looper

inductive Pattern where
  /-- One character. -/
  | one (accepts : Char → Bool)
  /-- As many characters as there are, or fewer. -/
  | many (accepts : Char → Bool)
  | next (first second : Pattern)
  | either (first second : Pattern)
  | group (number : Nat) (inner : Pattern)

namespace Pattern

structure Match where
  written : List Char
  /-- What stands in groups, by their numbers. -/
  groups : List (Nat × List Char) := []
  rest : List Char
  deriving DecidableEq, Repr

namespace Match

def andThen (found more : Match) : Match where
  written := found.written ++ more.written
  groups := found.groups ++ more.groups
  rest := more.rest

def inGroup (number : Nat) (found : Match) : Match :=
  { found with groups := (number, found.written) :: found.groups }

def group? (found : Match) (number : Nat) : Option (List Char) :=
  found.groups.lookup number

end Match

/-- The stretches of characters at the front of a text, the longest one first. -/
def stretches (accepts : Char → Bool) : List Char → List Match
  | [] => [⟨[], [], []⟩]
  | c :: rest =>
      if accepts c then
        (stretches accepts rest).map (Match.andThen ⟨[c], [], rest⟩) ++ [⟨[], [], c :: rest⟩]
      else [⟨[], [], c :: rest⟩]

/-- The ways to match the front of a text, in the order of preference. -/
def ways : Pattern → List Char → List Match
  | one _, [] => []
  | one accepts, c :: rest => if accepts c then [⟨[c], [], rest⟩] else []
  | many accepts, s => stretches accepts s
  | next first second, s =>
      (first.ways s).flatMap fun found => (second.ways found.rest).map found.andThen
  | either first second, s => first.ways s ++ second.ways s
  | group number inner, s => (inner.ways s).map (Match.inGroup number)

def match? (pattern : Pattern) (s : List Char) : Option Match :=
  (pattern.ways s).head?

/-- A part of a text that has been searched. -/
inductive Segment where
  | skipped (c : Char)
  | found (found : Match)
  deriving DecidableEq, Repr

/--
How a search divides a text.  Empty matches are not provided for; a pattern that has one
somewhere divides no text that leads there.
-/
inductive Divides (pattern : Pattern) : List Char → List Segment → Prop where
  | done (nowhere : pattern.match? [] = none) : Divides pattern [] []
  | skipped {c : Char} {s : List Char} {segments : List Segment}
      (nowhere : pattern.match? (c :: s) = none) (more : Divides pattern s segments) :
      Divides pattern (c :: s) (.skipped c :: segments)
  | found {s : List Char} {found : Match} {segments : List Segment}
      (here : pattern.match? s = some found) (nonempty : found.written ≠ [])
      (more : Divides pattern found.rest segments) :
      Divides pattern s (.found found :: segments)

variable {pattern first second : Pattern} {s : List Char} {found : Match}

theorem Divides.unique {segments others : List Segment} (divides : pattern.Divides s segments)
    (others_divide : pattern.Divides s others) : segments = others := by
  induction divides generalizing others with
  | done nowhere =>
      cases others_divide with
      | done => rfl
      | found here => cases nowhere.symm.trans here
  | skipped nowhere more ih =>
      cases others_divide with
      | skipped _ others_more => rw [ih others_more]
      | found here => cases nowhere.symm.trans here
  | found here nonempty more ih =>
      cases others_divide with
      | done nowhere => cases nowhere.symm.trans here
      | skipped nowhere => cases nowhere.symm.trans here
      | found others_here _ others_more =>
          cases here.symm.trans others_here
          rw [ih others_more]

/-! ## The preferred match -/

theorem match?_either :
    (either first second).match? s = (first.match? s).or (second.match? s) := by
  rw [match?, ways, List.head?_append]
  rfl

theorem match?_group (number : Nat) :
    (group number pattern).match? s = (pattern.match? s).map (Match.inGroup number) := by
  rw [match?, ways, List.head?_map]
  rfl

theorem match?_next_of_none (nowhere : first.ways s = []) :
    (next first second).match? s = none := by
  rw [match?, ways, nowhere]
  rfl

theorem match?_one {accepts : Char → Bool} {c : Char} {rest : List Char} :
    (one accepts).match? (c :: rest) = if accepts c then some ⟨[c], [], rest⟩ else none := by
  rw [match?, ways]
  split <;> rfl

/-- There is no way back to another match of the first part if none of them can go on. -/
theorem match?_next {more : List Match} (isWays : first.ways s = found :: more)
    (stuck : ∀ other ∈ more, second.ways other.rest = []) :
    (next first second).match? s = (second.match? found.rest).map found.andThen := by
  have no_more : (more.flatMap fun other => (second.ways other.rest).map other.andThen) = [] := by
    rw [List.flatMap_eq_nil_iff]
    intro other member
    rw [stuck other member, List.map_nil]
  rw [match?, ways, isWays, List.flatMap_cons, no_more, List.append_nil, List.head?_map]
  rfl

theorem match?_next_one {accepts : Char → Bool} {c : Char} {rest : List Char} :
    (next (one accepts) pattern).match? (c :: rest) =
      if accepts c then (pattern.match? rest).map (Match.andThen ⟨[c], [], rest⟩) else none := by
  split
  · next accepted =>
      have isWays : (one accepts).ways (c :: rest) = [⟨[c], [], rest⟩] := by
        rw [ways, if_pos accepted]
      exact match?_next isWays nofun
  · next refused => exact match?_next_of_none (by rw [ways, if_neg refused])

/-- The longest stretch is preferred, and the others stop before a character that belongs to it. -/
theorem ways_many (accepts : Char → Bool) (s : List Char) :
    ∃ more, (many accepts).ways s =
        ⟨s.takeWhile accepts, [], s.dropWhile accepts⟩ :: more ∧
      ∀ other ∈ more, ∃ c rest, other.rest = c :: rest ∧ accepts c = true := by
  rw [ways]
  induction s with
  | nil => exact ⟨[], rfl, nofun⟩
  | cons c rest ih =>
      obtain ⟨more, isWays, stop⟩ := ih
      rw [stretches]
      cases accepted : accepts c with
      | false =>
          refine ⟨[], ?_, nofun⟩
          rw [if_neg Bool.false_ne_true, List.takeWhile_cons_of_neg (by simp [accepted]),
            List.dropWhile_cons_of_neg (by simp [accepted])]
      | true =>
          refine ⟨more.map (Match.andThen ⟨[c], [], rest⟩) ++ [⟨[], [], c :: rest⟩], ?_, ?_⟩
          · rw [if_pos rfl, isWays, List.takeWhile_cons_of_pos accepted,
              List.dropWhile_cons_of_pos accepted]
            rfl
          · intro other member
            rcases List.mem_append.1 member with shorter | isEmpty
            · obtain ⟨inner, isInner, rfl⟩ := List.mem_map.1 shorter
              exact stop inner isInner
            · rw [List.mem_singleton.1 isEmpty]
              exact ⟨c, rest, rfl, accepted⟩

end Pattern

end Looper
