import Looper.Proofs.Script.Matching
import Looper.Proofs.Script.Naming

/-!
# Expanding a text in one pass

How a text with references is meant is written down three times here: as a grammar of its
parts, as a pattern that is searched for, and as what is done when the text is expanded.  All
three divide every text in the same way.  The caller is asked about each reference once, in the
order of the text, and what is answered is put in as it is.
-/

namespace Looper

namespace Reference

/-! ## The grammar -/

/-- What a dollar sign means before some text, and how much of that text is left. -/
inductive Introduces : List Char → TextPiece → List Char → Prop where
  | dollar (left : List Char) : Introduces ('$' :: left) .dollar left
  | parenthesized {name : List Char} (left : List Char) (named : isName name = true) :
      Introduces ('(' :: (name ++ ')' :: left))
        (.reference (.named (String.ofList name)) ("$(".toList ++ name ++ [')'])) left
  | argument {c : Char} (left : List Char) (digit : Text.isDigit c = true) :
      Introduces (c :: left) (.reference (.argument (Text.digitValue c)) ['$', c]) left
  | named {name left : List Char} (named : isName name = true)
      (longest : ∀ c ∈ left.head?, continuesName c = false) :
      Introduces (name ++ left) (.reference (.named (String.ofList name)) ('$' :: name)) left
  | alone {rest : List Char}
      (plain : ∀ c ∈ rest.head?, c ≠ '$' ∧ Text.isDigit c = false ∧ startsName c = false)
      (noName : ∀ name left, isName name = true → rest ≠ '(' :: (name ++ ')' :: left)) :
      Introduces rest (.plain '$') rest

/-- The parts of a text, from left to right. -/
inductive Written : List Char → List TextPiece → Prop where
  | done : Written [] []
  | plain {c : Char} {s : List Char} {pieces : List TextPiece} (other : c ≠ '$')
      (more : Written s pieces) : Written (c :: s) (.plain c :: pieces)
  | sign {rest left : List Char} {piece : TextPiece} {pieces : List TextPiece}
      (introduces : Introduces rest piece left) (more : Written left pieces) :
      Written ('$' :: rest) (piece :: pieces)

variable {s rest name left : List Char}

theorem name?_eq_some_iff :
    name? s = some (name, left) ↔
      isName name = true ∧ s = name ++ left ∧ ∀ c ∈ left.head?, continuesName c = false := by
  constructor
  · intro found
    cases s with
    | nil => cases found
    | cons c rest =>
        rw [name?] at found
        split at found
        · next starts =>
            cases found
            refine ⟨?_, ?_, ?_⟩
            · rw [isName, starts, Bool.true_and]
              exact List.all_takeWhile
            · rw [List.cons_append, List.takeWhile_append_dropWhile]
            · intro c isHead
              have stops := List.head?_dropWhile_not continuesName rest
              rw [Option.mem_def.1 isHead] at stops
              simpa using stops
        · cases found
  · rintro ⟨named, rfl, longest⟩
    cases name with
    | nil => cases named
    | cons c rest =>
        rw [isName, Bool.and_eq_true, List.all_eq_true] at named
        obtain ⟨starts, continues⟩ := named
        -- What is left does not begin with a character that would make the name longer.
        have no_more :
            left.takeWhile continuesName = [] ∧ left.dropWhile continuesName = left := by
          cases left with
          | nil => exact ⟨rfl, rfl⟩
          | cons d left =>
              have stops : ¬ continuesName d = true := by simp [longest d rfl]
              exact ⟨List.takeWhile_cons_of_neg stops, List.dropWhile_cons_of_neg stops⟩
        rw [List.cons_append, name?, if_pos starts, List.takeWhile_append_of_pos continues,
          List.dropWhile_append_of_pos continues, no_more.1, no_more.2, List.append_nil]

/-- A parenthesis does not continue a name, so it is the longest name that is enclosed. -/
theorem parenthesized?_eq_some_iff :
    parenthesized? s = some (name, left) ↔
      isName name = true ∧ s = '(' :: (name ++ ')' :: left) := by
  constructor
  · intro found
    unfold parenthesized? at found
    split at found
    · split at found
      · next split =>
          cases found
          obtain ⟨named, rfl, -⟩ := name?_eq_some_iff.1 split
          exact ⟨named, rfl⟩
      · cases found
    · cases found
  · rintro ⟨named, rfl⟩
    have found : name? (name ++ ')' :: left) = some (name, ')' :: left) :=
      name?_eq_some_iff.2 ⟨named, rfl, by rintro c ⟨⟩; decide⟩
    simp only [parenthesized?, found]

theorem parenthesized?_eq_none
    (noName : ∀ name left, isName name = true → s ≠ '(' :: (name ++ ')' :: left)) :
    parenthesized? s = none := by
  rw [Option.eq_none_iff_forall_ne_some]
  intro (name, left) found
  obtain ⟨named, same⟩ := parenthesized?_eq_some_iff.1 found
  exact noName name left named same

theorem parenthesized?_of_ne {c : Char} (noParenthesis : c ≠ '(') :
    parenthesized? (c :: rest) = none :=
  parenthesized?_eq_none fun _ _ _ same => noParenthesis (List.cons.inj same).1

theorem name?_eq_none_iff : name? s = none ↔ ∀ c ∈ s.head?, startsName c = false := by
  cases s with
  | nil => simp [name?]
  | cons c rest => simp [name?]

theorem afterDollar_cons {c : Char} (noDollar : c ≠ '$') (noParenthesis : c ≠ '(') :
    afterDollar (c :: rest) =
      if Text.isDigit c then (.reference (.argument (Text.digitValue c)) ['$', c], rest)
      else
        ((name? (c :: rest)).map fun named =>
          (.reference (.named (String.ofList named.1)) ('$' :: named.1), named.2)).getD
          (.plain '$', c :: rest) := by
  rw [afterDollar]
  · rw [parenthesized?_of_ne noParenthesis]
    cases name? (c :: rest) <;> rfl
  · exact fun _ same => noDollar (List.cons.inj same).1

theorem ne_of_startsName {c : Char} (starts : startsName c = true) : c ≠ '$' ∧ c ≠ '(' := by
  constructor <;> rintro rfl <;> cases starts

theorem ne_of_isDigit {c : Char} (digit : Text.isDigit c = true) : c ≠ '$' ∧ c ≠ '(' := by
  constructor <;> rintro rfl <;> cases digit

theorem afterDollar_of_introduces {piece : TextPiece} (introduces : Introduces rest piece left) :
    afterDollar rest = (piece, left) := by
  cases introduces with
  | dollar => rfl
  | @parenthesized name left named =>
      have found : parenthesized? ('(' :: (name ++ ')' :: left)) = some (name, left) :=
        parenthesized?_eq_some_iff.2 ⟨named, rfl⟩
      rw [afterDollar]
      · simp only [found]
      · exact fun _ same => absurd (List.cons.inj same).1 (by decide)
  | @argument c left digit =>
      obtain ⟨noDollar, noParenthesis⟩ := ne_of_isDigit digit
      rw [afterDollar_cons noDollar noParenthesis, if_pos digit]
  | @named name left named longest =>
      have found := name?_eq_some_iff.2 ⟨named, rfl, longest⟩
      cases name with
      | nil => cases named
      | cons c name =>
          have starts : startsName c = true := (Bool.and_eq_true_iff.1 named).1
          obtain ⟨noDollar, noParenthesis⟩ := ne_of_startsName starts
          rw [List.cons_append] at found ⊢
          rw [afterDollar_cons noDollar noParenthesis, isDigit_of_startsName starts, found]
          rfl
  | alone plain noName =>
      have notNamed : name? rest = none :=
        name?_eq_none_iff.2 fun c isHead => (plain c isHead).2.2
      cases rest with
      | nil => rfl
      | cons c rest =>
          obtain ⟨noDollar, noDigit, -⟩ := plain c rfl
          rw [afterDollar]
          · simp only [parenthesized?_eq_none noName, noDigit, notNamed, Bool.false_eq_true,
              if_false]
          · exact fun _ same => noDollar (List.cons.inj same).1

theorem introduces_afterDollar (rest : List Char) :
    Introduces rest (afterDollar rest).1 (afterDollar rest).2 := by
  unfold afterDollar
  split
  · exact .dollar _
  · next noDollar =>
      split
      · next name left found =>
          obtain ⟨named, rfl⟩ := parenthesized?_eq_some_iff.1 found
          exact .parenthesized left named
      · next notParenthesized =>
          have noName (name left : List Char) (named : isName name = true) :
              rest ≠ '(' :: (name ++ ')' :: left) := by
            intro same
            rw [parenthesized?_eq_some_iff.2 ⟨named, same⟩] at notParenthesized
            cases notParenthesized
          split
          · next c left =>
              split
              · next digit => exact .argument left digit
              · next noDigit =>
                  split
                  · next name left found =>
                      obtain ⟨named, same, longest⟩ := name?_eq_some_iff.1 found
                      rw [same]
                      exact .named named longest
                  · next notNamed =>
                      refine .alone ?_ noName
                      rintro c ⟨⟩
                      exact ⟨fun isDollar => noDollar left (by rw [isDollar]),
                        Bool.eq_false_iff.2 noDigit, name?_eq_none_iff.1 notNamed c rfl⟩
          · exact .alone nofun noName

theorem introduces_iff {piece : TextPiece} :
    Introduces rest piece left ↔ afterDollar rest = (piece, left) := by
  refine ⟨afterDollar_of_introduces, fun same => ?_⟩
  have introduces := introduces_afterDollar rest
  rwa [same] at introduces

/-- A text has one division into parts, and scanning finds it. -/
theorem written_iff_scan {pieces : List TextPiece} : Written s pieces ↔ scan s = pieces := by
  constructor
  · intro written
    induction written with
    | done => rw [scan]
    | plain other more ih => rw [scan, if_neg other, ih]
    | sign introduces more ih =>
        rw [scan, if_pos rfl, introduces_iff.1 introduces, ih]
  · rintro rfl
    fun_induction scan s with
    | case1 => exact .done
    | case2 rest ih => exact .sign (introduces_afterDollar rest) ih
    | case3 c rest other ih => exact .plain other ih

/-! ## The pattern -/

def namePattern : Pattern :=
  .next (.one startsName) (.many continuesName)

def enclosedPattern : Pattern :=
  .next (.one (· == '(')) (.next (.group 2 namePattern) (.one (· == ')')))

/--
A dollar sign and what it can refer to.  The groups are a second dollar sign, a name in
parentheses, a digit and a name.
-/
def pattern : Pattern :=
  .next (.one (· == '$'))
    (.either (.group 1 (.one (· == '$')))
      (.either enclosedPattern
        (.either (.group 3 (.one Text.isDigit)) (.group 4 namePattern))))

/-- What a match stands for, told from its groups. -/
def meaning? (found : Pattern.Match) : Option TextPiece :=
  if (found.group? 1).isSome then some .dollar
  else
    match found.group? 3 with
    | some digit =>
        some (.reference (.argument ((Text.digits? digit).getD 0)) found.written)
    | none =>
        ((found.group? 2).or (found.group? 4)).map fun name =>
          .reference (.named (String.ofList name)) found.written

def meaningOf : Pattern.Segment → List TextPiece
  | .skipped c => [.plain c]
  | .found found => (meaning? found).toList

open Pattern

/-- A name can end earlier, but then it is continued by what comes next. -/
theorem ways_namePattern (isName : name? s = some (name, left)) :
    ∃ more, namePattern.ways s = ⟨name, [], left⟩ :: more ∧
      ∀ other ∈ more, ∃ c rest, other.rest = c :: rest ∧ continuesName c = true := by
  cases s with
  | nil => cases isName
  | cons c rest =>
      rw [name?] at isName
      split at isName
      · next starts =>
          cases isName
          obtain ⟨more, isWays, stop⟩ := ways_many continuesName rest
          refine ⟨more.map (Match.andThen ⟨[c], [], rest⟩), ?_, ?_⟩
          · rw [namePattern, ways, ways, if_pos starts, List.flatMap_singleton, isWays]
            rfl
          · intro other member
            obtain ⟨inner, isInner, rfl⟩ := List.mem_map.1 member
            exact stop inner isInner
      · cases isName

theorem ways_namePattern_of_none (notNamed : name? s = none) : namePattern.ways s = [] := by
  cases s with
  | nil => rfl
  | cons c rest =>
      have noStart := name?_eq_none_iff.1 notNamed c rfl
      rw [namePattern, ways, ways, if_neg (by simp [noStart])]
      rfl

theorem match?_namePattern :
    namePattern.match? s = (name? s).map fun named => ⟨named.1, [], named.2⟩ := by
  rw [match?]
  cases isName : name? s with
  | none =>
      rw [ways_namePattern_of_none isName]
      rfl
  | some named =>
      obtain ⟨more, isWays, -⟩ := ways_namePattern isName
      rw [isWays]
      rfl

/-- Only the longest name can be followed by a parenthesis. -/
theorem match?_closedName (isName : name? s = some (name, left)) :
    (Pattern.next (.group 2 namePattern) (.one (· == ')'))).match? s =
      ((Pattern.one (· == ')')).match? left).map
        (Match.andThen ⟨name, [(2, name)], left⟩) := by
  obtain ⟨more, isWays, stop⟩ := ways_namePattern isName
  have grouped : (Pattern.group 2 namePattern).ways s =
      ⟨name, [(2, name)], left⟩ :: more.map (Match.inGroup 2) := by
    rw [ways, isWays]
    rfl
  apply match?_next grouped
  intro other member
  obtain ⟨inner, isInner, rfl⟩ := List.mem_map.1 member
  obtain ⟨c, tail, isRest, continues⟩ := stop inner isInner
  have notClosed : ¬ (c == ')') = true := by
    rw [beq_iff_eq]
    rintro rfl
    cases continues
  rw [Match.inGroup, isRest, ways, if_neg notClosed]

theorem match?_enclosedPattern :
    enclosedPattern.match? s = (parenthesized? s).map fun enclosed =>
      ⟨'(' :: (enclosed.1 ++ [')']), [(2, enclosed.1)], enclosed.2⟩ := by
  cases s with
  | nil => rfl
  | cons c rest =>
      rw [enclosedPattern, match?_next_one]
      by_cases opens : c = '('
      · subst opens
        rw [if_pos (beq_self_eq_true _)]
        cases isName : name? rest with
        | none =>
            have nowhere : (Pattern.group 2 namePattern).ways rest = [] := by
              rw [ways, ways_namePattern_of_none isName, List.map_nil]
            rw [match?_next_of_none nowhere]
            simp only [parenthesized?, isName, Option.map_none]
        | some named =>
            obtain ⟨name, left⟩ := named
            rw [match?_closedName isName]
            cases left with
            | nil =>
                simp only [parenthesized?, isName]
                rfl
            | cons d tail =>
                rw [match?_one, parenthesized?, isName]
                by_cases closes : d = ')'
                · subst closes
                  rfl
                · rw [if_neg (by simpa using closes)]
                  split
                  · next same => exact absurd (List.cons.inj (Prod.mk.inj
                      (Option.some.inj same)).2).1 closes
                  · rfl
      · rw [if_neg (by simpa using opens), parenthesized?]
        · rfl
        · exact fun _ same => opens (List.cons.inj same).1

/-- The alternatives behind a dollar sign, in their order. -/
theorem match?_pattern :
    pattern.match? ('$' :: rest) =
      ((((Pattern.one (· == '$')).match? rest).map (Match.inGroup 1)).or
        (((parenthesized? rest).map fun enclosed =>
            ⟨'(' :: (enclosed.1 ++ [')']), [(2, enclosed.1)], enclosed.2⟩).or
          ((((Pattern.one Text.isDigit).match? rest).map (Match.inGroup 3)).or
            ((name? rest).map fun named => ⟨named.1, [(4, named.1)], named.2⟩)))).map
        (Match.andThen ⟨['$'], [], rest⟩) := by
  rw [pattern, match?_next_one, if_pos (beq_self_eq_true _), match?_either, match?_either,
    match?_either, match?_group, match?_group, match?_group, match?_enclosedPattern,
    match?_namePattern, Option.map_map]
  rfl

theorem match?_pattern_of_ne {c : Char} (other : c ≠ '$') :
    pattern.match? (c :: rest) = none := by
  rw [pattern, match?_next_one, if_neg (by simpa using other)]

/-- A search meets a match at a dollar sign just if the sign does not stand for itself. -/
theorem match?_of_introduces {piece : TextPiece} (introduces : Introduces rest piece left) :
    (pattern.match? ('$' :: rest) = none ∧ piece = .plain '$' ∧ left = rest) ∨
      ∃ found, pattern.match? ('$' :: rest) = some found ∧ found.written ≠ [] ∧
        found.rest = left ∧ meaning? found = some piece := by
  rw [match?_pattern]
  cases introduces with
  | dollar => exact .inr ⟨⟨['$', '$'], [(1, ['$'])], left⟩, rfl, List.cons_ne_nil _ _, rfl, rfl⟩
  | @parenthesized name left named =>
      have enclosed : parenthesized? ('(' :: (name ++ ')' :: left)) = some (name, left) :=
        parenthesized?_eq_some_iff.2 ⟨named, rfl⟩
      rw [enclosed]
      exact .inr ⟨⟨'$' :: '(' :: (name ++ [')']), [(2, name)], left⟩, rfl,
        List.cons_ne_nil _ _, rfl, rfl⟩
  | @argument c left digit =>
      obtain ⟨noDollar, noParenthesis⟩ := ne_of_isDigit digit
      rw [parenthesized?_of_ne noParenthesis, match?_one, match?_one, if_pos digit,
        if_neg (by simpa using noDollar)]
      refine .inr ⟨⟨['$', c], [(3, [c])], left⟩, rfl, List.cons_ne_nil _ _, rfl, ?_⟩
      have value : Text.digits? [c] = some (Text.digitValue c) := by
        simp [Text.digits?, Text.digitsValue, digit]
      simp [meaning?, Match.group?, value]
  | @named name left named longest =>
      have found := name?_eq_some_iff.2 ⟨named, rfl, longest⟩
      cases name with
      | nil => cases named
      | cons c name =>
          have starts : startsName c = true := (Bool.and_eq_true_iff.1 named).1
          obtain ⟨noDollar, noParenthesis⟩ := ne_of_startsName starts
          rw [found, List.cons_append, parenthesized?_of_ne noParenthesis, match?_one, match?_one,
            if_neg (by simpa using noDollar), if_neg (by simp [isDigit_of_startsName starts])]
          exact .inr ⟨⟨'$' :: c :: name, [(4, c :: name)], left⟩, rfl,
            List.cons_ne_nil _ _, rfl, rfl⟩
  | alone plain noName =>
      have notNamed : name? rest = none :=
        name?_eq_none_iff.2 fun c isHead => (plain c isHead).2.2
      rw [parenthesized?_eq_none noName, notNamed]
      refine .inl ⟨?_, rfl, rfl⟩
      cases rest with
      | nil => rfl
      | cons c rest =>
          obtain ⟨noDollar, noDigit, -⟩ := plain c rfl
          rw [match?_one, match?_one, if_neg (by simpa using noDollar),
            if_neg (by simp [noDigit])]
          rfl

/-- A search divides every text, and into the parts that are written there. -/
theorem divides_scan (s : List Char) :
    ∃ segments, pattern.Divides s segments ∧ segments.flatMap meaningOf = scan s := by
  fun_induction scan s with
  | case1 => exact ⟨[], .done rfl, rfl⟩
  | case2 rest ih =>
      -- A sign that stands for itself is skipped; another one is found with all that it takes.
      obtain ⟨segments, divides, means⟩ := ih
      rcases match?_of_introduces (introduces_afterDollar rest) with
        ⟨nowhere, isPlain, isRest⟩ | ⟨found, here, nonempty, isRest, isMeaning⟩
      · rw [isRest] at divides
        refine ⟨.skipped '$' :: segments, .skipped nowhere divides, ?_⟩
        rw [List.flatMap_cons, means, isPlain]
        rfl
      · rw [← isRest] at divides
        refine ⟨.found found :: segments, .found here nonempty divides, ?_⟩
        rw [List.flatMap_cons, means, meaningOf, isMeaning]
        rfl
  | case3 c rest other ih =>
      obtain ⟨segments, divides, means⟩ := ih
      refine ⟨.skipped c :: segments, .skipped (match?_pattern_of_ne other) divides, ?_⟩
      rw [List.flatMap_cons, means]
      rfl

/-! ## Asking and putting in -/

def questions (pieces : List TextPiece) : List (Reference × List Char) :=
  pieces.filterMap fun piece =>
    match piece with
    | .reference reference written => some (reference, written)
    | _ => none

def fill : List TextPiece → List String → List Char
  | .plain c :: more, values => c :: fill more values
  | .dollar :: more, values => '$' :: fill more values
  | .reference _ _ :: more, value :: values => value.toList ++ fill more values
  | _, _ => []

def doubled (text : String) : String :=
  String.ofList (text.toList.flatMap fun c => if c = '$' then ['$', '$'] else [c])

section

variable {m : Type → Type} [Monad m] [MonadLiftT Logged m]

/-- Ask about a reference once.  One that refers to nothing known is reported and left out. -/
def answer (resolve : Reference → m (Option String)) (question : Reference × List Char) :
    m String := do
  match ← resolve question.1 with
  | some value => return value
  | none => do
      Log.warn .scripts s!"unresolved reference {String.ofList question.2}"
      return ""

variable [LawfulMonad m] (resolve : Reference → m (Option String))

theorem expandPiece_reference (reference : Reference) (written : List Char) :
    expandPiece resolve (.reference reference written) =
      String.toList <$> answer resolve (reference, written) := by
  rw [expandPiece, answer, map_bind]
  congr 1
  funext found
  cases found <;> simp

/-- Expanding asks about the references one after another and does nothing else. -/
theorem expandPieces_eq (pieces : List TextPiece) :
    expandPieces resolve pieces =
      fill pieces <$> (questions pieces).mapM (answer resolve) := by
  induction pieces with
  | nil => simp [expandPieces, questions, fill]
  | cons piece more ih =>
      rw [expandPieces, ih]
      cases piece with
      | plain c => simp [expandPiece, questions, fill]
      | dollar => simp [expandPiece, questions, fill]
      | reference reference written =>
          have asks : questions (.reference reference written :: more) =
              (reference, written) :: questions more := rfl
          rw [expandPiece_reference, asks, List.mapM_cons]
          simp [fill]

/-! ## Texts without references -/

def literal (c : Char) : TextPiece :=
  if c = '$' then .dollar else .plain c

theorem questions_literal (s : List Char) : questions (s.map literal) = [] := by
  rw [questions, List.filterMap_eq_nil_iff]
  intro piece member
  obtain ⟨c, -, rfl⟩ := List.mem_map.1 member
  by_cases isDollar : c = '$' <;> simp [literal, isDollar]

theorem fill_literal (s : List Char) (values : List String) : fill (s.map literal) values = s := by
  induction s with
  | nil => rfl
  | cons c rest ih =>
      rw [List.map_cons, literal]
      split
      · next isDollar => rw [fill, ih, isDollar]
      · rw [fill, ih]

theorem written_of_noDollar (noDollar : '$' ∉ s) : Written s (s.map literal) := by
  induction s with
  | nil => exact .done
  | cons c rest ih =>
      rw [List.mem_cons, not_or] at noDollar
      have other : c ≠ '$' := Ne.symm noDollar.1
      rw [List.map_cons, literal, if_neg other]
      exact .plain other (ih noDollar.2)

theorem written_doubled (s : List Char) :
    Written (s.flatMap fun c => if c = '$' then ['$', '$'] else [c]) (s.map literal) := by
  induction s with
  | nil => exact .done
  | cons c rest ih =>
      rw [List.flatMap_cons, List.map_cons, literal]
      split
      · exact .sign (.dollar _) ih
      · next other => exact .plain other ih

theorem expandWith_literal {text : String}
    (written : Written text.toList (s.map literal)) :
    expandWith resolve text = pure (String.ofList s) := by
  rw [expandWith, written_iff_scan.1 written, expandPieces_eq, questions_literal]
  simp [fill_literal]

/--
A text has one division into parts, which is also found by searching for the pattern.  It is
expanded by asking once about each reference, in the order of the text, and putting the answers
in as they are, whatever they are.  A text without dollar signs comes back as it is, and so
does any text whose dollar signs have been doubled; then nothing is asked at all.
-/
theorem expands_in_one_pass (text : String) :
    (∃ pieces, Written text.toList pieces ∧
      (∀ others, Written text.toList others → others = pieces) ∧
      (∃ segments, pattern.Divides text.toList segments ∧
        (∀ others, pattern.Divides text.toList others → others = segments) ∧
        segments.flatMap meaningOf = pieces) ∧
      (questions pieces).map Prod.fst = allIn text ∧
      expandWith resolve text = (fun values => String.ofList (fill pieces values)) <$>
        (questions pieces).mapM (answer resolve)) ∧
    ('$' ∉ text.toList → expandWith resolve text = pure text) ∧
    expandWith resolve (doubled text) = pure text := by
  refine ⟨⟨scan text.toList, written_iff_scan.2 rfl, ?_, ?_, ?_, ?_⟩, ?_, ?_⟩
  · exact fun others written => (written_iff_scan.1 written).symm
  · obtain ⟨segments, divides, means⟩ := divides_scan text.toList
    exact ⟨segments, divides, fun others othersDivide => othersDivide.unique divides, means⟩
  · rw [questions, allIn, List.map_filterMap]
    congr 1
    funext piece
    cases piece <;> rfl
  · rw [expandWith, expandPieces_eq]
    simp
  · intro noDollar
    rw [expandWith_literal resolve (written_of_noDollar noDollar), String.ofList_toList]
  · have written : Written (doubled text).toList (text.toList.map literal) := by
      rw [doubled, String.toList_ofList]
      exact written_doubled text.toList
    rw [expandWith_literal resolve written, String.ofList_toList]

end

/-- Answers with dollar signs in them, and keeps a list of what it was asked about. -/
def recorder (reference : Reference) : StateT (List Reference) Logged (Option String) := do
  modify (· ++ [reference])
  match reference with
  | .argument position => return if position = 0 then none else some "$1"
  | .named name => return if name = "price" then some "$$" else none

theorem written_price : Written "$$1 $2$(price)s $x$0$".toList
    [.dollar, .plain '1', .plain ' ', .reference (.argument 2) ['$', '2'],
      .reference (.named "price") "$(price)".toList, .plain 's', .plain ' ',
      .reference (.named "x") ['$', 'x'], .reference (.argument 0) ['$', '0'],
      .plain '$'] := by
  refine .sign (.dollar _) (.plain (by decide) (.plain (by decide) ?_))
  refine .sign (.argument _ rfl) (.sign (@Introduces.parenthesized "price".toList _ rfl) ?_)
  refine .plain (by decide) (.plain (by decide) ?_)
  refine .sign (@Introduces.named ['x'] _ rfl (by rintro c ⟨⟩; rfl)) ?_
  exact .sign (.argument _ rfl) (.sign (.alone nofun nofun) .done)

/-- It is asked from left to right; and a text without dollar signs asks nothing. -/
theorem recorder_is_asked_in_order :
    ((expandWith recorder "$$1 $2$(price)s $x$0$").run []).value =
        ("$1 $1$$s $", [.argument 2, .named "price", .named "x", .argument 0]) ∧
      '$' ∉ "5 (price)".toList ∧ expandWith recorder "5 (price)" = pure "5 (price)" := by
  obtain ⟨⟨pieces, -, isOnly, -, -, expands⟩, -, -⟩ :=
    expands_in_one_pass recorder "$$1 $2$(price)s $x$0$"
  have noDollar : '$' ∉ "5 (price)".toList := by decide
  refine ⟨?_, noDollar, (expands_in_one_pass recorder "5 (price)").2.1 noDollar⟩
  rw [expands, ← isOnly _ written_price]
  rfl

end Reference

end Looper
