import Looper.Proofs.Script.Layout

/-!
# Writing a program down

`Program.text` is a source that writes a program, one statement a line.  It is read
back as it was meant: the outline splits it into the lines that were written, and
these lines write the program.
-/

namespace Looper

/-! ## Words, phrases and lines -/

namespace Text

def IsWord (s : List Char) : Prop :=
  s ≠ [] ∧ ∀ c ∈ s, isBlank c = false

-- Letter by letter: there are too many characters to try them all.
instance (s : List Char) : Decidable (IsWord s) :=
  @instDecidableAnd _ _ inferInstance (List.decidableBAll _ s)

/-- A text that may end a line: there is nothing to trim, and no line feed. -/
structure IsTail (s : List Char) : Prop where
  front : s.dropWhile isBlank = s
  back : s.reverse.dropWhile isBlank = s.reverse
  whole : '\n' ∉ s

instance (s : List Char) : Decidable (IsTail s) :=
  decidable_of_iff (s.dropWhile isBlank = s ∧ s.reverse.dropWhile isBlank = s.reverse ∧ '\n' ∉ s)
    ⟨fun ⟨front, back, whole⟩ => ⟨front, back, whole⟩,
      fun ⟨front, back, whole⟩ => ⟨front, back, whole⟩⟩

def phrase (word rest : List Char) : List Char :=
  match rest with
  | [] => word
  | _ => word ++ ' ' :: rest

theorem dropWhile_append_of_self {p : Char → Bool} {s : List Char} (some : s ≠ [])
    (kept : s.dropWhile p = s) (t : List Char) : (s ++ t).dropWhile p = s ++ t := by
  cases s with
  | nil => exact absurd rfl some
  | cons c rest =>
      have keeps : p c ≠ true := by
        intro drops
        have shorter := (List.dropWhile_sublist p (l := rest)).length_le
        rw [List.dropWhile_cons_of_pos drops] at kept
        rw [kept, List.length_cons] at shorter
        omega
      exact List.dropWhile_cons_of_neg keeps

theorem trim_of_isTail {s : List Char} (tail : IsTail s) : trim s = s := by
  rw [trim, trimStart, tail.front, trimEnd, tail.back, List.reverse_reverse]

namespace IsWord

variable {word rest : List Char}

theorem dropWhile (isWord : IsWord word) : word.dropWhile isBlank = word := by
  obtain ⟨some, solid⟩ := isWord
  cases word with
  | nil => rfl
  | cons c rest =>
      refine List.dropWhile_cons_of_neg ?_
      rw [solid c List.mem_cons_self]
      exact Bool.false_ne_true

theorem reverse (isWord : IsWord word) : IsWord word.reverse :=
  ⟨fun empty => isWord.1 (List.reverse_eq_nil_iff.1 empty),
    fun c member => isWord.2 c (List.mem_reverse.1 member)⟩

theorem isTail (isWord : IsWord word) : IsTail word where
  front := isWord.dropWhile
  back := isWord.reverse.dropWhile
  whole := fun member => absurd (isWord.2 _ member) (by decide)

theorem phrase (isWord : IsWord word) (tail : IsTail rest) : IsTail (phrase word rest) := by
  unfold Text.phrase
  split
  · exact isWord.isTail
  · next some =>
      refine ⟨dropWhile_append_of_self isWord.1 isWord.dropWhile _, ?_, ?_⟩
      · rw [List.reverse_append, List.reverse_cons, List.append_assoc]
        refine dropWhile_append_of_self ?_ tail.back _
        exact fun empty => some (List.reverse_eq_nil_iff.1 empty)
      · intro member
        rcases List.mem_append.1 member with inWord | inRest
        · exact isWord.isTail.whole inWord
        · rcases List.mem_cons.1 inRest with isSpace | inTail
          · exact absurd isSpace (by decide)
          · exact tail.whole inTail

theorem splitWord_self (isWord : IsWord word) : splitWord word = (word, []) := by
  have solid : ∀ c ∈ word, (!isBlank c) = true := fun c member => by rw [isWord.2 c member]; rfl
  have front : (word ++ []).takeWhile (!isBlank ·) = word ++ [].takeWhile (!isBlank ·) :=
    List.takeWhile_append_of_pos solid
  have back : (word ++ []).dropWhile (!isBlank ·) = [].dropWhile (!isBlank ·) :=
    List.dropWhile_append_of_pos solid
  rw [List.append_nil] at front back
  rw [Text.splitWord, trim_of_isTail isWord.isTail, front, back]
  simp only [List.takeWhile_nil, List.dropWhile_nil, List.append_nil, trimStart]

theorem splitWord_gap (isWord : IsWord word) {gap : List Char} (apart : gap ≠ [])
    (blank : ∀ c ∈ gap, isBlank c = true) (given : rest ≠ []) (tail : IsTail rest) :
    splitWord (word ++ (gap ++ rest)) = (word, rest) := by
  have solid : ∀ c ∈ word, (!isBlank c) = true := fun c member => by rw [isWord.2 c member]; rfl
  have trimmed : trim (word ++ (gap ++ rest)) = word ++ (gap ++ rest) := by
    have front := dropWhile_append_of_self isWord.1 isWord.dropWhile (gap ++ rest)
    have back := dropWhile_append_of_self (mt List.reverse_eq_nil_iff.1 given) tail.back
      (word ++ gap).reverse
    rw [← List.reverse_append] at back
    rw [trim, trimStart, front, trimEnd, ← List.append_assoc, back, List.reverse_reverse]
  obtain ⟨c, gap, rfl⟩ := List.exists_cons_of_ne_nil apart
  have isGap : (!isBlank c) = false := by rw [blank c List.mem_cons_self]; rfl
  rw [Text.splitWord, trimmed, List.takeWhile_append_of_pos solid,
    List.dropWhile_append_of_pos solid, List.cons_append,
    List.takeWhile_cons_of_neg (by rw [isGap]; exact Bool.false_ne_true),
    List.dropWhile_cons_of_neg (by rw [isGap]; exact Bool.false_ne_true), List.append_nil,
    ← List.cons_append, trimStart, List.dropWhile_append_of_pos blank, tail.front]

theorem splitWord (isWord : IsWord word) (tail : IsTail rest) :
    splitWord (Text.phrase word rest) = (word, rest) := by
  unfold Text.phrase
  split
  · exact isWord.splitWord_self
  · next given =>
      have blank : ∀ c ∈ [' '], isBlank c = true := List.forall_mem_singleton.2 (by decide)
      exact isWord.splitWord_gap (List.cons_ne_nil ' ' []) blank given tail

end IsWord

theorem lines_append {s : List Char} (whole : '\n' ∉ s) (t : List Char) :
    lines (s ++ '\n' :: t) = s :: lines t := by
  induction s with
  | nil => simp [lines, pieces]
  | cons c rest ih =>
      rw [List.mem_cons, not_or] at whole
      have behind := ih whole.2
      have plain : (c == '\n') = false := beq_false_of_ne (Ne.symm whole.1)
      rw [lines] at behind ⊢
      rw [List.cons_append, pieces, behind, plain]
      rfl

theorem lines_flatten {written : List (List Char)} (whole : ∀ line ∈ written, '\n' ∉ line) :
    lines (written.map (· ++ ['\n'])).flatten = written ++ [[]] := by
  induction written with
  | nil => rfl
  | cons line rest ih =>
      rw [List.map_cons, List.flatten_cons, List.append_assoc, List.singleton_append,
        lines_append (whole line List.mem_cons_self),
        ih fun other member => whole other (List.mem_cons_of_mem line member), List.cons_append]

end Text

/-! ## Statement lines in an outline -/

abbrev WrittenLine := String × String

namespace WrittenLine

def text (line : WrittenLine) : List Char :=
  Text.phrase line.1.toList line.2.toList

/-- A line that is neither blank nor a comment nor a directive. -/
structure IsStatement (line : WrittenLine) : Prop where
  word : Text.IsWord line.1.toList
  tail : Text.IsTail line.2.toList
  noComment : line.1.toList.head? ≠ some '#'
  noDirective : line.1.toList.head? ≠ some '!'

instance (line : WrittenLine) : Decidable line.IsStatement :=
  decidable_of_iff (Text.IsWord line.1.toList ∧ Text.IsTail line.2.toList ∧
      line.1.toList.head? ≠ some '#' ∧ line.1.toList.head? ≠ some '!')
    ⟨fun ⟨word, tail, noComment, noDirective⟩ => ⟨word, tail, noComment, noDirective⟩,
      fun ⟨word, tail, noComment, noDirective⟩ => ⟨word, tail, noComment, noDirective⟩⟩

def numbered : Nat → List WrittenLine → List SourceLine
  | _, [] => []
  | number, line :: rest => ⟨number, line.1, line.2⟩ :: numbered (number + 1) rest

theorem numbered_append (number : Nat) (front back : List WrittenLine) :
    numbered number (front ++ back) =
      numbered number front ++ numbered (number + front.length) back := by
  induction front generalizing number with
  | nil => rfl
  | cons line rest ih =>
      rw [List.cons_append, numbered, numbered, ih, List.cons_append, List.length_cons,
        Nat.add_assoc, Nat.add_comm 1]

theorem IsStatement.split {line : WrittenLine} (good : line.IsStatement) :
    Outline.split (String.ofList line.text) = line := by
  rw [Outline.split, String.toList_ofList, text, good.word.splitWord good.tail]
  simp

theorem IsStatement.front {line : WrittenLine} (good : line.IsStatement) :
    ∃ c more, line.text = c :: more ∧ c ≠ '#' ∧ c ≠ '!' := by
  obtain ⟨c, more, isWord⟩ := List.exists_cons_of_ne_nil good.word.1
  have noComment := good.noComment
  have noDirective := good.noDirective
  rw [isWord, List.head?_cons, ne_eq, Option.some.injEq] at noComment noDirective
  unfold text Text.phrase
  rw [isWord]
  split
  · exact ⟨c, _, rfl, noComment, noDirective⟩
  · exact ⟨c, _, rfl, noComment, noDirective⟩

theorem IsStatement.addLine {line : WrittenLine} (good : line.IsStatement) {outline : Outline}
    {number : Nat} (checks : outline.checkName ⟨number, line.1, line.2⟩ = .ok ()) :
    outline.addLine number (Text.trim line.text) =
      .ok { outline with lines := outline.lines ++ [⟨number, line.1, line.2⟩] } := by
  have trimmed : Text.trim line.text = line.text :=
    Text.trim_of_isTail (good.word.phrase good.tail)
  obtain ⟨c, more, isText, noComment, noDirective⟩ := good.front
  rw [trimmed]
  unfold Outline.addLine
  split
  · next empty => exact absurd (empty.symm.trans isText) (List.cons_ne_nil c more).symm
  · next comment => exact absurd (List.cons.inj (comment.symm.trans isText)).1.symm noComment
  · next directive => exact absurd (List.cons.inj (directive.symm.trans isText)).1.symm noDirective
  · rw [good.split]
    simp only [checks, bind, Except.bind, pure, Except.pure]

theorem addLines_numbered {lines : List WrittenLine} (good : ∀ line ∈ lines, line.IsStatement)
    (outline : Outline) (number : Nat)
    (checks : ∀ front line back, numbered number lines = front ++ line :: back →
      Outline.checkName { outline with lines := outline.lines ++ front } line = .ok ()) :
    outline.addLines number (lines.map text ++ [[]]) =
      .ok { outline with lines := outline.lines ++ numbered number lines } := by
  induction lines generalizing outline number with
  | nil =>
      rw [numbered, List.append_nil]
      rfl
  | cons line rest ih =>
      have first : outline.checkName ⟨number, line.1, line.2⟩ = .ok () := by
        have checked := checks [] _ _ rfl
        rwa [List.append_nil] at checked
      have others := ih (fun other member => good other (List.mem_cons_of_mem line member))
        { outline with lines := outline.lines ++ [⟨number, line.1, line.2⟩] } (number + 1)
        (fun front other back split => by
          have checked := checks (⟨number, line.1, line.2⟩ :: front) other back
            (by rw [numbered, split, List.cons_append])
          rwa [List.append_assoc, List.singleton_append])
      rw [List.map_cons, List.cons_append, Outline.addLines,
        (good line List.mem_cons_self).addLine first]
      simp only [others, numbered, List.append_assoc, List.singleton_append]

end WrittenLine

/-! ## Procs in the lines of a program -/

/-- The names of the procs of a program, in the order in which they begin. -/
def Program.procNames : Program → List String
  | .done => []
  | .invoke _ next | .declare _ _ _ next | .assign _ _ next | .call _ _ next => next.procNames
  | .branch _ body next | .repeats _ body next | .tracks _ body next =>
      body.procNames ++ next.procNames
  | .choice _ yes no next => yes.procNames ++ (no.procNames ++ next.procNames)
  | .proc name body next => name :: (body.procNames ++ next.procNames)

namespace Writes

variable {symbols : SymbolTable} {lines : List SourceLine} {program : Program}

theorem not_label (writes : Writes symbols lines program) {line : SourceLine}
    (member : line ∈ lines) : line.keyword? ≠ some .label := by
  induction writes with
  | done => cases member
  | invoke opens _ _ ih | declare opens _ _ _ ih | assign opens _ _ _ ih | call opens _ _ _ ih =>
      grind
  | branch opens _ _ closes _ ihInner ihNext | repeats opens _ _ closes _ ihInner ihNext
  | tracks opens _ _ closes _ ihInner ihNext | proc opens _ closes _ ihInner ihNext =>
      grind
  | choice opens _ _ divides _ closes _ ihYes ihNo ihNext => grind

theorem procNames (writes : Writes symbols lines program) :
    (lines.filter (fun line => line.keyword? == some .proc)).map SourceLine.rest =
      program.procNames := by
  induction writes with
  | done => rfl
  | invoke opens _ _ ih | declare opens _ _ _ ih | assign opens _ _ _ ih | call opens _ _ _ ih =>
      simp [opens, ih, Program.procNames]
  | branch opens _ _ closes _ ihInner ihNext | repeats opens _ _ closes _ ihInner ihNext
  | tracks opens _ _ closes _ ihInner ihNext | proc opens _ closes _ ihInner ihNext =>
      simp [opens, closes, ihInner, ihNext, Program.procNames]
  | choice opens _ _ divides _ closes _ ihYes ihNo ihNext =>
      simp [opens, divides, closes, ihYes, ihNo, ihNext, Program.procNames]

/-- Where names are given once, every line may follow the lines before it. -/
theorem checkName (writes : Writes symbols lines program)
    (named : ∀ name ∈ program.procNames, name.isEmpty = false)
    (once : program.procNames.Pairwise fun first second => Text.sameName first second = false)
    (header : ScriptHeader) {front back : List SourceLine} {line : SourceLine}
    (split : lines = front ++ line :: back) :
    Outline.checkName { header, lines := front } line = .ok () := by
  have member : line ∈ lines := split ▸ List.mem_append_right front List.mem_cons_self
  unfold Outline.checkName
  split
  · next isLabel => exact absurd isLabel (writes.not_label member)
  · next isProc =>
      have given : line.rest.isEmpty = false := by
        refine named line.rest (writes.procNames ▸ List.mem_map_of_mem ?_)
        exact List.mem_filter.2 ⟨member, beq_of_eq isProc⟩
      have isNew : Outline.procIndex? { header, lines := front } line.rest = none := by
        rw [← writes.procNames, List.pairwise_map, List.pairwise_filter, split] at once
        have apart := (List.pairwise_append.1 once).2.2
        refine List.findIdx?_eq_none_iff.2 fun other before => ?_
        rw [SourceLine.isProc, Bool.and_eq_false_imp]
        intro otherProc
        exact apart other before line List.mem_cons_self otherProc (beq_of_eq isProc)
      rw [given, isNew]
      rfl
  · rfl

end Writes

/-! ## The text of a program -/

namespace Program

def phrase (word rest : String) : String :=
  String.ofList (Text.phrase word.toList rest.toList)

/-- The lines that a program is written in. -/
def lines : Program → List WrittenLine
  | .done => []
  | .invoke invocation next => (invocation.name, invocation.args) :: next.lines
  | .declare false name value next => ("Variable", phrase name value) :: next.lines
  | .declare true name value next =>
      ("Variable", phrase "global" (phrase name value)) :: next.lines
  | .assign name value next => ("Set", phrase name value) :: next.lines
  | .branch condition yes next =>
      ("If", condition) :: (yes.lines ++ ("Endif", "") :: next.lines)
  | .choice condition yes no next =>
      ("If", condition) ::
        (yes.lines ++ ("Else", "") :: (no.lines ++ ("Endif", "") :: next.lines))
  | .repeats count body next => ("Repeat", count) :: (body.lines ++ ("Next", "") :: next.lines)
  | .tracks list body next => ("For", list) :: (body.lines ++ ("Next", "") :: next.lines)
  | .call callee args next => ("Call", phrase callee args) :: next.lines
  | .proc name body next => ("Proc", name) :: (body.lines ++ ("Endproc", "") :: next.lines)

def text (program : Program) : String :=
  String.ofList (program.lines.map fun line => line.text ++ ['\n']).flatten

/-- A text that a line may consist of, besides its first word. -/
def IsGiven (rest : String) : Prop :=
  rest.isEmpty = false ∧ Text.IsTail rest.toList

def IsPhrase (word rest : String) : Prop :=
  Text.IsWord word.toList ∧ Text.IsTail rest.toList

instance (rest : String) : Decidable (IsGiven rest) :=
  inferInstanceAs (Decidable (_ ∧ _))

instance (word rest : String) : Decidable (IsPhrase word rest) :=
  inferInstanceAs (Decidable (_ ∧ _))

/-- What the parts of a program may be for the program to be written down. -/
def PartsFit (symbols : SymbolTable) : Program → Prop
  | .done => True
  | .invoke invocation next =>
      WrittenLine.IsStatement (invocation.name, invocation.args) ∧
        Keyword.ofWord? invocation.name = none ∧
        symbols.invocation? invocation.name invocation.args = some invocation ∧
        next.PartsFit symbols
  | .declare everywhere name value next =>
      IsPhrase name value ∧ (everywhere || !Text.sameName name "global") ∧ next.PartsFit symbols
  | .assign name value next => IsPhrase name value ∧ next.PartsFit symbols
  | .branch condition yes next =>
      IsGiven condition ∧ yes.PartsFit symbols ∧ next.PartsFit symbols
  | .choice condition yes no next =>
      IsGiven condition ∧ yes.PartsFit symbols ∧ no.PartsFit symbols ∧ next.PartsFit symbols
  | .repeats count body next =>
      IsGiven count ∧ body.PartsFit symbols ∧ next.PartsFit symbols
  | .tracks list body next => IsGiven list ∧ body.PartsFit symbols ∧ next.PartsFit symbols
  | .call callee args next => IsPhrase callee args ∧ next.PartsFit symbols
  | .proc name body next => IsGiven name ∧ body.PartsFit symbols ∧ next.PartsFit symbols

/-- Whether a program can be written down may be computed. -/
def decidePartsFit (symbols : SymbolTable) : (program : Program) →
    Decidable (program.PartsFit symbols)
  | .done => .isTrue trivial
  | .invoke _ next =>
      have := decidePartsFit symbols next
      inferInstanceAs (Decidable (_ ∧ _ ∧ _ ∧ _))
  | .declare _ _ _ next =>
      have := decidePartsFit symbols next
      inferInstanceAs (Decidable (_ ∧ _ ∧ _))
  | .assign _ _ next | .call _ _ next =>
      have := decidePartsFit symbols next
      inferInstanceAs (Decidable (_ ∧ _))
  | .branch _ body next | .repeats _ body next | .tracks _ body next | .proc _ body next =>
      have := decidePartsFit symbols body
      have := decidePartsFit symbols next
      inferInstanceAs (Decidable (_ ∧ _ ∧ _))
  | .choice _ yes no next =>
      have := decidePartsFit symbols yes
      have := decidePartsFit symbols no
      have := decidePartsFit symbols next
      inferInstanceAs (Decidable (_ ∧ _ ∧ _ ∧ _))

instance (symbols : SymbolTable) (program : Program) : Decidable (program.PartsFit symbols) :=
  decidePartsFit symbols program

variable {symbols : SymbolTable}

theorem toList_phrase (word rest : String) :
    (phrase word rest).toList = Text.phrase word.toList rest.toList :=
  String.toList_ofList

theorem IsPhrase.split {word rest : String} (fits : IsPhrase word rest) :
    Outline.split (phrase word rest) = (word, rest) := by
  rw [Outline.split, toList_phrase, fits.1.splitWord fits.2]
  simp

theorem IsPhrase.isGiven {word rest : String} (fits : IsPhrase word rest) :
    IsGiven (phrase word rest) := by
  refine ⟨?_, ?_⟩
  · rw [String.isEmpty_eq_false_iff, ne_eq, ← String.toList_inj, toList_phrase, Text.phrase.eq_def]
    split
    · exact fits.1.1
    · simp
  · rw [toList_phrase]
    exact fits.1.phrase fits.2

theorem IsPhrase.everywhere {name value : String} (fits : IsPhrase name value) :
    IsPhrase "global" (phrase name value) :=
  ⟨by decide, fits.isGiven.2⟩

theorem IsPhrase.isEmpty {word rest : String} (fits : IsPhrase word rest) :
    word.isEmpty = false := by
  rw [String.isEmpty_eq_false_iff, ne_eq, ← String.toList_inj]
  exact fits.1.1

theorem IsPhrase.declaration {name value : String} (fits : IsPhrase name value)
    (apart : false || !Text.sameName name "global") :
    Parse.declaration (phrase name value) = .ok (.declare false name value) := by
  have other : Text.sameName name "global" = false := by simpa using apart
  simp only [Parse.declaration, fits.split, other, Bool.false_eq_true, if_false, fits.isEmpty]

theorem IsPhrase.declaration_everywhere {name value : String} (fits : IsPhrase name value) :
    Parse.declaration (phrase "global" (phrase name value)) = .ok (.declare true name value) := by
  simp only [Parse.declaration, fits.everywhere.split, fits.split, Text.sameName_refl, if_true,
    fits.isEmpty, Bool.false_eq_true, if_false]

/-- The words that the statements of a structured program begin with. -/
def vocabulary : List (String × Keyword) :=
  [("Variable", .declare), ("Set", .assign), ("If", .branch), ("Else", .otherwise),
   ("Endif", .endBranch), ("Repeat", .repeatLoop), ("For", .trackLoop), ("Next", .next),
   ("Call", .call), ("Proc", .proc), ("Endproc", .endProc)]

theorem keyword?_of_mem_vocabulary (word : String) {keyword : Keyword}
    (known : (word, keyword) ∈ vocabulary) {number : Nat} {rest : String} :
    SourceLine.keyword? ⟨number, word, rest⟩ = some keyword := by
  have all : ∀ entry ∈ vocabulary, Keyword.ofWord? entry.1 = some entry.2 := by decide
  exact all (word, keyword) known

theorem isStatement_of_mem_vocabulary {word rest : String}
    (known : word ∈ vocabulary.map Prod.fst) (tail : Text.IsTail rest.toList) :
    WrittenLine.IsStatement (word, rest) := by
  have plain : ∀ word ∈ vocabulary.map Prod.fst, Text.IsWord word.toList ∧
      word.toList.head? ≠ some '#' ∧ word.toList.head? ≠ some '!' := by decide
  obtain ⟨isWord, noComment, noDirective⟩ := plain word known
  exact ⟨isWord, tail, noComment, noDirective⟩

/-- The lines of a program that can be written down are statement lines. -/
theorem isStatement_of_mem_lines {program : Program} (parts : program.PartsFit symbols) :
    ∀ line ∈ program.lines, line.IsStatement := by
  have empty : Text.IsTail "".toList := by decide
  induction program with
  | done => exact fun _ member => nomatch member
  | invoke invocation next ih =>
      obtain ⟨good, -, -, others⟩ := parts
      exact List.forall_mem_cons.2 ⟨good, ih others⟩
  | declare everywhere name value next ih =>
      obtain ⟨fits, -, others⟩ := parts
      cases everywhere with
      | false =>
          exact List.forall_mem_cons.2
            ⟨isStatement_of_mem_vocabulary (by decide) fits.isGiven.2, ih others⟩
      | true =>
          exact List.forall_mem_cons.2
            ⟨isStatement_of_mem_vocabulary (by decide) fits.everywhere.isGiven.2, ih others⟩
  | assign name value next ih | call name value next ih =>
      obtain ⟨fits, others⟩ := parts
      exact List.forall_mem_cons.2
        ⟨isStatement_of_mem_vocabulary (by decide) fits.isGiven.2, ih others⟩
  | branch operand body next ihBody ihNext | repeats operand body next ihBody ihNext
  | tracks operand body next ihBody ihNext | proc operand body next ihBody ihNext =>
      obtain ⟨given, inside, others⟩ := parts
      refine List.forall_mem_cons.2 ⟨isStatement_of_mem_vocabulary (by decide) given.2, ?_⟩
      refine List.forall_mem_append.2 ⟨ihBody inside, List.forall_mem_cons.2 ⟨?_, ihNext others⟩⟩
      exact isStatement_of_mem_vocabulary (by decide) empty
  | choice condition yes no next ihYes ihNo ihNext =>
      obtain ⟨given, first, second, others⟩ := parts
      refine List.forall_mem_cons.2 ⟨isStatement_of_mem_vocabulary (by decide) given.2, ?_⟩
      refine List.forall_mem_append.2 ⟨ihYes first, List.forall_mem_cons.2 ⟨?_, ?_⟩⟩
      · exact isStatement_of_mem_vocabulary (by decide) empty
      · refine List.forall_mem_append.2 ⟨ihNo second, List.forall_mem_cons.2 ⟨?_, ihNext others⟩⟩
        exact isStatement_of_mem_vocabulary (by decide) empty

theorem writes_lines {program : Program} (parts : program.PartsFit symbols) (number : Nat) :
    Writes symbols (WrittenLine.numbered number program.lines) program := by
  induction program generalizing number with
  | done => exact .done
  | invoke invocation next ih =>
      obtain ⟨-, plain, known, others⟩ := parts
      exact .invoke plain known (ih others _)
  | declare everywhere name value next ih =>
      obtain ⟨fits, apart, others⟩ := parts
      have opens (rest : String) : SourceLine.keyword? ⟨number, "Variable", rest⟩ = some .declare :=
        keyword?_of_mem_vocabulary "Variable" (by decide)
      cases everywhere with
      | false => exact .declare (opens _) fits.isGiven.1 (fits.declaration apart) (ih others _)
      | true =>
          exact .declare (opens _) fits.everywhere.isGiven.1 fits.declaration_everywhere
            (ih others _)
  | assign name value next ih =>
      obtain ⟨fits, others⟩ := parts
      exact .assign (keyword?_of_mem_vocabulary "Set" (by decide)) fits.isGiven.1 fits.split
        (ih others _)
  | call callee args next ih =>
      obtain ⟨fits, others⟩ := parts
      exact .call (keyword?_of_mem_vocabulary "Call" (by decide)) fits.isGiven.1 fits.split
        (ih others _)
  | branch condition yes next ihYes ihNext =>
      obtain ⟨given, inside, others⟩ := parts
      rw [lines, WrittenLine.numbered, WrittenLine.numbered_append]
      exact .branch (keyword?_of_mem_vocabulary "If" (by decide)) given.1 (ihYes inside _)
        (keyword?_of_mem_vocabulary "Endif" (by decide)) (ihNext others _)
  | choice condition yes no next ihYes ihNo ihNext =>
      obtain ⟨given, first, second, others⟩ := parts
      rw [lines, WrittenLine.numbered, WrittenLine.numbered_append, WrittenLine.numbered,
        WrittenLine.numbered_append]
      exact .choice (keyword?_of_mem_vocabulary "If" (by decide)) given.1 (ihYes first _)
        (keyword?_of_mem_vocabulary "Else" (by decide)) (ihNo second _)
        (keyword?_of_mem_vocabulary "Endif" (by decide)) (ihNext others _)
  | repeats count body next ihBody ihNext =>
      obtain ⟨given, inside, others⟩ := parts
      rw [lines, WrittenLine.numbered, WrittenLine.numbered_append]
      exact .repeats (keyword?_of_mem_vocabulary "Repeat" (by decide)) given.1 (ihBody inside _)
        (keyword?_of_mem_vocabulary "Next" (by decide)) (ihNext others _)
  | tracks list body next ihBody ihNext =>
      obtain ⟨given, inside, others⟩ := parts
      rw [lines, WrittenLine.numbered, WrittenLine.numbered_append]
      exact .tracks (keyword?_of_mem_vocabulary "For" (by decide)) given.1 (ihBody inside _)
        (keyword?_of_mem_vocabulary "Next" (by decide)) (ihNext others _)
  | proc name body next ihBody ihNext =>
      obtain ⟨given, inside, others⟩ := parts
      rw [lines, WrittenLine.numbered, WrittenLine.numbered_append]
      exact .proc (keyword?_of_mem_vocabulary "Proc" (by decide)) (ihBody inside _)
        (keyword?_of_mem_vocabulary "Endproc" (by decide)) (ihNext others _)

theorem isEmpty_of_mem_procNames {program : Program} (parts : program.PartsFit symbols) :
    ∀ name ∈ program.procNames, name.isEmpty = false := by
  induction program with
  | done => exact fun _ member => nomatch member
  | invoke _ next ih => exact ih parts.2.2.2
  | declare _ _ _ next ih => exact ih parts.2.2
  | assign _ _ next ih | call _ _ next ih => exact ih parts.2
  | branch _ body next ihBody ihNext | repeats _ body next ihBody ihNext
  | tracks _ body next ihBody ihNext =>
      exact List.forall_mem_append.2 ⟨ihBody parts.2.1, ihNext parts.2.2⟩
  | choice _ yes no next ihYes ihNo ihNext =>
      exact List.forall_mem_append.2
        ⟨ihYes parts.2.1, List.forall_mem_append.2 ⟨ihNo parts.2.2.1, ihNext parts.2.2.2⟩⟩
  | proc name body next ihBody ihNext =>
      exact List.forall_mem_cons.2
        ⟨parts.1.1, List.forall_mem_append.2 ⟨ihBody parts.2.1, ihNext parts.2.2⟩⟩

/-- A program that can be written down: its parts fit on lines, and no procs share a name. -/
structure IsWritable (symbols : SymbolTable) (program : Program) : Prop where
  parts : program.PartsFit symbols
  once : program.procNames.Pairwise fun first second => Text.sameName first second = false

/-- A source writes a program: it has an outline, the lines of which write the program. -/
def IsWritten (symbols : SymbolTable) (name source : String) (program : Program) : Prop :=
  ∃ outline, Outline.ofSource name source = .ok outline ∧ Writes symbols outline.lines program

/-- The text of a program writes it. -/
theorem IsWritable.isWritten {program : Program} (writable : program.IsWritable symbols)
    (name : String) : program.IsWritten symbols name program.text := by
  have writes := writes_lines writable.parts 1
  have good := isStatement_of_mem_lines writable.parts
  have whole : ∀ line ∈ program.lines.map WrittenLine.text, '\n' ∉ line := by
    refine List.forall_mem_map.2 fun line member => ?_
    exact ((good line member).word.phrase (good line member).tail).whole
  have isText : Text.lines program.text.toList = program.lines.map WrittenLine.text ++ [[]] := by
    have split := Text.lines_flatten whole
    rw [List.map_map] at split
    rw [text, String.toList_ofList]
    exact split
  have named := isEmpty_of_mem_procNames writable.parts
  have added := WrittenLine.addLines_numbered good { header := { name } } 1
    fun front line back split => writes.checkName named writable.once { name } split
  refine ⟨{ header := { name }, lines := WrittenLine.numbered 1 program.lines }, ?_, writes⟩
  rw [Outline.ofSource, isText, added]
  rfl

end Program

end Looper
