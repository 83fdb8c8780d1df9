import Looper.Key
import Mathlib.Data.List.Forall2

/-!
# How chords are spelled

A chord is spelled as words for modifier keys, each with a plus sign after it, and the key at
the end.  The plus sign is a key as well: one that stands where a word would begin is the key.
What a notation means depends on its key and on which modifiers it names, not on how often, in
which order or by which of their words they are named.
-/

namespace Looper

/-! ## Modifiers -/

namespace Modifiers

def Spelled (word : List Char) (modifier : Modifiers) : Prop :=
  (Text.fold (String.ofList word), modifier) ∈ vocabulary

instance (word : List Char) (modifier : Modifiers) : Decidable (Spelled word modifier) :=
  inferInstanceAs (Decidable (_ ∈ vocabulary))

theorem named?_eq_some_iff {word : List Char} {modifier : Modifiers} :
    named? word = some modifier ↔ Spelled word modifier := by
  constructor
  · intro found
    obtain ⟨before, after, divides, -⟩ := List.lookup_eq_some_iff.1 found
    rw [Spelled, divides]
    exact List.mem_append_right before List.mem_cons_self
  · intro spelled
    have distinct : ∀ entry ∈ vocabulary, vocabulary.lookup entry.1 = some entry.2 := by decide
    exact distinct _ spelled

variable {word : List Char} {modifier : Modifiers}

theorem Spelled.ne_nil (spelled : Spelled word modifier) : word ≠ [] := by
  have notEmpty : ∀ entry ∈ vocabulary, entry.1.toList ≠ [] := by decide
  rintro rfl
  exact notEmpty _ spelled rfl

theorem Spelled.no_plus (spelled : Spelled word modifier) : '+' ∉ word := by
  have noPlus : ∀ entry ∈ vocabulary, '+' ∉ entry.1.toList := by decide
  intro member
  apply noPlus _ spelled
  rw [Text.toList_fold, String.toList_ofList]
  exact List.mem_map_of_mem member

/-! ### Sets of modifiers -/

theorem bits_union (m n : Modifiers) : (m.union n).bits = m.bits ||| n.bits := by
  rcases m with ⟨_ | _, _ | _, _ | _, _ | _⟩ <;>
    rcases n with ⟨_ | _, _ | _, _ | _, _ | _⟩ <;> rfl

theorem bits_foldl_union (held : Modifiers) (modifiers : List Modifiers) :
    (modifiers.foldl union held).bits =
      modifiers.foldl (fun bits modifier => bits ||| modifier.bits) held.bits := by
  induction modifiers generalizing held with
  | nil => rfl
  | cons modifier more ih => rw [List.foldl_cons, ih, bits_union, List.foldl_cons]

/-- A modifier key is held in the end if it was or if it is among those added. -/
theorem field_foldl_union {field : Modifiers → Bool}
    (isUnion : ∀ m n, field (m.union n) = (field m || field n)) (held : Modifiers)
    (modifiers : List Modifiers) :
    field (modifiers.foldl union held) = (field held || modifiers.any field) := by
  induction modifiers generalizing held with
  | nil => exact (Bool.or_false _).symm
  | cons modifier more ih => rw [List.foldl_cons, ih, isUnion, List.any_cons, Bool.or_assoc]

/-- Which modifiers are added matters, but not how often and in which order. -/
theorem foldl_union_congr {modifiers others : List Modifiers}
    (same : ∀ modifier, modifier ∈ modifiers ↔ modifier ∈ others) (held : Modifiers) :
    modifiers.foldl union held = others.foldl union held := by
  -- Lists with the same members agree on whether anything in them holds a given key.
  have field_eq {field : Modifiers → Bool}
      (isUnion : ∀ m n, field (m.union n) = (field m || field n)) :
      field (modifiers.foldl union held) = field (others.foldl union held) := by
    have anywhere : modifiers.any field = others.any field := by
      rw [Bool.eq_iff_iff, List.any_eq_true, List.any_eq_true]
      simp only [same]
    rw [field_foldl_union isUnion, field_foldl_union isUnion, anywhere]
  have shift := @field_eq Modifiers.shift fun _ _ => rfl
  have ctrl := @field_eq Modifiers.ctrl fun _ _ => rfl
  have alt := @field_eq Modifiers.alt fun _ _ => rfl
  have command := @field_eq Modifiers.command fun _ _ => rfl
  rw [← ofBits_bits (modifiers.foldl union held), ← ofBits_bits (others.foldl union held), bits,
    bits, shift, ctrl, alt, command]

end Modifiers

namespace Chord

/-- A qualifier is made of the low bits of the code, and of the modifiers above them. -/
theorem qualifier_eq_or (chord : Chord) :
    chord.qualifier =
      (chord.code &&& 0x1FFFF) ||| ((chord.modifiers.bits &&& 0xF) <<< 17) := by
  have isLow : chord.code &&& 0x1FFFF = chord.code % codeCount :=
    Nat.and_two_pow_sub_one_eq_mod chord.code 17
  have isSet : chord.modifiers.bits &&& 0xF = chord.modifiers.bits := by
    rw [Nat.and_two_pow_sub_one_eq_mod _ 4]
    exact Nat.mod_eq_of_lt chord.modifiers.bits_lt
  have below : chord.code % codeCount < 2 ^ 17 := Nat.mod_lt _ (by decide)
  rw [isLow, isSet, qualifier, Nat.shiftLeft_eq, Nat.or_comm, Nat.mul_comm _ (2 ^ 17),
    ← Nat.two_pow_add_eq_or_of_lt below, Nat.add_comm]
  rfl

/-! ## Keys -/

/-- A text that stands for a key: one character, or a name in any case. -/
inductive NamesKey : List Char → Nat → Prop where
  | character {c : Char} (small : c.toNat ≤ 0x1FFFF) : NamesKey [c] c.toNat
  | space {name : List Char} (same : Text.sameName "Space" (String.ofList name) = true) :
      NamesKey name ' '.toNat
  | listed {entry : String × Nat} {name : List Char} (member : entry ∈ namedKeys)
      (same : Text.sameName entry.1 (String.ofList name) = true) : NamesKey name entry.2
  | function {f : Char} {number : List Char} {n : Nat} (letter : f = 'F' ∨ f = 'f')
      (digits : Text.digits? number = some n) (first : 1 ≤ n) (last : n ≤ 24) :
      NamesKey (f :: number) (functionBase + n - 1)

/-! ### Plus signs -/

theorem splitPlus_eq_none_iff {s : List Char} : splitPlus s = none ↔ '+' ∉ s := by
  induction s with
  | nil => simp [splitPlus]
  | cons c rest ih =>
      rw [splitPlus]
      by_cases plus : c = '+'
      · simp [plus]
      · simp [plus, ih, Ne.symm plus]

theorem splitPlus_eq_some_iff {s word tail : List Char} :
    splitPlus s = some (word, tail) ↔ s = word ++ '+' :: tail ∧ '+' ∉ word := by
  constructor
  · intro split
    induction s generalizing word with
    | nil => cases split
    | cons c rest ih =>
        rw [splitPlus] at split
        by_cases plus : c = '+'
        · rw [if_pos plus] at split
          cases split
          exact ⟨by rw [plus]; rfl, List.not_mem_nil⟩
        · rw [if_neg plus] at split
          obtain ⟨parts, found, same⟩ := Option.map_eq_some_iff.1 split
          cases same
          obtain ⟨rfl, noPlus⟩ := ih found
          exact ⟨rfl, by simp [noPlus, Ne.symm plus]⟩
  · rintro ⟨rfl, noPlus⟩
    induction word with
    | nil => simp [splitPlus]
    | cons c word ih =>
        rw [List.mem_cons, not_or] at noPlus
        rw [List.cons_append, splitPlus, if_neg (Ne.symm noPlus.1), ih noPlus.2]
        rfl

/-- Where a key is read: there is no plus sign left, or it is the next character. -/
def AtKey (s : List Char) : Prop :=
  '+' ∉ s ∨ s.head? = some '+'

/-! ### Reading a key -/

def lowered (name : List Char) : List Char :=
  name.map Char.toLower

theorem sameName_ofList {entry : String} {name : List Char} :
    Text.sameName entry (String.ofList name) = true ↔ lowered entry.toList = lowered name := by
  rw [Text.sameName_iff, Text.fold, Text.fold, String.toList_ofList]
  exact String.ofList_inj

theorem length_of_sameName {entry : String} {name : List Char}
    (same : Text.sameName entry (String.ofList name) = true) :
    name.length = (lowered entry.toList).length := by
  rw [sameName_ofList.1 same, lowered, List.length_map]

/-- No listed name has one character, starts as a function key does or stands for a space. -/
theorem lowered_of_listed :
    ∀ entry ∈ namedKeys, 1 < (lowered entry.1.toList).length ∧
      (lowered entry.1.toList).head? ≠ some 'f' ∧
      lowered entry.1.toList ≠ lowered "Space".toList := by
  decide

theorem eq_of_lowered :
    ∀ entry ∈ namedKeys, ∀ other ∈ namedKeys,
      lowered entry.1.toList = lowered other.1.toList → entry = other := by
  decide

variable {name : List Char} {code : Nat}

theorem namedCode?_of_listed {entry : String × Nat} (member : entry ∈ namedKeys)
    (same : Text.sameName entry.1 (String.ofList name) = true) :
    namedCode? (String.ofList name) = some entry.2 := by
  rw [namedCode?]
  cases found : namedKeys.find? fun other => Text.sameName other.1 (String.ofList name) with
  | none => exact absurd same (List.find?_eq_none.1 found entry member)
  | some other =>
      have isOther := List.find?_some found
      have alike : lowered other.1.toList = lowered entry.1.toList :=
        (sameName_ofList.1 isOther).trans (sameName_ofList.1 same).symm
      rw [eq_of_lowered other (List.mem_of_find?_eq_some found) entry member alike]

/-- A name that is not listed is the space bar, or else that of a function key. -/
theorem namedCode?_of_unlisted
    (unlisted : ∀ entry ∈ namedKeys, lowered entry.1.toList ≠ lowered name) :
    namedCode? (String.ofList name) =
      if Text.sameName (String.ofList name) "Space" then some ' '.toNat
      else functionKey? name := by
  have notFound :
      (namedKeys.find? fun entry => Text.sameName entry.1 (String.ofList name)) = none := by
    rw [List.find?_eq_none]
    exact fun entry member same => unlisted entry member (sameName_ofList.1 same)
  rw [namedCode?, notFound, String.toList_ofList]

theorem namedCode?_of_space (same : Text.sameName "Space" (String.ofList name) = true) :
    namedCode? (String.ofList name) = some ' '.toNat := by
  rw [namedCode?_of_unlisted, if_pos (Text.sameName_symm same)]
  intro entry member alike
  exact (lowered_of_listed entry member).2.2 (alike.trans (sameName_ofList.1 same).symm)

theorem namedCode?_of_letter {f : Char} {number : List Char} (letter : f = 'F' ∨ f = 'f') :
    namedCode? (String.ofList (f :: number)) =
      ((Text.nat32? number).filter fun n => 1 ≤ n && n ≤ functionCount).map
        fun n => functionBase + n - 1 := by
  have head : (lowered (f :: number)).head? = some 'f' := by
    rcases letter with rfl | rfl <;> rfl
  rw [namedCode?_of_unlisted, if_neg]
  · rcases letter with rfl | rfl <;> rfl
  · intro same
    rw [← sameName_ofList.1 (Text.sameName_symm same)] at head
    exact absurd head (by decide)
  · intro entry member alike
    rw [← alike] at head
    exact (lowered_of_listed entry member).2.1 head

theorem keyCode?_of_long (long : 1 < name.length) :
    keyCode? name = (namedCode? (String.ofList name)).filter (· < codeCount) := by
  match name with
  | [] | [_] => exact absurd long (by simp)
  | _ :: _ :: _ => rfl

theorem keyCode?_of_namesKey (names : NamesKey name code) : keyCode? name = some code := by
  cases names with
  | character small =>
      have below : decide (Char.toNat _ < codeCount) = true :=
        decide_eq_true (Nat.lt_succ_of_le small)
      rw [keyCode?, Option.filter_some, if_pos below]
  | space same =>
      have long : 1 < name.length := by
        rw [length_of_sameName same]
        decide
      rw [keyCode?_of_long long, namedCode?_of_space same]
      rfl
  | @listed entry _ member same =>
      have below : ∀ entry ∈ namedKeys, entry.2 < codeCount := by decide
      have long : 1 < name.length := by
        rw [length_of_sameName same]
        exact (lowered_of_listed entry member).1
      rw [keyCode?_of_long long, namedCode?_of_listed member same, Option.filter_some,
        if_pos (decide_eq_true (below entry member))]
  | @function f number n letter digits first last =>
      have fits : n < Text.wordSize := Nat.lt_of_le_of_lt last (by decide)
      have isNumber : Text.nat32? number = some n := by
        rw [Text.nat32?_of_digits digits, if_pos fits]
      have long : 1 < (f :: number).length := by
        cases number with
        | nil => cases digits
        | cons => simp
      rw [keyCode?_of_long long, namedCode?_of_letter letter, isNumber, Option.filter_some,
        if_pos (by simp [first, last, functionCount]), Option.map_some, Option.filter_some,
        if_pos]
      rw [decide_eq_true_iff, functionBase, namedBase, codeCount]
      omega

/-- No sign gets into the number of a function key: it would not have been left there. -/
theorem namesKey_of_functionKey? (atKey : AtKey name) (reads : functionKey? name = some code) :
    NamesKey name code := by
  have ofLetter {f : Char} {number : List Char} (letter : f = 'F' ∨ f = 'f')
      (isName : name = f :: number)
      (isCode : (((Text.nat32? number).filter fun n => 1 ≤ n && n ≤ functionCount).map
        fun n => functionBase + n - 1) = some code) : NamesKey name code := by
    obtain ⟨n, isNumber, rfl⟩ := Option.map_eq_some_iff.1 isCode
    obtain ⟨reads, inRange⟩ := Option.filter_eq_some_iff.1 isNumber
    obtain ⟨first, last⟩ := Bool.and_eq_true_iff.1 inRange
    have noPlus : '+' ∉ number := by
      rcases atKey with nowhere | isHead
      · rw [isName, List.mem_cons, not_or] at nowhere
        exact nowhere.2
      · rw [isName, List.head?_cons, Option.some.injEq] at isHead
        rcases letter with rfl | rfl <;> cases isHead
    rw [isName]
    exact .function letter (Text.digits?_of_nat32? noPlus reads) (of_decide_eq_true first)
      (of_decide_eq_true last)
  unfold functionKey? at reads
  split at reads
  · exact ofLetter (.inl rfl) rfl reads
  · exact ofLetter (.inr rfl) rfl reads
  · cases reads

theorem namesKey_of_namedCode? (atKey : AtKey name)
    (reads : namedCode? (String.ofList name) = some code) : NamesKey name code := by
  rw [namedCode?] at reads
  split at reads
  · next entry found =>
      cases reads
      have same := List.find?_some found
      exact .listed (List.mem_of_find?_eq_some found) same
  · split at reads
    · next same =>
        cases reads
        exact .space (Text.sameName_symm same)
    · rw [String.toList_ofList] at reads
      exact namesKey_of_functionKey? atKey reads

/-- What is read as a key is one, and the other way round. -/
theorem keyCode?_eq_some_iff (atKey : AtKey name) :
    keyCode? name = some code ↔ NamesKey name code := by
  refine ⟨fun reads => ?_, keyCode?_of_namesKey⟩
  match name with
  | [] => cases reads
  | [c] =>
      have isCode : (some c.toNat).filter (· < codeCount) = some code := reads
      obtain ⟨same, below⟩ := Option.filter_eq_some_iff.1 isCode
      cases same
      exact .character (Nat.le_of_lt_succ (of_decide_eq_true below))
  | _ :: _ :: _ =>
      exact namesKey_of_namedCode? atKey (Option.filter_eq_some_iff.1 reads).1

/-! ## Notations -/

def joined (words : List (List Char)) (key : List Char) : List Char :=
  words.flatMap (· ++ ['+']) ++ key

@[simp] theorem joined_nil (key : List Char) : joined [] key = key := rfl

@[simp] theorem joined_cons (word : List Char) (words : List (List Char)) (key : List Char) :
    joined (word :: words) key = word ++ '+' :: joined words key := by
  simp [joined]

theorem not_mem_of_lowered {entry : List Char} (same : lowered entry = lowered name)
    (noPlus : '+' ∉ lowered entry) : '+' ∉ name :=
  fun member => noPlus (same ▸ List.mem_map_of_mem member)

theorem NamesKey.atKey (names : NamesKey name code) : AtKey name := by
  cases names with
  | @character c small =>
      by_cases plus : c = '+'
      · exact .inr (by rw [plus]; rfl)
      · exact .inl (by simp [Ne.symm plus])
  | space same => exact .inl (not_mem_of_lowered (sameName_ofList.1 same) (by decide))
  | @listed entry _ member same =>
      have noPlus : ∀ entry ∈ namedKeys, '+' ∉ lowered entry.1.toList := by decide
      exact .inl (not_mem_of_lowered (sameName_ofList.1 same) (noPlus entry member))
  | @function f number n letter digits =>
      obtain ⟨-, allDigits, -⟩ := Text.digits?_eq_some_iff.1 digits
      refine .inl fun member => ?_
      rcases List.mem_cons.1 member with isLetter | inNumber
      · rcases letter with rfl | rfl <;> cases isLetter
      · exact absurd (List.all_eq_true.1 allDigits _ inNumber) (by decide)

theorem parseFrom_key (held : Modifiers) (atKey : AtKey name) :
    parseFrom held name = (keyCode? name).map fun code => ⟨code, held⟩ := by
  rw [parseFrom]
  split
  · rfl
  · rfl
  · next c word tail split =>
      obtain ⟨isName, noPlus⟩ := splitPlus_eq_some_iff.1 split
      rcases atKey with nowhere | isHead
      · exact absurd (by simp [isName]) nowhere
      · rw [isName, List.cons_append, List.head?_cons, Option.some.injEq] at isHead
        exact absurd (isHead ▸ List.mem_cons_self) noPlus

variable {held : Modifiers} {chord : Chord}

theorem parseFrom_word {word tail : List Char} {modifier : Modifiers}
    (spelled : Modifiers.Spelled word modifier) :
    parseFrom held (word ++ '+' :: tail) = parseFrom (held.union modifier) tail := by
  have isSplit : splitPlus (word ++ '+' :: tail) = some (word, tail) :=
    splitPlus_eq_some_iff.2 ⟨rfl, spelled.no_plus⟩
  have isNamed := Modifiers.named?_eq_some_iff.2 spelled
  cases word with
  | nil => exact absurd rfl spelled.ne_nil
  | cons c word =>
      rw [parseFrom]
      split
      · next split => cases isSplit.symm.trans split
      · next split => cases isSplit.symm.trans split
      · next split =>
          cases isSplit.symm.trans split
          rw [isNamed]

theorem parseFrom_joined {words : List (List Char)} {modifiers : List Modifiers}
    (spelled : List.Forall₂ Modifiers.Spelled words modifiers) (held : Modifiers)
    (key : List Char) :
    parseFrom held (joined words key) = parseFrom (modifiers.foldl .union held) key := by
  induction spelled generalizing held with
  | nil => rfl
  | cons isWord more ih => rw [joined_cons, parseFrom_word isWord, ih, List.foldl_cons]

theorem joined_of_key {s : List Char} (atKey : AtKey s)
    (reads : (keyCode? s).map (fun code => (⟨code, held⟩ : Chord)) = some chord) :
    ∃ words modifiers key code, s = joined words key ∧
      List.Forall₂ Modifiers.Spelled words modifiers ∧ NamesKey key code ∧
      chord = ⟨code, modifiers.foldl .union held⟩ := by
  obtain ⟨code, isCode, rfl⟩ := Option.map_eq_some_iff.1 reads
  exact ⟨[], [], s, code, rfl, .nil, (keyCode?_eq_some_iff atKey).1 isCode, rfl⟩

/-- Whatever is read is spelled as words and a key; each word makes the rest shorter. -/
theorem joined_of_parseFrom {s : List Char} (reads : parseFrom held s = some chord) :
    ∃ words modifiers key code, s = joined words key ∧
      List.Forall₂ Modifiers.Spelled words modifiers ∧ NamesKey key code ∧
      chord = ⟨code, modifiers.foldl .union held⟩ := by
  fun_induction parseFrom held s with
  | case1 held s split => exact joined_of_key (.inl (splitPlus_eq_none_iff.1 split)) reads
  | case2 held s tail split =>
      -- No word stands before the sign, so the sign is the key, or begins no key at all.
      obtain ⟨rfl, -⟩ := splitPlus_eq_some_iff.1 split
      exact joined_of_key (.inr rfl) reads
  | case3 => cases reads
  | case4 held s c word tail split modifier isNamed ih =>
      obtain ⟨rfl, -⟩ := splitPlus_eq_some_iff.1 split
      obtain ⟨words, modifiers, key, code, rfl, spelled, names, isChord⟩ := ih reads
      refine ⟨(c :: word) :: words, modifier :: modifiers, key, code, ?_, ?_, names, isChord⟩
      · rw [joined_cons]
      · exact .cons (Modifiers.named?_eq_some_iff.1 isNamed) spelled

theorem parse?_eq_some_iff {s : String} :
    parse? s = some chord ↔
      ∃ words modifiers key code, s.toList = joined words key ∧
        List.Forall₂ Modifiers.Spelled words modifiers ∧ NamesKey key code ∧
        chord = ⟨code, modifiers.foldl .union {}⟩ := by
  refine ⟨joined_of_parseFrom, ?_⟩
  rintro ⟨words, modifiers, key, code, isText, spelled, names, rfl⟩
  rw [parse?, isText, parseFrom_joined spelled, parseFrom_key _ names.atKey,
    keyCode?_of_namesKey names]
  rfl

/--
A text is a notation just if it is words for modifiers, each with a plus sign after it, and a
key.  The qualifier has the code of the key in its low bits and the bits of the modifiers above
them.  In another text with the same key, words for the same modifiers make no difference.
-/
theorem parses_spelling (s : String) :
    (∀ q, (parse? s).map qualifier = some q ↔
      ∃ words modifiers key code, s.toList = joined words key ∧
        List.Forall₂ Modifiers.Spelled words modifiers ∧ NamesKey key code ∧
        q = (code &&& 0x1FFFF) |||
          ((modifiers.foldl (fun bits modifier => bits ||| modifier.bits) 0 &&& 0xF) <<< 17)) ∧
    ∀ words modifiers others otherModifiers key, s.toList = joined words key →
      List.Forall₂ Modifiers.Spelled words modifiers →
      List.Forall₂ Modifiers.Spelled others otherModifiers →
      (∀ modifier, modifier ∈ modifiers ↔ modifier ∈ otherModifiers) →
      parse? (String.ofList (joined others key)) = parse? s := by
  have qualifier_eq (code : Nat) (modifiers : List Modifiers) :
      qualifier ⟨code, modifiers.foldl .union {}⟩ = (code &&& 0x1FFFF) |||
        ((modifiers.foldl (fun bits modifier => bits ||| modifier.bits) 0 &&& 0xF) <<< 17) := by
    rw [qualifier_eq_or, Modifiers.bits_foldl_union]
    rfl
  refine ⟨fun q => ?_, ?_⟩
  · rw [Option.map_eq_some_iff]
    constructor
    · rintro ⟨chord, reads, rfl⟩
      obtain ⟨words, modifiers, key, code, isText, spelled, names, rfl⟩ :=
        parse?_eq_some_iff.1 reads
      exact ⟨words, modifiers, key, code, isText, spelled, names, qualifier_eq code modifiers⟩
    · rintro ⟨words, modifiers, key, code, isText, spelled, names, rfl⟩
      exact ⟨_, parse?_eq_some_iff.2 ⟨words, modifiers, key, code, isText, spelled, names, rfl⟩,
        qualifier_eq code modifiers⟩
  · intro words modifiers others otherModifiers key isText spelled othersSpelled same
    rw [parse?, parse?, String.toList_ofList, isText, parseFrom_joined othersSpelled,
      parseFrom_joined spelled, Modifiers.foldl_union_congr same]

/-- The plus key with two modifiers, spelled in two ways. -/
theorem plus_key_in_two_spellings :
    List.Forall₂ Modifiers.Spelled ["Ctrl".toList, "shift".toList]
        [{ ctrl := true }, { shift := true }] ∧
      List.Forall₂ Modifiers.Spelled ["SHIFT".toList, "Control".toList, "ctrl".toList]
        [{ shift := true }, { ctrl := true }, { ctrl := true }] ∧
      (parse? "Ctrl+shift++").map qualifier = some 0x6002B ∧
      parse? "SHIFT+Control+ctrl++" = parse? "Ctrl+shift++" := by
  have spelled : List.Forall₂ Modifiers.Spelled ["Ctrl".toList, "shift".toList]
      [{ ctrl := true }, { shift := true }] := .cons (by decide) (.cons (by decide) .nil)
  have othersSpelled : List.Forall₂ Modifiers.Spelled
      ["SHIFT".toList, "Control".toList, "ctrl".toList]
      [{ shift := true }, { ctrl := true }, { ctrl := true }] :=
    .cons (by decide) (.cons (by decide) (.cons (by decide) .nil))
  obtain ⟨isSpelled, sameModifiers⟩ := parses_spelling "Ctrl+shift++"
  refine ⟨spelled, othersSpelled, ?_, ?_⟩
  · exact (isSpelled _).2 ⟨_, _, ['+'], '+'.toNat, rfl, spelled, .character (by decide), rfl⟩
  · have isJoined : "SHIFT+Control+ctrl++" = String.ofList
        (joined ["SHIFT".toList, "Control".toList, "ctrl".toList] ['+']) := by decide
    rw [isJoined]
    refine sameModifiers _ _ _ _ ['+'] rfl spelled othersSpelled fun modifier => ?_
    simp only [List.mem_cons, List.not_mem_nil, or_false]
    tauto

end Chord

end Looper
