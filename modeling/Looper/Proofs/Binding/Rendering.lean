import Looper.Proofs.Binding.Spelling

/-!
# Writing chords and reading them back

A chord that has been read is written as a notation for itself, whatever it was written as
before.  The keys of control characters are the exception: they have no name that could be
printed, and the number that stands for them is no notation of any chord.
-/

namespace Looper

/-! ## Hexadecimal numbers -/

namespace Text

theorem hexDigit_ne_plus (n : Nat) : hexDigit n ≠ '+' := by
  have noPlus : '+' ∉ "0123456789abcdef".toList := by decide
  rw [hexDigit, List.getD_eq_getElem?_getD]
  cases found : "0123456789abcdef".toList[n]? with
  | none => decide
  | some c =>
      rintro rfl
      exact noPlus (List.mem_of_getElem? found)

theorem hex_ne_nil (n : Nat) : hex n ≠ [] := by
  rw [hex]
  split <;> simp

theorem plus_not_mem_hex (n : Nat) : '+' ∉ hex n := by
  fun_induction hex n with
  | case1 n small => simpa using (hexDigit_ne_plus n).symm
  | case2 n large ih => simpa [ih] using (hexDigit_ne_plus (n % 16)).symm

end Text

namespace Chord

/-! ## Names of keys -/

def IsControlCode (code : Nat) : Prop :=
  code ≤ 0x1F ∨ 0x7F ≤ code ∧ code ≤ 0x9F

instance (code : Nat) : Decidable (IsControlCode code) :=
  inferInstanceAs (Decidable (code ≤ 0x1F ∨ 0x7F ≤ code ∧ code ≤ 0x9F))

theorem toNat_charOf {code : Nat} (valid : code.isValidChar) : (Char.ofNat code).toNat = code := by
  rw [Char.ofNat, dif_pos valid]
  rfl

theorem isControl_charOf {code : Nat} (valid : code.isValidChar) :
    isControl (Char.ofNat code) = true ↔ IsControlCode code := by
  rw [isControl, toNat_charOf valid, IsControlCode]
  simp only [Bool.or_eq_true, Bool.and_eq_true, decide_eq_true_eq]
  omega

/-- The code of a key is that of a character, also when a name stands for it. -/
theorem isValidChar_of_namesKey {name : List Char} {code : Nat} (names : NamesKey name code) :
    code.isValidChar ∧ code < codeCount := by
  cases names with
  | @character c small => exact ⟨c.valid, Nat.lt_succ_of_le small⟩
  | space => exact ⟨by decide, by decide⟩
  | @listed entry _ member =>
      have low : ∀ entry ∈ namedKeys, entry.2.isValidChar ∧ entry.2 < codeCount := by decide
      exact low entry member
  | @function f number n letter digits first last =>
      rw [functionBase, namedBase, Nat.isValidChar, codeCount]
      omega

theorem digits?_functionNumber :
    ∀ n < functionCount, Text.digits? (toString (n + 1)).toList = some (n + 1) := by
  decide

theorem namesKey_of_codeName? {code : Nat} {name : String} (small : code < codeCount)
    (named : codeName? code = some name) : NamesKey name.toList code := by
  rw [codeName?] at named
  split at named
  · next entry found =>
      cases named
      have isCode := List.find?_some found
      rw [← eq_of_beq isCode]
      exact .listed (List.mem_of_find?_eq_some found) (by simp)
  · split at named
    · next inRange =>
        cases named
        obtain ⟨first, last⟩ := Bool.and_eq_true_iff.1 inRange
        obtain ⟨n, rfl⟩ := Nat.exists_eq_add_of_le (of_decide_eq_true first)
        have below : n < functionCount := Nat.lt_of_add_lt_add_left (of_decide_eq_true last)
        have isName : (s!"F{functionBase + n - functionBase + 1}").toList =
            'F' :: (toString (n + 1)).toList := by
          rw [Nat.add_sub_cancel_left]
          exact String.toList_append
        have names := @NamesKey.function 'F' _ (n + 1) (.inl rfl) (digits?_functionNumber n below)
          (Nat.le_add_left 1 n) below
        rw [isName]
        exact names
    · split at named
      · next isSpace =>
          cases named
          rw [eq_of_beq isSpace]
          exact .space (by simp)
      · obtain ⟨c, isPrintable, rfl⟩ := Option.map_eq_some_iff.1 named
        rw [printable?] at isPrintable
        split at isPrintable
        · next valid =>
            obtain ⟨isChar, -⟩ := Option.filter_eq_some_iff.1 isPrintable
            cases isChar
            have names := @NamesKey.character (Char.ofNat code)
            rw [toNat_charOf valid] at names
            rw [String.toList_singleton]
            exact names (Nat.le_of_lt_succ small)
        · cases isPrintable

theorem printable?_eq_none_iff {code : Nat} (valid : code.isValidChar) :
    printable? code = none ↔ IsControlCode code := by
  rw [printable?, if_pos valid, ← isControl_charOf valid]
  simp

theorem codeName?_eq_none_iff {code : Nat} (valid : code.isValidChar) :
    codeName? code = none ↔ IsControlCode code := by
  rw [codeName?]
  constructor
  · intro unnamed
    split at unnamed
    · cases unnamed
    · split at unnamed
      · cases unnamed
      · split at unnamed
        · cases unnamed
        · exact (printable?_eq_none_iff valid).1 (Option.map_eq_none_iff.1 unnamed)
  · intro control
    -- All the keys with names of their own lie above the control characters, but for the space.
    have low : code < 0xA0 := by
      rw [IsControlCode] at control
      omega
    have notListed : (namedKeys.find? fun entry => entry.2 == code) = none := by
      have above : ∀ entry ∈ namedKeys, 0xA0 ≤ entry.2 := by decide
      rw [List.find?_eq_none]
      intro entry member isCode
      rw [← eq_of_beq isCode] at low
      exact absurd (above entry member) (Nat.not_le_of_lt low)
    have notFunction : ¬ (decide (functionBase ≤ code) &&
        decide (code < functionBase + functionCount)) = true := by
      intro inRange
      have first := of_decide_eq_true (Bool.and_eq_true_iff.1 inRange).1
      exact absurd (Nat.lt_of_le_of_lt first low) (by decide)
    have notSpace : ¬ (code == ' '.toNat) = true := by
      intro isSpace
      rw [eq_of_beq isSpace] at control
      exact absurd control (by decide)
    rw [notListed]
    dsimp only
    rw [if_neg notFunction, if_neg notSpace, (printable?_eq_none_iff valid).2 control]
    rfl

/-! ## Notations of chords -/

def shown (held : Modifiers) : List (String × Modifiers) :=
  [("Ctrl", { ctrl := true }), ("Alt", { alt := true }), ("Cmd", { command := true }),
    ("Shift", { shift := true })].filter fun entry => held.union entry.2 == held

theorem render_eq_joined (chord : Chord) :
    (render chord).toList = joined ((shown chord.modifiers).map fun entry => entry.1.toList)
      ((codeName? chord.code).getD ("#" ++ String.ofList (Text.hex chord.code))).toList := by
  obtain ⟨code, held⟩ := chord
  rw [render]
  generalize (codeName? code).getD ("#" ++ String.ofList (Text.hex code)) = key
  rcases held with ⟨_ | _, _ | _, _ | _, _ | _⟩ <;> simp [shown, Modifiers.union]

theorem spelled_shown (held : Modifiers) :
    List.Forall₂ Modifiers.Spelled ((shown held).map fun entry => entry.1.toList)
      ((shown held).map fun entry => entry.2) := by
  have spelled : ∀ entry ∈ shown { shift := true, ctrl := true, alt := true, command := true },
      Modifiers.Spelled entry.1.toList entry.2 := by decide
  rw [List.forall₂_map_left_iff, List.forall₂_map_right_iff, List.forall₂_same]
  intro entry member
  refine spelled entry (List.mem_filter.2 ⟨(List.mem_filter.1 member).1, ?_⟩)
  rcases entry with ⟨_, _ | _, _ | _, _ | _, _ | _⟩ <;> rfl

theorem foldl_shown (held : Modifiers) :
    ((shown held).map fun entry => entry.2).foldl .union {} = held := by
  rcases held with ⟨_ | _, _ | _, _ | _, _ | _⟩ <;> rfl

/-- Behind the modifiers, what is written is read as a key. -/
theorem parse?_render {chord : Chord} {key : String} (atKey : AtKey key.toList)
    (isKey : (codeName? chord.code).getD ("#" ++ String.ofList (Text.hex chord.code)) = key) :
    parse? (render chord) = (keyCode? key.toList).map fun code => ⟨code, chord.modifiers⟩ := by
  rw [parse?, render_eq_joined, isKey, parseFrom_joined (spelled_shown _), foldl_shown,
    parseFrom_key _ atKey]

theorem parse?_render_of_named {chord : Chord} {name : String} (small : chord.code < codeCount)
    (named : codeName? chord.code = some name) : parse? (render chord) = some chord := by
  have names := namesKey_of_codeName? small named
  rw [parse?_render names.atKey (by rw [named]; rfl), keyCode?_of_namesKey names]
  rfl

theorem not_namesKey_number {rest : List Char} {code : Nat} (nonempty : rest ≠ []) :
    ¬ NamesKey ('#' :: rest) code := by
  have notListed : ∀ entry ∈ namedKeys, (lowered entry.1.toList).head? ≠ some '#' := by decide
  have notSpace : (lowered "Space".toList).head? ≠ some '#' := by decide
  intro names
  generalize isName : '#' :: rest = name at names
  cases names with
  | character => exact nonempty (List.cons.inj isName).2
  | space same =>
      rw [sameName_ofList, ← isName] at same
      exact notSpace (congrArg List.head? same)
  | @listed entry _ member same =>
      rw [sameName_ofList, ← isName] at same
      exact notListed entry member (congrArg List.head? same)
  | function letter =>
      rw [← (List.cons.inj isName).1] at letter
      exact absurd letter (by decide)

/-- A chord without a name is not read back, nor as another one. -/
theorem parse?_render_of_unnamed {chord : Chord} (unnamed : codeName? chord.code = none) :
    parse? (render chord) = none := by
  have isKey : (codeName? chord.code).getD ("#" ++ String.ofList (Text.hex chord.code)) =
      String.ofList ('#' :: Text.hex chord.code) := by
    rw [unnamed, Option.getD_none]
    apply String.toList_inj.1
    simp
  have atKey : AtKey ('#' :: Text.hex chord.code) :=
    .inl (by simp [Text.plus_not_mem_hex])
  rw [parse?_render (by rwa [String.toList_ofList]) isKey, String.toList_ofList,
    Option.map_eq_none_iff, Option.eq_none_iff_forall_ne_some]
  intro code reads
  exact not_namesKey_number (Text.hex_ne_nil _) ((keyCode?_eq_some_iff atKey).1 reads)

/-! ## Qualifiers -/

theorem ofQualifier_qualifier {chord : Chord} (small : chord.code < codeCount) :
    ofQualifier chord.qualifier = chord := by
  have positive : 0 < codeCount := by decide
  rw [ofQualifier, qualifier, Nat.mod_eq_of_lt small, Nat.add_mul_mod_self_left,
    Nat.mod_eq_of_lt small, Nat.add_mul_div_left _ _ positive, Nat.div_eq_of_lt small,
    Nat.zero_add, Modifiers.ofBits_bits]

/--
The qualifier of whatever has been read gives the chord back.  Written and read again, the
chord is the same, unless its key is that of a control character: then what is written is not
read as any chord.
-/
theorem render_reads_back (s : String) (q : Nat) (reads : (parse? s).map qualifier = some q) :
    (ofQualifier q).qualifier = q ∧
      (¬ IsControlCode (ofQualifier q).code →
        (parse? (render (ofQualifier q))).map qualifier = some q) ∧
      (IsControlCode (ofQualifier q).code → parse? (render (ofQualifier q)) = none) := by
  obtain ⟨chord, isChord, rfl⟩ := Option.map_eq_some_iff.1 reads
  obtain ⟨words, modifiers, key, code, -, -, names, rfl⟩ := parse?_eq_some_iff.1 isChord
  obtain ⟨valid, small⟩ := isValidChar_of_namesKey names
  rw [ofQualifier_qualifier small]
  refine ⟨rfl, fun plain => ?_, fun control => ?_⟩
  · obtain ⟨name, named⟩ := Option.ne_none_iff_exists'.1
      fun unnamed => plain ((codeName?_eq_none_iff valid).1 unnamed)
    rw [parse?_render_of_named small named]
    rfl
  · exact parse?_render_of_unnamed ((codeName?_eq_none_iff valid).2 control)

/-- A function key comes back under another name, and the tabulator character does not. -/
theorem function_key_reads_back :
    ((parse? "option+f007").map qualifier = some 0x90076 ∧
      ¬ IsControlCode (ofQualifier 0x90076).code ∧ render (ofQualifier 0x90076) = "Alt+F7" ∧
      (parse? "Alt+F7").map qualifier = some 0x90076) ∧
    (parse? "Ctrl+\t").map qualifier = some 0x40009 ∧
      IsControlCode (ofQualifier 0x40009).code ∧ render (ofQualifier 0x40009) = "Ctrl+#9" ∧
      parse? "Ctrl+#9" = none := by
  have isChord : parse? "option+f007" = some ⟨0x10076, { alt := true }⟩ :=
    parse?_eq_some_iff.2 ⟨["option".toList], [{ alt := true }], "f007".toList, 0x10076, rfl,
      .cons (by decide) .nil,
      @NamesKey.function 'f' "007".toList 7 (.inr rfl) rfl (by decide) (by decide), rfl⟩
  have isControl : parse? "Ctrl+\t" = some ⟨0x9, { ctrl := true }⟩ :=
    parse?_eq_some_iff.2 ⟨["Ctrl".toList], [{ ctrl := true }], "\t".toList, 0x9, rfl,
      .cons (by decide) .nil, @NamesKey.character '\t' (by decide), rfl⟩
  have reads : (parse? "option+f007").map qualifier = some 0x90076 := by
    rw [isChord]
    rfl
  have readsControl : (parse? "Ctrl+\t").map qualifier = some 0x40009 := by
    rw [isControl]
    rfl
  have plain : ¬ IsControlCode (ofQualifier 0x90076).code := by decide
  have control : IsControlCode (ofQualifier 0x40009).code := by decide
  have isText : render (ofQualifier 0x90076) = "Alt+F7" := by decide
  have isHex : Text.hex (ofQualifier 0x40009).code = ['9'] := by
    rw [Text.hex]
    rfl
  have isControlText : render (ofQualifier 0x40009) = "Ctrl+#9" := by
    rw [render, isHex]
    decide
  refine ⟨⟨reads, plain, isText, ?_⟩, readsControl, control, isControlText, ?_⟩
  · rw [← isText]
    exact (render_reads_back _ _ reads).2.1 plain
  · rw [← isControlText]
    exact (render_reads_back _ _ readsControl).2.2 control

end Chord

end Looper
