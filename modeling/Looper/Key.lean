import Looper.Text.Caseless
import Looper.Text.Numeral

/-!
# Keys, qualifiers and key notation

A chord is a key code held together with modifier keys.  It travels as one
number, its qualifier: seventeen bits of code below four bits of modifiers.
People write it as modifier words joined by plus signs to a character or a key
name, as in `Ctrl+Shift+Delete`.
-/

namespace Looper

/-- Which modifier keys are held. -/
structure Modifiers where
  shift : Bool := false
  ctrl : Bool := false
  alt : Bool := false
  command : Bool := false
  deriving DecidableEq, Repr

namespace Modifiers

def bits (m : Modifiers) : Nat :=
  m.shift.toNat + 2 * m.ctrl.toNat + 4 * m.alt.toNat + 8 * m.command.toNat

/-- The modifiers whose bits are set; higher bits mean nothing. -/
def ofBits (n : Nat) : Modifiers where
  shift := n % 2 == 1
  ctrl := n / 2 % 2 == 1
  alt := n / 4 % 2 == 1
  command := n / 8 % 2 == 1

def union (m n : Modifiers) : Modifiers where
  shift := m.shift || n.shift
  ctrl := m.ctrl || n.ctrl
  alt := m.alt || n.alt
  command := m.command || n.command

theorem bits_lt (m : Modifiers) : m.bits < 16 := by
  rcases m with ⟨_ | _, _ | _, _ | _, _ | _⟩ <;> decide

@[simp] theorem ofBits_bits (m : Modifiers) : ofBits m.bits = m := by
  rcases m with ⟨_ | _, _ | _, _ | _, _ | _⟩ <;> rfl

def vocabulary : List (String × Modifiers) :=
  [("shift", { shift := true }),
   ("ctrl", { ctrl := true }), ("control", { ctrl := true }),
   ("alt", { alt := true }), ("option", { alt := true }),
   ("cmd", { command := true }), ("command", { command := true }),
   ("meta", { command := true })]

/-- The modifier that a word names, in any case. -/
def named? (word : List Char) : Option Modifiers :=
  vocabulary.lookup (Text.fold (String.ofList word))

end Modifiers

/-- A key held together with modifiers. -/
structure Chord where
  code : Nat
  modifiers : Modifiers := {}
  deriving DecidableEq, Repr

namespace Chord

def codeCount : Nat := 0x20000

def maxQualifier : Nat := 0x1FFFFF

/-- The chord as one number.  Only the low seventeen bits of the code are kept. -/
def qualifier (chord : Chord) : Nat :=
  chord.code % codeCount + codeCount * chord.modifiers.bits

def ofQualifier (q : Nat) : Chord where
  code := q % codeCount
  modifiers := .ofBits (q / codeCount)

/-- The table bucket of a key code or qualifier: its low byte. -/
def bucket (q : Nat) : Nat :=
  q % 256

/-- Named keys lie above the characters that share their low byte. -/
def namedBase : Nat := 0x10000

def namedKeys : List (String × Nat) :=
  [("Backspace", namedBase + 0x08), ("Tab", namedBase + 0x09),
   ("Enter", namedBase + 0x0D), ("Escape", namedBase + 0x1B),
   ("PageUp", namedBase + 0x21), ("PageDown", namedBase + 0x22),
   ("End", namedBase + 0x23), ("Home", namedBase + 0x24),
   ("Left", namedBase + 0x25), ("Up", namedBase + 0x26),
   ("Right", namedBase + 0x27), ("Down", namedBase + 0x28),
   ("Insert", namedBase + 0x2D), ("Delete", namedBase + 0x2E)]

/-- The code of the function key F1; the others follow it. -/
def functionBase : Nat := namedBase + 0x70

def functionCount : Nat := 24

/-- The code of a function key written `F` and its number. -/
def functionKey? (name : List Char) : Option Nat :=
  match name with
  | 'F' :: number | 'f' :: number =>
      ((Text.nat32? number).filter fun n => 1 ≤ n && n ≤ functionCount).map
        fun n => functionBase + n - 1
  | _ => none

/-- The code of a key given by name, in any case. -/
def namedCode? (name : String) : Option Nat :=
  match namedKeys.find? fun entry => Text.sameName entry.1 name with
  | some entry => some entry.2
  | none =>
      if Text.sameName name "Space" then some ' '.toNat
      else functionKey? name.toList

def isControl (c : Char) : Bool :=
  c.toNat < 0x20 || (0x7F ≤ c.toNat && c.toNat < 0xA0)

def printable? (code : Nat) : Option Char :=
  if code.isValidChar then
    (some (Char.ofNat code)).filter fun c => !isControl c
  else none

/-- The name of a key code, if it has one that can be printed. -/
def codeName? (code : Nat) : Option String :=
  match namedKeys.find? fun entry => entry.2 == code with
  | some entry => some entry.1
  | none =>
      if functionBase ≤ code && code < functionBase + functionCount then
        some s!"F{code - functionBase + 1}"
      else if code == ' '.toNat then some "Space"
      else (printable? code).map String.singleton

/-- Read the key at the end of a notation: one character, or a name. -/
def keyCode? (s : List Char) : Option Nat :=
  let code :=
    match s with
    | [] => none
    | [c] => some c.toNat
    | _ => namedCode? (String.ofList s)
  code.filter (· < codeCount)

def splitPlus : List Char → Option (List Char × List Char)
  | [] => none
  | c :: rest =>
      if c = '+' then some ([], rest)
      else (splitPlus rest).map fun parts => (c :: parts.1, parts.2)

theorem splitPlus_length {s word tail : List Char} (split : splitPlus s = some (word, tail)) :
    tail.length < s.length := by
  induction s generalizing word with
  | nil => simp [splitPlus] at split
  | cons c rest ih =>
      unfold splitPlus at split
      by_cases plus : c = '+'
      · simp only [plus, if_true, Option.some.injEq, Prod.mk.injEq] at split
        simp [split.2]
      · simp only [plus, if_false] at split
        obtain ⟨parts, found, parts_eq⟩ := Option.map_eq_some_iff.1 split
        have rest_split : splitPlus rest = some (parts.1, tail) := by
          rw [found, ← (Prod.mk.inj parts_eq).2]
        have shorter := ih rest_split
        simp only [List.length_cons]
        omega

/-- Read modifier words up to the key, adding them to those already held. -/
def parseFrom (held : Modifiers) (s : List Char) : Option Chord :=
  match _split : splitPlus s with
  | none | some ([], _) => (keyCode? s).map fun code => ⟨code, held⟩
  | some (c :: word, tail) =>
      match Modifiers.named? (c :: word) with
      | none => none
      | some modifier => parseFrom (held.union modifier) tail
termination_by s.length
decreasing_by exact splitPlus_length _split

def parse? (s : String) : Option Chord :=
  parseFrom {} s.toList

/-- Write a chord in key notation; a key without a name is given by its code. -/
def render (chord : Chord) : String :=
  (if chord.modifiers.ctrl then "Ctrl+" else "") ++
  (if chord.modifiers.alt then "Alt+" else "") ++
  (if chord.modifiers.command then "Cmd+" else "") ++
  (if chord.modifiers.shift then "Shift+" else "") ++
  (codeName? chord.code).getD ("#" ++ String.ofList (Text.hex chord.code))

end Chord

end Looper
