/-!
# Decimal numerals

Numbers in arguments, script operands and scopes are written in ASCII digits,
with an optional sign.  A numeral is read only when its value fits the range
asked for, so that reading never wraps around.
-/

namespace Looper.Text

def isDigit (c : Char) : Bool :=
  '0' ≤ c && c ≤ '9'

def digitValue (c : Char) : Nat :=
  c.toNat - '0'.toNat

/-- The value of a run of digits, most significant first. -/
def digitsValue (digits : List Char) : Nat :=
  digits.foldl (fun value c => 10 * value + digitValue c) 0

/-- The value of a text that is a nonempty run of digits. -/
def digits? (s : List Char) : Option Nat :=
  if !s.isEmpty && s.all isDigit then some (digitsValue s) else none

/-- Read digits, with at most one plus sign before them, as a number up to `limit`. -/
def natural? (limit : Nat) (s : List Char) : Option Nat :=
  let unsigned :=
    match s with
    | '+' :: rest => rest
    | _ => s
  (digits? unsigned).filter (· ≤ limit)

/-- Read digits, with at most one sign before them, as an integer from `low` to `high`. -/
def integer? (low high : Int) (s : List Char) : Option Int :=
  let value : Option Int :=
    match s with
    | '+' :: rest => (digits? rest).map Int.ofNat
    | '-' :: rest => (digits? rest).map fun n => -Int.ofNat n
    | _ => (digits? s).map Int.ofNat
  value.filter fun n => low ≤ n && n ≤ high

def wordSize : Nat := 0x100000000

def int32Min : Int := -0x80000000

def int32Max : Int := 0x7FFFFFFF

def int64Min : Int := -0x8000000000000000

def int64Max : Int := 0x7FFFFFFFFFFFFFFF

def nat32? (s : List Char) : Option Nat :=
  natural? (wordSize - 1) s

theorem digits?_eq_some_iff {s : List Char} {n : Nat} :
    digits? s = some n ↔ s.isEmpty = false ∧ s.all isDigit = true ∧ digitsValue s = n := by
  rw [digits?]
  cases s.isEmpty <;> cases s.all isDigit <;> simp

theorem nat32?_of_digits {s : List Char} {n : Nat} (written : digits? s = some n) :
    nat32? s = if n < wordSize then some n else none := by
  have unsigned : natural? (wordSize - 1) s =
      (digits? s).filter fun value => decide (value ≤ wordSize - 1) := by
    unfold natural?
    split
    · next rest => simp [digits?, isDigit] at written
    · rfl
  rw [nat32?, unsigned, written, Option.filter_some]
  by_cases fits : n < wordSize
  · rw [if_pos fits, if_pos (decide_eq_true (Nat.le_sub_one_of_lt fits))]
  · have beyond : ¬ n ≤ wordSize - 1 := fun within =>
      fits (Nat.lt_of_le_sub_one (by decide) within)
    rw [if_neg fits, if_neg (by simpa using beyond)]

theorem digits?_of_nat32? {s : List Char} {n : Nat} (noPlus : '+' ∉ s)
    (reads : nat32? s = some n) : digits? s = some n := by
  rw [nat32?] at reads
  unfold natural? at reads
  split at reads
  · next rest => exact absurd List.mem_cons_self noPlus
  · exact Option.eq_some_of_filter_eq_some reads

def int32? (s : List Char) : Option Int :=
  integer? int32Min int32Max s

def int64? (s : List Char) : Option Int :=
  integer? int64Min int64Max s

def hexDigit (n : Nat) : Char :=
  "0123456789abcdef".toList.getD n '0'

def hex (n : Nat) : List Char :=
  if n < 16 then [hexDigit n] else hex (n / 16) ++ [hexDigit (n % 16)]

def hexByte (n : Nat) : List Char :=
  [hexDigit (n / 16 % 16), hexDigit (n % 16)]

end Looper.Text
