import Looper.Document.Basic
import Looper.Text.Blank
import Looper.Text.Numeral

/-!
# TOML scalars without quotes

Numbers, truth values, dates and times are tokens that end at a space, a comma,
a bracket, a comment or the end of the line.  A token is read as a whole: one
that is none of these is malformed.
-/

namespace Looper.Toml

def digitGroups? (isDigit : Char → Bool) (s : List Char) : Option (List Char) :=
  let groups := Text.pieces (· == '_') s
  if groups.all fun group => !group.isEmpty && group.all isDigit then some groups.flatten
  else none

/-- The value of a digit in bases up to sixteen. -/
def baseDigit (c : Char) : Nat :=
  if Text.isDigit c then Text.digitValue c
  else c.toLower.toNat - 'a'.toNat + 10

/-- Whether a character is a digit in a base up to sixteen. -/
def isBaseDigit (base : Nat) (c : Char) : Bool :=
  (Text.isDigit c || ('a' ≤ c.toLower && c.toLower ≤ 'f')) && baseDigit c < base

def baseNumber? (base : Nat) (s : List Char) : Option Int :=
  (digitGroups? (isBaseDigit base) s).map fun digits =>
    Int.ofNat (digits.foldl (fun value c => base * value + baseDigit c) 0)

/-- Decimal digits that do not start with a zero, unless zero is all there is. -/
def decimalDigits? (s : List Char) : Option (List Char) :=
  (digitGroups? Text.isDigit s).filter fun digits =>
    digits.length == 1 || digits.head? != some '0'

/-- A text without a sign at its front, and whether the sign was a minus. -/
def unsigned (s : List Char) : Bool × List Char :=
  match s with
  | '+' :: rest => (false, rest)
  | '-' :: rest => (true, rest)
  | _ => (false, s)

def integer? (s : List Char) : Option Int :=
  let value :=
    match s with
    | '0' :: 'x' :: digits => baseNumber? 16 digits
    | '0' :: 'o' :: digits => baseNumber? 8 digits
    | '0' :: 'b' :: digits => baseNumber? 2 digits
    | _ =>
        let (negative, digits) := unsigned s
        (decimalDigits? digits).map fun digits =>
          let value := Int.ofNat (Text.digitsValue digits)
          if negative then -value else value
  value.filter fun n => Text.int64Min ≤ n && n ≤ Text.int64Max

def isExponent (s : List Char) : Bool :=
  (digitGroups? Text.isDigit (unsigned s).2).isSome

/-- Whether a text is a number with a fraction, an exponent or both. -/
def isDecimal (s : List Char) : Bool :=
  let body := (unsigned s).2
  let isE (c : Char) : Bool := c == 'e' || c == 'E'
  let mantissa := body.takeWhile (!isE ·)
  let whole := mantissa.takeWhile (· != '.')
  let fractionIsGood :=
    match mantissa.dropWhile (· != '.') with
    | [] => true
    | _ :: fraction => (digitGroups? Text.isDigit fraction).isSome
  let exponentIsGood :=
    match body.dropWhile (!isE ·) with
    | [] => true
    | _ :: exponent => isExponent exponent
  body == "inf".toList || body == "nan".toList ||
    ((decimalDigits? whole).isSome && fractionIsGood && exponentIsGood &&
      body.any fun c => c == '.' || isE c)

def digitsOf (s : List Char) : List Char :=
  s.filter Text.isDigit

/-- The least number that is too large for a 64-bit float, even rounded down. -/
def floatBound : Nat := Nat.pow 2 1024 - Nat.pow 2 970

/--
Whether a number is too large for a 64-bit float.  It is settled by the count of
digits before the point, unless that is near the limit.
-/
def exceedsFloat (s : List Char) : Bool :=
  let isE (c : Char) : Bool := c == 'e' || c == 'E'
  let mantissa := s.takeWhile (!isE ·)
  let exponent := (s.dropWhile (!isE ·)).drop 1
  let power := Int.ofNat (Text.digitsValue (digitsOf exponent))
  let digits := digitsOf mantissa
  let fraction := (digitsOf (mantissa.dropWhile (· != '.'))).length
  let shift := (if (unsigned exponent).1 then -power else power) - fraction
  let value := Text.digitsValue digits
  let size := Int.ofNat (digits.dropWhile (· == '0')).length + shift
  if value = 0 || size < 300 then false
  else if 400 < size then true
  else if 0 ≤ shift then floatBound ≤ value * Nat.pow 10 shift.toNat
  else floatBound * Nat.pow 10 (-shift).toNat ≤ value

/-- A number of exactly so many digits within a range, at the front of a text. -/
def fixed? (count low high : Nat) (s : List Char) : Option (Nat × List Char) :=
  let digits := s.take count
  if digits.length == count && digits.all Text.isDigit then
    let value := Text.digitsValue digits
    if low ≤ value && value ≤ high then some (value, s.drop count) else none
  else none

def expect? (c : Char) : List Char → Option (List Char)
  | d :: rest => if d == c then some rest else none
  | [] => none

def daysOf (year month : Nat) : Nat :=
  let leap := (year % 4 == 0 && year % 100 != 0) || year % 400 == 0
  if month == 2 then (if leap then 29 else 28)
  else if month == 4 || month == 6 || month == 9 || month == 11 then 30
  else 31

def afterDate? (s : List Char) : Option (List Char) := do
  let (year, s) ← fixed? 4 0 9999 s
  let (month, s) ← fixed? 2 1 12 (← expect? '-' s)
  let (_, s) ← fixed? 2 1 (daysOf year month) (← expect? '-' s)
  return s

def afterTime? (s : List Char) : Option (List Char) := do
  let (_, s) ← fixed? 2 0 23 s
  let (_, s) ← fixed? 2 0 59 (← expect? ':' s)
  let (_, s) ← fixed? 2 0 60 (← expect? ':' s)
  match s with
  | '.' :: fraction =>
      if (fraction.takeWhile Text.isDigit).isEmpty then none
      else some (fraction.dropWhile Text.isDigit)
  | _ => some s

/-- Whether a text is a distance from universal time. -/
def isOffset (s : List Char) : Bool :=
  match s with
  | ['Z'] | ['z'] => true
  | '+' :: rest | '-' :: rest =>
      ((do
        let (_, rest) ← fixed? 2 0 23 rest
        let (_, rest) ← fixed? 2 0 59 (← expect? ':' rest)
        return rest) : Option (List Char)) == some []
  | _ => false

/-- Whether a character may stand between a date and a time. -/
def isTimeMark (c : Char) : Bool :=
  c == 'T' || c == 't' || c == ' '

def isMoment (s : List Char) : Bool :=
  match afterDate? s with
  | some [] => true
  | some (mark :: rest) =>
      isTimeMark mark &&
        match afterTime? rest with
        | some offset => offset.isEmpty || isOffset offset
        | none => false
  | none => afterTime? s == some []

def scalar? (s : List Char) : Option Document :=
  if s == "true".toList then some (.bool true)
  else if s == "false".toList then some (.bool false)
  else
    match integer? s with
    | some value => some (.integer value)
    | none =>
        if isDecimal s then
          if !(unsigned s).1 && exceedsFloat s then none
          else some (.decimal (String.ofList s))
        else if isMoment s then some (.moment (String.ofList s))
        else none

def isTokenChar (c : Char) : Bool :=
  c.isAlphanum || c == '_' || c == '+' || c == '-' || c == '.' || c == ':'

/-- The token at the front of a text, and what follows it; a date may have a time after a space. -/
def token (s : List Char) : List Char × List Char :=
  let word := s.takeWhile isTokenChar
  let rest := s.dropWhile isTokenChar
  match afterDate? word, rest with
  | some [], ' ' :: more =>
      let time := more.takeWhile isTokenChar
      if (time.head?.any Text.isDigit) then
        (word ++ ' ' :: time, more.dropWhile isTokenChar)
      else (word, rest)
  | _, _ => (word, rest)

end Looper.Toml
