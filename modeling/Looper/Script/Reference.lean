import Looper.Log
import Looper.Text.Blank
import Looper.Text.Numeral

/-!
# References in script text

`$1` to `$9` stand for arguments, `$name` and `$(name)` for named values, and
`$$` for a dollar sign.  A dollar sign before anything else stands for itself.
Text is read once from left to right: what a reference stands for is not read
again.
-/

namespace Looper

/-- What a reference refers to. -/
inductive Reference where
  /-- An argument, counted from one. -/
  | argument (position : Nat)
  | named (name : String)
  deriving DecidableEq, Repr

/-- A part of a text with references. -/
inductive TextPiece where
  | plain (c : Char)
  /-- A doubled dollar sign. -/
  | dollar
  /-- A reference, and how it is written. -/
  | reference (reference : Reference) (written : List Char)
  deriving DecidableEq, Repr

namespace Reference

def startsName (c : Char) : Bool :=
  c.isAlpha || c == '_'

def continuesName (c : Char) : Bool :=
  c.isAlphanum || c == '_'

/-- The longest name at the front of a text, and what follows it. -/
def name? : List Char → Option (List Char × List Char)
  | [] => none
  | c :: rest =>
      if startsName c then
        some (c :: rest.takeWhile continuesName, rest.dropWhile continuesName)
      else none

def isName (s : List Char) : Bool :=
  match s with
  | [] => false
  | c :: rest => startsName c && rest.all continuesName

/-- A name in parentheses at the front of a text, and what follows it. -/
def parenthesized? : List Char → Option (List Char × List Char)
  | '(' :: rest =>
      match name? rest with
      | some (name, ')' :: rest) => some (name, rest)
      | _ => none
  | _ => none

/-- What a dollar sign stands for with the text after it, and what is then left. -/
def afterDollar (rest : List Char) : TextPiece × List Char :=
  match rest with
  | '$' :: rest => (.dollar, rest)
  | _ =>
      match parenthesized? rest with
      | some (name, left) =>
          (.reference (.named (String.ofList name)) ("$(".toList ++ name ++ [')']), left)
      | none =>
          match rest with
          | c :: left =>
              if Text.isDigit c then (.reference (.argument (Text.digitValue c)) ['$', c], left)
              else
                match name? rest with
                | some (name, left) =>
                    (.reference (.named (String.ofList name)) ('$' :: name), left)
                | none => (.plain '$', rest)
          | [] => (.plain '$', [])

theorem length_dropWhile_le (p : Char → Bool) (s : List Char) :
    (s.dropWhile p).length ≤ s.length := by
  induction s with
  | nil => simp
  | cons c rest ih =>
      rw [List.dropWhile_cons]
      split
      · simp only [List.length_cons]
        omega
      · exact Nat.le_refl _

theorem name?_length {s name left : List Char} (found : name? s = some (name, left)) :
    left.length ≤ s.length := by
  cases s with
  | nil => simp [name?] at found
  | cons c rest =>
      rw [name?] at found
      split at found
      · cases found
        have shorter := length_dropWhile_le continuesName rest
        simp only [List.length_cons]
        omega
      · simp at found

theorem parenthesized?_length {s name left : List Char}
    (found : parenthesized? s = some (name, left)) : left.length ≤ s.length := by
  unfold parenthesized? at found
  split at found
  · split at found
    · next split =>
        cases found
        have shorter := name?_length split
        simp only [List.length_cons] at shorter ⊢
        omega
    · simp at found
  · simp at found

theorem afterDollar_length (rest : List Char) : (afterDollar rest).2.length ≤ rest.length := by
  unfold afterDollar
  split
  · simp
  · split
    · next found => exact parenthesized?_length found
    · split
      · split
        · simp
        · split
          · next found => exact name?_length found
          · exact Nat.le_refl _
      · exact Nat.le_refl _

def scan (s : List Char) : List TextPiece :=
  match s with
  | [] => []
  | c :: rest =>
      if c = '$' then (afterDollar rest).1 :: scan (afterDollar rest).2
      else .plain c :: scan rest
termination_by s.length
decreasing_by
  · have shorter := afterDollar_length rest
    simp only [List.length_cons]
    omega
  · simp

def occursIn (text : String) : Bool :=
  text.toList.contains '$'

section

/-!
The caller says what references stand for.  Finding that out may be a computation of any kind
that can write to the log.
-/

variable {m : Type → Type} [Monad m] [MonadLiftT Logged m]

/-- What one part of a text stands for; nothing, if it refers to nothing known. -/
def expandPiece (resolve : Reference → m (Option String)) : TextPiece → m (List Char)
  | .plain c => pure [c]
  | .dollar => pure ['$']
  | .reference reference written => do
      match ← resolve reference with
      | some value => return value.toList
      | none => do
          Log.warn .scripts s!"unresolved reference {String.ofList written}"
          return []

def expandPieces (resolve : Reference → m (Option String)) : List TextPiece → m (List Char)
  | [] => pure []
  | piece :: more => do
      let first ← expandPiece resolve piece
      let rest ← expandPieces resolve more
      return first ++ rest

/-- Replace every reference in a text by what the caller finds out about it. -/
def expandWith (resolve : Reference → m (Option String)) (text : String) : m String := do
  return String.ofList (← expandPieces resolve (scan text.toList))

end

def expand (resolve : Reference → Option String) (text : String) : Logged String :=
  expandWith (fun reference => pure (resolve reference)) text

def allIn (text : String) : List Reference :=
  (scan text.toList).filterMap fun piece =>
    match piece with
    | .reference reference _ => some reference
    | _ => none

/-- The word at a position of an argument text, counted from one. -/
def positional? (args : String) (position : Nat) : Option String :=
  if position = 0 then none
  else (Text.words args.toList)[position - 1]?.map String.ofList

end Reference

end Looper
