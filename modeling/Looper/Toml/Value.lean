import Looper.Toml.Scalar
import Looper.Toml.Tree

/-!
# TOML keys and values

Each reader takes what it reads from the front of a text and returns the rest.
Every step takes at least one character, so the length of the text bounds the
number of steps.  Brackets and braces nest less than eighty deep.
-/

namespace Looper.Toml

/-- Whether a character may stand in a comment or a quoted text: no control character but tab. -/
def isPlain (c : Char) : Bool :=
  c == '\t' || (0x20 ≤ c.toNat && c.toNat != 0x7F)

def isSpace (c : Char) : Bool :=
  c == ' ' || c == '\t'

def skipSpaces (s : List Char) : List Char :=
  s.dropWhile isSpace

/-- Drop a line break, which is a line feed, or a carriage return and a line feed. -/
def afterBreak? : List Char → Option (List Char)
  | '\n' :: rest => some rest
  | '\r' :: '\n' :: rest => some rest
  | _ => none

def skipComment (s : List Char) : List Char :=
  match s with
  | '#' :: rest => rest.dropWhile isPlain
  | _ => s

def skipBlank : Nat → List Char → List Char
  | 0, s => s
  | steps + 1, s =>
      let s := skipComment (skipSpaces s)
      match afterBreak? s with
      | some rest => skipBlank steps rest
      | none => s

def codePoint? (count : Nat) (s : List Char) : Option (Char × List Char) :=
  let digits := s.take count
  if digits.length == count && digits.all (isBaseDigit 16) then
    let code := digits.foldl (fun value c => 16 * value + baseDigit c) 0
    if code.isValidChar then some (Char.ofNat code, s.drop count) else none
  else none

def escape? : List Char → Option (Char × List Char)
  | 'b' :: rest => some ('\x08', rest)
  | 't' :: rest => some ('\t', rest)
  | 'n' :: rest => some ('\n', rest)
  | 'f' :: rest => some ('\x0c', rest)
  | 'r' :: rest => some ('\r', rest)
  | '"' :: rest => some ('"', rest)
  | '\\' :: rest => some ('\\', rest)
  | 'u' :: rest => codePoint? 4 rest
  | 'U' :: rest => codePoint? 8 rest
  | _ => none

/-- Put a character in front of what is read next. -/
def andThen (c : Char) (read : Option (List Char × List Char)) : Option (List Char × List Char) :=
  read.map fun (text, rest) => (c :: text, rest)

/-- Read a text up to its closing double quote. -/
def basic : Nat → List Char → Option (List Char × List Char)
  | 0, _ => none
  | _ + 1, [] => none
  | steps + 1, c :: rest =>
      if c == '"' then some ([], rest)
      else if c == '\\' then do
        let (c, rest) ← escape? rest
        andThen c (basic steps rest)
      else if isPlain c then andThen c (basic steps rest)
      else none

/-- Read a text up to its closing single quote. -/
def literal (s : List Char) : Option (List Char × List Char) :=
  let inside (c : Char) : Bool := isPlain c && c != '\''
  match s.dropWhile inside with
  | '\'' :: rest => some (s.takeWhile inside, rest)
  | _ => none

def skipFold : List Char → List Char
  | '\r' :: '\n' :: rest => skipFold rest
  | c :: rest => if isSpace c || c == '\n' then skipFold rest else c :: rest
  | [] => []

/--
Read a text of several lines up to its three closing quotes.  Up to two quotes
may stand before the closing ones.  In double quotes there are escapes, and a
backslash at the end of a line joins it to what follows.
-/
def multiline (quote : Char) : Nat → List Char → Option (List Char × List Char)
  | 0, _ => none
  | _ + 1, [] => none
  | steps + 1, c :: rest =>
      if c == quote then
        let run := ((c :: rest).takeWhile (· == quote)).length
        if 3 ≤ run then
          some (List.replicate (min run 5 - 3) quote, (c :: rest).drop (min run 5))
        else andThen c (multiline quote steps rest)
      else if c == '\\' && quote == '"' then
        match afterBreak? (skipSpaces rest) with
        | some more => multiline quote steps (skipFold more)
        | none => do
            let (c, rest) ← escape? rest
            andThen c (multiline quote steps rest)
      else
        match afterBreak? (c :: rest) with
        | some more => andThen '\n' (multiline quote steps more)
        | none => if isPlain c then andThen c (multiline quote steps rest) else none

/-- Read a text of several lines; a line break right after the opening quotes is dropped. -/
def multilineText (quote : Char) (s : List Char) : Option (List Char × List Char) :=
  multiline quote (s.length + 1) ((afterBreak? s).getD s)

def quoted? : List Char → Option (List Char × List Char)
  | '"' :: '"' :: '"' :: rest => multilineText '"' rest
  | '\'' :: '\'' :: '\'' :: rest => multilineText '\'' rest
  | '"' :: rest => basic (rest.length + 1) rest
  | '\'' :: rest => literal rest
  | _ => none

def isBare (c : Char) : Bool :=
  c.isAlphanum || c == '_' || c == '-'

def simpleKey (s : List Char) : Option (String × List Char) :=
  match s with
  | '"' :: rest => (basic (rest.length + 1) rest).map fun (key, rest) => (String.ofList key, rest)
  | '\'' :: rest => (literal rest).map fun (key, rest) => (String.ofList key, rest)
  | _ =>
      let key := s.takeWhile isBare
      if key.isEmpty then none else some (String.ofList key, s.dropWhile isBare)

/-- Read a key of parts joined by dots: the parts before the last, and the last. -/
def dottedKey : Nat → List Char → Option ((List String × String) × List Char)
  | 0, _ => none
  | steps + 1, s => do
      let (part, rest) ← simpleKey (skipSpaces s)
      match skipSpaces rest with
      | '.' :: rest =>
          let ((path, last), rest) ← dottedKey steps rest
          return ((part :: path, last), rest)
      | rest => return (([], part), rest)

def maxKeyParts : Nat := 79

def key (s : List Char) : Option ((List String × String) × List Char) :=
  dottedKey maxKeyParts s

def afterEquals? (s : List Char) : Option (List Char) :=
  (expect? '=' (skipSpaces s)).map skipSpaces

mutual

/-- Read a value with room for so many levels of brackets. -/
def value : Nat → Nat → List Char → Option (Document × List Char)
  | 0, _, _ => none
  | steps + 1, room, s =>
      match s, room with
      | '[' :: _, 0 | '{' :: _, 0 => none
      | '[' :: rest, room + 1 =>
          (items steps room rest).map fun (values, rest) => (.list values, rest)
      | '{' :: rest, room + 1 =>
          match skipSpaces rest with
          | '}' :: rest => some (.table [], rest)
          | rest => do
              let (pairs, rest) ← members steps room rest
              return (← inlineTable? pairs, rest)
      | c :: _, _ =>
          if c == '"' || c == '\'' then
            (quoted? s).map fun (text, rest) => (.text (String.ofList text), rest)
          else do
            let (word, rest) := token s
            return (← scalar? word, rest)
      | [], _ => none

/-- Read the values of a list up to its closing bracket. -/
def items : Nat → Nat → List Char → Option (List Document × List Char)
  | 0, _, _ => none
  | steps + 1, room, s =>
      match skipBlank (s.length + 1) s with
      | ']' :: rest => some ([], rest)
      | s => do
          let (first, rest) ← value steps room s
          match skipBlank (rest.length + 1) rest with
          | ']' :: rest => return ([first], rest)
          | ',' :: rest =>
              let (more, rest) ← items steps room rest
              return (first :: more, rest)
          | _ => none

/-- Read the keys and values of an inline table up to its closing brace. -/
def members : Nat → Nat → List Char →
    Option (List (List String × String × Document) × List Char)
  | 0, _, _ => none
  | steps + 1, room, s => do
      let ((path, last), rest) ← key s
      let (first, rest) ← value steps room (← afterEquals? rest)
      match skipSpaces rest with
      | '}' :: rest => return ([(path, last, first)], rest)
      | ',' :: rest =>
          let (more, rest) ← members steps room rest
          return ((path, last, first) :: more, rest)
      | _ => none

end

/-- The depth to which brackets and braces may nest. -/
def maxDepth : Nat := 79

def keyValue (s : List Char) : Option ((List String × String × Document) × List Char) := do
  let ((path, last), rest) ← key s
  let (document, rest) ← value (2 * s.length + 2) maxDepth (← afterEquals? rest)
  return ((path, last, document), rest)

end Looper.Toml
