/-!
# Blank characters, trimming and words

A character is blank when Unicode gives it the property White_Space.  Names,
arguments and script lines are trimmed of blanks at both ends, and split into
words at runs of blanks.
-/

namespace Looper.Text

/-- The twenty-five characters with the property White_Space, as ranges of code points. -/
def blankRanges : List (Nat × Nat) :=
  [(0x09, 0x0D), (0x20, 0x20), (0x85, 0x85), (0xA0, 0xA0), (0x1680, 0x1680),
   (0x2000, 0x200A), (0x2028, 0x2029), (0x202F, 0x202F), (0x205F, 0x205F),
   (0x3000, 0x3000)]

def isBlank (c : Char) : Bool :=
  blankRanges.any fun range => range.1 ≤ c.toNat && c.toNat ≤ range.2

def trimStart (s : List Char) : List Char :=
  s.dropWhile isBlank

def trimEnd (s : List Char) : List Char :=
  (s.reverse.dropWhile isBlank).reverse

def trim (s : List Char) : List Char :=
  trimEnd (trimStart s)

/--
The pieces between separators.  There is one piece more than there are
separators, and a piece may be empty.
-/
def pieces (separates : Char → Bool) : List Char → List (List Char)
  | [] => [[]]
  | c :: rest =>
      if separates c then [] :: pieces separates rest
      else
        match pieces separates rest with
        | [] => [[c]]
        | piece :: more => (c :: piece) :: more

def fields (separates : Char → Bool) (s : List Char) : List (List Char) :=
  (pieces separates s).filter fun piece => !piece.isEmpty

/-- The words of a text: its maximal runs of characters that are not blank. -/
def words (s : List Char) : List (List Char) :=
  fields isBlank s

def lines (s : List Char) : List (List Char) :=
  pieces (· == '\n') s

/--
Split off the first word.  The second part is what follows it, trimmed; both
are empty for a blank text.
-/
def splitWord (s : List Char) : List Char × List Char :=
  let s := trim s
  (s.takeWhile (!isBlank ·), trimStart (s.dropWhile (!isBlank ·)))

end Looper.Text
