/-!
# Clipping a text to a number of bytes

Argument texts travel in storage of a fixed size.  A text that is too long loses
its end; a character is kept whole or not at all.
-/

namespace Looper.Text

/-- The longest beginning that takes at most `room` bytes in UTF-8. -/
def clipChars : Nat → List Char → List Char
  | _, [] => []
  | room, c :: rest =>
      if c.utf8Size ≤ room then c :: clipChars (room - c.utf8Size) rest else []

def clip (limit : Nat) (s : String) : String :=
  String.ofList (clipChars limit s.toList)

def byteCount : List Char → Nat
  | [] => 0
  | c :: rest => c.utf8Size + byteCount rest

theorem byteCount_clipChars_le (room : Nat) (s : List Char) :
    byteCount (clipChars room s) ≤ room := by
  induction s generalizing room with
  | nil => simp [clipChars, byteCount]
  | cons c rest ih =>
      unfold clipChars
      split
      · have fits := ih (room - c.utf8Size)
        simp only [byteCount] at fits ⊢
        omega
      · simp [byteCount]

theorem clipChars_of_byteCount_le (room : Nat) (s : List Char)
    (fits : byteCount s ≤ room) : clipChars room s = s := by
  induction s generalizing room with
  | nil => rfl
  | cons c rest ih =>
      simp only [byteCount] at fits
      unfold clipChars
      rw [if_pos (by omega)]
      rw [ih _ (by omega)]

end Looper.Text
