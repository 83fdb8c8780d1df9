/-!
# Mailboxes of bounded capacity

The two halves of the program talk through mailboxes.  A mailbox stands for a
bounded channel between threads, as far as that is documented: neither sending nor
receiving waits; a letter that finds the box full, or its reader gone, is handed
back to the sender; letters arrive once each, in the order in which they were sent;
and what a reader leaves unread when it goes is lost.  Proofs about what is sent rest
on the laws below, and not on how the letters are kept.
-/

namespace Looper

/-- Letters on their way, the oldest first. -/
structure Mailbox (α : Type) where
  capacity : Nat
  letters : List α := []
  /-- The reader is gone for good. -/
  closed : Bool := false
  deriving DecidableEq, Repr

/-- Why a letter was handed back. -/
inductive Refusal where
  | full
  | disconnected
  deriving DecidableEq, Repr

def Refusal.message : Refusal → String
  | full => "sending on a full channel"
  | disconnected => "sending on a disconnected channel"

namespace Mailbox

variable {α : Type}

def new (capacity : Nat) : Mailbox α :=
  { capacity }

/-- Post a letter behind the others, if the box takes it. -/
def post (box : Mailbox α) (letter : α) : Except Refusal (Mailbox α) :=
  if box.closed then .error .disconnected
  else if box.capacity ≤ box.letters.length then .error .full
  else .ok { box with letters := box.letters ++ [letter] }

def take (box : Mailbox α) : Option α × Mailbox α :=
  match box.letters with
  | [] => (none, box)
  | letter :: rest => (some letter, { box with letters := rest })

def drain (box : Mailbox α) : List α × Mailbox α :=
  (box.letters, { box with letters := [] })

/-- The reader leaves; what it has not read is lost. -/
def close (box : Mailbox α) : Mailbox α :=
  { box with letters := [], closed := true }

/-! ## Laws -/

@[simp] theorem letters_new (capacity : Nat) : (new capacity : Mailbox α).letters = [] := rfl

/-- A box takes a letter just if its reader is there and it has room, and puts it last. -/
theorem post_eq_ok_iff {box after : Mailbox α} {letter : α} :
    box.post letter = .ok after ↔
      box.closed = false ∧ box.letters.length < box.capacity ∧
        after = { box with letters := box.letters ++ [letter] } := by
  unfold post
  cases gone : box.closed with
  | true => simp
  | false =>
      by_cases full : box.capacity ≤ box.letters.length
      · simp [full, Nat.not_lt.2 full]
      · simp [full, Nat.lt_of_not_le full, eq_comm]

theorem letters_of_post {box after : Mailbox α} {letter : α}
    (posted : box.post letter = .ok after) : after.letters = box.letters ++ [letter] := by
  obtain ⟨-, -, rfl⟩ := post_eq_ok_iff.1 posted
  rfl

theorem take_of_empty {box : Mailbox α} (empty : box.letters = []) : box.take = (none, box) := by
  unfold take
  rw [empty]

theorem take_of_cons {box : Mailbox α} {letter : α} {rest : List α}
    (letters : box.letters = letter :: rest) :
    box.take = (some letter, { box with letters := rest }) := by
  unfold take
  rw [letters]

theorem take_eq_some {box after : Mailbox α} {letter : α}
    (takes : box.take = (some letter, after)) :
    ∃ rest, box.letters = letter :: rest ∧ after = { box with letters := rest } := by
  cases letters : box.letters with
  | nil =>
      rw [take_of_empty letters] at takes
      cases takes
  | cons first rest =>
      rw [take_of_cons letters] at takes
      cases takes
      exact ⟨rest, rfl, rfl⟩

theorem drain_of_empty {box : Mailbox α} (empty : box.letters = []) : box.drain = ([], box) := by
  unfold drain
  rw [empty, ← empty]

/-- To drain a box is to take one letter after another. -/
theorem drain_of_take {box after : Mailbox α} {letter : α}
    (takes : box.take = (some letter, after)) :
    box.drain = (letter :: after.drain.1, after.drain.2) := by
  obtain ⟨rest, letters, rfl⟩ := take_eq_some takes
  unfold drain
  rw [letters]

/-- A box of some capacity whose reader is there. -/
structure IsOpen (box : Mailbox α) (capacity : Nat) : Prop where
  capacity_eq : box.capacity = capacity
  closed_eq : box.closed = false

theorem isOpen_new (capacity : Nat) : (new capacity : Mailbox α).IsOpen capacity :=
  ⟨rfl, rfl⟩

/-- An open box takes a letter as long as it has room. -/
theorem IsOpen.post {box : Mailbox α} {capacity : Nat} (opened : box.IsOpen capacity)
    (room : box.letters.length < capacity) (letter : α) :
    box.post letter = .ok { box with letters := box.letters ++ [letter] } :=
  post_eq_ok_iff.2 ⟨opened.closed_eq, opened.capacity_eq ▸ room, rfl⟩

theorem IsOpen.post_of_full {box : Mailbox α} {capacity : Nat} (opened : box.IsOpen capacity)
    (full : capacity ≤ box.letters.length) (letter : α) : box.post letter = .error .full := by
  unfold Mailbox.post
  rw [opened.closed_eq, opened.capacity_eq, if_pos full]
  rfl

/-- What lies in an open box has no bearing on whether it is open. -/
theorem IsOpen.withLetters {box : Mailbox α} {capacity : Nat} (opened : box.IsOpen capacity)
    (letters : List α) : { box with letters }.IsOpen capacity :=
  ⟨opened.capacity_eq, opened.closed_eq⟩

end Mailbox

end Looper
