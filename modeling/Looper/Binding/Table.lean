import Looper.Action

/-!
# Binding tables

A table has 256 buckets, one for each low byte of a trigger's code.  A bucket
keeps its entries in the order in which they were added, and the first entry
whose qualifier matches wins.
-/

namespace Looper

/-- One compiled binding in a bucket. -/
structure TableEntry where
  qualifier : Nat
  action : Action
  deriving DecidableEq, Repr

/-- Whether an entry answers to a qualifier; entries for any channel have qualifier zero. -/
def TableEntry.answers (entry : TableEntry) (qualifier : Nat) (wild : Bool) : Bool :=
  entry.qualifier == qualifier || (wild && entry.qualifier == 0)

/-- Compiled bindings by bucket. -/
structure BindingTable where
  buckets : Vector (List TableEntry) 256

namespace BindingTable

def empty : BindingTable :=
  ⟨Vector.replicate 256 []⟩

instance : Inhabited BindingTable := ⟨empty⟩

/-- The entries of a bucket; there are none beyond the last bucket. -/
def bucket (table : BindingTable) (index : Nat) : List TableEntry :=
  if h : index < 256 then table.buckets[index] else []

/-- Change the entries of a bucket; nothing happens beyond the last bucket. -/
def updateBucket (table : BindingTable) (index : Nat)
    (change : List TableEntry → List TableEntry) : BindingTable :=
  if h : index < 256 then ⟨table.buckets.set index (change table.buckets[index])⟩ else table

/-- Empty every bucket, so that the table can be filled again. -/
def prepare (table : BindingTable) : BindingTable :=
  ⟨table.buckets.map fun _ => []⟩

def add (table : BindingTable) (index qualifier : Nat) (action : Action) : BindingTable :=
  table.updateBucket index (· ++ [⟨qualifier, action⟩])

/-- The first entry of a bucket that answers to a qualifier. -/
def lookup? (table : BindingTable) (index qualifier : Nat) (wild : Bool) : Option TableEntry :=
  (table.bucket index).find? fun entry => entry.answers qualifier wild

/-- Where in its bucket the entry found by `lookup?` stands. -/
def position? (table : BindingTable) (index qualifier : Nat) (wild : Bool) : Option Nat :=
  (table.bucket index).findIdx? fun entry => entry.answers qualifier wild

def modifyEntry (table : BindingTable) (index position : Nat)
    (change : TableEntry → TableEntry) : BindingTable :=
  table.updateBucket index (·.modify position change)

/-- All entries with their buckets, in the order of buckets. -/
def entries (table : BindingTable) : List (Nat × TableEntry) :=
  (List.range 256).flatMap fun index => (table.bucket index).map fun entry => (index, entry)

def size (table : BindingTable) : Nat :=
  table.buckets.toList.flatten.length

theorem bucket_updateBucket (table : BindingTable) (index other : Nat)
    (change : List TableEntry → List TableEntry) (inside : index < 256) :
    (table.updateBucket index change).bucket other =
      if index = other then change (table.bucket index) else table.bucket other := by
  by_cases same : index = other
  · subst same
    simp [updateBucket, bucket, inside]
  · by_cases other_inside : other < 256
    · simp [updateBucket, bucket, inside, other_inside, same]
    · simp [bucket, other_inside, same]

@[simp] theorem bucket_empty (index : Nat) : empty.bucket index = [] := by
  simp [empty, bucket]

/-- Nothing of what a table held is left. -/
@[simp] theorem prepare_eq_empty (table : BindingTable) : table.prepare = empty := by
  simp [prepare, empty, Vector.map_const']

end BindingTable

end Looper
