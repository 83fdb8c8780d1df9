import Looper.Document.Basic

/-!
# The tables of a TOML text

Headers and dotted keys build one tree of tables.  A table may be defined only
once: a header may give contents to a table that earlier headers only passed
through, but not to one made by dotted keys; a dotted key may add to a table
that dotted keys have made, but not to one with a header of its own.
-/

namespace Looper.Toml

/-- A place in the tree. -/
inductive Node where
  | leaf (value : Document)
  /-- A table; `passing` until a header defines it, `dotted` if dotted keys made it. -/
  | table (passing dotted : Bool) (entries : List (String × Node))
  /-- Tables under one double-bracket header, in order. -/
  | tables (items : List (List (String × Node)))

abbrev Entries := List (String × Node)

namespace Entries

def replace (key : String) (node : Node) (entries : Entries) : Entries :=
  entries.map fun entry => if entry.1 == key then (key, node) else entry

/--
Change the table at the end of a path, making the tables on the way that are not
there yet.  A path leads into the last of several tables.
-/
def descend (byDots : Bool) (change : Bool → Entries → Option Entries) :
    List String → Bool → Entries → Option Entries
  | [], dotted, entries => change dotted entries
  | key :: path, _, entries =>
      match entries.lookup key with
      | none => do
          let inner ← descend byDots change path byDots []
          return entries ++ [(key, .table true byDots inner)]
      | some (.leaf _) => none
      | some (.tables items) => do
          let last ← items.getLast?
          let inner ← descend byDots change path false last
          return entries.replace key (.tables (items.dropLast ++ [inner]))
      | some (.table passing dotted inner) => do
          if byDots && !passing then none
          let inner ← descend byDots change path dotted inner
          return entries.replace key (.table passing dotted inner)

def setKey (path : List String) (key : String) (value : Document) (entries : Entries) :
    Option Entries :=
  descend true
    (fun dotted inner =>
      if dotted == path.isEmpty || (inner.lookup key).isSome then none
      else some (inner ++ [(key, .leaf value)]))
    path false entries

/-- Set a key of the table that a header has opened. -/
def setUnder (header path : List String) (key : String) (value : Document)
    (entries : Entries) : Option Entries :=
  descend false (fun _ inner => setKey path key value inner) header false entries

def openTable (path : List String) (key : String) (entries : Entries) : Option Entries :=
  descend false
    (fun _ inner =>
      match inner.lookup key with
      | none => some (inner ++ [(key, .table false false [])])
      | some (.table true false below) => some (replace key (.table false false below) inner)
      | some _ => none)
    path false entries

/-- Open a further table of a double-bracket header. -/
def openItem (path : List String) (key : String) (entries : Entries) : Option Entries :=
  descend false
    (fun _ inner =>
      match inner.lookup key with
      | none => some (inner ++ [(key, .tables [[]])])
      | some (.tables items) => some (replace key (.tables (items ++ [[]])) inner)
      | some _ => none)
    path false entries

end Entries

mutual

def Node.document : Node → Document
  | .leaf value => value
  | .table _ _ entries => .table (documents entries)
  | .tables items => .list (itemDocuments items)

def documents : List (String × Node) → List (String × Document)
  | [] => []
  | (key, node) :: rest => (key, node.document) :: documents rest

def itemDocuments : List (List (String × Node)) → List Document
  | [] => []
  | entries :: rest => .table (documents entries) :: itemDocuments rest

end

def inlineTable? (pairs : List (List String × String × Document)) : Option Document :=
  (pairs.foldlM (fun entries (path, key, value) => Entries.setKey path key value entries)
    []).map fun entries => .table (documents entries)

end Looper.Toml
