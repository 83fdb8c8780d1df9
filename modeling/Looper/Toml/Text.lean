import Looper.Toml.Value

/-!
# TOML texts

A text is read line by line: blank lines, headers that open tables, and keys
with their values.  After a header, keys belong to its table.
-/

namespace Looper.Toml

/-- What has been read so far, and the header that keys belong to now. -/
structure Progress where
  entries : Entries := []
  header : List String := []

def headerKey (s : List Char) : Option ((List String × String) × List Char) :=
  (key s).map fun (path, rest) => (path, skipSpaces rest)

def line (progress : Progress) (s : List Char) : Option (Progress × List Char) :=
  match s with
  | '[' :: '[' :: rest => do
      let ((path, last), rest) ← headerKey rest
      let rest ← expect? ']' (← expect? ']' rest)
      return ({ entries := ← Entries.openItem path last progress.entries
                header := path ++ [last] }, rest)
  | '[' :: rest => do
      let ((path, last), rest) ← headerKey rest
      let rest ← expect? ']' rest
      return ({ entries := ← Entries.openTable path last progress.entries
                header := path ++ [last] }, rest)
  | _ => do
      let ((path, last, document), rest) ← keyValue s
      return ({ progress with
                entries := ← Entries.setUnder progress.header path last document
                  progress.entries }, rest)

def linesFrom : Nat → Progress → List Char → Option Progress
  | 0, _, _ => none
  | steps + 1, progress, s =>
      match skipBlank (s.length + 1) s with
      | [] => some progress
      | s => do
          let (progress, rest) ← line progress s
          let rest := skipComment (skipSpaces rest)
          match rest, afterBreak? rest with
          | [], _ => return progress
          | _, some rest => linesFrom steps progress rest
          | _, none => none

/-- The document that a text holds, if it is well formed.  A byte order mark is ignored. -/
def parse? (text : String) : Option Document :=
  let s :=
    match text.toList with
    | '\uFEFF' :: rest => rest
    | s => s
  (linesFrom (s.length + 1) {} s).map fun progress => .table (documents progress.entries)

end Looper.Toml
