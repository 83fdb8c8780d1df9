/-!
# Documents

A document is what a configuration file or a message holds once it has been
read: texts, numbers, lists and tables.  Records are taken from documents field
by field.  A record may be written as a table, in which unknown fields are
ignored, or as a list of its fields in order.
-/

namespace Looper

/-- A value in a configuration file or message. -/
inductive Document where
  | null
  | bool (value : Bool)
  | integer (value : Int)
  /-- A number with a fraction or exponent, as it is written. -/
  | decimal (written : String)
  | text (value : String)
  /-- A date or time, as it is written. -/
  | moment (written : String)
  | list (items : List Document)
  | table (entries : List (String × Document))
  deriving Inhabited

namespace Document

def text? : Document → Option String
  | text value => some value
  | _ => none

def bool? : Document → Option Bool
  | bool value => some value
  | _ => none

def integer? (low high : Int) : Document → Option Int
  | integer value => if low ≤ value && value ≤ high then some value else none
  | _ => none

def natural? (limit : Nat) (document : Document) : Option Nat :=
  (document.integer? 0 limit).map Int.toNat

def list? {α : Type} (read : Document → Option α) : Document → Option (List α)
  | list items => items.mapM read
  | _ => none

def nullable? {α : Type} (read : Document → Option α) : Document → Option (Option α)
  | null => some none
  | document => (read document).map some

/-- Whether a document says no more than that it is there. -/
def isUnit : Document → Bool
  | null | list [] | table [] => true
  | _ => false

/-- The name of a choice: a text, or a table with the name as its only key and nothing under it. -/
def choice? : Document → Option String
  | text name => some name
  | table [(name, payload)] => if payload.isUnit then some name else none
  | _ => none

/-- The fields of a record, by name or in order. -/
inductive Fields where
  | named (entries : List (String × Document))
  | ordered (names : List String) (items : List Document)

/--
The fields of a record whose fields have the given names.  A date is taken for a
record with none of them.
-/
def fields? (names : List String) : Document → Option Fields
  | table entries => some (.named entries)
  | moment _ => some (.named [])
  | list items => some (.ordered names items)
  | _ => none

namespace Fields

def get? (fields : Fields) (name : String) : Option Document :=
  match fields with
  | .named entries => entries.lookup name
  | .ordered names items => (names.idxOf? name).bind (items[·]?)

def required {α : Type} (fields : Fields) (name : String) (read : Document → Option α) :
    Option α :=
  (fields.get? name).bind read

def withDefault {α : Type} (fields : Fields) (name : String) (default : α)
    (read : Document → Option α) : Option α :=
  match fields.get? name with
  | some document => read document
  | none => some default

/-- Read a field that may be left out of a table, but not of a list. -/
def optional {α : Type} (fields : Fields) (name : String) (read : Document → Option α) :
    Option (Option α) :=
  match fields.get? name, fields with
  | some document, _ => nullable? read document
  | none, .named _ => some none
  | none, .ordered .. => none

end Fields

end Document

end Looper
