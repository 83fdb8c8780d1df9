import Looper.Document.Basic

/-!
# Document forms

What monitors and remote hosts are told about the parts of the looper, and what
they say to it, are documents.  A type with a document form says how its values
are told.  Requests are read leniently: what a table leaves out, or holds in
another kind, counts as empty, zero or false.
-/

namespace Looper

/-- Types whose values can be told as documents. -/
class ToDocument (α : Type) where
  toDocument : α → Document

export ToDocument (toDocument)

instance {α : Type} [ToDocument α] : CoeOut α Document := ⟨toDocument⟩

instance : ToDocument Document := ⟨id⟩
instance : ToDocument Bool := ⟨.bool⟩
instance : ToDocument Int := ⟨.integer⟩
instance : ToDocument Nat := ⟨fun n => .integer n⟩
instance : ToDocument UInt8 := ⟨fun n => .integer n.toNat⟩
instance : ToDocument String := ⟨.text⟩

instance {α : Type} [ToDocument α] : ToDocument (List α) :=
  ⟨fun items => .list (items.map toDocument)⟩

instance {α : Type} [ToDocument α] : ToDocument (Option α) :=
  ⟨fun item => (item.map toDocument).getD .null⟩

abbrev Entries := List (String × Document)

namespace Document

def field (document : Document) (name : String) : Document :=
  match document with
  | table entries => (entries.lookup name).getD null
  | _ => null

def whole? : Document → Option Int
  | integer value => some value
  | _ => none

def count? (document : Document) : Option Nat :=
  document.whole?.map Int.toNat

def items : Document → List Document
  | list items => items
  | _ => []

def texts (document : Document) : List String :=
  document.items.filterMap text?

def counts (document : Document) : List Nat :=
  document.items.map fun item => item.count?.getD 0

def textAt (document : Document) (name : String) : String :=
  (document.field name).text?.getD ""

def wholeAt (document : Document) (name : String) : Int :=
  (document.field name).whole?.getD 0

def countAt (document : Document) (name : String) (default : Nat := 0) : Nat :=
  (document.field name).count?.getD default

def flagAt (document : Document) (name : String) : Bool :=
  (document.field name).bool?.getD false

def countAt? (document : Document) (name : String) : Option Nat :=
  (document.field name).count?

def textAt? (document : Document) (name : String) : Option String :=
  (document.field name).text?

def byteAt (document : Document) (name : String) : UInt8 :=
  UInt8.ofNat (document.countAt name)

def listOrNone? {α : Type} (read : Document → Option α) : Document → Option (List α)
  | null => some []
  | document => document.list? read

end Document

end Looper
