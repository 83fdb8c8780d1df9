import Looper.Trigger

/-!
# Bindings

A binding connects one trigger to a symbol by name.  Bindings come in named,
ordered sets.  A user's sets override the default ones by name: a set that is
already there is replaced in its place, and a new one goes to the end.
-/

namespace Looper

/-- One connection of a trigger to a symbol. -/
structure Binding where
  trigger : TriggerKind
  /-- The key qualifier or MIDI number. -/
  value : Int := -1
  /-- Key notation, which is used instead of the value when present. -/
  key : Option String := none
  /-- The MIDI channel counted from one; zero means any channel. -/
  channel : Nat := 0
  mode : Option TriggerMode := none
  symbol : String := ""
  args : String := ""
  scope : String := ""
  deriving DecidableEq, Repr

/-- A named list of bindings. -/
structure BindingSet where
  name : String
  /-- Whether the set is laid over the base set rather than used in its place. -/
  overlay : Bool := false
  bindings : List Binding := []
  deriving DecidableEq, Repr

def BindingSet.push (set : BindingSet) (binding : Binding) : BindingSet :=
  { set with bindings := set.bindings ++ [binding] }

/-- All binding sets that have been configured. -/
structure BindingConfig where
  sets : List BindingSet := []
  deriving DecidableEq, Repr

namespace BindingConfig

/-- Put a set in the place of the first set with its name, or at the end. -/
def place (set : BindingSet) : List BindingSet → List BindingSet
  | [] => [set]
  | other :: rest => if other.name = set.name then set :: rest else other :: place set rest

/-- Override sets by name with the user's, one after another. -/
def merge (base user : BindingConfig) : BindingConfig :=
  ⟨user.sets.foldl (fun sets set => place set sets) base.sets⟩

def find? (config : BindingConfig) (name : String) : Option BindingSet :=
  config.sets.find? fun set => set.name == name

end BindingConfig

end Looper
