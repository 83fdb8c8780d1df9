import Looper.Binding.Basic

/-!
# Which binding sets are live

One set that is not an overlay is the base; overlays follow it in the order in
which they were chosen.  Activating an overlay switches it on or off, and
activating any other set makes it the base.
-/

namespace Looper

/-- The sets chosen to be live. -/
structure BindingSelection where
  /-- The base set; none means the first set that is not an overlay. -/
  active : Option String := none
  overlays : List String := []
  deriving DecidableEq, Repr

namespace BindingSelection

/-- The base set: the active one if there is such a set, else the first. -/
def base? (selection : BindingSelection) (sets : List BindingSet) : Option BindingSet :=
  (selection.active.bind fun name => sets.find? fun set => set.name == name && !set.overlay)
    <|> sets.find? fun set => !set.overlay

/-- Add the overlay with a given name, unless a set of that name is there already. -/
def addOverlay (sets chosen : List BindingSet) (name : String) : List BindingSet :=
  match sets.find? fun set => set.name == name && set.overlay with
  | none => chosen
  | some set => if chosen.any fun other => other.name == set.name then chosen else chosen ++ [set]

/-- The live sets in the order in which they are compiled: the base, then the overlays. -/
def resolve (selection : BindingSelection) (sets : List BindingSet) : List BindingSet :=
  selection.overlays.foldl (addOverlay sets) (selection.base? sets).toList

/-- The selection after activating the set with a given name, if there is one. -/
def activate? (selection : BindingSelection) (name : String) (sets : List BindingSet) :
    Option BindingSelection :=
  (sets.find? fun set => set.name == name).map fun set =>
    if set.overlay then
      if selection.overlays.contains name then
        { selection with overlays := selection.overlays.erase name }
      else { selection with overlays := selection.overlays ++ [name] }
    else { selection with active := some name }

end BindingSelection

end Looper
