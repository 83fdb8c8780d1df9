import Looper.Text.Caseless

/-!
# Script variables

Variables are kept in the order in which they were made.  Their names are
compared without regard to case, and a variable keeps its first spelling.
-/

namespace Looper

abbrev Variables := List (String × String)

namespace Variables

def get? (vars : Variables) (name : String) : Option String :=
  (vars.find? fun entry => Text.sameName entry.1 name).map Prod.snd

def has (vars : Variables) (name : String) : Bool :=
  vars.any fun entry => Text.sameName entry.1 name

/-- Set a variable, which is made if there is none with its name. -/
def set (name value : String) : Variables → Variables
  | [] => [(name, value)]
  | entry :: rest =>
      if Text.sameName entry.1 name then (entry.1, value) :: rest
      else entry :: set name value rest

/-- Make a variable, unless there is one with its name already. -/
def declare (vars : Variables) (name value : String) : Variables :=
  if vars.has name then vars else vars ++ [(name, value)]

end Variables

end Looper
