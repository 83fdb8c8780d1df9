import Looper.Script.Library
import Looper.Script.Parse

/-!
# Loading scripts

Loading a script reads its source and puts it into a library.  A source at fault
leaves the library as it is; the names met before the fault stay known.
-/

namespace Looper

namespace ScriptLibrary

/-- Read a source and put the script into the library, where it gets its id. -/
def load (library : ScriptLibrary) (name source : String) (symbols : SymbolTable) :
    Logged (Except ScriptError Script × SymbolTable × ScriptLibrary) := do
  let (result, symbols) ← Script.parse name source symbols
  match result with
  | .error error => return (.error error, symbols, library)
  | .ok script =>
      let (id, library) := library.insert script
      return (.ok { script with id }, symbols, library)

end ScriptLibrary

end Looper
