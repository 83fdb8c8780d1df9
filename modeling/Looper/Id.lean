import Looper.Text.Numeral

/-!
# Identifiers

Tracks, symbols, scripts, engine events, kernel events and script instances are
all numbered.  Tracks count from zero inside the program and from one for the
user.
-/

namespace Looper

/-- A loop track, counted from zero. -/
abbrev TrackId := Nat

/-- A symbol: its position in the symbol table. -/
abbrev SymbolId := Nat

/-- A script: its position in the script library. -/
abbrev ScriptId := Nat

/-- An event that the loop engine has scheduled. -/
abbrev EventId := Nat

/-- A kernel event, numbered in the order of sending. -/
abbrev KernelEventId := Nat

/-- A running script instance, numbered in the order of launching. -/
abbrev InstanceId := Nat

/-- A track's number as users see it; track numbers are 32-bit words. -/
def trackNumber (track : TrackId) : Nat :=
  (track + 1) % Text.wordSize

/-- An instance's number as it appears in the log. -/
def instanceLabel (id : InstanceId) : String :=
  s!"#{id}"

end Looper
