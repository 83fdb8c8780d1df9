import Looper.Binding.Decode
import Looper.Script.Roster
import Looper.Toml.Text

/-!
# Configuration

Settings and bindings have built-in defaults.  What a user's file says goes over
the defaults: settings one by one, bindings by whole sets.
-/

namespace Looper

/-- The settings of the program. -/
structure Config where
  /-- The controller value that counts as a press; zero means 127. -/
  controllerThreshold : Nat := 127
  scripts : ScriptConfig := {}
  kernel : KernelConfig := {}
  /-- A part of the name of the MIDI input to open. -/
  midiDevice : Option String := none
  deriving DecidableEq, Repr

/-- Why a configuration file could not be used. -/
inductive ConfigError where
  | unreadable
  | malformed
  deriving DecidableEq, Repr

abbrev FileText := Option String

/-- The settings that a file gives. -/
structure Settings where
  controllerThreshold : Option Nat := none
  longPressMsec : Option Nat := none
  doubleClickMsec : Option Nat := none
  maxActive : Option Nat := none
  poolSize : Option Nat := none
  poolMax : Option Nat := none
  lowWater : Option Nat := none
  midiDevice : Option String := none
  deriving DecidableEq, Repr

namespace Settings

def maxByte : Nat := 0xFF

def maxWord : Nat := 0xFFFFFFFF

def maxSize : Nat := 0xFFFFFFFFFFFFFFFF

def inSection {α : Type} (file : Document.Fields) (name : String) (fields : List String)
    (empty : α) (read : Document.Fields → Option α) : Option α :=
  file.withDefault name empty fun document => (document.fields? fields).bind read

def ofDocument? (document : Document) : Option Settings := do
  let file ← document.fields? ["dispatch", "scripts", "kernel", "midi"]
  let settings ← inSection file "dispatch" ["controller_action_threshold"] {} fun fields => do
    return ({
      controllerThreshold :=
        ← fields.optional "controller_action_threshold" (Document.natural? maxByte) } : Settings)
  let settings ← inSection file "scripts"
    ["long_press_msec", "double_click_msec", "max_active"] settings fun fields => do
    return { settings with
      longPressMsec := ← fields.optional "long_press_msec" (Document.natural? maxWord)
      doubleClickMsec := ← fields.optional "double_click_msec" (Document.natural? maxWord)
      maxActive := ← fields.optional "max_active" (Document.natural? maxSize) }
  let settings ← inSection file "kernel" ["pool_size", "pool_max", "low_water"] settings
    fun fields => do
    return { settings with
      poolSize := ← fields.optional "pool_size" (Document.natural? maxSize)
      poolMax := ← fields.optional "pool_max" (Document.natural? maxSize)
      lowWater := ← fields.optional "low_water" (Document.natural? maxSize) }
  inSection file "midi" ["device_name"] settings fun fields => do
    return { settings with midiDevice := ← fields.optional "device_name" Document.text? }

def parse? (text : String) : Option Settings :=
  (Toml.parse? text).bind ofDocument?

/-- What a user's file says, over what is there already. -/
def override (base user : Settings) : Settings where
  controllerThreshold := user.controllerThreshold <|> base.controllerThreshold
  longPressMsec := user.longPressMsec <|> base.longPressMsec
  doubleClickMsec := user.doubleClickMsec <|> base.doubleClickMsec
  maxActive := user.maxActive <|> base.maxActive
  poolSize := user.poolSize <|> base.poolSize
  poolMax := user.poolMax <|> base.poolMax
  lowWater := user.lowWater <|> base.lowWater
  midiDevice := user.midiDevice <|> base.midiDevice

/-- The configuration with defaults for what is not set; times and the pool are never empty. -/
def config (settings : Settings) : Config :=
  let scripts : ScriptConfig := {}
  let kernel : KernelConfig := {}
  { controllerThreshold := settings.controllerThreshold.getD 127
    scripts :=
      { longPressMsec := max (settings.longPressMsec.getD scripts.longPressMsec) 1
        doubleClickMsec := max (settings.doubleClickMsec.getD scripts.doubleClickMsec) 1
        maxActive := settings.maxActive.getD scripts.maxActive }
    kernel :=
      { poolSize := settings.poolSize.getD kernel.poolSize
        poolMax := max (settings.poolMax.getD kernel.poolMax) 1
        lowWater := settings.lowWater.getD kernel.lowWater }
    midiDevice := settings.midiDevice }

/-- The built-in settings: everything but the MIDI device. -/
def defaults : Settings where
  controllerThreshold := some 127
  longPressMsec := some 500
  doubleClickMsec := some 1000
  maxActive := some 16
  poolSize := some 16
  poolMax := some 128
  lowWater := some 4

end Settings

def FileText.read {α : Type} (file : FileText) (parse? : String → Option α) :
    Except ConfigError α :=
  match file with
  | none => .error .unreadable
  | some text =>
      match parse? text with
      | some value => .ok value
      | none => .error .malformed

namespace Config

def builtin : Config :=
  Settings.defaults.config

/-- The configuration with a given file, which has to be good. -/
def loadFrom (file : FileText) : Except ConfigError Config := do
  return (Settings.defaults.override (← file.read Settings.parse?)).config

/-- The configuration with the user's file, if there is one; a bad one is logged and ignored. -/
def load (file : FileText) : Logged Config :=
  match file, loadFrom file with
  | none, _ => pure builtin
  | some _, .ok config => pure config
  | some _, .error _ => do
      Log.warn .config "ignoring config: malformed file"
      return builtin

end Config

namespace BindingConfig

def onKey (key symbol : String) : Binding :=
  { trigger := .key, key := some key, symbol }

def onNumber (trigger : TriggerKind) (value : Int) (symbol : String) : Binding :=
  { trigger, value, symbol }

def common : BindingSet where
  name := "Common"
  bindings :=
    [onKey "r" "Record", onKey "o" "Overdub", onKey "u" "Undo", onKey "m" "Mute",
     onKey "Ctrl+r" "GlobalReset", onKey "Space" "Pause",
     onNumber .note 36 "Record", onNumber .note 38 "Overdub", onNumber .control 7 "output"]

def pedals : BindingSet where
  name := "Pedals"
  overlay := true
  bindings := [onNumber .control 64 "Record", onNumber .control 65 "Mute"]

def builtin : BindingConfig :=
  { sets := [common, pedals] }

def parse? (text : String) : Option BindingConfig :=
  (Toml.parse? text).bind ofDocument?

/-- The binding sets with a given file, which has to be good. -/
def loadFrom (file : FileText) : Except ConfigError BindingConfig := do
  return builtin.merge (← file.read parse?)

/-- The binding sets with the user's file, if there is one; a bad one is logged and ignored. -/
def load (file : FileText) : Logged BindingConfig :=
  match file, loadFrom file with
  | none, _ => pure builtin
  | some _, .ok config => pure config
  | some _, .error _ => do
      Log.warn .config "ignoring bindings: malformed file"
      return builtin

end BindingConfig

end Looper
