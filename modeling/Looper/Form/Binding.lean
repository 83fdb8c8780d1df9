import Looper.Binding.Compile
import Looper.Config
import Looper.Form.Action

/-!
# Document forms of bindings and settings

A binding leaves out the key notation and the mode that it does not have; its
other fields are always told.  What is told of a binding can be read back.
-/

namespace Looper

instance : ToDocument TriggerMode := ⟨fun mode => mode.label⟩

def optionalEntry {α : Type} [ToDocument α] (name : String) (item : Option α) : Entries :=
  (item.map fun item => (name, toDocument item)).toList

instance : ToDocument Binding where
  toDocument binding := .table <|
    [("trigger", toDocument binding.trigger), ("value", toDocument binding.value)] ++
      optionalEntry "key" binding.key ++ [("channel", toDocument binding.channel)] ++
      optionalEntry "mode" binding.mode ++
      [("symbol", toDocument binding.symbol), ("args", toDocument binding.args),
       ("scope", toDocument binding.scope)]

instance : ToDocument BindingSet where
  toDocument set := .table
    [("name", set.name), ("overlay", set.overlay), ("bindings", set.bindings)]

instance : ToDocument BindingConfig where
  toDocument config := .table [("sets", config.sets)]

def BindingSelection.entries (selection : BindingSelection) : Entries :=
  [("active", selection.active), ("overlays", selection.overlays)]

instance : ToDocument CompiledBinding where
  toDocument compiled := .table
    [("trigger", compiled.trigger), ("index", compiled.index),
     ("qualifier", compiled.qualifier), ("action", compiled.action)]

instance : ToDocument Config where
  toDocument config := .table
    [("controller_threshold", config.controllerThreshold),
     ("long_press_msec", config.scripts.longPressMsec),
     ("double_click_msec", config.scripts.doubleClickMsec),
     ("max_active", config.scripts.maxActive), ("pool_size", config.kernel.poolSize),
     ("pool_max", config.kernel.poolMax), ("low_water", config.kernel.lowWater),
     ("midi_device", config.midiDevice)]

def KernelConfig.ofDocument (document : Document) : KernelConfig :=
  let default : KernelConfig := {}
  { poolSize := document.countAt "pool_size" default.poolSize
    poolMax := document.countAt "pool_max" default.poolMax
    lowWater := document.countAt "low_water" default.lowWater }

def ScriptConfig.ofDocument (document : Document) : ScriptConfig :=
  let default : ScriptConfig := {}
  { longPressMsec := document.countAt "long_press_msec" default.longPressMsec
    doubleClickMsec := document.countAt "double_click_msec" default.doubleClickMsec
    maxActive := document.countAt "max_active" default.maxActive }

def Config.ofDocument (document : Document) : Config where
  controllerThreshold := document.countAt "threshold" 127
  scripts := .ofDocument document
  kernel := .ofDocument document

end Looper
