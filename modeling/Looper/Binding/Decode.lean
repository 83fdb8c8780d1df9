import Looper.Binding.Selection
import Looper.Document.Basic

/-!
# Reading bindings from documents

Only a binding's trigger and a set's name must be given; everything else has a
value to fall back on.  Numbers must fit: values are 32-bit integers, channels
are bytes.
-/

namespace Looper

def TriggerKind.ofDocument? (document : Document) : Option TriggerKind :=
  document.choice?.bind TriggerKind.ofLabel?

def TriggerMode.ofDocument? (document : Document) : Option TriggerMode :=
  document.choice?.bind TriggerMode.ofLabel?

def Document.int32? (document : Document) : Option Int :=
  document.integer? Text.int32Min Text.int32Max

def Binding.ofDocument? (document : Document) : Option Binding := do
  let fields ← document.fields?
    ["trigger", "value", "key", "channel", "mode", "symbol", "args", "scope"]
  return {
    trigger := ← fields.required "trigger" TriggerKind.ofDocument?
    value := ← fields.withDefault "value" (-1) Document.int32?
    key := ← fields.withDefault "key" none (Document.nullable? Document.text?)
    channel := ← fields.withDefault "channel" 0 (Document.natural? 255)
    mode := ← fields.withDefault "mode" none (Document.nullable? TriggerMode.ofDocument?)
    symbol := ← fields.withDefault "symbol" "" Document.text?
    args := ← fields.withDefault "args" "" Document.text?
    scope := ← fields.withDefault "scope" "" Document.text? }

def BindingSet.ofDocument? (document : Document) : Option BindingSet := do
  let fields ← document.fields? ["name", "overlay", "bindings"]
  return {
    name := ← fields.required "name" Document.text?
    overlay := ← fields.withDefault "overlay" false Document.bool?
    bindings := ← fields.withDefault "bindings" [] (Document.list? Binding.ofDocument?) }

def BindingConfig.ofDocument? (document : Document) : Option BindingConfig := do
  let fields ← document.fields? ["sets"]
  return { sets := ← fields.withDefault "sets" [] (Document.list? BindingSet.ofDocument?) }

def BindingSelection.ofDocument? (document : Document) : Option BindingSelection := do
  let fields ← document.fields? ["active", "overlays"]
  return {
    active := ← fields.withDefault "active" none (Document.nullable? Document.text?)
    overlays := ← fields.withDefault "overlays" [] (Document.list? Document.text?) }

end Looper
