import Looper.Engine.Recorder
import Looper.Form.Script
import Looper.Script.Roster

/-!
# Document forms of engines and running scripts

A monitor names the variables that it watches; of the others nothing is told.
-/

namespace Looper

instance : ToDocument EngineCall where
  toDocument
    | .invoke track action event => .table
        [("call", "invoke"), ("track", track), ("name", action.name), ("value", action.value),
         ("args", action.args), ("trigger", action.trigger), ("trigger_id", action.triggerId),
         ("trigger_value", action.triggerValue), ("sustain", action.sustain),
         ("sustain_end", action.sustainEnd), ("no_quantize", action.noQuantize),
         ("interpreter", action.author), ("event", event)]
    | .set track name value => .table
        [("call", "set"), ("track", track), ("name", name), ("value", value)]
    | .wait track msec event => .table
        [("call", "wait"), ("track", track), ("msec", msec), ("event", event)]
    | .finished id => .table [("call", "finished"), ("interpreter", id)]

def StoredParameter.ofDocument? (document : Document) : Option StoredParameter :=
  match document.items with
  | [track, name, value] => some ⟨track.count?, name.text?.getD "", value.whole?.getD 0⟩
  | _ => none

/-- Change what a document gives, and keep everything else. -/
def Recorder.adjust (recorder : Recorder) (document : Document) : Recorder :=
  let given {α : Type} (name : String) (read : Document → α) (default : α) : α :=
    match document.field name with
    | .null => default
    | document => read document
  { recorder with
    tracks := given "tracks" (fun d => d.count?.getD 0) recorder.tracks
    active := given "active" (fun d => d.count?.getD 0) recorder.active
    groups := given "groups" (fun d => d.items.map Document.count?) recorder.groups
    focus := given "focus" (fun d => d.items.map fun b => b.bool?.getD false) recorder.focus
    parameters :=
      given "params" (fun d => d.items.filterMap StoredParameter.ofDocument?) recorder.parameters
    deferred := given "defer" Document.texts recorder.deferred
    schedules := given "schedule" (fun d => d.bool?.getD false) recorder.schedules }

instance : ToDocument ScriptRequest where
  toDocument
    | .launch action => .table [("launch", action)]
    | .cancel author track => .table [("cancel", author), ("track", track)]

def Variables.watched (vars : Variables) (watch : List String) : Document :=
  .table (watch.map fun name => (name, vars.get? name))

def ScriptInstance.toDocument (watch : List String) (self : ScriptInstance) : Document := .table
  [("id", self.id), ("script", self.script.name), ("track", self.track),
   ("trigger_id", self.triggerId), ("request_id", self.requestId),
   ("sustain_count", self.sustainCount), ("click_count", self.clickCount),
   ("return_code", self.returnCode), ("waiting", self.isWaiting),
   ("finished", self.isFinished), ("vars", self.locals.watched watch)]

def Roster.entries (watch : List String) (roster : Roster) : Entries :=
  [("active", roster.active.map (ScriptInstance.toDocument watch)),
   ("idle", roster.idle.length), ("block", roster.shared.block),
   ("globals", roster.shared.globals.watched watch)]

end Looper
