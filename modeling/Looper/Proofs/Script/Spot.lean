import Looper.Proofs.Script.Program

/-!
# What a run does wherever it is

The spot of a run is what it knows only in order to go on: the script it is in, the
statement to come next, its frames, and the arguments outside of all calls.  Of all
this only the arguments of the innermost call count for what a statement without
blocks does, and it does the same to the rest of the run wherever the run is.
-/

namespace Looper

structure Spot where
  current : Script
  pc : Option Nat
  stack : List Frame
  bindingArgs : String

namespace Spot

def args (spot : Spot) : String :=
  (spot.stack.findSome? Frame.args?).getD spot.bindingArgs

def moved (spot : Spot) (index : Nat) : Spot :=
  { spot with pc := some index }

def under (spot : Spot) (frame : Frame) : Spot :=
  { spot with stack := frame :: spot.stack }

@[simp] theorem args_moved (spot : Spot) (index : Nat) : (spot.moved index).args = spot.args := rfl

@[simp] theorem args_under_call (spot : Spot) (caller : Option Script) (returnTo : Nat)
    (args : String) : (spot.under (.call caller returnTo args)).args = args := rfl

end Spot

def ScriptInstance.spot (self : ScriptInstance) : Spot :=
  ⟨self.current, self.pc, self.stack, self.bindingArgs⟩

namespace Run

variable {ε : Type}

/-- The same run elsewhere. -/
def inSpot (run : Run ε) (spot : Spot) : Run ε :=
  run.withSelf
    { run.self with
      current := spot.current
      pc := spot.pc
      stack := spot.stack
      bindingArgs := spot.bindingArgs }

@[simp] theorem spot_inSpot (run : Run ε) (spot : Spot) : (run.inSpot spot).self.spot = spot := rfl

@[simp] theorem shared_inSpot (run : Run ε) (spot : Spot) :
    (run.inSpot spot).shared = run.shared := rfl

@[simp] theorem rig_inSpot (run : Run ε) (spot : Spot) : (run.inSpot spot).rig = run.rig := rfl

/-- What keeps a run in every spot keeps it where it is. -/
theorem spot_of_inSpot {run later : Run ε} (same : later = later.inSpot run.self.spot) :
    later.self.spot = run.self.spot := by
  rw [same, spot_inSpot]

theorem args_eq_of_spot {run later : Run ε} (same : later.self.spot = run.self.spot) :
    later.self.args = run.self.args :=
  congrArg Spot.args same

/-- A count that cannot be read counts as zero; where it stands tells only the log. -/
theorem value_repeatCount (run : Run ε) (index : Nat) (text : String) :
    (run.repeatCount index text).value = (Text.int64? (Text.trim text.toList)).getD 0 := by
  unfold repeatCount
  split <;> simp [*]

variable [Engine ε] {run : Run ε} {spot : Spot}

/-! ## Values -/

section Values

variable (same : spot.args = run.self.args)

include same

theorem resolve_inSpot : (run.inSpot spot).resolve = run.resolve := by
  funext reference
  cases reference with
  | argument position => exact congrArg (Reference.positional? · position) same
  | named name => rfl

theorem expand_inSpot (text : String) : (run.inSpot spot).expand text = run.expand text := by
  rw [expand, resolve_inSpot same, expand]

theorem operand_inSpot (text : String) : (run.inSpot spot).operand text = run.operand text := by
  rw [operand, expand_inSpot same, operand]
  rfl

theorem test_inSpot (condition : Condition) :
    (run.inSpot spot).test condition = run.test condition := by
  simp only [test, operand_inSpot same]

end Values

theorem listed_inSpot (same : spot.args = run.self.args) (text : String) :
    (run.inSpot spot).listed text = run.listed text := by
  rw [listed, expand_inSpot same]
  rfl

/-! ## Statements -/

theorem declare_inSpot (same : spot.args = run.self.args) (everywhere : Bool)
    (name value : String) :
    ((run.inSpot spot).declare everywhere name value).value =
      (run.declare everywhere name value).value.inSpot spot := by
  simp only [declare, expand_inSpot same, Logged.value_bind]
  cases everywhere <;> rfl

theorem assign_inSpot (same : spot.args = run.self.args) (index other : Nat)
    (name value : String) :
    ((run.inSpot spot).assign index name value).value =
      (run.assign other name value).value.inSpot spot := by
  by_cases computed : (Internal.ofName? name).isSome
  · simp only [assign, if_pos computed]
    rfl
  · simp only [assign, expand_inSpot same, if_neg computed, Logged.value_bind]
    by_cases elsewhere :
        !Variables.has run.self.locals name && Variables.has run.shared.globals name
    all_goals
      simp only [inSpot, withSelf, elsewhere]
      rfl

theorem invoke_inSpot (same : spot.args = run.self.args) (index other : Nat)
    (invocation : Invocation) :
    ((run.inSpot spot).invoke index invocation).value =
      (run.invoke other invocation).value.inSpot spot := by
  rw [invoke, invoke]
  split
  · rfl
  · have action (args : String) :
        (run.inSpot spot).actionOf invocation args = run.actionOf invocation args := by
      simp only [actionOf, inSpot, withSelf]
    simp only [expand_inSpot same, action, shared_inSpot, rig_inSpot, Logged.value_bind,
      Logged.value_pure]
    generalize (Dispatch.perform ScriptHost.queue (run.actionOf invocation _)
      (run.shared.requests, run.rig)).value = performed
    rfl

/-! ## Staying in a spot -/

theorem spot_declare (run : Run ε) (everywhere : Bool) (name value : String) :
    (run.declare everywhere name value).value.self.spot = run.self.spot :=
  spot_of_inSpot (@declare_inSpot ε _ run run.self.spot rfl everywhere name value)

theorem spot_assign (run : Run ε) (index : Nat) (name value : String) :
    (run.assign index name value).value.self.spot = run.self.spot :=
  spot_of_inSpot (@assign_inSpot ε _ run run.self.spot rfl index index name value)

theorem spot_invoke (run : Run ε) (index : Nat) (invocation : Invocation) :
    (run.invoke index invocation).value.self.spot = run.self.spot :=
  spot_of_inSpot (@invoke_inSpot ε _ run run.self.spot rfl index index invocation)

end Run

end Looper
