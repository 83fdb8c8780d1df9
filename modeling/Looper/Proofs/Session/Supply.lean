import Looper.Engine.Recorder
import Looper.Proofs.Session.History

/-!
# The supply of envelopes in a session

The kernel channel of a session changes by steps of either side only, so its
books are in order whatever the session does, and each time the control side has
handled the requests that arrived, the supply is up again.
-/

namespace Looper

/-- Topping up, at any moment, brings the supply up as far as the limit allows. -/
theorem Traffic.Reachable.supplied {config : KernelConfig} {traffic : Traffic}
    (reachable : Traffic.Reachable config traffic) : Supplied traffic.channel.topUp.value := by
  have grown := reachable.accounted.grow
    (traffic.channel.poolMax - traffic.channel.allocated)
  exact grown.2 (Nat.le_refl _)

namespace Session

variable {ε χ : Type}

/-- The control side is done with requests only after topping up. -/
theorem processKernelEvents_topUp (handler : KernelHandler χ) (session : Session) (state : χ) :
    ∃ before, session.wires.kernel.Carries before ∧
      (processKernelEvents handler session state).value.2.1.wires.kernel =
        before.topUp.value := by
  have handles := carries_handleKernelEvents handler session.wires.kernel.outbound.letters
    { session with
      wires := { session.wires with
        kernel := { session.wires.kernel with
          outbound := session.wires.kernel.outbound.drain.2 } } } state
  refine ⟨_, fun taken held => ?_, rfl⟩
  have receives := KernelChannel.Carries.drain_outbound session.wires.kernel taken held
  exact receives.trans (handles taken held).2

variable [Engine ε]

/-- The kernel channel of a session is one that steps of either side have made. -/
theorem reachable_run (config : Config) (symbols : SymbolTable) (engine : ε)
    (history : List (Operation ε χ)) :
    Traffic.Reachable config.kernel
      ⟨((Session.new config symbols).run engine history).value.1.wires.kernel, [], []⟩ :=
  (continues_run (Session.new config symbols) engine history rfl).kernel [] []

/--
Whatever steps either side takes, each envelope is in one place, the counts are
right, nothing that is sent is refused, and topping up restores the supply.  The
operations of a session are made of such steps, and handling requests restores
the supply.
-/
theorem circulation_run (config : Config) (symbols : SymbolTable) (engine : ε) :
    (∀ traffic, Traffic.Reachable config.kernel traffic →
      Traffic.Accounted config.kernel traffic ∧ traffic.Unobstructed ∧
        Traffic.Supplied traffic.channel.topUp.value) ∧
    (∀ history : List (Operation ε χ),
      let session := ((Session.new config symbols).run engine history).value.1
      Traffic.Reachable config.kernel ⟨session.wires.kernel, [], []⟩ ∧
        ∀ (handler : KernelHandler χ) (state : χ),
          Traffic.Supplied
            (processKernelEvents handler session state).value.2.1.wires.kernel) := by
  constructor
  · intro traffic reachable
    exact ⟨reachable.accounted, reachable.accounted.unobstructed, reachable.supplied⟩
  · intro history
    have reachable := reachable_run config symbols engine history
    refine ⟨reachable, fun handler state => ?_⟩
    obtain ⟨before, carries, isTopUp⟩ := processKernelEvents_topUp handler _ state
    rw [isTopUp]
    exact Traffic.Reachable.supplied (reachable.trans (carries [] []))

def scarceConfig : Config where
  kernel := { poolSize := 1, poolMax := 2, lowWater := 1 }

def sentOnce : KernelChannel :=
  ((KernelChannel.new scarceConfig.kernel).request .echo ["hello"] 0).value.2

/-- A pool of one envelope, which is on its way: topping up makes another. -/
theorem circulation_of_sentOnce :
    (sentOnce.available = 0 ∧ sentOnce.outbound.letters.length = 1) ∧
    Traffic.Accounted scarceConfig.kernel ⟨sentOnce, [], []⟩ ∧
      Traffic.Unobstructed ⟨sentOnce, [], []⟩ ∧ Traffic.Supplied sentOnce.topUp.value := by
  have reachable : Traffic.Reachable scarceConfig.kernel ⟨sentOnce, [], []⟩ :=
    KernelChannel.Carries.request _ _ _ _ [] []
  have general := circulation_run (χ := Unit) scarceConfig {} ({} : Recorder)
  exact ⟨⟨by decide +kernel, by decide +kernel⟩, general.1 _ reachable⟩

end Session

end Looper
