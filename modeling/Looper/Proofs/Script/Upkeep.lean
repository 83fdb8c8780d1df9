import Looper.Proofs.Script.Continuity

/-!
# What a block and a session do to the roster

Once per block every instance runs and time passes for it, requests are carried
out, and finished instances leave.  Between operations no request is left, and
whoever is held was launched by a press from outside.
-/

namespace Looper

namespace Roster

variable {ε : Type}

/-! ## One instance -/

section Upkeep

variable [Engine ε] {plain : Prop} {news : ScriptInstance → Prop}

/-- What running and the passing of time keep of an instance and of all that it can reach. -/
structure Lasts (before after : Run ε) : Prop where
  continues : before.self.Continues after.self
  held : after.self.sustaining = before.self.sustaining
  library : after.shared.library = before.shared.library
  kernel : before.rig.kernel.Carries after.rig.kernel
  asked : (∀ request ∈ before.shared.requests, request.IsAsked) →
    ∀ request ∈ after.shared.requests, request.IsAsked

omit [Engine ε] in
theorem Lasts.trans {first second third : Run ε} (earlier : Lasts first second)
    (later : Lasts second third) : Lasts first third where
  continues := earlier.continues.trans later.continues
  held := later.held.trans earlier.held
  library := later.library.trans earlier.library
  kernel := earlier.kernel.trans later.kernel
  asked asks := later.asked (earlier.asked asks)

theorem lasts_go (fresh : Bool) (run : Run ε) : Lasts run (run.go fresh).value := by
  have evolves := Run.evolves_go fresh run
  obtain ⟨continues, held⟩ := evolves.continues
  exact ⟨continues, held, evolves.library, evolves.kernel, asked_of_evolves evolves⟩

omit [Engine ε] in
theorem lasts_withSelf (run : Run ε) {self : ScriptInstance}
    (continues : run.self.Continues self ∧ self.sustaining = run.self.sustaining) :
    Lasts run (run.withSelf self) :=
  ⟨continues.1, continues.2, rfl, .refl _, id⟩

theorem lasts_closeClick (run : Run ε) (msec window : Nat) :
    Lasts run
      (if (run.self.advanceClick msec window).1 then
        (run.withSelf (run.self.advanceClick msec window).2).go false
      else pure (run.withSelf (run.self.advanceClick msec window).2)).value := by
  have clicks := lasts_withSelf run (run.self.elapses_advanceClick msec window).continues
  split
  · exact clicks.trans (lasts_go false _)
  · exact clicks

theorem lasts_tick (config : ScriptConfig) (msec : Nat) (run : Run ε) :
    Lasts run (tick config msec run).value := by
  have runs := lasts_go true run
  have sustains := lasts_withSelf (run.go true).value
    ((run.go true).value.self.elapses_advanceSustain msec config.longPressMsec).continues
  unfold tick
  simp only [Logged.value_bind]
  split
  · exact ((runs.trans sustains).trans (lasts_go false _)).trans
      (lasts_closeClick _ msec config.doubleClickMsec)
  · exact (runs.trans sustains).trans (lasts_closeClick _ msec config.doubleClickMsec)

/-- What is left of a list of instances when each has run and time has passed for it. -/
structure LastsAll (active : List ScriptInstance) (shared : ScriptShared) (rig : Rig ε)
    (after : List ScriptInstance × ScriptShared × Rig ε) : Prop where
  each : List.Forall₂
    (fun before later => before.Continues later ∧ later.sustaining = before.sustaining)
    active after.1
  library : after.2.1.library = shared.library
  kernel : rig.kernel.Carries after.2.2.kernel
  asked : (∀ request ∈ shared.requests, request.IsAsked) →
    ∀ request ∈ after.2.1.requests, request.IsAsked

theorem lastsAll_tickAll (config : ScriptConfig) (msec : Nat) (active : List ScriptInstance)
    (shared : ScriptShared) (rig : Rig ε) :
    LastsAll active shared rig (tickAll config msec active shared rig).value := by
  induction active generalizing shared rig with
  | nil => exact ⟨.nil, rfl, .refl _, id⟩
  | cons self rest ih =>
      have first := lasts_tick config msec { self := self, shared := shared, rig := rig }
      have others := ih
        (tick config msec { self := self, shared := shared, rig := rig }).value.shared
        (tick config msec { self := self, shared := shared, rig := rig }).value.rig
      exact {
        each := .cons ⟨first.continues, first.held⟩ others.each
        library := others.library.trans first.library
        kernel := first.kernel.trans others.kernel
        asked := fun asked => others.asked (first.asked asked) }

omit [Engine ε] in
theorem evolves_lastsAll (roster : Roster) (rig : Rig ε)
    {after : List ScriptInstance × ScriptShared × Rig ε}
    (lasts : LastsAll roster.active roster.shared rig after) :
    Evolves plain news (roster, rig)
      (pure ({ roster with active := after.1, shared := after.2.1 }, after.2.2)) where
  config := rfl
  library := lasts.library
  kernel := lasts.kernel
  asked := lasts.asked
  stays {position self} found := by
    obtain ⟨within, isSelf⟩ := List.getElem?_eq_some_iff.1 found
    have keptLength : position < after.1.length := lasts.each.length_eq ▸ within
    obtain ⟨continues, held⟩ := lasts.each.get within keptLength
    have same : roster.active.get ⟨position, within⟩ = self := isSelf
    rw [same] at continues held
    exact ⟨_, List.getElem?_eq_getElem keptLength, continues,
      fun _ holds => .inl (held.trans holds)⟩
  joins {position later} found missing _ := by
    obtain ⟨within, _⟩ := List.getElem?_eq_some_iff.1 found
    have missing' := List.getElem?_eq_none_iff.1 missing
    rw [lasts.each.length_eq] at missing'
    exact absurd within (Nat.not_lt.2 missing')

theorem carries_seeOff (self : ScriptInstance) (rig : Rig ε) :
    rig.kernel.Carries (seeOff self rig).value.2.kernel := by
  unfold seeOff
  dsimp only
  split
  · exact .request _ _ _ _
  · exact .refl _

/-- Instances leave in order; the others stay as they are. -/
theorem reclaimFrom_spec (maxIdle : Nat) (active idle : List ScriptInstance) (rig : Rig ε) :
    (reclaimFrom maxIdle active idle rig).value.1 =
        active.filter (fun self => !self.isFinished) ∧
      rig.kernel.Carries (reclaimFrom maxIdle active idle rig).value.2.2.kernel := by
  induction active generalizing idle rig with
  | nil => exact ⟨rfl, .refl _⟩
  | cons self rest ih =>
      unfold reclaimFrom
      split
      · next finished =>
          obtain ⟨kept, carries⟩ := ih
            (if idle.length < maxIdle then (seeOff self rig).value.1 :: idle else idle)
            (seeOff self rig).value.2
          refine ⟨?_, (carries_seeOff self rig).trans carries⟩
          rw [List.filter_cons_of_neg (by simp [finished])]
          exact kept
      · next unfinished =>
          obtain ⟨kept, carries⟩ := ih idle rig
          refine ⟨?_, carries⟩
          rw [List.filter_cons_of_pos (by simp [unfinished])]
          exact congrArg (self :: ·) kept

theorem reclaim_spec (roster : Roster) (rig : Rig ε) :
    Keeps (roster, rig) (roster.reclaim rig).value ∧
      (roster.reclaim rig).value.1.shared = roster.shared ∧
      (roster.reclaim rig).value.1.active =
        roster.active.filter (fun self => !self.isFinished) := by
  obtain ⟨kept, carries⟩ :=
    reclaimFrom_spec roster.config.maxActive roster.active roster.idle rig
  exact ⟨⟨rfl, rfl, carries⟩, rfl, kept⟩

/-! ## The whole roster -/

/-- Whoever is held was held before, or is news. -/
def Inherits (news : ScriptInstance → Prop) (before after : Roster) : Prop :=
  ∀ later ∈ after.active, later.sustaining = true →
    ∃ first, (first ∈ before.active ∨ news first) ∧ first.Continues later

omit [Engine ε] in
theorem Evolves.inherits {before : Roster × Rig ε} {outcome : Logged (Roster × Rig ε)}
    (evolves : Evolves plain news before outcome) :
    Inherits news before.1 outcome.value.1 := by
  intro later member holds
  obtain ⟨position, found⟩ := List.getElem?_of_mem member
  cases was : before.1.active[position]? with
  | none =>
      obtain ⟨first, isNew, continues⟩ := evolves.joins found was holds
      exact ⟨first, .inr isNew, continues⟩
  | some self =>
      obtain ⟨kept, foundKept, continues, _⟩ := evolves.stays was
      have same : kept = later := Option.some.inj (foundKept.symm.trans found)
      exact ⟨self, .inl (List.mem_of_getElem? was), same ▸ continues⟩

omit [Engine ε] in
theorem inherits_mapActive (roster : Roster) {change : ScriptInstance → ScriptInstance}
    (continues : ∀ self : ScriptInstance, self.Continues (change self)) :
    Inherits news roster (roster.mapActive change) := by
  intro later member _
  obtain ⟨self, memberSelf, isLater⟩ := List.mem_map.1 member
  exact ⟨self, .inl memberSelf, isLater ▸ continues self⟩

omit [Engine ε] in
theorem carries_completions (roster : Roster) (kernel : KernelChannel) :
    kernel.Carries
      (roster.deliverCompletions { kernel with completed := kernel.completed.drain.2 }
        kernel.completed.drain.1).2 := by
  intro taken held
  exact (KernelChannel.Carries.drain_completed kernel taken held).trans
    (carries_deliverCompletions roster _ _ taken held)

omit [Engine ε] in
theorem evolves_withKernel (roster : Roster) (rig : Rig ε) {kernel : KernelChannel}
    (carries : rig.kernel.Carries kernel) :
    Evolves plain news (roster, rig) (pure (roster, { rig with kernel })) :=
  .ofSame ⟨rfl, rfl, carries⟩ rfl id

/-- All that a block does to the instances before the finished ones leave. -/
theorem evolves_untilReclaim (roster : Roster) (frames rate : Nat) (rig : Rig ε)
    (settled : roster.shared.requests = []) :
    ∃ outcome : Logged (Roster × Rig ε), Evolves plain news (roster, rig) outcome ∧
      outcome.value.1.shared.requests = [] ∧
      (roster.maintain frames rate rig).value =
        (let left := (outcome.value.1.reclaim outcome.value.2).value
         ({ left.1 with shared := { left.1.shared with block := left.1.shared.block + 1 } },
           left.2)) := by
  -- Completions are told first, then every instance has its turn, then requests are settled.
  have told : Evolves plain news _ _ := evolves_deliverCompletions roster rig
    { rig.kernel with completed := rig.kernel.completed.drain.2 } rig.kernel.completed.drain.1
  have recycled := carries_completions roster rig.kernel
  generalize delivery : roster.deliverCompletions
    { rig.kernel with completed := rig.kernel.completed.drain.2 }
    rig.kernel.completed.drain.1 = delivered at told recycled
  have lasts := lastsAll_tickAll roster.config (blockMsec frames rate) delivered.1.active
    delivered.1.shared { rig with kernel := delivered.2 }
  generalize ticking : (tickAll roster.config (blockMsec frames rate) delivered.1.active
    delivered.1.shared { rig with kernel := delivered.2 }).value = ticked at lasts
  have ready := (told.after (evolves_withKernel delivered.1 rig recycled)).after
    (evolves_lastsAll delivered.1 { rig with kernel := delivered.2 } lasts)
  have settles : Evolves plain news _ _ := evolves_settle
    { delivered.1 with active := ticked.1, shared := ticked.2.1 } ticked.2.2 maxRounds
    (ready.asked (by simp [settled]))
  refine ⟨_, ready.after settles, requests_settle _ _ _, ?_⟩
  have config : delivered.1.config = roster.config := told.config
  unfold maintain
  simp only [Logged.value_bind, Logged.value_pure, delivery, config, ticking]

/-- What maintaining the scripts keeps. -/
theorem maintain_spec (roster : Roster) (frames rate : Nat) (rig : Rig ε)
    (settled : roster.shared.requests = []) :
    Keeps (roster, rig) (roster.maintain frames rate rig).value ∧
      (roster.maintain frames rate rig).value.1.shared.requests = [] ∧
      Inherits news roster (roster.maintain frames rate rig).value.1 := by
  obtain ⟨outcome, evolves, none, maintained⟩ :
      ∃ outcome, Evolves True news (roster, rig) outcome ∧ _ :=
    evolves_untilReclaim roster frames rate rig settled
  obtain ⟨keeps, shared, active⟩ := reclaim_spec outcome.value.1 outcome.value.2
  rw [maintained]
  have all := evolves.toKeeps.trans keeps
  refine ⟨⟨all.config, all.library, all.kernel⟩, ?_, fun later member holds => ?_⟩
  · exact (congrArg ScriptShared.requests shared).trans none
  · change later ∈ (outcome.value.1.reclaim outcome.value.2).value.1.active at member
    rw [active] at member
    exact evolves.inherits later (List.mem_of_mem_filter member) holds

theorem released_of_stop (active done : List ScriptInstance) (engine : ε)
    (each : ∀ self ∈ done, self.sustaining = false) :
    ∀ self ∈ (active.foldl (fun (done : List ScriptInstance × ε) self =>
      let (self, engine) := self.stop done.2
      (done.1 ++ [self], engine)) (done, engine)).1, self.sustaining = false := by
  induction active generalizing done engine with
  | nil => exact each
  | cons self rest ih =>
      refine ih _ _ fun other member => ?_
      rcases List.mem_append.1 member with before | last
      · exact each other before
      · rw [List.mem_singleton.1 last]

theorem reclaim_of_released (roster : Roster) (rig : Rig ε) (stopped : List ScriptInstance × ε)
    (released : ∀ self ∈ stopped.1, self.sustaining = false) :
    let left := ({ roster with active := stopped.1 }.reclaim
      { rig with engine := stopped.2 }).value
    Keeps (roster, rig) left ∧ left.1.shared = roster.shared ∧
      ∀ later ∈ left.1.active, later.sustaining = false := by
  obtain ⟨keeps, shared, active⟩ := reclaim_spec { roster with active := stopped.1 }
    { rig with engine := stopped.2 }
  refine ⟨⟨keeps.config, keeps.library, keeps.kernel⟩, shared, fun later member => ?_⟩
  rw [active] at member
  exact released later (List.mem_of_mem_filter member)

theorem stopAll_spec (roster : Roster) (rig : Rig ε) :
    Keeps (roster, rig) (roster.stopAll rig).value ∧
      (roster.stopAll rig).value.1.shared = roster.shared ∧
      ∀ later ∈ (roster.stopAll rig).value.1.active, later.sustaining = false :=
  reclaim_of_released roster rig _ (released_of_stop roster.active [] rig.engine (by simp))

end Upkeep

end Roster

end Looper
