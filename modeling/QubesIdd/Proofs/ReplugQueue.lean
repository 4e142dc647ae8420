import QubesIdd.Proofs.MonitorSafety

/-! The replug queued after a lost swap chain: which steps raise and lower the flag,
and which steps run `ReplugMonitor` in between. The timer that should consume the
flag does nothing. -/

namespace QubesIdd
open Library.Runs

namespace Device

/-- Between the step that queues a replug and any later step that lowers the flag,
`ReplugMonitor` runs. -/
def QueuedReplugRuns (start : Device) (inputs : List Input) : Prop :=
  ∀ before lost between clear after, inputs = before ++ lost :: (between ++ clear :: after) →
    let losing := run step start before
    let queued := step losing lost
    let clearing := run step queued between
    lost.callback = .swapChainLost →
    losing.context.replugMonitorQueued = false → queued.context.replugMonitorQueued = true →
    clearing.context.replugMonitorQueued = true → (step clearing clear).context.replugMonitorQueued = false →
    queued.replugs < (step clearing clear).replugs

/-- A swap chain lost after a mode update is not unassigned before a request had to
fall back to a replug. -/
def UnassignsAfterFallback (start : Device) (inputs : List Input) : Prop :=
  ∀ before lost between clear after, inputs = before ++ lost :: (between ++ clear :: after) →
    let losing := run step start before
    let queued := step losing lost
    lost.callback = .swapChainLost →
    losing.context.replugMonitorQueued = false → losing.context.recoverModeUpdateSwapChain = true →
    (run step queued between).context.replugMonitorQueued = true →
    (∃ monitor, clear.callback = .unassignSwapChain monitor) →
    ∃ earlier input later, between = earlier ++ input :: later ∧
      runsReplug (run step queued earlier) input = true

theorem replugs_moved (device : Device) (inputs : List Input) :
    device.replugs < (run step device inputs).replugs ↔
      ∃ earlier input later, inputs = earlier ++ input :: later ∧ runsReplug (run step device earlier) input = true :=
  counter_moved (fun device input => (step_effect device input).replugs) device inputs

/-- The queue is served in exactly the runs where a fallback replug, made for another
reason, comes before the unassignment: nothing consumes the flag itself. -/
theorem queuedReplugRuns_iff (registry : Registry) (inputs : List Input) :
    QueuedReplugRuns (initial registry) inputs ↔ UnassignsAfterFallback (initial registry) inputs := by
  have unassigning (device : Device) (clear : Input) (monitor : Nat) (last : clear.callback = .unassignSwapChain monitor) :
      (step device clear).replugs = device.replugs := by
    rw [(step_effect device clear).replugs, if_neg (by simp [runsReplug, last]), Nat.add_zero]
  constructor
  · intro runs before lost between clear after split losing queued losingNow idle recover kept clears
    obtain ⟨monitor, unassigned⟩ := clears
    have raised : queued.context.replugMonitorQueued = true := by
      simp [queued, (step_effect losing lost).queued, losingNow, recover]
    have lowered : (step (run step queued between) clear).context.replugMonitorQueued = false := by
      simp [(step_effect _ clear).queued, unassigned]
    have moved := runs before lost between clear after split losingNow idle raised kept lowered
    rw [unassigning _ _ monitor unassigned] at moved
    exact (replugs_moved queued between).mp moved
  · intro falls before lost between clear after split losing queued clearing losingNow idle raised kept lowered
    have recover : losing.context.recoverModeUpdateSwapChain = true := by
      simpa [queued, (step_effect losing lost).queued, losingNow, idle] using raised
    obtain ⟨monitor, unassigned⟩ : ∃ monitor, clear.callback = .unassignSwapChain monitor := by
      rw [(step_effect clearing clear).queued] at lowered
      split at lowered
      next => simp [kept] at lowered
      next monitor found => exact ⟨monitor, found⟩
      next => exact absurd kept (by simp [lowered])
    rw [unassigning _ _ monitor unassigned]
    exact (replugs_moved queued between).mpr
      (falls before lost between clear after split losingNow idle recover kept ⟨monitor, unassigned⟩)

/-- The ordinary order of events drops the queued replug: the update loses the swap
chain, and the framework then unassigns it. -/
theorem queuedReplugRuns_violated :
    ¬ ∀ (registry : Registry) (inputs : List Input), Along step InitOwed (initial registry) inputs →
      Along step UnassignsAssigned (initial registry) inputs → QueuedReplugRuns (initial registry) inputs := by
  intro claim
  have dropped := claim ⟨none, false⟩
    [⟨.d0Entry, {}⟩, ⟨.adapterInitFinished true, {}⟩, ⟨.assignSwapChain 0, {}⟩, ⟨.setResolution 1024 768, {}⟩,
      ⟨.swapChainLost, {}⟩, ⟨.unassignSwapChain 0, {}⟩]
    ⟨nofun, fun _ _ => Nat.zero_lt_one, nofun, nofun, nofun, nofun, trivial⟩
    ⟨nofun, nofun, nofun, nofun, nofun, fun monitor same => by cases same; rfl, trivial⟩
    [⟨.d0Entry, {}⟩, ⟨.adapterInitFinished true, {}⟩, ⟨.assignSwapChain 0, {}⟩, ⟨.setResolution 1024 768, {}⟩]
    ⟨.swapChainLost, {}⟩ [] ⟨.unassignSwapChain 0, {}⟩ [] rfl rfl rfl rfl rfl rfl
  exact absurd dropped (by decide)

end Device
end QubesIdd
