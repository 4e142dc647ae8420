import QubesIdd.Proofs.DevicePlug

/-! The hot-plug properties along whole runs of the device, from its creation. -/

namespace QubesIdd
open Library.Runs MonitorPlug

/-- Every monitor call of the callback succeeds; mode updates may still fail. -/
structure World.PlugsMonitors (world : World) : Prop where
  created : world.monitorCreate = true
  arrived : world.monitorArrival = true
  departed : world.monitorDeparture = true

namespace Device

/-- `EvtIddCxAdapterInitFinished` is called once for each initialisation. -/
def InitOwed (device : Device) (input : Input) : Prop :=
  ∀ success, input.callback = .adapterInitFinished success → 0 < device.iddCx.initPending

/-- The unassign callback is called for a monitor that has a swap chain. -/
def UnassignsAssigned (device : Device) (input : Input) : Prop :=
  ∀ monitor, input.callback = .unassignSwapChain monitor → device.plug.assigned monitor = true

theorem action_reliable (device : Device) (input : Input) (plugs : input.world.PlugsMonitors) :
    Reliable (device.action input) := by
  have replugging : Reliable (device.replugAction input.world) := by
    unfold replugAction
    cases device.context.monitor with
    | none => exact ⟨plugs.created, plugs.arrived⟩
    | some monitor => cases device.context.replugMonitor <;> cases input.world.monitorDeparture <;> trivial
  obtain ⟨callback, world⟩ := input
  cases callback with
  | adapterInitFinished success =>
    cases success with
    | false => trivial
    | true => exact ⟨plugs.created, plugs.arrived⟩
  | replugMonitor => exact replugging
  | setResolution width height =>
    simp only [action]
    split
    next => trivial
    next => exact replugging
  | unassignSwapChain monitor => exact ⟨plugs.created, plugs.arrived⟩
  | d0Entry | assignSwapChain | swapChainLost | lgmpTimer => trivial

/-- While the monitor calls succeed, the runs with one monitor at a time are those in
which `FinishInit` never runs beside a plugged monitor. -/
theorem singleMonitor_iff (registry : Registry) (inputs : List Input)
    (plugs : Along step (fun _ input => input.world.PlugsMonitors) (initial registry) inputs) :
    Always step (fun device => SingleMonitor device.plug) (initial registry) inputs ↔
      Along step (fun device input => PlugsAbsent device.plug (device.action input)) (initial registry) inputs := by
  refine always_iff_along (fun _ held => OnlyHeldLive.single held) ?_ ?_ _ _ ?_ plugs
  · intro device input held plugging absent
    rw [step_plug]
    exact onlyHeldLive_apply _ _ held (action_reliable device input plugging) absent
  · intro device input held plugging single
    rw [step_plug] at single
    exact plugsAbsent_of_single _ _ (action_reliable device input plugging) single
  · intro monitor live
    cases live

theorem singleMonitor_start :
    Always step (fun device => SingleMonitor device.plug) (initial ⟨none, false⟩)
      [⟨.d0Entry, {}⟩, ⟨.adapterInitFinished true, {}⟩, ⟨.replugMonitor, {}⟩] := by
  refine (singleMonitor_iff _ _ (by exact ⟨⟨rfl, rfl, rfl⟩, ⟨rfl, rfl, rfl⟩, ⟨rfl, rfl, rfl⟩, trivial⟩)).mpr
    ⟨fun finishes => ?_, fun _ _ holding => ?_, fun finishes => ?_, trivial⟩
  · cases finishes
  · cases holding
  · cases finishes

/-- Two power-ups in a row plug two monitors. -/
theorem singleMonitor_violated :
    ¬ ∀ (registry : Registry) (inputs : List Input), Along step InitOwed (initial registry) inputs →
      Along step (fun _ input => input.world.PlugsMonitors) (initial registry) inputs →
      Always step (fun device => SingleMonitor device.plug) (initial registry) inputs := by
  intro claim
  have every := claim ⟨none, false⟩
    [⟨.d0Entry, {}⟩, ⟨.adapterInitFinished true, {}⟩, ⟨.d0Entry, {}⟩, ⟨.adapterInitFinished true, {}⟩]
    ⟨nofun, fun _ _ => Nat.zero_lt_one, nofun, fun _ _ => Nat.zero_lt_one, trivial⟩
    ⟨⟨rfl, rfl, rfl⟩, ⟨rfl, rfl, rfl⟩, ⟨rfl, rfl, rfl⟩, ⟨rfl, rfl, rfl⟩, trivial⟩
  have single := (always_iff_runs _ _).mp every _ List.prefix_rfl
  exact absurd (single 0 1 rfl rfl) (by decide)

/-- The runs that never keep a dead handle are those whose `FinishInit` calls plug a
monitor completely. -/
theorem handleLive_iff (registry : Registry) (inputs : List Input) :
    Always step (fun device => HandleLive device.plug) (initial registry) inputs ↔
      Along step (fun device input => PlugsWhole device.plug (device.action input)) (initial registry) inputs := by
  refine always_iff_along (fun (device : Device) (kept : HandleKept device.plug) => kept.live) ?_ ?_ _ _ ?_
    (along_true _ _)
  · intro device input kept _ whole
    rw [step_plug]
    exact handleKept_apply _ _ kept (action_allowed device input) whole
  · intro device input _ _ live
    rw [step_plug] at live
    exact plugsWhole_of_live _ _ live
  · constructor
    · intro _ _ holding
      cases holding
    · intro replugging
      cases replugging

/-- An arrival that fails leaves a handle that was never plugged in. -/
theorem handleLive_violated :
    ¬ ∀ (registry : Registry) (inputs : List Input), Along step InitOwed (initial registry) inputs →
      Always step (fun device => HandleLive device.plug) (initial registry) inputs := by
  intro claim
  have every := claim ⟨none, false⟩ [⟨.d0Entry, {}⟩, ⟨.adapterInitFinished true, { monitorArrival := false }⟩]
    ⟨nofun, fun _ _ => Nat.zero_lt_one, trivial⟩
  have live := (always_iff_runs _ _).mp every _ List.prefix_rfl
  exact absurd (live rfl 0 rfl) (by decide)

/-- The runs whose replug flag is always going to be lowered are those in which only
a monitor with a swap chain departs. -/
theorem unassignOwed_iff (registry : Registry) (inputs : List Input) :
    Always step (fun device => UnassignOwed device.plug) (initial registry) inputs ↔
      Along step (fun device input => DepartsAssigned device.plug (device.action input)) (initial registry) inputs := by
  refine always_iff_along (fun _ owed => owed) ?_ ?_ _ _ ?_ (along_true _ _)
  · intro device input owed _ assigned
    rw [step_plug]
    exact unassignOwed_apply _ _ owed assigned
  · intro device input _ _ owed
    rw [step_plug] at owed
    exact departsAssigned_of_owed _ _ owed
  · exact fun replugging => by cases replugging

/-- A resolution request between arrival and the first swap chain departs a monitor
nobody will unassign. -/
theorem unassignOwed_violated :
    ¬ ∀ (registry : Registry) (inputs : List Input), Along step InitOwed (initial registry) inputs →
      Along step UnassignsAssigned (initial registry) inputs →
      Always step (fun device => UnassignOwed device.plug) (initial registry) inputs := by
  intro claim
  have every := claim ⟨none, false⟩
    [⟨.d0Entry, {}⟩, ⟨.adapterInitFinished true, {}⟩, ⟨.setResolution 1024 768, { updateModes := false }⟩]
    ⟨nofun, fun _ _ => Nat.zero_lt_one, nofun, trivial⟩ ⟨nofun, nofun, nofun, trivial⟩
  have owed := (always_iff_runs _ _).mp every _ List.prefix_rfl
  obtain ⟨monitor, last, port⟩ := owed rfl
  obtain rfl : 0 = monitor := Option.some.inj last
  cases port

end Device
end QubesIdd
