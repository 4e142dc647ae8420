import QubesIdd.DeviceContext

/-! What each function of the device context can change. Everything a result leaves
out of its `with` clauses is as before the call. -/

namespace QubesIdd.Device
variable (world : World)

/-- A mode update in place needs a monitor, the memory for the list and the
framework's consent. -/
def updates (device : Device) : Bool := device.context.monitor.isSome && world.allocated && world.updateModes

theorem initAdapter_frame (device : Device) :
    ∃ adapter iddCxVersion canProcessFP16 adapters initPending, device.initAdapter world =
      { device with
        context := { device.context.populateDefaultModes device.registry.api world.scratch with
          adapter, iddCxVersion, canProcessFP16 }
        iddCx := { device.iddCx with adapters, initPending } } := by
  have queried : ∃ iddCxVersion canProcessFP16, device.context.queryIddCxCapabilities world =
      { device.context with iddCxVersion, canProcessFP16 } := by
    unfold DeviceContext.queryIddCxCapabilities
    split
    · exact ⟨_, _, rfl⟩
    · exact ⟨_, _, rfl⟩
  obtain ⟨version, fp16, queried⟩ := queried
  unfold initAdapter
  rw [queried]
  dsimp only
  split
  · exact ⟨_, _, _, _, _, rfl⟩
  · split
    · split
      · exact ⟨_, _, _, _, _, rfl⟩
      · exact ⟨_, _, _, _, _, rfl⟩
    · exact ⟨_, _, _, _, _, rfl⟩

theorem finishInit_frame (connectorIndex : Nat) (device : Device) :
    ∃ monitor monitors, device.finishInit world connectorIndex =
      { device with
        context := { device.context with monitor }
        iddCx := { device.iddCx with monitors } } := by
  unfold finishInit
  dsimp only
  split
  · exact ⟨_, _, rfl⟩
  · split
    · exact ⟨_, _, rfl⟩
    · exact ⟨_, _, rfl⟩

theorem replugMonitor_frame (device : Device) :
    ∃ monitor replugMonitor monitors lastDeparted, device.replugMonitor world =
      { device with
        context := { device.context with monitor, replugMonitor }
        iddCx := { device.iddCx with monitors, lastDeparted }
        calls := device.calls ++ [.replugMonitor] } := by
  unfold replugMonitor
  dsimp only
  split
  next =>
    obtain ⟨monitor, monitors, same⟩ := finishInit_frame world 0 (device.log .replugMonitor)
    exact ⟨monitor, _, monitors, _, same⟩
  next =>
    split
    · exact ⟨_, _, _, _, rfl⟩
    · split
      · exact ⟨_, _, _, _, rfl⟩
      · exact ⟨_, _, _, _, rfl⟩

theorem onUnassignedSwapChain_frame (device : Device) :
    ∃ monitor replugMonitor monitors, device.onUnassignedSwapChain world =
      { device with
        context := { device.context with
          monitor, replugMonitor, replugMonitorQueued := false, recoverModeUpdateSwapChain := false }
        iddCx := { device.iddCx with monitors } } := by
  unfold onUnassignedSwapChain
  dsimp only
  split
  next =>
    obtain ⟨monitor, monitors, same⟩ := finishInit_frame world 0 { device with
      context := { device.context with
        replugMonitor := false, replugMonitorQueued := false, recoverModeUpdateSwapChain := false } }
    exact ⟨monitor, false, monitors, same⟩
  next => exact ⟨_, _, _, rfl⟩

theorem adapterInitFinished_frame (success : Bool) (device : Device) :
    ∃ monitor monitors initPending, device.adapterInitFinished world success =
      { device with
        context := { device.context with monitor }
        iddCx := { device.iddCx with monitors, initPending } } := by
  cases success with
  | false => exact ⟨_, _, _, rfl⟩
  | true =>
    obtain ⟨monitor, monitors, same⟩ := finishInit_frame world 0
      { device with iddCx := { device.iddCx with initPending := device.iddCx.initPending - 1 } }
    exact ⟨monitor, monitors, _, same⟩

theorem monitorAssignSwapChain_frame (monitor : Nat) (device : Device) :
    ∃ announced, .replugMonitor ∉ announced ∧ device.monitorAssignSwapChain monitor =
      { device with
        context := { device.context with doSetMode := false, recoverModeUpdateSwapChain := false }
        iddCx := device.iddCx.setAssigned monitor true
        calls := device.calls ++ announced } := by
  unfold monitorAssignSwapChain onAssignSwapChain
  cases waiting : device.context.doSetMode with
  | true =>
    refine ⟨[.setDisplayMode device.context.setMode.width device.context.setMode.height device.context.setMode.refresh],
      by simp, ?_⟩
    simp [waiting, announce, log]
  | false => exact ⟨[], by simp, by simp [waiting]⟩

theorem monitorUnassignSwapChain_frame (monitor : Nat) (device : Device) :
    ∃ held replugMonitor monitors, device.monitorUnassignSwapChain world monitor =
      { device with
        context := { device.context with
          monitor := held, replugMonitor, replugMonitorQueued := false, recoverModeUpdateSwapChain := false }
        iddCx := { device.iddCx with monitors } } :=
  onUnassignedSwapChain_frame world { device with iddCx := device.iddCx.setAssigned monitor false }

theorem updateMonitorModes_cases (device : Device) :
    ((device.updateMonitorModes world).1 = device.updates world) ∧
    ∃ handed, (device.updateMonitorModes world).2 = { device with calls := device.calls ++ handed } ∧
      ∀ call ∈ handed, ∃ monitor, device.context.monitor = some monitor ∧
        call = .updateModes monitor (updateEntries device.context.canProcessFP16 device.context.displayModes) := by
  unfold updateMonitorModes updates
  cases device.context.monitor with
  | none => exact ⟨rfl, [], by simp⟩
  | some monitor =>
    cases world.allocated with
    | false => exact ⟨by simp, [], by simp⟩
    | true => exact ⟨by simp, [_], rfl, by simp⟩

section
variable (width height : Int32) (device : Device)

theorem setResolution_updated (updated : device.updates world = true) :
    let stored := storeRequest world width height device
    ∃ handed, (∀ call ∈ handed, ∃ monitor, device.context.monitor = some monitor ∧
        call = .updateModes monitor (updateEntries stored.context.canProcessFP16 stored.context.displayModes)) ∧
      device.setResolution world width height = announce
        { stored with
          context := { stored.context with doSetMode := false, recoverModeUpdateSwapChain := true }
          calls := device.calls ++ handed } := by
  intro stored
  obtain ⟨result, handed, same, calls⟩ := updateMonitorModes_cases world stored
  refine ⟨handed, calls, ?_⟩
  have accepted : (updateMonitorModes world stored).1 = true := result.trans updated
  simp only [setResolution, show storeRequest world width height device = stored from rfl, accepted, same, if_true]
  rfl

theorem setResolution_refused (refused : device.updates world = false) :
    let stored := storeRequest world width height device
    ∃ handed, (∀ call ∈ handed, ∃ monitor, device.context.monitor = some monitor ∧
        call = .updateModes monitor (updateEntries stored.context.canProcessFP16 stored.context.displayModes)) ∧
      device.setResolution world width height = replugMonitor world
        { stored with
          context := { stored.context with doSetMode := true, recoverModeUpdateSwapChain := false }
          calls := device.calls ++ handed } := by
  intro stored
  obtain ⟨result, handed, same, calls⟩ := updateMonitorModes_cases world stored
  refine ⟨handed, calls, ?_⟩
  have rejected : (updateMonitorModes world stored).1 = false := result.trans refused
  simp only [setResolution, show storeRequest world width height device = stored from rfl, rejected, same,
    Bool.false_eq_true, if_false]
  rfl

/-- Either way the mode list is rebuilt, handed over at most, and followed by one
announcement or one replug. -/
theorem setResolution_frame :
    let stored := storeRequest world width height device
    ∃ monitor replugMonitor monitors lastDeparted handed,
      (∀ call ∈ handed, ∃ monitor, device.context.monitor = some monitor ∧
        call = .updateModes monitor (updateEntries stored.context.canProcessFP16 stored.context.displayModes)) ∧
      device.setResolution world width height =
        { stored with
          context := { stored.context with
            monitor, replugMonitor
            doSetMode := !device.updates world
            recoverModeUpdateSwapChain := device.updates world }
          iddCx := { device.iddCx with monitors, lastDeparted }
          calls := device.calls ++ handed ++ [if device.updates world then
            .setDisplayMode stored.context.setMode.width stored.context.setMode.height stored.context.setMode.refresh
            else .replugMonitor] } := by
  intro stored
  cases updated : device.updates world with
  | true =>
    obtain ⟨handed, calls, same⟩ := setResolution_updated world width height device updated
    exact ⟨_, _, _, _, handed, calls, same⟩
  | false =>
    obtain ⟨handed, calls, same⟩ := setResolution_refused world width height device updated
    obtain ⟨monitor, replugMonitor, monitors, lastDeparted, replugged⟩ := replugMonitor_frame world
      { stored with
        context := { stored.context with doSetMode := true, recoverModeUpdateSwapChain := false }
        calls := device.calls ++ handed }
    exact ⟨monitor, replugMonitor, monitors, lastDeparted, handed, calls, same.trans replugged⟩

end

/-- How often `ReplugMonitor` has been entered. -/
def replugs (device : Device) : Nat := device.calls.count .replugMonitor

/-- `ReplugMonitor` is called directly, or by a request whose mode update in place
is refused. -/
def runsReplug (device : Device) (input : Input) : Bool :=
  match input.callback with
  | .replugMonitor => true
  | .setResolution _ _ => !device.updates input.world
  | _ => false

/-- What one callback does to the registry, to the queued replug and to the replugs
made: only a request writes, losing a swap chain queues, and unassigning one clears. -/
structure StepEffect (device : Device) (input : Input) (after : Device) : Prop where
  registry : after.registry =
    match input.callback with
    | .setResolution width height =>
      CSettings.setExtraMode (device.requestedMode width height) input.world.write device.registry
    | _ => device.registry
  queued : after.context.replugMonitorQueued =
    match input.callback with
    | .swapChainLost => device.context.replugMonitorQueued || device.context.recoverModeUpdateSwapChain
    | .unassignSwapChain _ => false
    | _ => device.context.replugMonitorQueued
  replugs : after.replugs = device.replugs + if device.runsReplug input then 1 else 0

theorem setResolution_effect (width height : Int32) (device : Device) :
    StepEffect device ⟨.setResolution width height, world⟩ (device.setResolution world width height) := by
  obtain ⟨_, _, _, _, handed, calls, same⟩ := setResolution_frame world width height device
  have uncounted : handed.count .replugMonitor = 0 := by
    rw [List.count_eq_zero]
    intro member
    obtain ⟨_, _, equal⟩ := calls _ member
    cases equal
  rw [same]
  refine ⟨rfl, rfl, ?_⟩
  cases updated : device.updates world <;> simp [replugs, runsReplug, updated, uncounted]

theorem step_effect (device : Device) (input : Input) : StepEffect device input (device.step input) := by
  obtain ⟨callback, world⟩ := input
  cases callback with
  | d0Entry =>
    obtain ⟨_, _, _, _, _, same⟩ := initAdapter_frame world device
    simp only [step, same]
    exact ⟨rfl, rfl, rfl⟩
  | adapterInitFinished success =>
    obtain ⟨_, _, _, same⟩ := adapterInitFinished_frame world success device
    simp only [step, same]
    exact ⟨rfl, rfl, rfl⟩
  | replugMonitor =>
    obtain ⟨_, _, _, _, same⟩ := replugMonitor_frame world device
    simp only [step, same]
    exact ⟨rfl, rfl, by simp [replugs, runsReplug]⟩
  | setResolution width height => exact setResolution_effect world width height device
  | assignSwapChain monitor =>
    obtain ⟨announced, uncounted, same⟩ := monitorAssignSwapChain_frame monitor device
    simp only [step, same]
    exact ⟨rfl, rfl, by simp [replugs, runsReplug, List.count_eq_zero.mpr uncounted]⟩
  | unassignSwapChain monitor =>
    obtain ⟨_, _, _, same⟩ := monitorUnassignSwapChain_frame world monitor device
    simp only [step, same]
    exact ⟨rfl, rfl, rfl⟩
  | swapChainLost =>
    simp only [step, onSwapChainLost]
    cases recover : device.context.recoverModeUpdateSwapChain with
    | true => exact ⟨rfl, by simp [recover], rfl⟩
    | false => exact ⟨rfl, by simp [recover], rfl⟩
  | lgmpTimer => exact ⟨rfl, rfl, rfl⟩

end QubesIdd.Device
