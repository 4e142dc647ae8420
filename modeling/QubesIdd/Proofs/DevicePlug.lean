import QubesIdd.Proofs.DeviceSteps
import QubesIdd.Proofs.PlugInvariants

/-! The device context as a hot-plug machine: every callback is one action on the
handle, the flag and the ports, and nothing else in it moves them. -/

namespace QubesIdd
open Library.Runs MonitorPlug

theorem modify_last {α : Type u} (items : List α) (item : α) (change : α → α) :
    (items ++ [item]).modify items.length change = items ++ [change item] := by
  induction items with
  | nil => rfl
  | cons head rest ih => simpa using ih

private theorem map_modify {α : Type u} {β : Type v} (view : α → β) (change : α → α) (seen : β → β)
    (commutes : ∀ item, view (change item) = seen (view item)) (items : List α) (index : Nat) :
    (items.modify index change).map view = (items.map view).modify index seen := by
  induction items generalizing index with
  | nil => simp
  | cons head rest ih => cases index <;> simp [commutes, ih]

namespace Device
variable (world : World)

def plug (device : Device) : State where
  monitor := device.context.monitor
  replug := device.context.replugMonitor
  ports := device.iddCx.monitors.map Monitor.toPort
  lastDeparted := device.iddCx.lastDeparted

def replugAction (device : Device) : Action :=
  match device.context.monitor with
  | none => .finish world.monitorCreate world.monitorArrival
  | some monitor =>
    if device.context.replugMonitor then .idle else if world.monitorDeparture then .depart monitor else .idle

def action (device : Device) (input : Input) : Action :=
  match input.callback with
  | .adapterInitFinished success =>
    if success then .finish input.world.monitorCreate input.world.monitorArrival else .idle
  | .replugMonitor => device.replugAction input.world
  | .setResolution _ _ => if device.updates input.world then .idle else device.replugAction input.world
  | .assignSwapChain monitor => .assign monitor
  | .unassignSwapChain monitor => .unassign monitor input.world.monitorCreate input.world.monitorArrival
  | .d0Entry | .swapChainLost | .lgmpTimer => .idle

theorem action_allowed (device : Device) (input : Input) : (device.action input).Allowed device.plug := by
  have replugging (world : World) : (device.replugAction world).Allowed device.plug := by
    unfold replugAction
    split
    next => trivial
    next monitor holding =>
      split
      next => trivial
      next idle =>
        split
        next => exact ⟨holding, by simpa [plug] using idle⟩
        next => trivial
  obtain ⟨callback, world⟩ := input
  cases callback with
  | adapterInitFinished success => cases success <;> trivial
  | replugMonitor => exact replugging world
  | setResolution width height =>
    simp only [action]
    split
    next => trivial
    next => exact replugging world
  | d0Entry | assignSwapChain | unassignSwapChain | swapChainLost | lgmpTimer => trivial

theorem initAdapter_plug (device : Device) : (device.initAdapter world).plug = device.plug := by
  obtain ⟨_, _, _, _, _, same⟩ := initAdapter_frame world device
  rw [same]
  rfl

theorem finishInit_plug (connectorIndex : Nat) (device : Device) :
    (device.finishInit world connectorIndex).plug =
      device.plug.finish world.monitorCreate world.monitorArrival := by
  unfold finishInit State.finish
  dsimp only
  cases world.monitorCreate with
  | false => rfl
  | true =>
    cases world.monitorArrival with
    | false => simp [plug, IddCx.monitorCreate]
    | true => simp [plug, IddCx.monitorCreate, IddCx.monitorArrival, modify_last]

theorem replugMonitor_plug (device : Device) :
    (device.replugMonitor world).plug = device.plug.apply (device.replugAction world) := by
  unfold replugMonitor replugAction
  have logged : (device.log .replugMonitor).plug = device.plug := rfl
  simp only [show (device.log .replugMonitor).context = device.context from rfl]
  cases holding : device.context.monitor with
  | none => simpa only [State.apply, logged] using finishInit_plug world 0 (device.log .replugMonitor)
  | some monitor =>
    cases replug : device.context.replugMonitor with
    | true => simpa [State.apply] using logged
    | false =>
      cases world.monitorDeparture with
      | false => simp [plug, log, replug, holding, State.apply]
      | true =>
        simp only [Bool.false_eq_true, if_false, if_true, State.apply, State.depart, plug, log, IddCx.monitorDeparture]
        rw [map_modify Monitor.toPort _ (fun port => { port with status := .departed }) fun _ => rfl]
        simp [holding]

theorem setAssigned_plug (device : Device) (monitor : Nat) (assigned : Bool) :
    { device with iddCx := device.iddCx.setAssigned monitor assigned }.plug =
      device.plug.setAssigned monitor assigned := by
  simp only [plug, IddCx.setAssigned, State.setAssigned]
  rw [map_modify Monitor.toPort _ (fun port => { port with assigned }) fun _ => rfl]

theorem onUnassignedSwapChain_plug (device : Device) :
    (device.onUnassignedSwapChain world).plug =
      if device.plug.replug then State.finish world.monitorCreate world.monitorArrival { device.plug with replug := false }
      else device.plug := by
  unfold onUnassignedSwapChain
  dsimp only
  cases replug : device.context.replugMonitor with
  | false => simp [plug, replug]
  | true =>
    simp only [if_true, show device.plug.replug = true from replug]
    rw [finishInit_plug]
    rfl

theorem setResolution_plug (width height : Int32) (device : Device) :
    (device.setResolution world width height).plug =
      device.plug.apply (if device.updates world then .idle else device.replugAction world) := by
  cases updated : device.updates world with
  | true =>
    obtain ⟨_, _, same⟩ := setResolution_updated world width height device updated
    rw [same]
    rfl
  | false =>
    obtain ⟨_, _, same⟩ := setResolution_refused world width height device updated
    rw [same, replugMonitor_plug]
    rfl

/-- The device refines the hot-plug machine. -/
theorem step_plug (device : Device) (input : Input) :
    (device.step input).plug = device.plug.apply (device.action input) := by
  obtain ⟨callback, world⟩ := input
  cases callback with
  | d0Entry => exact initAdapter_plug world device
  | adapterInitFinished success =>
    simp only [step, adapterInitFinished, action]
    cases success with
    | false => rfl
    | true => exact finishInit_plug world 0 _
  | replugMonitor => exact replugMonitor_plug world device
  | setResolution width height => exact setResolution_plug world width height device
  | assignSwapChain monitor =>
    obtain ⟨_, _, same⟩ := monitorAssignSwapChain_frame monitor device
    simp only [step, same, action, State.apply, ← setAssigned_plug]
    rfl
  | unassignSwapChain monitor =>
    simp only [step, monitorUnassignSwapChain, action, State.apply, onUnassignedSwapChain_plug, setAssigned_plug]
  | swapChainLost =>
    simp only [step, onSwapChainLost, action, State.apply]
    split <;> rfl
  | lgmpTimer => rfl

end Device
end QubesIdd
