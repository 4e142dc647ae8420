import QubesIdd.Edid
import QubesIdd.IddCx
import QubesIdd.Settings

/-! `CIndirectDeviceContext` and the callbacks of `Device.cpp` that reach it. A
callback is one atomic step over the driver's fields, the framework, the registry
and the calls made so far. -/

namespace QubesIdd
open CSettings (WriteOutcome)

def IDDCX_VERSION_1_10 : UInt32 := 0x1A00

/-- The interlocked flags only ever hold 0 or 1. -/
structure DeviceContext where
  adapter : Option Nat := none
  monitor : Option Nat := none
  replugMonitor : Bool := false
  iddCxVersion : UInt32 := 0
  canProcessFP16 : Bool := false
  displayModes : DisplayModes := []
  edid : List UInt8 := []
  setMode : DisplayMode := ⟨0, 0, 0, false⟩
  doSetMode : Bool := false
  replugMonitorQueued : Bool := false
  recoverModeUpdateSwapChain : Bool := false

/-- Calls whose order matters to a claim about the driver: the announcement through
`g_pipe`, the mode list handed to a monitor, and the replug itself. -/
inductive Call where
  | setDisplayMode (width height refresh : UInt32)
  | updateModes (monitor : Nat) (entries : List ModeEntry)
  | replugMonitor
  deriving DecidableEq, Repr

structure Device where
  context : DeviceContext := {}
  iddCx : IddCx := {}
  registry : Registry
  calls : List Call := []

/-- What one callback is given besides its arguments: the framework's answers, how
the registry write ends, and what the uninitialised scratch mode holds. -/
structure World extends Answers where
  write : WriteOutcome := ⟨true, true⟩
  scratch : DisplayMode := ⟨0, 0, 0, false⟩

namespace DeviceContext

def queryIddCxCapabilities (world : World) (context : DeviceContext) : DeviceContext :=
  match world.getVersion with
  | none => { context with iddCxVersion := 0, canProcessFP16 := false }
  | some version =>
    { context with
      iddCxVersion := version
      canProcessFP16 := IDDCX_VERSION_1_10 ≤ version && world.hasIddCx110DDIs }

def populateDefaultModes (api : RegApi) (scratch : DisplayMode) (context : DeviceContext) : DeviceContext :=
  let displayModes := CSettings.loadModes api scratch
  { context with displayModes, edid := CEdid.build displayModes }

end DeviceContext

namespace Device
variable (world : World)

def log (call : Call) (device : Device) : Device := { device with calls := device.calls ++ [call] }

def adapterInitialised (canProcessFP16 : Bool) (device : Device) : Device :=
  { device with
    context := { device.context with adapter := some device.iddCx.adapters.length }
    iddCx := device.iddCx.adapterInitAsync canProcessFP16 }

/-- `InitAdapter`: a rejected FP16 adapter is retried once without the flag. -/
def initAdapter (device : Device) : Device :=
  let context := device.context.queryIddCxCapabilities world
  let context := context.populateDefaultModes device.registry.api world.scratch
  if world.adapterInit then adapterInitialised context.canProcessFP16 { device with context }
  else if context.canProcessFP16 then
    let context := { context with canProcessFP16 := false }
    if world.adapterInitRetry then adapterInitialised false { device with context }
    else { device with context }
  else { device with context }

def finishInit (connectorIndex : Nat) (device : Device) : Device :=
  if !world.monitorCreate then device else
  let monitor := device.iddCx.monitors.length
  let device :=
    { device with
      context := { device.context with monitor := some monitor }
      iddCx := device.iddCx.monitorCreate connectorIndex device.context.edid }
  if !world.monitorArrival then device else
  { device with iddCx := device.iddCx.monitorArrival monitor }

/-- The flag is raised before the departure call and taken back if that fails. -/
def replugMonitor (device : Device) : Device :=
  let device := device.log .replugMonitor
  match device.context.monitor with
  | none => device.finishInit world 0
  | some monitor =>
    if device.context.replugMonitor then device else
    if world.monitorDeparture then
      { device with
        context := { device.context with replugMonitor := true }
        iddCx := device.iddCx.monitorDeparture monitor }
    else { device with context := { device.context with replugMonitor := false } }

def announce (device : Device) : Device :=
  let setMode := device.context.setMode
  device.log (.setDisplayMode setMode.width setMode.height setMode.refresh)

def onAssignSwapChain (device : Device) : Device :=
  let device := { device with context := { device.context with recoverModeUpdateSwapChain := false } }
  if device.context.doSetMode then
    announce { device with context := { device.context with doSetMode := false } }
  else device

def onUnassignedSwapChain (device : Device) : Device :=
  let device :=
    { device with
      context := { device.context with replugMonitorQueued := false, recoverModeUpdateSwapChain := false } }
  if device.context.replugMonitor then
    finishInit world 0 { device with context := { device.context with replugMonitor := false } }
  else device

def onSwapChainLost (device : Device) : Device :=
  if !device.context.recoverModeUpdateSwapChain then device
  else { device with context := { device.context with replugMonitorQueued := true } }

def updateMonitorModes (device : Device) : Bool × Device :=
  match device.context.monitor with
  | none => (false, device)
  | some monitor =>
    if !world.allocated then (false, device) else
    let entries := updateEntries device.context.canProcessFP16 device.context.displayModes
    (world.updateModes, device.log (.updateModes monitor entries))

/-- The mode a request asks for: the arguments are converted, not checked. -/
def requestedMode (width height : Int32) (device : Device) : DisplayMode where
  width := width.toUInt32
  height := height.toUInt32
  refresh := CSettings.getDefaultRefresh device.registry.api
  preferred := true

/-- The first half of `SetResolution`, up to the rebuilt mode list. -/
def storeRequest (width height : Int32) (device : Device) : Device :=
  let setMode := device.requestedMode width height
  let registry := CSettings.setExtraMode setMode world.write device.registry
  let context := { device.context with setMode }
  { device with registry, context := context.populateDefaultModes registry.api world.scratch }

def setResolution (width height : Int32) (device : Device) : Device :=
  let (updated, device) := updateMonitorModes world (storeRequest world width height device)
  if updated then
    announce { device with context := { device.context with doSetMode := false, recoverModeUpdateSwapChain := true } }
  else
    replugMonitor world
      { device with context := { device.context with doSetMode := true, recoverModeUpdateSwapChain := false } }

/-- `LGMPTimer` is an empty stub. -/
def lgmpTimer (device : Device) : Device := device

/-- `LGIddAdapterInitFinished`. -/
def adapterInitFinished (success : Bool) (device : Device) : Device :=
  let device := { device with iddCx := { device.iddCx with initPending := device.iddCx.initPending - 1 } }
  if !success then device else finishInit world 0 device

/-- `LGIddMonitorAssignSwapChain`. -/
def monitorAssignSwapChain (monitor : Nat) (device : Device) : Device :=
  onAssignSwapChain { device with iddCx := device.iddCx.setAssigned monitor true }

/-- `LGIddMonitorUnassignSwapChain`. -/
def monitorUnassignSwapChain (monitor : Nat) (device : Device) : Device :=
  onUnassignedSwapChain world { device with iddCx := device.iddCx.setAssigned monitor false }

end Device

inductive Callback where
  | d0Entry
  | adapterInitFinished (success : Bool)
  | replugMonitor
  | setResolution (width height : Int32)
  | assignSwapChain (monitor : Nat)
  | unassignSwapChain (monitor : Nat)
  | swapChainLost
  | lgmpTimer
  deriving DecidableEq, Repr

structure Input where
  callback : Callback
  world : World := {}

namespace Device

def initial (registry : Registry) : Device := { registry }

def step (device : Device) (input : Input) : Device :=
  match input.callback with
  | .d0Entry => device.initAdapter input.world
  | .adapterInitFinished success => device.adapterInitFinished input.world success
  | .replugMonitor => device.replugMonitor input.world
  | .setResolution width height => device.setResolution input.world width height
  | .assignSwapChain monitor => device.monitorAssignSwapChain monitor
  | .unassignSwapChain monitor => device.monitorUnassignSwapChain input.world monitor
  | .swapChainLost => device.onSwapChainLost
  | .lgmpTimer => device.lgmpTimer

end Device
end QubesIdd
