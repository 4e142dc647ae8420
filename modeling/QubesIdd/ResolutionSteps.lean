import QubesIdd.DeviceContext

/-! `SetResolution` taken apart at its accesses to the flags other threads use, with the
other callbacks in between. Calls of it follow one another. -/

namespace QubesIdd

/-- What the call of `SetResolution` does next. -/
inductive ResolutionPc where
  | idle
  | updateMonitorModes
  | lowerDoSetMode
  | raiseRecover
  | announce
  | raiseDoSetMode
  | dropRecover
  | replugMonitor
  deriving DecidableEq, Repr

structure ResolutionState where
  device : Device
  pc : ResolutionPc := .idle

inductive ResolutionInput where
  | setResolution (width height : Int32) (world : World)
  | advance (world : World)
  | callback (input : Input)

namespace ResolutionState

def initial (registry : Registry) : ResolutionState := { device := Device.initial registry }

def withContext (context : DeviceContext) (state : ResolutionState) : ResolutionState :=
  { state with device := { state.device with context } }

def advance (world : World) (state : ResolutionState) : ResolutionState :=
  match state.pc with
  | .idle => state
  | .updateMonitorModes =>
    let (updated, device) := state.device.updateMonitorModes world
    { device, pc := if updated then .lowerDoSetMode else .raiseDoSetMode }
  | .lowerDoSetMode => { state.withContext { state.device.context with doSetMode := false } with pc := .raiseRecover }
  | .raiseRecover =>
    { state.withContext { state.device.context with recoverModeUpdateSwapChain := true } with pc := .announce }
  | .announce => { device := state.device.announce, pc := .idle }
  | .raiseDoSetMode => { state.withContext { state.device.context with doSetMode := true } with pc := .dropRecover }
  | .dropRecover =>
    { state.withContext { state.device.context with recoverModeUpdateSwapChain := false } with pc := .replugMonitor }
  | .replugMonitor => { device := state.device.replugMonitor world, pc := .idle }

def step (state : ResolutionState) : ResolutionInput → ResolutionState
  | .setResolution width height world =>
    if state.pc = .idle then { device := state.device.storeRequest world width height, pc := .updateMonitorModes }
    else state
  | .advance world => state.advance world
  | .callback input =>
    match input.callback with
    | .setResolution _ _ => state
    | _ => { state with device := state.device.step input }

end ResolutionState
end QubesIdd
