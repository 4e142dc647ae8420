import Mathlib.Logic.Function.Basic
import QubesIdd.DeviceContext
import QubesIdd.MonitorContext

/-! The driver with the swap chains of its monitors: the callbacks of `Device.cpp` that
assign and unassign them call the monitor's context first and the device's afterwards,
and a thread that loses its swap chain reports that to the device. -/

namespace QubesIdd

namespace MonitorContext

/-- The call on the context that a step brings to its end: `UnassignSwapChain`, or
`AssignSwapChain` with these resources. -/
def returns (context : MonitorContext) (action : MonitorAction) : Option (Option Resources) :=
  match action, context.control with
  | .assignSwapChain resources, .idle => if context.swapChain.isNone then some (some resources) else none
  | .unassignSwapChain, .idle => if context.swapChain.isNone then some none else none
  | .joined, .joining processor next => if context.isRunning processor then none else some next
  | _, _ => none

/-- Whether a step of a thread reports its swap chain lost. -/
def loses (context : MonitorContext) (action : MonitorAction) : Bool :=
  match action with
  | .work processor answer =>
    context.offered[processor]?.any fun chain =>
      .onSwapChainLost ∈ (chain.work answer).calls.drop chain.calls.length
  | _ => false

end MonitorContext

structure Driver where
  device : Device
  contexts : Nat → MonitorContext := fun _ => {}

/-- A callback that concerns no swap chain, or a step of one monitor's context. -/
inductive DriverInput where
  | callback (input : Input)
  | monitor (monitor : Nat) (action : MonitorAction) (world : World)

namespace Driver

def initial (registry : Registry) : Driver := { device := Device.initial registry }

def stepDevice (device : Device) (input : Input) : Device :=
  match input.callback with
  | .assignSwapChain _ | .unassignSwapChain _ | .swapChainLost => device
  | _ => device.step input

/-- `LGIddMonitorAssignSwapChain` and `LGIddMonitorUnassignSwapChain` behind their first
call, whatever came of it, and `OnSwapChainLost` on the thread. -/
def stepMonitor (monitor : Nat) (action : MonitorAction) (world : World) (driver : Driver) : Driver where
  contexts := Function.update driver.contexts monitor ((driver.contexts monitor).step action)
  device :=
    match (driver.contexts monitor).returns action with
    | some (some _) => driver.device.monitorAssignSwapChain monitor
    | some none => driver.device.monitorUnassignSwapChain world monitor
    | none => if (driver.contexts monitor).loses action then driver.device.onSwapChainLost else driver.device

def step (driver : Driver) : DriverInput → Driver
  | .callback input => { driver with device := stepDevice driver.device input }
  | .monitor monitor action world => driver.stepMonitor monitor action world

end Driver
end QubesIdd
