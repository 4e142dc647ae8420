import QubesIdd.Driver
import QubesIdd.Library.Reduction

/-! The driver with `OnSwapChainLost` taken apart at its two interlocked accesses: a thread
that has found `m_recoverModeUpdateSwapChain` raised raises `m_replugMonitorQueued` some time
later, with the callbacks and the other threads in between. -/

namespace QubesIdd
open Library.Reduction (Machine)

/-- The second access. Its result only decides on a line in the log. -/
def Device.queueReplug (device : Device) : Device :=
  { device with context := { device.context with replugMonitorQueued := true } }

namespace Driver

/-- A monitor and one of its swap chains. -/
abbrev Thread := Nat × Nat

def thread : DriverInput → Option Thread
  | .monitor monitor (.work processor _) _ => some (monitor, processor)
  | _ => none

/-- A step as far as the call of `OnSwapChainLost`. -/
def stepUnreported (driver : Driver) : DriverInput → Driver
  | .callback input => { driver with device := stepDevice driver.device input }
  | .monitor monitor action world =>
    { contexts := Function.update driver.contexts monitor ((driver.contexts monitor).step action)
      device :=
        match (driver.contexts monitor).returns action with
        | some (some _) => driver.device.monitorAssignSwapChain monitor
        | some none => driver.device.monitorUnassignSwapChain world monitor
        | none => driver.device }

/-- The step ends in a call of `OnSwapChainLost`. -/
def reports (driver : Driver) : DriverInput → Bool
  | .callback _ => false
  | .monitor monitor action _ => (driver.contexts monitor).loses action

def queueReplug (driver : Driver) : Driver := { driver with device := driver.device.queueReplug }

def lossMachine : Machine Driver DriverInput Thread where
  step := stepUnreported
  thread := thread
  starts := reports
  guard driver := driver.device.context.recoverModeUpdateSwapChain
  write := queueReplug

end Driver
end QubesIdd
