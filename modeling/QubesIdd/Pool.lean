import QubesIdd.DeviceContext
import QubesIdd.HostProcess

/-! The devices of one host process. Each has a context of its own; they share the registry
key, the pointer of `Device.cpp` and with it the answer to `ParseMonitorDescription`. -/

namespace QubesIdd

/-- Devices are numbered as in the host process. What the registry says is kept once, so the
`registry` of a device counts for nothing here. -/
structure Pool where
  host : HostProcess := {}
  registry : Registry
  devices : List Device := []

inductive PoolEvent where
  | createDevice (creation : Creation)
  | cleanup (device : Nat)
  | callback (device : Nat) (input : Input)
  | edit (registry : Registry)

namespace Pool

def initial (registry : Registry) : Pool := { registry }

/-- A device that has not been cleaned up, with the registry all devices see. -/
def device (index : Nat) (pool : Pool) : Option Device :=
  if pool.host.isLive index then pool.devices[index]?.map fun device => { device with registry := pool.registry } else none

/-- A device object gets its context even if its initialisation fails. -/
def createDevice (creation : Creation) (pool : Pool) : Pool :=
  let host := pool.host.createDevice creation
  { pool with
    host
    devices := if host.devices.length = pool.host.devices.length then pool.devices else pool.devices ++ [.initial pool.registry] }

def callback (index : Nat) (input : Input) (pool : Pool) : Pool :=
  match pool.device index with
  | none => pool
  | some device =>
    let after := device.step input
    { pool with registry := after.registry, devices := pool.devices.set index after }

def step (pool : Pool) : PoolEvent → Pool
  | .createDevice creation => pool.createDevice creation
  | .cleanup device => { pool with host := pool.host.cleanup device }
  | .callback index input => pool.callback index input
  | .edit registry => { pool with registry }

def displayModes (pool : Pool) (index : Nat) : DisplayModes := (pool.devices[index]?.map (·.context.displayModes)).getD []

/-- `LGIddParseMonitorDescription`, which is not told whose monitor it is asked about. -/
def parseMonitorDescription (buffer : Option (List ModeEntry)) (pool : Pool) : Except NTSTATUS ModeReport :=
  pool.host.parseMonitorDescription pool.displayModes buffer

end Pool
end QubesIdd
