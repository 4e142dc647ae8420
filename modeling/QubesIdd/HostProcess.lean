import QubesIdd.ModeReport

/-! The host process that all device nodes of the driver share, and the one pointer
`Device.cpp` keeps in it. -/

namespace QubesIdd

/-- A device object `WdfDeviceCreate` has made. `initialized` is whether
`LGIddCreateDevice` returned success for it. -/
structure WdfDevice where
  initialized : Bool
  cleanedUp : Bool := false
  deriving DecidableEq, Repr

/-- Devices are numbered as they are created; `wdfDevice` is `l_wdfDevice`. -/
structure HostProcess where
  wdfDevice : Option Nat := none
  devices : List WdfDevice := []
  deriving DecidableEq, Repr

/-- Which of the calls of `LGIddCreateDevice` succeed. -/
structure Creation where
  getVersion : Bool := true
  deviceInitConfig : Bool := true
  deviceCreate : Bool := true
  deviceInitialize : Bool := true
  deriving DecidableEq, Repr

inductive HostEvent where
  | createDevice (creation : Creation)
  | cleanup (device : Nat)
  deriving DecidableEq, Repr

namespace HostProcess

/-- The pointer is set before the initialisation whose result is returned. -/
def createDevice (creation : Creation) (host : HostProcess) : HostProcess :=
  if !creation.getVersion then host else
  if !creation.deviceInitConfig then host else
  if !creation.deviceCreate then host else
  { wdfDevice := some host.devices.length
    devices := host.devices ++ [{ initialized := creation.deviceInitialize }] }

def isLive (device : Nat) (host : HostProcess) : Bool := host.devices[device]?.any fun object => !object.cleanedUp

/-- The cleanup callback, which the framework calls once for each object. It does not
look at which device the pointer names. -/
def cleanup (device : Nat) (host : HostProcess) : HostProcess :=
  if !host.isLive device then host else
  { wdfDevice := none
    devices := host.devices.modify device fun object => { object with cleanedUp := true } }

/-- `LGIddParseMonitorDescription`, given the mode list of each device. -/
def parseMonitorDescription (modes : Nat → DisplayModes) (buffer : Option (List ModeEntry)) (host : HostProcess) :
    Except NTSTATUS ModeReport :=
  match host.wdfDevice with
  | none => .error .STATUS_INVALID_PARAMETER
  | some device => .ok (QubesIdd.parseMonitorDescription (modes device) buffer)

def step (host : HostProcess) : HostEvent → HostProcess
  | .createDevice creation => host.createDevice creation
  | .cleanup device => host.cleanup device

end HostProcess
end QubesIdd
