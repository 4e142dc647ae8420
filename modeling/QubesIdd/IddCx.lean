import QubesIdd.ModeReport

/-! What the framework keeps between callbacks: the adapters and monitors it has
created for the driver, by handle, and the results it still has to deliver. -/

namespace QubesIdd

inductive MonitorStatus where
  | created
  | arrived
  | departed
  deriving DecidableEq, Repr

/-- `assigned` is the framework's view: the assign callback has been called and the
unassign callback has not. -/
structure Port where
  status : MonitorStatus
  assigned : Bool
  deriving DecidableEq, Repr

structure Monitor extends Port where
  connectorIndex : Nat
  description : List UInt8
  deriving Repr

/-- Handles are positions. `adapters` holds whether the adapter was initialised with
`IDDCX_ADAPTER_FLAGS_CAN_PROCESS_FP16`, `initPending` counts the results that
`EvtIddCxAdapterInitFinished` still owes. -/
structure IddCx where
  adapters : List Bool := []
  initPending : Nat := 0
  monitors : List Monitor := []
  lastDeparted : Option Nat := none

namespace IddCx

def adapterInitAsync (canProcessFP16 : Bool) (iddCx : IddCx) : IddCx :=
  { iddCx with adapters := iddCx.adapters ++ [canProcessFP16], initPending := iddCx.initPending + 1 }

def monitorCreate (connectorIndex : Nat) (description : List UInt8) (iddCx : IddCx) : IddCx :=
  { iddCx with monitors := iddCx.monitors ++ [⟨⟨.created, false⟩, connectorIndex, description⟩] }

def monitorArrival (monitor : Nat) (iddCx : IddCx) : IddCx :=
  { iddCx with monitors := iddCx.monitors.modify monitor fun m => { m with status := .arrived } }

def monitorDeparture (monitor : Nat) (iddCx : IddCx) : IddCx :=
  { iddCx with
    monitors := iddCx.monitors.modify monitor fun m => { m with status := .departed }
    lastDeparted := some monitor }

def setAssigned (monitor : Nat) (assigned : Bool) (iddCx : IddCx) : IddCx :=
  { iddCx with monitors := iddCx.monitors.modify monitor fun m => { m with assigned } }

end IddCx

/-- Everything the world answers while one callback runs. A call that is not made
leaves its answer unused. -/
structure Answers where
  getVersion : Option UInt32 := none
  hasIddCx110DDIs : Bool := false
  adapterInit : Bool := true
  adapterInitRetry : Bool := true
  monitorCreate : Bool := true
  monitorArrival : Bool := true
  monitorDeparture : Bool := true
  allocated : Bool := true
  updateModes : Bool := true

end QubesIdd
