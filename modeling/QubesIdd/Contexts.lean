import QubesIdd.HostProcess

/-! The pointers by which the callbacks of `Device.cpp` reach the driver's contexts: the wrapper
in each object of the framework, and `l_wdfDevice`. Wherever the code that writes one has not
come to the next write, a callback may come in between. -/

namespace QubesIdd

/-- How far a device object is: `LGIddCreateDevice` has set the pointer, or returned; the
cleanup callback has deleted the context, left `Cleanup`, or returned. -/
inductive DevicePoint where
  | creating
  | created
  | deleting
  | clearing
  | cleaned
  deriving DecidableEq, Repr

/-- The framework clears the space of a wrapper. -/
structure DeviceObject where
  point : DevicePoint := .creating
  context : Option Nat := none
  deriving DecidableEq, Repr

/-- `self` is the context whose `InitAdapter` asked for the adapter. -/
structure AdapterObject where
  self : Nat
  context : Option Nat := none
  deriving DecidableEq, Repr

/-- `self` is the context whose `FinishInit` asked for the monitor, `arrival` what
`IddCxMonitorArrival` answered. -/
structure MonitorObject where
  self : Nat
  context : Option Nat := none
  arrival : Option Bool := none
  deriving DecidableEq, Repr

/-- A `CIndirectDeviceContext`. -/
structure ContextObject where
  wdfDevice : Nat
  deleted : Bool := false
  deriving DecidableEq, Repr

/-- Contexts are numbered as they are allocated. Of a `CIndirectMonitorContext` there is
`m_devContext`; none is deleted, as nothing calls `Cleanup` of their wrapper. -/
structure Contexts where
  host : HostProcess := {}
  devices : List DeviceObject := []
  adapters : List AdapterObject := []
  monitors : List MonitorObject := []
  deviceContexts : List ContextObject := []
  monitorContexts : List Nat := []
  deriving DecidableEq, Repr

/-- `monitorCallback` stands for the callbacks that go through a monitor to its device
context, `swapChainLost` for the report of the monitor's thread. -/
inductive ContextEvent where
  | createDevice (creation : Creation)
  | contextMade (device : Nat)
  | deleteContext (device : Nat)
  | clearContext (device : Nat)
  | resetPointer (device : Nat)
  | d0Entry (device : Nat) (adapterInit : Bool)
  | adapterStored (adapter : Nat)
  | adapterInitFinished (adapter : Nat) (success monitorCreate : Bool)
  | monitorStored (monitor : Nat)
  | monitorArrival (monitor : Nat) (arrived : Bool)
  | parseMonitorDescription
  | monitorCallback (monitor : Nat)
  | unassignSwapChain (monitor : Nat) (replugs : Bool)
  | swapChainLost (monitor : Nat)
  deriving DecidableEq, Repr

namespace Contexts

def deviceWrapper (device : Nat) (state : Contexts) : Option Nat := state.devices[device]?.bind DeviceObject.context

def adapterWrapper (adapter : Nat) (state : Contexts) : Option Nat := state.adapters[adapter]?.bind AdapterObject.context

/-- `wrapper->context->GetDeviceContext()` of a monitor. -/
def getDeviceContext (monitor : Nat) (state : Contexts) : Option Nat :=
  (state.monitors[monitor]?.bind MonitorObject.context).bind fun context => state.monitorContexts[context]?

def alive (context : Nat) (state : Contexts) : Bool := state.deviceContexts[context]?.any fun object => !object.deleted

def isCreated (device : Nat) (state : Contexts) : Bool := state.devices[device]?.any fun object => object.point == .created

/-- Whether the device object of a context has been created and is not being cleaned up. -/
def serves (context : Nat) (state : Contexts) : Bool :=
  state.deviceContexts[context]?.any fun object => state.isCreated object.wdfDevice

/-- Some `InitAdapter` or `FinishInit` of the device has not returned. -/
def busy (device : Nat) (state : Contexts) : Bool :=
  let belongs (context : Nat) : Bool := state.deviceContexts[context]?.any fun object => object.wdfDevice == device
  (state.adapters.any fun adapter => belongs adapter.self && adapter.context.isNone) ||
    state.monitors.any fun monitor => belongs monitor.self && monitor.arrival.isNone

/-- A monitor that `IddCxMonitorArrival` has been called for and has not refused. -/
def spokenOf (monitor : Nat) (state : Contexts) : Bool :=
  state.monitors[monitor]?.any fun object => object.context.isSome && object.arrival != some false

/-- Such a monitor whose device is there. -/
def present (monitor : Nat) (state : Contexts) : Bool :=
  state.spokenOf monitor && state.monitors[monitor]?.any fun object => state.serves object.self

/-- The device context an event works on, which may be a null pointer; the outer `none` if it
needs none. -/
def follows (state : Contexts) : ContextEvent → Option (Option Nat)
  | .createDevice _ | .contextMade _ | .clearContext _ | .resetPointer _ => none
  | .deleteContext device => (state.deviceWrapper device).map some
  | .d0Entry device _ => some (state.deviceWrapper device)
  | .adapterStored adapter => some (state.adapters[adapter]?.map AdapterObject.self)
  | .adapterInitFinished adapter success _ => if success then some (state.adapterWrapper adapter) else none
  | .monitorStored monitor | .monitorArrival monitor _ => some (state.monitors[monitor]?.map MonitorObject.self)
  | .parseMonitorDescription => state.host.wdfDevice.map fun device => state.deviceWrapper device
  | .monitorCallback monitor | .unassignSwapChain monitor _ | .swapChainLost monitor => some (state.getDeviceContext monitor)

/-- The event works on a null pointer or on a deleted context. -/
def faults (state : Contexts) (event : ContextEvent) : Bool :=
  (state.follows event).any fun pointer => !pointer.any state.alive

/-- What can come next: where the code is, and what the framework promises. A device is started
and cleaned up once it is made, and cleaned up when none of its callbacks runs; an adapter's
result may come as soon as the adapter is there, callbacks for a monitor while it arrives. The
thread of a monitor is stopped by `UnassignSwapChain` alone. -/
def promised (state : Contexts) : ContextEvent → Bool
  | .createDevice _ => true
  | .contextMade device => state.devices[device]?.any fun object => object.point == .creating
  | .deleteContext device => state.isCreated device && !state.busy device
  | .clearContext device => state.devices[device]?.any fun object => object.point == .deleting
  | .resetPointer device => state.devices[device]?.any fun object => object.point == .clearing
  | .d0Entry device _ => state.isCreated device
  | .adapterStored adapter => state.adapters[adapter]?.any fun object => object.context.isNone
  | .adapterInitFinished adapter _ _ => state.adapters[adapter]?.any fun object => state.serves object.self
  | .monitorStored monitor => state.monitors[monitor]?.any fun object => object.context.isNone
  | .monitorArrival monitor _ => state.monitors[monitor]?.any fun object => object.context.isSome && object.arrival.isNone
  | .parseMonitorDescription => (List.range state.monitors.length).any state.present
  | .monitorCallback monitor | .unassignSwapChain monitor _ => state.present monitor
  | .swapChainLost monitor => state.spokenOf monitor

def setDevice (device : Nat) (change : DeviceObject → DeviceObject) (state : Contexts) : Contexts :=
  { state with devices := state.devices.modify device change }

/-- `FinishInit` up to the monitor it is given. -/
def finishInit (context : Option Nat) (monitorCreate : Bool) (state : Contexts) : Contexts :=
  match context with
  | none => state
  | some self => if monitorCreate then { state with monitors := state.monitors ++ [{ self }] } else state

def occurs (state : Contexts) : ContextEvent → Contexts
  | .createDevice creation =>
    let host := state.host.createDevice creation
    { state with
      host
      devices := if host.devices.length = state.host.devices.length then state.devices else state.devices ++ [{}] }
  | .contextMade device =>
    setDevice device (fun _ => { point := .created, context := some state.deviceContexts.length })
      { state with deviceContexts := state.deviceContexts ++ [{ wdfDevice := device }] }
  | .deleteContext device =>
    match state.deviceWrapper device with
    | none => state.setDevice device fun object => { object with point := .deleting }
    | some context =>
      setDevice device (fun object => { object with point := .deleting })
        { state with deviceContexts := state.deviceContexts.modify context fun object => { object with deleted := true } }
  | .clearContext device => state.setDevice device fun _ => { point := .clearing }
  | .resetPointer device =>
    setDevice device (fun object => { object with point := .cleaned }) { state with host := state.host.cleanup device }
  | .d0Entry device adapterInit =>
    match state.deviceWrapper device with
    | none => state
    | some self => if adapterInit then { state with adapters := state.adapters ++ [{ self }] } else state
  | .adapterStored adapter =>
    { state with adapters := state.adapters.modify adapter fun object => { object with context := some object.self } }
  | .adapterInitFinished adapter success monitorCreate =>
    if success then state.finishInit (state.adapterWrapper adapter) monitorCreate else state
  | .monitorStored monitor =>
    match state.monitors[monitor]? with
    | none => state
    | some object =>
      { state with
        monitors := state.monitors.modify monitor fun object => { object with context := some state.monitorContexts.length }
        monitorContexts := state.monitorContexts ++ [object.self] }
  | .monitorArrival monitor arrived =>
    { state with monitors := state.monitors.modify monitor fun object => { object with arrival := some arrived } }
  | .unassignSwapChain monitor replugs => state.finishInit (state.getDeviceContext monitor) replugs
  | .parseMonitorDescription | .monitorCallback _ | .swapChainLost _ => state

/-- What is not promised does not happen, and an event that faults gets no further. -/
def step (state : Contexts) (event : ContextEvent) : Contexts :=
  if state.promised event && !state.faults event then state.occurs event else state

end Contexts
end QubesIdd
