import QubesIdd.Library.ComPtr
import QubesIdd.MonitorContext

/-! `CD3D11Device` and its owners: the monitor's context, the processor of a swap chain,
and the thread, which holds the device itself. Devices are numbered like the swap chains
they are made for. -/

namespace QubesIdd
open Library

inductive ComPart where
  | factory
  | adapter
  | device
  | context
  deriving DecidableEq, Repr

/-- An object that one call of `Init` obtains. -/
abbrev ComObject := Nat × ComPart

/-- Which of the calls of `Init` succeed. -/
structure DeviceCalls where
  createDXGIFactory2 : Bool := true
  enumAdapterByLuid : Bool := true
  getDesc1 : Bool := true
  createDevice : Bool := true
  deviceAs : Bool := true
  contextAs : Bool := true
  deriving DecidableEq, Repr

def DeviceCalls.succeed (calls : DeviceCalls) : Bool :=
  calls.createDXGIFactory2 && calls.enumAdapterByLuid && calls.getDesc1 && calls.createDevice && calls.deviceAs &&
    calls.contextAs

structure CD3D11Device where
  factory : Option ComObject := none
  adapter : Option ComObject := none
  device : Option ComObject := none
  context : Option ComObject := none
  deriving DecidableEq, Repr

namespace CD3D11Device

/-- `Init`: whether it succeeds, the members afterwards, and the references moved. The
two local pointers are dropped on every way out behind their creation. -/
def init (index : Nat) (calls : DeviceCalls) : Bool × CD3D11Device × List (ComPtr.Operation ComObject) :=
  if !calls.createDXGIFactory2 then (false, {}, []) else
  let members : CD3D11Device := { factory := some (index, .factory) }
  let operations := [.handOver (index, .factory)]
  if !calls.enumAdapterByLuid then (false, members, operations) else
  let members := { members with adapter := some (index, .adapter) }
  let operations := operations ++ [.handOver (index, .adapter)]
  if !calls.getDesc1 then (false, members, operations) else
  if !calls.createDevice then (false, members, operations) else
  let device := some (index, ComPart.device)
  let context := some (index, ComPart.context)
  let operations := operations ++ [.handOver (index, .device), .handOver (index, .context)]
  let leaving := ComPtr.drop context ++ ComPtr.drop device
  if !calls.deviceAs then (false, members, operations ++ leaving) else
  let members := { members with device }
  let operations := operations ++ ComPtr.copy device
  if !calls.contextAs then (false, members, operations ++ leaving) else
  (true, { members with context }, operations ++ ComPtr.copy context ++ leaving)

/-- The members go in the reverse of their order. -/
def drop (members : CD3D11Device) : List (ComPtr.Operation ComObject) :=
  ComPtr.drop members.context ++ ComPtr.drop members.device ++ ComPtr.drop members.adapter ++ ComPtr.drop members.factory

end CD3D11Device

namespace OfferedSwapChain

/-- The local `dxgiDevice` of `SwapChainThreadCore`, another interface of the device. -/
def dxgiDevice (index : Nat) (chain : OfferedSwapChain) : Option ComObject :=
  match chain.thread with
  | some .setPriority | some .setDevice | some .poll | some .acquire | some .wait | some .finish => some (index, .device)
  | _ => none

/-- The references a call of the thread moves. `GetDevice` returns a pointer by value. -/
def threadReferences (index : Nat) (members : CD3D11Device) (answer : Answer) (chain : OfferedSwapChain) :
    List (ComPtr.Operation ComObject) :=
  match chain.thread with
  | some .getDevice =>
    ComPtr.copy members.device ++ (if answer.getDevice then ComPtr.copy members.device else []) ++ ComPtr.drop members.device
  | _ => if (chain.work answer).thread = some .leave then ComPtr.drop (chain.dxgiDevice index) else []

end OfferedSwapChain

/-- What `AssignSwapChain` is answered. -/
structure Assignment where
  calls : DeviceCalls := {}
  createEvent : Bool := true
  createThread : Bool := true
  deriving DecidableEq, Repr

def Assignment.resources (assignment : Assignment) : Resources :=
  ⟨assignment.calls.succeed, assignment.createEvent, assignment.createThread⟩

inductive GraphicsControl where
  | idle
  | joining (processor : Nat) (next : Option Assignment)
  deriving DecidableEq, Repr

/-- The block that a `std::shared_ptr<CD3D11Device>` points to. -/
structure SharedDevice where
  useCount : Nat
  members : CD3D11Device
  deriving DecidableEq, Repr

/-- `CIndirectMonitorContext` with its `m_dx11Device`. -/
structure GraphicsContext where
  offered : List OfferedSwapChain := []
  swapChain : Option Nat := none
  control : GraphicsControl := .idle
  dx11Device : Option Nat := none
  devices : List SharedDevice := []
  references : List (ComPtr.Operation ComObject) := []
  deriving DecidableEq, Repr

inductive GraphicsAction where
  | assignSwapChain (assignment : Assignment)
  | unassignSwapChain
  | joined
  | work (processor : Nat) (answer : Answer)
  deriving DecidableEq, Repr

namespace GraphicsContext

def share (index : Nat) (context : GraphicsContext) : GraphicsContext :=
  { context with devices := context.devices.modify index fun shared => { shared with useCount := shared.useCount + 1 } }

/-- One owner less. The last one destroys the device. -/
def release (index : Nat) (context : GraphicsContext) : GraphicsContext :=
  match context.devices[index]? with
  | none => context
  | some shared =>
    if shared.useCount ≤ 1 then
      { context with
        devices := context.devices.set index ⟨0, {}⟩
        references := context.references ++ shared.members.drop }
    else { context with devices := context.devices.set index { shared with useCount := shared.useCount - 1 } }

/-- `m_dx11Device.reset()`. -/
def resetDevice (context : GraphicsContext) : GraphicsContext :=
  match context.dx11Device with
  | none => context
  | some index => { context.release index with dx11Device := none }

/-- `AssignSwapChain` behind its first line. The processor shares the device. -/
def offer (assignment : Assignment) (context : GraphicsContext) : GraphicsContext :=
  let index := context.devices.length
  let (success, members, operations) := CD3D11Device.init index assignment.calls
  let context :=
    { context with
      offered := context.offered ++ [OfferedSwapChain.offer ⟨success, assignment.createEvent, assignment.createThread⟩]
      dx11Device := some index
      devices := context.devices ++ [SharedDevice.mk 1 members]
      references := context.references ++ operations }
  if success then { context.share index with swapChain := some index } else { context with swapChain := none }

/-- The second line of `UnassignSwapChain`, and what the callback does behind it. -/
def continueWith (next : Option Assignment) (context : GraphicsContext) : GraphicsContext :=
  match next with
  | none => context.resetDevice
  | some assignment => context.resetDevice.offer assignment

def reset (next : Option Assignment) (context : GraphicsContext) : GraphicsContext :=
  match context.swapChain with
  | none => context.continueWith next
  | some processor =>
    { context with
      offered := context.offered.modify processor .setEvent
      swapChain := none
      control := .joining processor next }

def isRunning (processor : Nat) (context : GraphicsContext) : Bool :=
  context.offered[processor]?.any OfferedSwapChain.running

def work (processor : Nat) (answer : Answer) (context : GraphicsContext) : GraphicsContext :=
  match context.offered[processor]?, context.devices[processor]? with
  | some chain, some shared =>
    { context with
      offered := context.offered.modify processor (.work answer)
      references := context.references ++ chain.threadReferences processor shared.members answer }
  | _, _ => context

/-- The members of the processor go behind the wait of its destructor. -/
def step (context : GraphicsContext) : GraphicsAction → GraphicsContext
  | .assignSwapChain assignment => if context.control = .idle then context.reset (some assignment) else context
  | .unassignSwapChain => if context.control = .idle then context.reset none else context
  | .joined =>
    match context.control with
    | .idle => context
    | .joining processor next =>
      if context.isRunning processor then context
      else ({ context with control := .idle }.release processor).continueWith next
  | .work processor answer => context.work processor answer

end GraphicsContext
end QubesIdd
