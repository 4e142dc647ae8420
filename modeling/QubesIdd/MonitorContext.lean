import QubesIdd.SwapChain

/-! `CIndirectMonitorContext`, the processor it owns, and the thread of every swap
chain it has been offered. A step is one call of a thread, or the part of a callback
up to the wait for a thread or behind it. -/

namespace QubesIdd

/-- What is done for one swap chain, in order: the calls on it, the loss reported for
it, and the terminate event of its processor being set. -/
inductive ChainCall where
  | setRealtimeGPUPriority
  | setDevice
  | releaseAndAcquireBuffer
  | finishedProcessingFrame
  | onSwapChainLost
  | wdfObjectDelete
  | setEvent
  deriving DecidableEq, Repr

/-- The next call of a thread. -/
inductive Pc where
  | getDevice
  | setPriority
  | setDevice
  | poll
  | acquire
  | wait
  | finish
  | leave
  | exited
  deriving DecidableEq, Repr

/-- Which of the resources an assignment asks for it gets. -/
structure Resources where
  init : Bool := true
  createEvent : Bool := true
  createThread : Bool := true
  deriving DecidableEq, Repr

/-- `terminateEvent` is whether the event is signalled, where there is one. -/
structure OfferedSwapChain where
  resources : Resources
  terminateEvent : Option Bool := none
  thread : Option Pc := none
  lastFrameNumber : UInt32 := 0
  calls : List ChainCall := []
  deriving DecidableEq, Repr

inductive Acquired where
  | pending
  | success (metaData : MetaData)
  | failure (failure : Failure)
  deriving DecidableEq, Repr

/-- What the framework and the system answer to whichever call a thread makes next.
Waiting for one valid event cannot fail, so the poll has no answer of its own. -/
structure Answer where
  getDevice : Bool := true
  hasSetRealtimeGPUPriority : Bool := true
  setDevice : Bool := true
  acquire : Acquired := .pending
  wait : Wait := .timeout
  finished : Option Failure := none
  deriving DecidableEq, Repr

namespace OfferedSwapChain

def call (call : ChainCall) (chain : OfferedSwapChain) : OfferedSwapChain := { chain with calls := chain.calls ++ [call] }

def goto (pc : Pc) (chain : OfferedSwapChain) : OfferedSwapChain := { chain with thread := some pc }

def lost (failure : Failure) (chain : OfferedSwapChain) : OfferedSwapChain :=
  if failure = .STATUS_GRAPHICS_PATH_NOT_IN_TOPOLOGY then chain.call .onSwapChainLost else chain

/-- `AssignSwapChain` behind its first line: a device that cannot be initialised
deletes the swap chain, any other gets a processor, whatever that can create. -/
def offer (resources : Resources) : OfferedSwapChain :=
  if !resources.init then call .wdfObjectDelete { resources }
  else
    { resources
      terminateEvent := if resources.createEvent then some false else none
      thread := if resources.createThread then some .getDevice else none }

/-- The destructor of the processor up to its wait. Setting no event does nothing. -/
def setEvent (chain : OfferedSwapChain) : OfferedSwapChain :=
  call .setEvent { chain with terminateEvent := chain.terminateEvent.map fun _ => true }

/-- The event is reset by the wait that it ends. -/
def consume (chain : OfferedSwapChain) : OfferedSwapChain := { chain with terminateEvent := some false }

/-- What the multi-object wait can return: it fails if there is no terminate event,
and only a signalled one ends it. -/
def waitResult (answer : Wait) (chain : OfferedSwapChain) : Option Wait :=
  match chain.terminateEvent with
  | none => some .failed
  | some signalled => if answer = .terminate && !signalled then none else some answer

def waitEnds (result : Wait) (chain : OfferedSwapChain) : OfferedSwapChain :=
  match result with
  | .newFrame | .timeout => chain.goto .poll
  | .terminate => chain.consume.goto .leave
  | .failed => chain.goto .leave

def acquired (result : Acquired) (chain : OfferedSwapChain) : OfferedSwapChain :=
  match result with
  | .pending => chain.goto .wait
  | .success metaData =>
    if metaData.presentationFrameNumber ≠ chain.lastFrameNumber then
      { chain with lastFrameNumber := metaData.presentationFrameNumber }.goto .finish
    else chain.goto .poll
  | .failure failure => (chain.lost failure).goto .leave

def frameFinished (result : Option Failure) (chain : OfferedSwapChain) : OfferedSwapChain :=
  match result with
  | none => chain.goto .poll
  | some failure => (chain.lost failure).goto .leave

/-- `SwapChainThread`, one call at a time. A thread that has returned, or that was
never created, does nothing, and neither does a wait that cannot end this way. -/
def work (answer : Answer) (chain : OfferedSwapChain) : OfferedSwapChain :=
  match chain.thread with
  | none => chain
  | some .getDevice => chain.goto (if answer.getDevice then .setPriority else .leave)
  | some .setPriority =>
    (if answer.hasSetRealtimeGPUPriority then chain.call .setRealtimeGPUPriority else chain).goto .setDevice
  | some .setDevice => (chain.call .setDevice).goto (if answer.setDevice then .poll else .leave)
  | some .poll => if chain.terminateEvent = some true then chain.consume.goto .leave else chain.goto .acquire
  | some .acquire => (chain.call .releaseAndAcquireBuffer).acquired answer.acquire
  | some .wait =>
    match chain.waitResult answer.wait with
    | none => chain
    | some result => chain.waitEnds result
  | some .finish => (chain.call .finishedProcessingFrame).frameFinished answer.finished
  | some .leave => (chain.call .wdfObjectDelete).goto .exited
  | some .exited => chain

def running (chain : OfferedSwapChain) : Bool := chain.thread.any (· ≠ .exited)

end OfferedSwapChain

/-- What runs in the monitor's callbacks: nothing, or the destructor of a processor,
waiting for its thread, and then what the callback does next. -/
inductive Control where
  | idle
  | joining (processor : Nat) (next : Option Resources)
  deriving DecidableEq, Repr

/-- Swap chains are numbered as they are offered; `swapChain` is the processor owned. -/
structure MonitorContext where
  offered : List OfferedSwapChain := []
  swapChain : Option Nat := none
  control : Control := .idle
  deriving DecidableEq, Repr

inductive MonitorAction where
  | assignSwapChain (resources : Resources)
  | unassignSwapChain
  | joined
  | work (processor : Nat) (answer : Answer)
  deriving DecidableEq, Repr

namespace MonitorContext

def update (processor : Nat) (change : OfferedSwapChain → OfferedSwapChain) (context : MonitorContext) : MonitorContext :=
  { context with offered := context.offered.modify processor change }

def offer (resources : Resources) (context : MonitorContext) : MonitorContext :=
  { context with
    offered := context.offered ++ [.offer resources]
    swapChain := if resources.init then some context.offered.length else none }

/-- What follows `UnassignSwapChain` in the two callbacks. -/
def continueWith (next : Option Resources) (context : MonitorContext) : MonitorContext :=
  match next with
  | none => context
  | some resources => context.offer resources

/-- `UnassignSwapChain` and what follows it. The pointer is cleared before the
destructor runs. -/
def reset (next : Option Resources) (context : MonitorContext) : MonitorContext :=
  match context.swapChain with
  | none => context.continueWith next
  | some processor =>
    { context.update processor .setEvent with swapChain := none, control := .joining processor next }

def isRunning (processor : Nat) (context : MonitorContext) : Bool :=
  context.offered[processor]?.any OfferedSwapChain.running

/-- The callbacks of one monitor are called one at a time. -/
def step (context : MonitorContext) : MonitorAction → MonitorContext
  | .assignSwapChain resources => if context.control = .idle then context.reset (some resources) else context
  | .unassignSwapChain => if context.control = .idle then context.reset none else context
  | .joined =>
    match context.control with
    | .idle => context
    | .joining processor next =>
      if context.isRunning processor then context else { context with control := .idle }.continueWith next
  | .work processor answer => context.update processor (.work answer)

end MonitorContext
end QubesIdd
