import QubesIdd.Library.ComPtr

/-! The swap-chain processing loops: `SwapChainThreadCore` of the driver and
`RunCore` of the sample in the repository. One turn of a loop is driven by what the
framework and the waits answer; its calls are recorded in order. -/

namespace QubesIdd
open Library

abbrev Surface := Nat

structure MetaData where
  presentationFrameNumber : UInt32
  dirtyRectCount : UInt32
  surface : Option Surface
  deriving DecidableEq, Repr

/-- How `WaitForMultipleObjects` ends. -/
inductive Wait where
  | newFrame
  | timeout
  | terminate
  | failed
  deriving DecidableEq, Repr

inductive Failure where
  | STATUS_GRAPHICS_PATH_NOT_IN_TOPOLOGY
  | other
  deriving DecidableEq, Repr

/-- `IddCxSwapChainReleaseAndAcquireBuffer`; a pending one is followed by a wait. -/
inductive Acquire where
  | pending (wait : Wait)
  | success (metaData : MetaData)
  | failure (failure : Failure)
  deriving DecidableEq, Repr

/-- What one turn of the loop is answered: whether the terminate event is signalled
at its start, the acquisition, and `IddCxSwapChainFinishedProcessingFrame`. -/
structure Turn where
  terminate : Bool := false
  acquire : Acquire
  finished : Option Failure := none
  deriving DecidableEq, Repr

inductive SwapChainCall where
  | reference (operation : ComPtr.Operation Surface)
  | swapChainNewFrame (surface : Option Surface) (dirtyRectCount : UInt32)
  | finishedProcessingFrame
  | onSwapChainLost
  deriving DecidableEq, Repr

structure TurnResult where
  calls : List SwapChainCall
  lastFrameNumber : UInt32
  leaves : Bool
  deriving DecidableEq, Repr

namespace CSwapChainProcessor

def references (operations : List (ComPtr.Operation Surface)) : List SwapChainCall := operations.map .reference

/-- The surface is passed by value, so the parameter is a copy of its own. -/
def swapChainNewFrame (acquiredBuffer : Option Surface) (dirtyRectCount : UInt32) : List SwapChainCall :=
  references (ComPtr.copy acquiredBuffer) ++ [.swapChainNewFrame acquiredBuffer dirtyRectCount] ++
    references (ComPtr.drop acquiredBuffer)

def lostCalls (failure : Failure) : List SwapChainCall :=
  if failure = .STATUS_GRAPHICS_PATH_NOT_IN_TOPOLOGY then [.onSwapChainLost] else []

/-- One turn. `surface` is declared inside the loop and dropped on every way out. -/
def turn (lastFrameNumber : UInt32) (input : Turn) : TurnResult :=
  if input.terminate then ⟨[], lastFrameNumber, true⟩ else
  match input.acquire with
  | .pending wait => ⟨references (ComPtr.drop none), lastFrameNumber, wait == .terminate || wait == .failed⟩
  | .failure failure => ⟨lostCalls failure ++ references (ComPtr.drop none), lastFrameNumber, true⟩
  | .success metaData =>
    let surface := metaData.surface
    let acquired := references (surface.toList.map .handOver) ++ references (ComPtr.assign none surface)
    let leaving := references (ComPtr.drop surface)
    if metaData.presentationFrameNumber ≠ lastFrameNumber then
      let processed := acquired ++ swapChainNewFrame surface metaData.dirtyRectCount ++ [.finishedProcessingFrame]
      match input.finished with
      | some failure => ⟨processed ++ lostCalls failure ++ leaving, metaData.presentationFrameNumber, true⟩
      | none => ⟨processed ++ leaving, metaData.presentationFrameNumber, false⟩
    else ⟨acquired ++ leaving, lastFrameNumber, false⟩

def swapChainThreadCore (lastFrameNumber : UInt32) : List Turn → List SwapChainCall
  | [] => []
  | input :: rest =>
    let result := turn lastFrameNumber input
    if result.leaves then result.calls else result.calls ++ swapChainThreadCore result.lastFrameNumber rest

def turnsTaken (lastFrameNumber : UInt32) : List Turn → List Turn
  | [] => []
  | input :: rest =>
    let result := turn lastFrameNumber input
    if result.leaves then [input] else input :: turnsTaken result.lastFrameNumber rest

end CSwapChainProcessor

namespace SwapChainProcessor
open CSwapChainProcessor (references)

/-- One turn of the sample's loop: the pointer takes the reference over and gives it
back before the frame is reported as finished. -/
def turn (input : Turn) : List SwapChainCall × Bool :=
  match input.acquire with
  | .pending wait => (references (ComPtr.drop none), wait == .terminate || wait == .failed)
  | .failure _ => (references (ComPtr.drop none), true)
  | .success metaData =>
    let acquiredBuffer := metaData.surface
    (references (acquiredBuffer.toList.map .handOver) ++ references (ComPtr.attach none) ++
      references (ComPtr.drop acquiredBuffer) ++ [.finishedProcessingFrame] ++ references (ComPtr.drop none),
      input.finished.isSome)

def runCore : List Turn → List SwapChainCall
  | [] => []
  | input :: rest =>
    let (calls, leaves) := turn input
    if leaves then calls else calls ++ runCore rest

end SwapChainProcessor

def referenceOperations (calls : List SwapChainCall) : List (ComPtr.Operation Surface) :=
  calls.filterMap fun
    | .reference operation => some operation
    | _ => none

end QubesIdd
