import QubesIdd.MonitorContext

/-! `IndirectMonitorContext` and `SwapChainProcessor` of the sample in the repository. Its
callbacks do what those of the driver do; its thread looks at the terminate event only while
it waits for a buffer. -/

namespace QubesIdd

namespace SwapChainProcessor
open OfferedSwapChain (waitResult)

def waitEnds (result : Wait) (chain : OfferedSwapChain) : OfferedSwapChain :=
  match result with
  | .newFrame | .timeout => chain.goto .acquire
  | .terminate => chain.consume.goto .leave
  | .failed => chain.goto .leave

def acquired (result : Acquired) (chain : OfferedSwapChain) : OfferedSwapChain :=
  match result with
  | .pending => chain.goto .wait
  | .success _ => chain.goto .finish
  | .failure _ => chain.goto .leave

def frameFinished (result : Option Failure) (chain : OfferedSwapChain) : OfferedSwapChain :=
  match result with
  | none => chain.goto .acquire
  | some _ => chain.goto .leave

/-- `Run`, one call at a time. The thread sets no priority and makes no call of its own
to look at the event. -/
def work (answer : Answer) (chain : OfferedSwapChain) : OfferedSwapChain :=
  match chain.thread with
  | some .getDevice => chain.goto (if answer.getDevice then .setDevice else .leave)
  | some .setDevice => (chain.call .setDevice).goto (if answer.setDevice then .acquire else .leave)
  | some .acquire => acquired answer.acquire (chain.call .releaseAndAcquireBuffer)
  | some .wait =>
    match chain.waitResult answer.wait with
    | none => chain
    | some result => waitEnds result chain
  | some .finish => frameFinished answer.finished (chain.call .finishedProcessingFrame)
  | some .leave => (chain.call .wdfObjectDelete).goto .exited
  | some .setPriority | some .poll | some .exited | none => chain

end SwapChainProcessor

/-- `AssignSwapChain` and `UnassignSwapChain` of the sample are those of the driver. -/
def IndirectMonitorContext.step (context : MonitorContext) : MonitorAction → MonitorContext
  | .work processor answer => context.update processor (SwapChainProcessor.work answer)
  | action => context.step action

end QubesIdd
