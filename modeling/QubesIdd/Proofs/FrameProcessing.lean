import QubesIdd.SwapChain

/-! Which acquired frames the processing loop hands on. It compares with a remembered
number that starts at 0, and 0 may be the number of the first frame as well. -/

namespace QubesIdd

def Turn.acquired (input : Turn) : Option MetaData :=
  if input.terminate then none else
  match input.acquire with
  | .success metaData => some metaData
  | _ => none

def SwapChainCall.processes : SwapChainCall → Bool
  | .swapChainNewFrame _ _ | .finishedProcessingFrame => true
  | _ => false

/-- The calls that process frames, in their order. -/
def processing (calls : List SwapChainCall) : List SwapChainCall := calls.filter SwapChainCall.processes

/-- The first frame that is acquired before the loop is left. -/
def firstAcquired : List Turn → Option MetaData
  | [] => none
  | input :: rest =>
    if input.terminate then none else
    match input.acquire with
    | .success metaData => some metaData
    | .pending .newFrame | .pending .timeout => firstAcquired rest
    | _ => none

/-- The frames whose number is not that of the frame before. -/
def changes : Option UInt32 → List MetaData → List MetaData
  | _, [] => []
  | previous, metaData :: rest =>
    (if previous = some metaData.presentationFrameNumber then [] else [metaData]) ++
      changes (some metaData.presentationFrameNumber) rest

def processingOf (metaData : MetaData) : List SwapChainCall :=
  [.swapChainNewFrame metaData.surface metaData.dirtyRectCount, .finishedProcessingFrame]

@[simp] theorem acquired_success (metaData : MetaData) (finished : Option Failure) :
    (Turn.mk false (.success metaData) finished).acquired = some metaData := rfl

@[simp] theorem processing_append (first last : List SwapChainCall) :
    processing (first ++ last) = processing first ++ processing last :=
  List.filter_append ..

@[simp] theorem processing_references (operations : List (Library.ComPtr.Operation Surface)) :
    processing (CSwapChainProcessor.references operations) = [] := by
  simp [processing, CSwapChainProcessor.references, SwapChainCall.processes]

@[simp] theorem processing_finished (calls : List SwapChainCall) :
    processing (.finishedProcessingFrame :: calls) = .finishedProcessingFrame :: processing calls := rfl

@[simp] theorem processing_lost (failure : Failure) : processing (CSwapChainProcessor.lostCalls failure) = [] := by
  cases failure <;> rfl

@[simp] theorem processing_newFrame (acquired : Option Surface) (dirtyRectCount : UInt32) :
    processing (CSwapChainProcessor.swapChainNewFrame acquired dirtyRectCount) = [.swapChainNewFrame acquired dirtyRectCount] := by
  rw [CSwapChainProcessor.swapChainNewFrame, processing_append, processing_append, processing_references,
    processing_references]
  rfl

namespace CSwapChainProcessor

/-- A turn processes the frame it acquires if the number is not the remembered one, and
remembers the number. -/
theorem turn_processing (lastFrameNumber : UInt32) (input : Turn) :
    processing (turn lastFrameNumber input).calls =
        (changes (some lastFrameNumber) input.acquired.toList).flatMap processingOf ∧
      (turn lastFrameNumber input).lastFrameNumber =
        (input.acquired.map MetaData.presentationFrameNumber).getD lastFrameNumber := by
  obtain ⟨terminate, acquire, finished⟩ := input
  cases terminate with
  | true => exact ⟨rfl, rfl⟩
  | false =>
    cases acquire with
    | pending wait => simp [turn, Turn.acquired, changes]
    | failure failure => simp [turn, Turn.acquired, changes]
    | success metaData =>
      rw [acquired_success]
      simp only [turn, Bool.false_eq_true, if_false]
      by_cases fresh : metaData.presentationFrameNumber ≠ lastFrameNumber
      · have changed : changes (some lastFrameNumber) [metaData] = [metaData] := by
          simp [changes, Ne.symm fresh]
        rw [if_pos fresh, Option.toList_some, changed]
        cases finished <;> simp [processingOf]
      · obtain rfl : metaData.presentationFrameNumber = lastFrameNumber := not_not.mp fresh
        simp [changes]

/-- Over a run of the loop, the frames processed are those whose number changes, counted
from the number remembered at its start. -/
theorem core_processing (lastFrameNumber : UInt32) (inputs : List Turn) :
    processing (swapChainThreadCore lastFrameNumber inputs) =
      (changes (some lastFrameNumber) ((turnsTaken lastFrameNumber inputs).filterMap Turn.acquired)).flatMap processingOf := by
  induction inputs generalizing lastFrameNumber with
  | nil => rfl
  | cons input rest ih =>
    obtain ⟨here, remembered⟩ := turn_processing lastFrameNumber input
    simp only [swapChainThreadCore, turnsTaken]
    split
    next =>
      rw [here]
      cases frame : input.acquired <;> simp [frame]
    next =>
      rw [processing_append, here, ih, remembered]
      cases frame : input.acquired <;> simp [frame, changes]

theorem turnsTaken_first (lastFrameNumber : UInt32) (inputs : List Turn) :
    ((turnsTaken lastFrameNumber inputs).filterMap Turn.acquired).head? = firstAcquired inputs := by
  induction inputs generalizing lastFrameNumber with
  | nil => rfl
  | cons input rest ih =>
    obtain ⟨terminate, acquire, finished⟩ := input
    cases terminate with
    | true => rfl
    | false =>
      cases acquire with
      | pending wait => cases wait <;> simp [turnsTaken, turn, Turn.acquired, firstAcquired, ih]
      | failure failure => rfl
      | success metaData =>
        simp only [turnsTaken]
        split <;> rw [List.filterMap_cons_some (acquired_success metaData finished)] <;> rfl

/-- Exactly the frames whose number differs from that of the frame acquired before are
processed, once each and in order; the first frame has none before it. -/
def ProcessesChanges (inputs : List Turn) : Prop :=
  processing (swapChainThreadCore 0 inputs) =
    (changes none ((turnsTaken 0 inputs).filterMap Turn.acquired)).flatMap processingOf

/-- Numbers may repeat, wrap and come back to 0 later on; only a first frame numbered 0 is
taken for one that has been processed already. -/
theorem processesChanges_iff (inputs : List Turn) :
    ProcessesChanges inputs ↔ ∀ metaData, firstAcquired inputs = some metaData → metaData.presentationFrameNumber ≠ 0 := by
  rw [ProcessesChanges, core_processing, ← turnsTaken_first 0 inputs]
  cases (turnsTaken 0 inputs).filterMap Turn.acquired with
  | nil => simp [changes]
  | cons metaData rest =>
    by_cases zero : metaData.presentationFrameNumber = 0
    · simp only [changes, zero, ne_eq, if_true, reduceCtorEq, if_false, List.nil_append, List.singleton_append, List.flatMap_cons]
      refine iff_of_false (fun same => ?_) (by simp [zero])
      have longer := congrArg List.length same
      have two : (processingOf metaData).length = 2 := rfl
      rw [List.length_append, two] at longer
      omega
    · simp [changes, zero, Ne.symm zero]

/-- A frame numbered 0 is acquired first, and nothing is done with it. -/
theorem processesChanges_violated : ¬ ∀ inputs, ProcessesChanges inputs := by
  intro claim
  have same : processing (swapChainThreadCore 0 [⟨false, .success ⟨0, 1, some 7⟩, none⟩]) =
      [.swapChainNewFrame (some 7) 1, .finishedProcessingFrame] := claim [⟨false, .success ⟨0, 1, some 7⟩, none⟩]
  exact absurd same (by decide)

end CSwapChainProcessor

namespace SwapChainProcessor

def turnsTaken : List Turn → List Turn
  | [] => []
  | input :: rest => if (turn input).2 then [input] else input :: turnsTaken rest

def acquires (input : Turn) : Bool :=
  match input.acquire with
  | .success _ => true
  | _ => false

/-- The sample's loop has no remembered number and finishes every frame it acquires. -/
theorem runCore_processing (inputs : List Turn) :
    processing (runCore inputs) = List.replicate ((turnsTaken inputs).countP acquires) .finishedProcessingFrame := by
  have here (input : Turn) : processing (turn input).1 = if acquires input then [.finishedProcessingFrame] else [] := by
    obtain ⟨terminate, acquire, finished⟩ := input
    cases acquire <;> simp [turn, acquires]
  induction inputs with
  | nil => rfl
  | cons input rest ih =>
    simp only [runCore, turnsTaken]
    split
    next => cases frame : acquires input <;> simp [here, frame]
    next =>
      rw [processing_append, here, ih]
      cases frame : acquires input <;> simp [frame, List.replicate_succ]

end SwapChainProcessor
end QubesIdd
