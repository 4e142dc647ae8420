import QubesIdd.SwapChain

/-! The references the processing loop leaves behind. Every acquisition is handed one
reference and the loop gives none of these back, on any path. -/

namespace QubesIdd
open Library

def netReferences (surface : Surface) (calls : List SwapChainCall) : Int :=
  ComPtr.net surface (referenceOperations calls)

@[simp] theorem netReferences_append (surface : Surface) (first last : List SwapChainCall) :
    netReferences surface (first ++ last) = netReferences surface first + netReferences surface last := by
  simp [netReferences, referenceOperations]

@[simp] theorem netReferences_references (surface : Surface) (operations : List (ComPtr.Operation Surface)) :
    netReferences surface (CSwapChainProcessor.references operations) = ComPtr.net surface operations := by
  simp [netReferences, referenceOperations, CSwapChainProcessor.references, List.filterMap_map]

@[simp] theorem netReferences_newFrame (surface : Surface) (acquired : Option Surface) (dirtyRectCount : UInt32)
    (rest : List SwapChainCall) :
    netReferences surface (.swapChainNewFrame acquired dirtyRectCount :: rest) = netReferences surface rest := rfl

@[simp] theorem netReferences_finished (surface : Surface) (rest : List SwapChainCall) :
    netReferences surface (.finishedProcessingFrame :: rest) = netReferences surface rest := rfl

@[simp] theorem netReferences_lost (surface : Surface) (failure : Failure) :
    netReferences surface (CSwapChainProcessor.lostCalls failure) = 0 := by
  cases failure <;> rfl

def Turn.handsOver (surface : Surface) (input : Turn) : Bool :=
  !input.terminate && match input.acquire with
  | .success metaData => metaData.surface == some surface
  | _ => false

namespace CSwapChainProcessor

/-- A turn keeps the reference it is handed, whether or not the frame is new and
however its processing ends. -/
theorem turn_netReferences (surface : Surface) (lastFrameNumber : UInt32) (input : Turn) :
    netReferences surface (turn lastFrameNumber input).calls = if input.handsOver surface then 1 else 0 := by
  obtain ⟨terminate, acquire, finished⟩ := input
  cases terminate with
  | true => rfl
  | false =>
    cases acquire with
    | pending wait => simp [turn, Turn.handsOver]
    | failure failure => simp [turn, Turn.handsOver]
    | success metaData =>
      have handed : (if (Turn.mk false (.success metaData) finished).handsOver surface then (1 : Int) else 0) =
          ComPtr.holds surface metaData.surface := by
        simp [Turn.handsOver, ComPtr.holds]
      rw [handed]
      simp only [turn, Bool.false_eq_true, if_false]
      split
      next => cases finished <;> simp [swapChainNewFrame]
      next => simp

/-- Over a run of the loop, each acquisition leaves one reference behind. -/
theorem swapChainThreadCore_netReferences (surface : Surface) (lastFrameNumber : UInt32) (inputs : List Turn) :
    netReferences surface (swapChainThreadCore lastFrameNumber inputs) =
      (turnsTaken lastFrameNumber inputs).countP (Turn.handsOver surface) := by
  induction inputs generalizing lastFrameNumber with
  | nil => rfl
  | cons input rest ih =>
    have here := turn_netReferences surface lastFrameNumber input
    simp only [swapChainThreadCore, turnsTaken]
    split
    next =>
      rw [here, List.countP_cons, List.countP_nil]
      split <;> rfl
    next =>
      rw [netReferences_append, here, ih, List.countP_cons]
      split <;> simp [add_comm]

/-- The loop is balanced exactly when it is left before any surface is handed over. -/
theorem references_balanced_iff (lastFrameNumber : UInt32) (inputs : List Turn) :
    (∀ surface, netReferences surface (swapChainThreadCore lastFrameNumber inputs) = 0) ↔
      ∀ input ∈ turnsTaken lastFrameNumber inputs, ∀ surface, input.handsOver surface = false := by
  simp only [swapChainThreadCore_netReferences, Int.natCast_eq_zero, List.countP_eq_zero, Bool.not_eq_true]
  exact ⟨fun every input member surface => every surface input member, fun every surface input member => every input member surface⟩

/-- One new frame and a terminate signal leave one reference. -/
theorem references_leaked :
    ¬ ∀ inputs surface, netReferences surface (swapChainThreadCore 0 inputs) = 0 := by
  intro claim
  exact absurd (claim [⟨false, .success ⟨1, 0, some 7⟩, none⟩, ⟨true, .pending .terminate, none⟩] 7) (by decide)

end CSwapChainProcessor

namespace SwapChainProcessor

/-- The sample's loop gives back every reference it is handed. -/
theorem runCore_balanced (surface : Surface) (inputs : List Turn) : netReferences surface (runCore inputs) = 0 := by
  have balanced (input : Turn) : netReferences surface (turn input).1 = 0 := by
    obtain ⟨terminate, acquire, finished⟩ := input
    cases acquire <;> simp [turn]
  induction inputs with
  | nil => rfl
  | cons input rest ih =>
    simp only [runCore]
    split
    next => exact balanced input
    next => rw [netReferences_append, balanced, ih, add_zero]

end SwapChainProcessor
end QubesIdd
