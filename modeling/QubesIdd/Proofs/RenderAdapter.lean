import QubesIdd.RenderAdapter

/-! Which adapter is preferred, and what the results that are not looked at can do. -/

namespace QubesIdd
open Library

def EnumAdapters.isVirtual : EnumAdapters → Bool
  | .found desc => desc.isVirtual
  | .failed => false

def EnumAdapters.adapterLuid : EnumAdapters → Option UInt64
  | .found desc => some desc.adapterLuid
  | .failed => none

def DxgiCall.adapterLuid : DxgiCall → Option UInt64
  | .setRenderAdapter adapterLuid => some adapterLuid
  | .enumAdapters _ | .getDesc _ => none

/-- The first answer that is not one of the virtual devices. -/
def firstReal (adapters : List EnumAdapters) : Option EnumAdapters := (adapters.dropWhile EnumAdapters.isVirtual).head?

namespace RenderChoice

def preferred (choice : RenderChoice) : List UInt64 := choice.calls.filterMap DxgiCall.adapterLuid

theorem enumerate_spec (i : Nat) (adapters : List EnumAdapters) :
    ((enumerate i adapters).faulted = true ↔ firstReal adapters = some .failed) ∧
    (enumerate i adapters).preferred = ((firstReal adapters).bind EnumAdapters.adapterLuid).toList ∧
    ∀ object, ComPtr.net object (enumerate i adapters).references = 0 := by
  induction adapters generalizing i with
  | nil => exact ⟨by simp [enumerate, firstReal], rfl, fun _ => rfl⟩
  | cons answer rest ih =>
    cases answer with
    | failed => exact ⟨by simp [enumerate, firstReal, EnumAdapters.isVirtual], rfl, fun _ => rfl⟩
    | found adapterDesc =>
      have released (object : DxgiObject) :
          ComPtr.net object [.handOver (.adapter i), .release (.adapter i)] = 0 := by
        by_cases same : DxgiObject.adapter i = object <;> simp [ComPtr.net, ComPtr.weight, same]
      cases skipped : adapterDesc.isVirtual with
      | true =>
        obtain ⟨faulted, preferred, balanced⟩ := ih (i + 1)
        have onwards : firstReal (.found adapterDesc :: rest) = firstReal rest := by
          simp [firstReal, EnumAdapters.isVirtual, skipped]
        rw [onwards, enumerate, skipped, if_pos rfl]
        refine ⟨faulted, preferred, fun object => ?_⟩
        rw [behind, ComPtr.net_append, released, balanced, zero_add]
      | false =>
        have stops : firstReal (.found adapterDesc :: rest) = some (.found adapterDesc) := by
          simp [firstReal, EnumAdapters.isVirtual, skipped]
        rw [stops, enumerate, skipped, if_neg Bool.false_ne_true]
        exact ⟨by simp [behind], rfl, released⟩

/-- The preferred adapter is the first that is none of the virtual devices, if there is one, and
every adapter is given back. What the loop does is undefined exactly if there is no factory, or
an enumeration fails before it has found such an adapter. -/
theorem prefer_exactly (createDXGIFactory : Bool) (adapters : List EnumAdapters) :
    let choice := prefer createDXGIFactory adapters
    (choice.faulted = true ↔ createDXGIFactory = false ∨ firstReal adapters = some .failed) ∧
    choice.preferred = (if createDXGIFactory then (firstReal adapters).bind EnumAdapters.adapterLuid else none).toList ∧
    (∀ i, ComPtr.net (.adapter i) choice.references = 0) ∧
    ComPtr.net .factory choice.references = if createDXGIFactory && choice.faulted then 1 else 0 := by
  cases createDXGIFactory with
  | false => exact ⟨by simp [prefer], rfl, fun _ => rfl, rfl⟩
  | true =>
    obtain ⟨faulted, preferred, balanced⟩ := enumerate_spec 0 adapters
    have made (object : DxgiObject) (last : List (ComPtr.Operation DxgiObject)) :
        ComPtr.net object (.handOver .factory :: (enumerate 0 adapters).references ++ last) =
          ComPtr.weight object (.handOver .factory) + ComPtr.net object last := by
      rw [List.cons_append, ← List.singleton_append, ComPtr.net_append, ComPtr.net_append, balanced, zero_add]
      simp [ComPtr.net]
    refine ⟨by simpa [prefer] using faulted, preferred, fun i => ?_, ?_⟩
    · refine (made (.adapter i) _).trans ?_
      split <;> simp [ComPtr.weight, ComPtr.net]
    · refine (made .factory _).trans ?_
      cases stopped : (enumerate 0 adapters).faulted <;> simp [prefer, ComPtr.weight, ComPtr.net, stopped]

end RenderChoice
end QubesIdd
