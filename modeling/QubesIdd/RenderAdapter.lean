import QubesIdd.Library.ComPtr

/-! The end of `InitAdapter`: the adapter that IddCx is told to render on, which is to be none
of the virtual video devices. No result but `DXGI_ERROR_NOT_FOUND` is looked at. -/

namespace QubesIdd
open Library

/-- What `GetDesc` leaves in the description that is compared. -/
structure AdapterDesc where
  vendorId : UInt32
  deviceId : UInt32
  adapterLuid : UInt64
  deriving DecidableEq, Repr

/-- An answer of `EnumAdapters` before it is `DXGI_ERROR_NOT_FOUND`. -/
inductive EnumAdapters where
  | found (desc : AdapterDesc)
  | failed
  deriving DecidableEq, Repr

inductive DxgiObject where
  | factory
  | adapter (i : Nat)
  deriving DecidableEq, Repr

inductive DxgiCall where
  | enumAdapters (i : Nat)
  | getDesc (i : Nat)
  | setRenderAdapter (adapterLuid : UInt64)
  deriving DecidableEq, Repr

/-- `faulted` is that a null factory was used, or an adapter pointer that is not set or has
been released. -/
structure RenderChoice where
  calls : List DxgiCall
  references : List (ComPtr.Operation DxgiObject) := []
  faulted : Bool := false
  deriving DecidableEq, Repr

/-- The Microsoft Basic Render Driver, QXL, and the QEMU Standard VGA. -/
def AdapterDesc.isVirtual (desc : AdapterDesc) : Bool :=
  (desc.vendorId == 0x1414 && desc.deviceId == 0x008c) ||
    (desc.vendorId == 0x1b36 && desc.deviceId == 0x000d) ||
    (desc.vendorId == 0x1234 && desc.deviceId == 0x1111)

namespace RenderChoice

def behind (calls : List DxgiCall) (references : List (ComPtr.Operation DxgiObject)) (choice : RenderChoice) : RenderChoice :=
  { choice with calls := calls ++ choice.calls, references := references ++ choice.references }

/-- The loop from its index on. -/
def enumerate : Nat → List EnumAdapters → RenderChoice
  | i, [] => { calls := [.enumAdapters i] }
  | i, .failed :: _ => { calls := [.enumAdapters i], faulted := true }
  | i, .found adapterDesc :: rest =>
    behind [.enumAdapters i, .getDesc i] [.handOver (.adapter i), .release (.adapter i)] <|
      if adapterDesc.isVirtual then enumerate (i + 1) rest
      else { calls := [.setRenderAdapter adapterDesc.adapterLuid] }

def prefer (createDXGIFactory : Bool) (adapters : List EnumAdapters) : RenderChoice :=
  if !createDXGIFactory then { calls := [.enumAdapters 0], faulted := true } else
  let choice := enumerate 0 adapters
  { choice with references := .handOver .factory :: choice.references ++ if choice.faulted then [] else [.release .factory] }

end RenderChoice
end QubesIdd
