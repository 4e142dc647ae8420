import Mathlib.Algebra.Order.Ring.Int

/-! The EDID 1.4 base block as a reader sees it: where a field lies, how the four
18-byte descriptors are cut out of the block, and how a detailed timing is decoded.
Nothing here depends on how a block was written. -/

namespace QubesIdd.Library.Edid

def descriptorSize : Nat := 18

def descriptorOffset (slot : Nat) : Nat := 54 + descriptorSize * slot

def slice (block : List UInt8) (offset size : Nat) : List UInt8 := (block.drop offset).take size

/-- One of the four 18-byte descriptors, slot 0 being the preferred timing when
the feature byte says so. -/
def descriptor (block : List UInt8) (slot : Nat) : List UInt8 :=
  slice block (descriptorOffset slot) descriptorSize

def extensionCount (block : List UInt8) : Option UInt8 := block[126]?

def byteSum (block : List UInt8) : Nat := (block.map UInt8.toNat).sum

structure DetailedTiming where
  pixelClock10KHz : Nat
  hActive : Nat
  hBlank : Nat
  vActive : Nat
  vBlank : Nat
  hFrontPorch : Nat
  hSyncPulseWidth : Nat
  vFrontPorch : Nat
  vSyncPulseWidth : Nat
  deriving DecidableEq, Repr

def byteAt (bytes : List UInt8) (index : Nat) : Nat := (bytes.getD index 0).toNat

/-- Low bytes are followed by shared bytes that hold the upper bits: nibbles for
the active and blanking sizes, bit pairs for the sync offsets. -/
def decodeTiming (bytes : List UInt8) : DetailedTiming where
  pixelClock10KHz := byteAt bytes 0 + 256 * byteAt bytes 1
  hActive := byteAt bytes 2 + 256 * (byteAt bytes 4 / 16)
  hBlank := byteAt bytes 3 + 256 * (byteAt bytes 4 % 16)
  vActive := byteAt bytes 5 + 256 * (byteAt bytes 7 / 16)
  vBlank := byteAt bytes 6 + 256 * (byteAt bytes 7 % 16)
  hFrontPorch := byteAt bytes 8 + 256 * (byteAt bytes 11 / 64)
  hSyncPulseWidth := byteAt bytes 9 + 256 * (byteAt bytes 11 / 16 % 4)
  vFrontPorch := byteAt bytes 10 / 16 + 16 * (byteAt bytes 11 / 4 % 4)
  vSyncPulseWidth := byteAt bytes 10 % 16 + 16 * (byteAt bytes 11 % 4)

/-- Pixels of a whole frame, blanking included. -/
def DetailedTiming.total (timing : DetailedTiming) : Nat :=
  (timing.hActive + timing.hBlank) * (timing.vActive + timing.vBlank)

/-- The frames a second that the clock, given in units of 10 kHz, stands for. -/
def DetailedTiming.refresh (timing : DetailedTiming) : Rat := timing.pixelClock10KHz * 10000 / timing.total

/-- What the descriptor has room for: 12 bits for sizes, 10 and 6 for the horizontal and
vertical syncs, 16 for the clock. -/
structure DetailedTiming.Fits (timing : DetailedTiming) : Prop where
  clock : timing.pixelClock10KHz < 2 ^ 16
  hActive : timing.hActive < 2 ^ 12
  hBlank : timing.hBlank < 2 ^ 12
  vActive : timing.vActive < 2 ^ 12
  vBlank : timing.vBlank < 2 ^ 12
  hFrontPorch : timing.hFrontPorch < 2 ^ 10
  hSyncPulseWidth : timing.hSyncPulseWidth < 2 ^ 10
  vFrontPorch : timing.vFrontPorch < 2 ^ 6
  vSyncPulseWidth : timing.vSyncPulseWidth < 2 ^ 6

/-- In both directions a front porch and a sync pulse lie inside the blanking. -/
structure DetailedTiming.WellFormed (timing : DetailedTiming) : Prop where
  hFrontPorch : 0 < timing.hFrontPorch
  hSyncPulseWidth : 0 < timing.hSyncPulseWidth
  horizontal : timing.hFrontPorch + timing.hSyncPulseWidth < timing.hBlank
  vFrontPorch : 0 < timing.vFrontPorch
  vSyncPulseWidth : 0 < timing.vSyncPulseWidth
  vertical : timing.vFrontPorch + timing.vSyncPulseWidth < timing.vBlank

theorem byteSum_append (first last : List UInt8) : byteSum (first ++ last) = byteSum first + byteSum last := by
  simp [byteSum]

theorem slice_append_right (first last : List UInt8) (offset size : Nat) (beyond : first.length ≤ offset) :
    slice (first ++ last) offset size = slice last (offset - first.length) size := by
  simp [slice, List.drop_append, List.drop_eq_nil_of_le beyond]

theorem slice_append_exact (first last : List UInt8) (size : Nat) (exact : first.length = size) :
    slice (first ++ last) 0 size = first := by
  simp [slice, ← exact]

theorem slice_take (block : List UInt8) (bound offset size : Nat) (inside : offset + size ≤ bound) :
    slice (block.take bound) offset size = slice block offset size := by
  simp [slice, List.drop_take, List.take_take, show min size (bound - offset) = size by omega]

theorem slice_chunk {size : Nat} (chunks : List (Vector UInt8 size)) (index : Nat) (behind : List UInt8)
    (inside : index < chunks.length) :
    slice (chunks.flatMap Vector.toList ++ behind) (size * index) size = chunks[index].toList := by
  induction chunks generalizing index with
  | nil => simp at inside
  | cons chunk rest ih =>
    rw [List.flatMap_cons, List.append_assoc]
    cases index with
    | zero => exact slice_append_exact _ _ _ (by simp)
    | succ index =>
      have past : size * (index + 1) - size = size * index := by rw [Nat.mul_succ]; omega
      rw [slice_append_right _ _ _ _ (by simp [Nat.mul_succ]), Vector.length_toList, past]
      exact ih index (by simpa using inside)

end QubesIdd.Library.Edid
