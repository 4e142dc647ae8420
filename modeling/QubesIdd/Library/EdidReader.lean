import Mathlib.Data.List.TakeWhile
import QubesIdd.Library.Edid

/-! A whole EDID 1.4 base block as a source reads it: the checks it makes before it
believes a block, the identity of the display, and its four descriptors. -/

namespace QubesIdd.Library.Edid

def header : List UInt8 := [0x00, 0xff, 0xff, 0xff, 0xff, 0xff, 0xff, 0x00]

/-- A descriptor whose first word, the clock of a timing, is zero is told by its tag. -/
inductive Descriptor where
  | timing (timing : DetailedTiming)
  | name (text : List UInt8)
  | other (tag : UInt8)
  deriving DecidableEq, Repr

def readDescriptor (bytes : List UInt8) : Descriptor :=
  if byteAt bytes 0 + 256 * byteAt bytes 1 ≠ 0 then .timing (decodeTiming bytes)
  else if bytes.getD 3 0 = 0xfc then .name ((bytes.drop 5).takeWhile (· ≠ 0x0a))
  else .other (bytes.getD 3 0)

/-- The letters of a manufacturer are numbered from one. -/
def letter (code : Nat) : Option Char :=
  if 1 ≤ code ∧ code ≤ 26 then some (Char.ofNat (64 + code)) else none

def readManufacturer (high low : Nat) : Option (List Char) :=
  if high < 128 then [high / 4, high % 4 * 8 + low / 32, low % 32].mapM letter else none

structure BaseBlock where
  manufacturer : List Char
  product : Nat
  serial : Nat
  week : Nat
  year : Nat
  descriptors : List Descriptor
  extensions : Nat
  deriving DecidableEq, Repr

def readDescriptors (block : List UInt8) : List Descriptor :=
  (List.range 4).map fun slot => readDescriptor (descriptor block slot)

structure Believed (block : List UInt8) : Prop where
  size : block.length = 128
  header : block.take 8 = header
  version : byteAt block 18 = 1 ∧ byteAt block 19 = 4
  checksum : byteSum block % 256 = 0

instance (block : List UInt8) : Decidable (Believed block) :=
  decidable_of_iff (block.length = 128 ∧ block.take 8 = header ∧ (byteAt block 18 = 1 ∧ byteAt block 19 = 4) ∧
    byteSum block % 256 = 0)
    ⟨fun ⟨size, start, version, checksum⟩ => ⟨size, start, version, checksum⟩,
      fun ⟨size, start, version, checksum⟩ => ⟨size, start, version, checksum⟩⟩

def readBlock (block : List UInt8) : Option BaseBlock :=
  if Believed block then do
    let manufacturer ← readManufacturer (byteAt block 8) (byteAt block 9)
    return {
      manufacturer
      product := byteAt block 10 + 256 * byteAt block 11
      serial := byteAt block 12 + 256 * (byteAt block 13 + 256 * (byteAt block 14 + 256 * byteAt block 15))
      week := byteAt block 16
      year := 1990 + byteAt block 17
      descriptors := readDescriptors block
      extensions := byteAt block 126 }
  else none

def Descriptor.decoded : Descriptor → Option DetailedTiming
  | .timing decoded => some decoded
  | _ => none

def BaseBlock.timings (block : BaseBlock) : List DetailedTiming := block.descriptors.filterMap Descriptor.decoded

theorem byteAt_take (block : List UInt8) {bound index : Nat} (inside : index < bound) :
    byteAt (block.take bound) index = byteAt block index := by
  simp [byteAt, List.getD_eq_getElem?_getD, List.getElem?_take_of_lt inside]

/-- A descriptor with a clock is a timing. -/
theorem readDescriptor_timing {bytes : List UInt8} {timing : DetailedTiming} (decoded : decodeTiming bytes = timing)
    (clocked : timing.pixelClock10KHz ≠ 0) : readDescriptor bytes = .timing timing := by
  subst timing
  exact if_pos clocked

/-- A block tells the display's identity and its descriptors, whatever it holds besides. -/
theorem readBlock_believed {block : List UInt8} (believed : Believed block) {manufacturer : List Char}
    (read : readManufacturer (byteAt block 8) (byteAt block 9) = some manufacturer) :
    readBlock block = some {
      manufacturer
      product := byteAt block 10 + 256 * byteAt block 11
      serial := byteAt block 12 + 256 * (byteAt block 13 + 256 * (byteAt block 14 + 256 * byteAt block 15))
      week := byteAt block 16
      year := 1990 + byteAt block 17
      descriptors := readDescriptors block
      extensions := byteAt block 126 } := by
  rw [readBlock, if_pos believed, read]
  rfl

end QubesIdd.Library.Edid
