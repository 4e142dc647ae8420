import QubesIdd.DetailedTiming
import QubesIdd.Library.Edid

/-! Decoding an encoded timing. The packing helpers drop no bit of what an accepted
mode puts into them, and the clock, although rounded, still tells the refresh rate. -/

namespace QubesIdd.CEdid
open Library

section
variable (value : Nat)

private theorem and_3 : value &&& 3 = value % 4 := Nat.and_two_pow_sub_one_eq_mod value 2

private theorem and_15 : value &&& 15 = value % 16 := Nat.and_two_pow_sub_one_eq_mod value 4

private theorem and_255 : value &&& 255 = value % 256 := Nat.and_two_pow_sub_one_eq_mod value 8

private theorem or_field (bits lower : Nat) (fits : lower < 2 ^ bits) :
    value * 2 ^ bits ||| lower = value * 2 ^ bits + lower := by
  rw [← Nat.shiftLeft_eq, Nat.shiftLeft_add_eq_or_of_lt fits]

end

@[simp] theorem lo8_toNat (value : UInt32) : (lo8 value).toNat = value.toNat % 256 := by
  simp only [lo8, UInt32.toNat_toUInt8, UInt32.toNat_and, UInt32.reduceToNat, and_255]
  omega

@[simp] theorem setLe16_lo (value : UInt32) : (setLe16 value).lo.toNat = value.toNat % 256 := lo8_toNat value

@[simp] theorem setLe16_hi (value : UInt32) : (setLe16 value).hi.toNat = value.toNat / 256 % 256 := by
  simp only [setLe16, UInt32.toNat_toUInt8, UInt32.toNat_and, UInt32.toNat_shiftRight, UInt32.reduceToNat,
    Nat.reduceMod, Nat.shiftRight_eq_div_pow, Nat.reducePow, and_255]
  omega

@[simp] theorem packMsbNibbles_toNat (upper lower : UInt32) :
    (packMsbNibbles upper lower).toNat = 16 * (upper.toNat / 256 % 16) + lower.toNat / 256 % 16 := by
  have packed := or_field (upper.toNat / 256 % 16) 4 (lower.toNat / 256 % 16) (by omega)
  have fits : upper.toNat / 256 % 16 * 16 < 4294967296 := by omega
  simp only [packMsbNibbles, UInt32.toNat_toUInt8, UInt32.toNat_or, UInt32.toNat_shiftLeft, UInt32.toNat_and,
    UInt32.toNat_shiftRight, UInt32.reduceToNat, Nat.reduceMod, Nat.shiftRight_eq_div_pow, Nat.shiftLeft_eq,
    Nat.reducePow, and_15, Nat.mod_eq_of_lt fits] at packed ⊢
  omega

@[simp] theorem packLowNibbles_toNat (upper lower : UInt32) :
    (packLowNibbles upper lower).toNat = 16 * (upper.toNat % 16) + lower.toNat % 16 := by
  have packed := or_field (upper.toNat % 16) 4 (lower.toNat % 16) (by omega)
  have fits : upper.toNat % 16 * 16 < 4294967296 := by omega
  simp only [packLowNibbles, UInt32.toNat_toUInt8, UInt32.toNat_or, UInt32.toNat_shiftLeft, UInt32.toNat_and,
    UInt32.reduceToNat, Nat.reduceMod, Nat.shiftLeft_eq, Nat.reducePow, and_15, Nat.mod_eq_of_lt fits] at packed ⊢
  omega

@[simp] theorem packSyncPorchPulseWidthHi_toNat (hFront hSync vFront vSync : UInt32) :
    (packSyncPorchPulseWidthHi hFront hSync vFront vSync).toNat =
      64 * (hFront.toNat / 256 % 4) + 16 * (hSync.toNat / 256 % 4) + 4 * (vFront.toNat / 16 % 4) +
        vSync.toNat / 16 % 4 := by
  have first := or_field (hFront.toNat / 256 % 4) 6 (hSync.toNat / 256 % 4 * 16) (by omega)
  have second := or_field (4 * (hFront.toNat / 256 % 4) + hSync.toNat / 256 % 4) 4 (vFront.toNat / 16 % 4 * 4) (by omega)
  have third := or_field (16 * (hFront.toNat / 256 % 4) + 4 * (hSync.toNat / 256 % 4) + vFront.toNat / 16 % 4) 2
    (vSync.toNat / 16 % 4) (by omega)
  have fits (field scale : Nat) (small : scale ≤ 64) : field % 4 * scale % 4294967296 = field % 4 * scale := by
    apply Nat.mod_eq_of_lt
    have bound : field % 4 * scale ≤ 3 * 64 := Nat.mul_le_mul (by omega) small
    omega
  simp only [Nat.reducePow] at first second third
  simp only [packSyncPorchPulseWidthHi, UInt32.toNat_toUInt8, UInt32.toNat_or, UInt32.toNat_shiftLeft, UInt32.toNat_and,
    UInt32.toNat_shiftRight, UInt32.reduceToNat, Nat.reduceMod, Nat.shiftRight_eq_div_pow, Nat.shiftLeft_eq,
    Nat.reducePow, and_3]
  rw [fits _ 64 (by omega), fits _ 16 (by omega), fits _ 4 (by omega), first,
    show hFront.toNat / 256 % 4 * 64 + hSync.toNat / 256 % 4 * 16 =
      (4 * (hFront.toNat / 256 % 4) + hSync.toNat / 256 % 4) * 16 by omega, second,
    show (4 * (hFront.toNat / 256 % 4) + hSync.toNat / 256 % 4) * 16 + vFront.toNat / 16 % 4 * 4 =
      (16 * (hFront.toNat / 256 % 4) + 4 * (hSync.toNat / 256 % 4) + vFront.toNat / 16 % 4) * 4 by omega, third]
  omega

/-- What fits the descriptor's fields: 12, 10 and 6 bits for sizes and syncs, 16
bits for the clock. -/
structure FitsFields (hActive hBlank hFront hSync vActive vBlank vFront vSync clock : UInt32) : Prop where
  hActive : hActive.toNat ≤ 4095
  hBlank : hBlank.toNat ≤ 4095
  vActive : vActive.toNat ≤ 4095
  vBlank : vBlank.toNat ≤ 4095
  hFront : hFront.toNat ≤ 1023
  hSync : hSync.toNat ≤ 1023
  vFront : vFront.toNat ≤ 63
  vSync : vSync.toNat ≤ 63
  clock : clock.toNat ≤ 0xffff

theorem decode_encodeTiming {hActive hBlank hFront hSync vActive vBlank vFront vSync clock : UInt32}
    (fits : FitsFields hActive hBlank hFront hSync vActive vBlank vFront vSync clock) :
    Edid.decodeTiming (encodeTiming hActive hBlank hFront hSync vActive vBlank vFront vSync clock).raw.toList =
      ⟨clock.toNat, hActive.toNat, hBlank.toNat, vActive.toNat, vBlank.toNat, hFront.toNat, hSync.toNat,
        vFront.toNat, vSync.toNat⟩ := by
  obtain ⟨_, _, _, _, _, _, _, _, _⟩ := fits
  simp only [Edid.decodeTiming, Edid.byteAt, encodeTiming, EdidDetailedTimingDescriptor.raw, Vector.toList_mk, List.getD_cons_zero,
    List.getD_cons_succ, Edid.DetailedTiming.mk.injEq, setLe16_lo, setLe16_hi, lo8_toNat, packMsbNibbles_toNat,
    packLowNibbles_toNat, packSyncPorchPulseWidthHi_toNat]
  refine ⟨?_, ?_, ?_, ?_, ?_, ?_, ?_, ?_, ?_⟩ <;> omega

private theorem and_multiple (value : Nat) (small : value < 2 ^ 32) : value &&& 4294967288 = value / 8 * 8 := by
  rw [show 4294967288 = (2 ^ 29 - 1) <<< 3 from rfl, show value / 8 * 8 = (value >>> 3) <<< 3 by
    rw [Nat.shiftLeft_eq, Nat.shiftRight_eq_div_pow]]
  apply Nat.eq_of_testBit_eq
  intro bit
  simp only [Nat.testBit_and, Nat.testBit_shiftLeft, Nat.testBit_shiftRight, Nat.testBit_two_pow_sub_one]
  by_cases high : 3 ≤ bit
  · by_cases inside : bit - 3 < 29
    · simp [high, inside, show 3 + (bit - 3) = bit by omega]
    · have beyond : value.testBit bit = false :=
        Nat.testBit_lt_two_pow (Nat.lt_of_lt_of_le small (Nat.pow_le_pow_right (by omega) (by omega)))
      simp [high, beyond, show 3 + (bit - 3) = bit by omega]
  · simp [high]

theorem roundUp8_toNat (value : UInt32) (small : value.toNat < 2 ^ 32 - 7) :
    (roundUp8 value).toNat = (value.toNat + 7) / 8 * 8 := by
  have sum : (value + 7).toNat = value.toNat + 7 := by
    rw [UInt32.toNat_add]
    exact Nat.mod_eq_of_lt (by simp only [UInt32.reduceToNat]; omega)
  rw [roundUp8, UInt32.toNat_and, sum, show (~~~7 : UInt32).toNat = 4294967288 from rfl,
    and_multiple _ (by omega)]

theorem max_toNat (first second : UInt32) : (max first second).toNat = max first.toNat second.toNat := by
  change (if first ≤ second then second else first).toNat = _
  split
  next below => exact (Nat.max_eq_right (UInt32.le_iff_toNat_le.mp below)).symm
  next above => exact (Nat.max_eq_left (Nat.le_of_lt (UInt32.lt_iff_toNat_lt.mp (UInt32.not_le.mp above)))).symm

theorem horizontalBlank_toNat (hActive : UInt32) :
    (horizontalBlank hActive).toNat = max 160 ((hActive.toNat / 20 + 7) / 8 * 8) := by
  have bound := hActive.toNat_lt
  have twentieth : (hActive / 20).toNat = hActive.toNat / 20 := UInt32.toNat_div ..
  rw [horizontalBlank, max_toNat, roundUp8_toNat _ (by omega), twentieth]
  rfl

theorem verticalBlank_toNat (vActive : UInt32) : (verticalBlank vActive).toNat = max 30 (vActive.toNat / 20) := by
  rw [verticalBlank, max_toNat, UInt32.toNat_div]
  rfl

theorem total_toNat {active blank : UInt32} (small : active.toNat + blank.toNat ≤ 8190) :
    (active + blank).toNat = active.toNat + blank.toNat := by
  rw [UInt32.toNat_add, Nat.mod_eq_of_lt (by omega)]

section
variable {hActive hBlank vActive vBlank : UInt32}
variable (horizontal : hActive.toNat + hBlank.toNat ≤ 8190) (vertical : vActive.toNat + vBlank.toNat ≤ 8190)
include horizontal vertical

theorem pixels_toNat :
    ((hActive + hBlank).toUInt64 * (vActive + vBlank).toUInt64).toNat =
      (hActive.toNat + hBlank.toNat) * (vActive.toNat + vBlank.toNat) := by
  have area : (hActive.toNat + hBlank.toNat) * (vActive.toNat + vBlank.toNat) ≤ 8190 * 8190 :=
    Nat.mul_le_mul horizontal vertical
  rw [UInt64.toNat_mul, UInt32.toNat_toUInt64, UInt32.toNat_toUInt64, total_toNat horizontal, total_toNat vertical,
    Nat.mod_eq_of_lt (by omega)]

theorem hertz_bound (refresh : UInt32) :
    (hActive.toNat + hBlank.toNat) * (vActive.toNat + vBlank.toNat) * refresh.toNat ≤ 8190 * 8190 * 2 ^ 32 :=
  Nat.mul_le_mul (Nat.mul_le_mul horizontal vertical) (Nat.le_of_lt refresh.toNat_lt)

theorem hertz_toNat (refresh : UInt32) :
    ((hActive + hBlank).toUInt64 * (vActive + vBlank).toUInt64 * refresh.toUInt64).toNat =
      (hActive.toNat + hBlank.toNat) * (vActive.toNat + vBlank.toNat) * refresh.toNat := by
  have clock := hertz_bound horizontal vertical refresh
  rw [UInt64.toNat_mul, pixels_toNat horizontal vertical, UInt32.toNat_toUInt64, Nat.mod_eq_of_lt (by omega)]

theorem pixelClock10KHz_toNat (refresh : UInt32) :
    (pixelClock10KHz hActive hBlank vActive vBlank refresh).toNat =
      ((hActive.toNat + hBlank.toNat) * (vActive.toNat + vBlank.toNat) * refresh.toNat + 5000) / 10000 := by
  have clock := hertz_bound horizontal vertical refresh
  simp only [pixelClock10KHz, UInt64.toNat_div, UInt64.toNat_add, hertz_toNat horizontal vertical, UInt64.reduceToNat]
  rw [Nat.mod_eq_of_lt (by omega)]

end

theorem horizontalSync_small (hActive : UInt32) (small : hActive.toNat ≤ 4095) :
    (horizontalSync hActive (horizontalBlank hActive)).1.toNat ≤ 1023 ∧
    (horizontalSync hActive (horizontalBlank hActive)).2.toNat ≤ 1023 := by
  have blank := horizontalBlank_toNat hActive
  have rounded (value : UInt32) (below : value.toNat ≤ 1016) : (roundUp8 value).toNat ≤ 1023 := by
    rw [roundUp8_toNat _ (by omega)]
    omega
  have sync : (max 32 (hActive / 100)).toNat ≤ 1016 := by
    simp only [max_toNat, UInt32.toNat_div, UInt32.reduceToNat]
    omega
  have front : (max 48 (horizontalBlank hActive / 3)).toNat ≤ 1016 := by
    simp only [max_toNat, UInt32.toNat_div, UInt32.reduceToNat]
    omega
  unfold horizontalSync
  dsimp only
  split
  · decide
  · exact ⟨rounded _ front, rounded _ sync⟩

/-- What an accepted mode's descriptor says when it is read: the mode's own sizes, its
blanking and syncs, and its clock rounded to 10 kHz. -/
theorem decode_accepted (mode : DisplayMode) (accepted : accepts mode = true) :
    let total := (mode.width.toNat + (horizontalBlank mode.width).toNat) *
      (mode.height.toNat + (verticalBlank mode.height).toNat)
    let sync := horizontalSync mode.width (horizontalBlank mode.width)
    Edid.decodeTiming (timingBytes mode).toList =
      ⟨(total * mode.refresh.toNat + 5000) / 10000, mode.width.toNat, (horizontalBlank mode.width).toNat,
        mode.height.toNat, (verticalBlank mode.height).toNat, sync.1.toNat, sync.2.toNat, 3, 5⟩ := by
  intro total sync
  have encodable := accepts_encodable mode accepted
  have width := UInt32.le_iff_toNat_le.mp encodable.width.2
  have height := UInt32.le_iff_toNat_le.mp encodable.height.2
  simp only [UInt32.reduceToNat] at width height
  have horizontal := horizontalBlank_toNat mode.width
  have vertical := verticalBlank_toNat mode.height
  have clock := pixelClock10KHz_toNat (by omega : mode.width.toNat + (horizontalBlank mode.width).toNat ≤ 8190)
    (by omega : mode.height.toNat + (verticalBlank mode.height).toNat ≤ 8190) mode.refresh
  have small := UInt64.le_iff_toNat_le.mp encodable.clock.2
  simp only [UInt64.reduceToNat] at small
  have narrowed : (pixelClock10KHz mode.width (horizontalBlank mode.width) mode.height (verticalBlank mode.height)
      mode.refresh).toUInt32.toNat = (pixelClock10KHz mode.width (horizontalBlank mode.width) mode.height
        (verticalBlank mode.height) mode.refresh).toNat := by
    rw [UInt64.toNat_toUInt32, Nat.mod_eq_of_lt (by omega)]
  have syncs := horizontalSync_small mode.width width
  rcases makeDetailedTiming_cases mode with rejected | ⟨_, written⟩
  · simp [accepts, rejected] at accepted
  · rw [timingBytes, written, decode_encodeTiming ⟨width, by omega, height, by omega, syncs.1, syncs.2, by decide, by decide,
      by rw [narrowed]; exact small⟩, narrowed, clock]
    rfl

/-- Rounding to 10 kHz keeps refresh rates apart once a frame has 10000 pixels. -/
theorem refresh_of_clock {total first second : Nat} (frame : 10000 ≤ total)
    (same : (total * first + 5000) / 10000 = (total * second + 5000) / 10000) : first = second := by
  rcases Nat.lt_trichotomy first second with below | equal | above
  · have apart : total * (first + 1) ≤ total * second := Nat.mul_le_mul_left total below
    rw [Nat.mul_succ] at apart
    omega
  · exact equal
  · have apart : total * (second + 1) ≤ total * first := Nat.mul_le_mul_left total above
    rw [Nat.mul_succ] at apart
    omega

/-- Different modes in range never share their 18 bytes. -/
theorem timingBytes_size {first second : DisplayMode} (firstAccepted : accepts first = true)
    (secondAccepted : accepts second = true) (valid : first.InRange)
    (same : timingBytes first = timingBytes second) : first.size = second.size := by
  have firstDecoded := decode_accepted first firstAccepted
  have secondDecoded := decode_accepted second secondAccepted
  rw [same, secondDecoded, Edid.DetailedTiming.mk.injEq] at firstDecoded
  obtain ⟨clock, width, _, height, _⟩ := firstDecoded
  have width : second.width = first.width := UInt32.toNat_inj.mp width
  have height : second.height = first.height := UInt32.toNat_inj.mp height
  rw [width, height] at clock
  have frame : 640 * 480 ≤ (first.width.toNat + (horizontalBlank first.width).toNat) *
      (first.height.toNat + (verticalBlank first.height).toNat) :=
    Nat.mul_le_mul (Nat.le_add_right_of_le valid.width.1) (Nat.le_add_right_of_le valid.height.1)
  have refresh := UInt32.toNat_inj.mp (refresh_of_clock (Nat.le_trans (by omega) frame) clock)
  simp [DisplayMode.size, width, height, refresh]

end QubesIdd.CEdid
