import QubesIdd.Settings

/-! `MakeDetailedTiming` and the packing helpers of `CEdid.cpp`. `DWORD` is
`UInt32`, so every sum and mask wraps as in the source. -/

namespace QubesIdd.CEdid

def EDID_IMAGE_WIDTH_MM : UInt32 := 520
def EDID_IMAGE_HEIGHT_MM : UInt32 := 290
def EDID_DTD_FLAGS_DIGITAL_SEPARATE_SYNC_POSITIVE : UInt8 := 0x1e

structure EdidLe16 where
  lo : UInt8
  hi : UInt8
  deriving DecidableEq, Repr

structure EdidDetailedTimingDescriptor where
  pixelClock10KHz : EdidLe16
  hActiveLo : UInt8
  hBlankLo : UInt8
  hActiveBlankHi : UInt8
  vActiveLo : UInt8
  vBlankLo : UInt8
  vActiveBlankHi : UInt8
  hFrontPorchLo : UInt8
  hSyncPulseWidthLo : UInt8
  vFrontPorchSyncPulseWidthLo : UInt8
  syncPorchPulseWidthHi : UInt8
  imageWidthMmLo : UInt8
  imageHeightMmLo : UInt8
  imageSizeMmHi : UInt8
  hBorder : UInt8
  vBorder : UInt8
  flags : UInt8
  deriving DecidableEq, Repr

/-- Every 18-byte view of the descriptor union shares this storage. -/
abbrev EdidDescriptor := Vector UInt8 18

def EdidDescriptor.zero : EdidDescriptor := Vector.replicate 18 0

def EdidDetailedTimingDescriptor.raw (timing : EdidDetailedTimingDescriptor) : EdidDescriptor :=
  #v[timing.pixelClock10KHz.lo, timing.pixelClock10KHz.hi,
    timing.hActiveLo, timing.hBlankLo, timing.hActiveBlankHi,
    timing.vActiveLo, timing.vBlankLo, timing.vActiveBlankHi,
    timing.hFrontPorchLo, timing.hSyncPulseWidthLo,
    timing.vFrontPorchSyncPulseWidthLo, timing.syncPorchPulseWidthHi,
    timing.imageWidthMmLo, timing.imageHeightMmLo, timing.imageSizeMmHi,
    timing.hBorder, timing.vBorder, timing.flags]

def EdidDetailedTimingDescriptor.zero : EdidDetailedTimingDescriptor :=
  ⟨⟨0, 0⟩, 0, 0, 0, 0, 0, 0, 0, 0, 0, 0, 0, 0, 0, 0, 0, 0⟩

def setLe16 (value : UInt32) : EdidLe16 where
  lo := (value &&& 0xff).toUInt8
  hi := ((value >>> 8) &&& 0xff).toUInt8

def lo8 (value : UInt32) : UInt8 := (value &&& 0xff).toUInt8

def packMsbNibbles (upperValue lowerValue : UInt32) : UInt8 :=
  ((((upperValue >>> 8) &&& 0x0f) <<< 4) ||| ((lowerValue >>> 8) &&& 0x0f)).toUInt8

def packLowNibbles (upperValue lowerValue : UInt32) : UInt8 :=
  (((upperValue &&& 0x0f) <<< 4) ||| (lowerValue &&& 0x0f)).toUInt8

def packSyncPorchPulseWidthHi (hFrontPorch hSyncPulseWidth vFrontPorch vSyncPulseWidth : UInt32) : UInt8 :=
  ((((hFrontPorch >>> 8) &&& 0x03) <<< 6) |||
    (((hSyncPulseWidth >>> 8) &&& 0x03) <<< 4) |||
    (((vFrontPorch >>> 4) &&& 0x03) <<< 2) |||
    ((vSyncPulseWidth >>> 4) &&& 0x03)).toUInt8

/-- `(value + 7) & ~7UL` on a 32-bit `unsigned long`. -/
def roundUp8 (value : UInt32) : UInt32 := (value + 7) &&& ~~~7

def horizontalBlank (hActive : UInt32) : UInt32 := max 160 (roundUp8 (hActive / 20))

def verticalBlank (vActive : UInt32) : UInt32 := max 30 (vActive / 20)

/-- Front porch and sync width; the fixed pair replaces a sum that does not fit. -/
def horizontalSync (hActive hBlank : UInt32) : UInt32 × UInt32 :=
  let hSync := roundUp8 (max 32 (hActive / 100))
  let hFront := roundUp8 (max 48 (hBlank / 3))
  if hFront + hSync ≥ hBlank then (48, 32) else (hFront, hSync)

def pixelClock10KHz (hActive hBlank vActive vBlank refresh : UInt32) : UInt64 :=
  let pixelClock := (hActive + hBlank).toUInt64 * (vActive + vBlank).toUInt64 * refresh.toUInt64
  (pixelClock + 5000) / 10000

def encodeTiming (hActive hBlank hFront hSync vActive vBlank vFront vSync clock : UInt32) :
    EdidDetailedTimingDescriptor :=
  { EdidDetailedTimingDescriptor.zero with
    pixelClock10KHz := setLe16 clock
    hActiveLo := lo8 hActive
    hBlankLo := lo8 hBlank
    hActiveBlankHi := packMsbNibbles hActive hBlank
    vActiveLo := lo8 vActive
    vBlankLo := lo8 vBlank
    vActiveBlankHi := packMsbNibbles vActive vBlank
    hFrontPorchLo := lo8 hFront
    hSyncPulseWidthLo := lo8 hSync
    vFrontPorchSyncPulseWidthLo := packLowNibbles vFront vSync
    syncPorchPulseWidthHi := packSyncPorchPulseWidthHi hFront hSync vFront vSync
    imageWidthMmLo := lo8 EDID_IMAGE_WIDTH_MM
    imageHeightMmLo := lo8 EDID_IMAGE_HEIGHT_MM
    imageSizeMmHi := packMsbNibbles EDID_IMAGE_WIDTH_MM EDID_IMAGE_HEIGHT_MM
    flags := EDID_DTD_FLAGS_DIGITAL_SEPARATE_SYNC_POSITIVE }

/-- The result, and what the caller's structure holds afterwards: it is cleared
first and written only once the mode is accepted. -/
def makeDetailedTiming (mode : DisplayMode) : Bool × EdidDetailedTimingDescriptor :=
  let timing := EdidDetailedTimingDescriptor.zero
  let hActive := mode.width
  let vActive := mode.height
  let refresh := mode.refresh
  if hActive = 0 ∨ vActive = 0 ∨ refresh = 0 ∨ hActive > 4095 ∨ vActive > 4095 then (false, timing) else
  let hBlank := horizontalBlank hActive
  let vBlank := verticalBlank vActive
  if hBlank > 4095 ∨ vBlank > 4095 then (false, timing) else
  let (hFront, hSync) := horizontalSync hActive hBlank
  let vFront := 3
  let vSync := 5
  if vFront + vSync ≥ vBlank then (false, timing) else
  let clock := pixelClock10KHz hActive hBlank vActive vBlank refresh
  if clock = 0 ∨ clock > 0xffff then (false, timing) else
  (true, encodeTiming hActive hBlank hFront hSync vActive vBlank vFront vSync clock.toUInt32)

def accepts (mode : DisplayMode) : Bool := (makeDetailedTiming mode).1

/-- The 18 bytes the caller's slot holds after the call. -/
def timingBytes (mode : DisplayMode) : EdidDescriptor := (makeDetailedTiming mode).2.raw

structure Encodable (mode : DisplayMode) : Prop where
  width : mode.width ≠ 0 ∧ mode.width ≤ 4095
  height : mode.height ≠ 0 ∧ mode.height ≤ 4095
  refresh : mode.refresh ≠ 0
  clock :
    let clock := pixelClock10KHz mode.width (horizontalBlank mode.width)
      mode.height (verticalBlank mode.height) mode.refresh
    clock ≠ 0 ∧ clock ≤ 0xffff

/-- Every call either rejects with a cleared structure or passes all checks and
assigns all fields; nothing is half written. -/
theorem makeDetailedTiming_cases (mode : DisplayMode) :
    makeDetailedTiming mode = (false, EdidDetailedTimingDescriptor.zero) ∨
    Encodable mode ∧ makeDetailedTiming mode =
      (true, encodeTiming mode.width (horizontalBlank mode.width)
        (horizontalSync mode.width (horizontalBlank mode.width)).1
        (horizontalSync mode.width (horizontalBlank mode.width)).2
        mode.height (verticalBlank mode.height) 3 5
        (pixelClock10KHz mode.width (horizontalBlank mode.width)
          mode.height (verticalBlank mode.height) mode.refresh).toUInt32) := by
  unfold makeDetailedTiming
  dsimp only
  split
  · exact .inl rfl
  next bounds =>
    split
    · exact .inl rfl
    · split
      · exact .inl rfl
      · split
        · exact .inl rfl
        next clock =>
          simp only [not_or, gt_iff_lt, UInt32.not_lt, UInt64.not_lt] at bounds clock
          obtain ⟨wide, high, rate, widthBound, heightBound⟩ := bounds
          exact .inr ⟨⟨⟨wide, widthBound⟩, ⟨high, heightBound⟩, rate, clock⟩, rfl⟩

theorem accepts_encodable (mode : DisplayMode) (accepted : accepts mode = true) : Encodable mode := by
  rcases makeDetailedTiming_cases mode with rejected | ⟨encodable, _⟩
  · simp [accepts, rejected] at accepted
  · exact encodable

/-- A rejected mode leaves no residue in the slot it was tried in. -/
theorem rejected_zero (mode : DisplayMode) (rejected : accepts mode = false) :
    timingBytes mode = EdidDescriptor.zero := by
  rcases makeDetailedTiming_cases mode with zero | ⟨_, written⟩
  · rw [timingBytes, zero]; rfl
  · simp [accepts, written] at rejected

end QubesIdd.CEdid
