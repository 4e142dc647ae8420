import QubesIdd.Library.Rounding
import QubesIdd.Proofs.TimingCodec

/-! The numbers of `MakeDetailedTiming` next to unbounded ones: which modes it accepts,
that nothing wraps or is cut off on the way, and what a reader recovers of the mode. -/

namespace QubesIdd.CEdid
open Library Library.Rounding

/-- The timing of a mode, computed without any width. -/
def idealTiming (mode : DisplayMode) : Edid.DetailedTiming :=
  let hBlank := max 160 ((mode.width.toNat / 20 + 7) / 8 * 8)
  let vBlank := max 30 (mode.height.toNat / 20)
  let hSync := (max 32 (mode.width.toNat / 100) + 7) / 8 * 8
  let hFront := (max 48 (hBlank / 3) + 7) / 8 * 8
  let sync := if hFront + hSync ≥ hBlank then (48, 32) else (hFront, hSync)
  { pixelClock10KHz := ((mode.width.toNat + hBlank) * (mode.height.toNat + vBlank) * mode.refresh.toNat + 5000) / 10000
    hActive := mode.width.toNat
    hBlank
    vActive := mode.height.toNat
    vBlank
    hFrontPorch := sync.1
    hSyncPulseWidth := sync.2
    vFrontPorch := 3
    vSyncPulseWidth := 5 }

/-- No sum of two `DWORD`s and no product of two `UINT64`s has wrapped around. -/
structure Unwrapped (mode : DisplayMode) : Prop where
  hBlank : (horizontalBlank mode.width).toNat = (idealTiming mode).hBlank
  vBlank : (verticalBlank mode.height).toNat = (idealTiming mode).vBlank
  sync :
    let sync := horizontalSync mode.width (horizontalBlank mode.width)
    sync.1.toNat = (idealTiming mode).hFrontPorch ∧ sync.2.toNat = (idealTiming mode).hSyncPulseWidth
  hTotal : (mode.width + horizontalBlank mode.width).toNat = mode.width.toNat + (idealTiming mode).hBlank
  vTotal : (mode.height + verticalBlank mode.height).toNat = mode.height.toNat + (idealTiming mode).vBlank
  pixels : ((mode.width + horizontalBlank mode.width).toUInt64 * (mode.height + verticalBlank mode.height).toUInt64).toNat =
    (idealTiming mode).total
  hertz : ((mode.width + horizontalBlank mode.width).toUInt64 * (mode.height + verticalBlank mode.height).toUInt64 *
    mode.refresh.toUInt64).toNat = (idealTiming mode).total * mode.refresh.toNat
  clock : (pixelClock10KHz mode.width (horizontalBlank mode.width) mode.height (verticalBlank mode.height)
    mode.refresh).toNat = (idealTiming mode).pixelClock10KHz

theorem horizontalSync_toNat (hActive : UInt32) (small : hActive.toNat ≤ 4095) :
    let hBlank := max 160 ((hActive.toNat / 20 + 7) / 8 * 8)
    let hSync := (max 32 (hActive.toNat / 100) + 7) / 8 * 8
    let hFront := (max 48 (hBlank / 3) + 7) / 8 * 8
    let sync := horizontalSync hActive (horizontalBlank hActive)
    (sync.1.toNat, sync.2.toNat) = if hFront + hSync ≥ hBlank then (48, 32) else (hFront, hSync) := by
  intro hBlank hSync hFront sync
  have blank : (horizontalBlank hActive).toNat = hBlank := horizontalBlank_toNat hActive
  have syncs : (roundUp8 (max 32 (hActive / 100))).toNat = hSync := by
    have width : (max 32 (hActive / 100)).toNat = max 32 (hActive.toNat / 100) := by
      rw [max_toNat, UInt32.toNat_div]
      rfl
    rw [roundUp8_toNat _ (by omega), width]
  have front : (roundUp8 (max 48 (horizontalBlank hActive / 3))).toNat = hFront := by
    have porch : (max 48 (horizontalBlank hActive / 3)).toNat = max 48 (hBlank / 3) := by
      rw [max_toNat, UInt32.toNat_div, blank]
      rfl
    rw [roundUp8_toNat _ (by omega), porch]
  have sum : (roundUp8 (max 48 (horizontalBlank hActive / 3)) + roundUp8 (max 32 (hActive / 100))).toNat = hFront + hSync := by
    rw [total_toNat (by omega), front, syncs]
  have within : roundUp8 (max 48 (horizontalBlank hActive / 3)) + roundUp8 (max 32 (hActive / 100)) ≥ horizontalBlank hActive ↔
      hFront + hSync ≥ hBlank := by
    rw [ge_iff_le, UInt32.le_iff_toNat_le, sum, blank]
  simp only [sync, horizontalSync, within]
  split
  · rfl
  · rw [front, syncs]

/-- The blanking leaves room for porch and sync, and all of it fits the fields. -/
theorem idealTiming_bounds (mode : DisplayMode) (width : mode.width.toNat ≤ 4095) (height : mode.height.toNat ≤ 4095) :
    (idealTiming mode).WellFormed ∧ (idealTiming mode).hBlank ≤ 4095 ∧ (idealTiming mode).vBlank ≤ 4095 ∧
      (idealTiming mode).hFrontPorch ≤ 1023 ∧ (idealTiming mode).hSyncPulseWidth ≤ 1023 := by
  unfold idealTiming
  dsimp only
  split
  all_goals
    refine ⟨⟨?_, ?_, ?_, ?_, ?_, ?_⟩, ?_, ?_, ?_, ?_⟩
    all_goals first | omega | (dsimp only; omega)

theorem unwrapped (mode : DisplayMode) (width : mode.width.toNat ≤ 4095) (height : mode.height.toNat ≤ 4095) :
    Unwrapped mode := by
  obtain ⟨_, hBlank, vBlank, _⟩ := idealTiming_bounds mode width height
  have horizontal : (horizontalBlank mode.width).toNat = (idealTiming mode).hBlank := horizontalBlank_toNat mode.width
  have vertical : (verticalBlank mode.height).toNat = (idealTiming mode).vBlank := verticalBlank_toNat mode.height
  have hTotal : mode.width.toNat + (horizontalBlank mode.width).toNat ≤ 8190 := by omega
  have vTotal : mode.height.toNat + (verticalBlank mode.height).toNat ≤ 8190 := by omega
  have syncs := horizontalSync_toNat mode.width width
  constructor
  · exact horizontal
  · exact vertical
  · exact ⟨congrArg Prod.fst syncs, congrArg Prod.snd syncs⟩
  · rw [total_toNat hTotal, horizontal]
  · rw [total_toNat vTotal, vertical]
  · rw [pixels_toNat hTotal vTotal, horizontal, vertical]
    rfl
  · rw [hertz_toNat hTotal vTotal, horizontal, vertical]
    rfl
  · rw [pixelClock10KHz_toNat hTotal vTotal, horizontal, vertical]
    rfl

private theorem positive32 {value : UInt32} : value ≠ 0 ↔ 1 ≤ value.toNat := by
  rw [Nat.one_le_iff_ne_zero, ne_eq, ne_eq, ← UInt32.toNat_inj]
  rfl

private theorem positive64 {value : UInt64} : value ≠ 0 ↔ 1 ≤ value.toNat := by
  rw [Nat.one_le_iff_ne_zero, ne_eq, ne_eq, ← UInt64.toNat_inj]
  rfl

theorem accepts_iff_encodable (mode : DisplayMode) : accepts mode = true ↔ Encodable mode := by
  refine ⟨accepts_encodable mode, ?_⟩
  rintro ⟨⟨wide, width⟩, ⟨high, height⟩, rate, some_clock, clock⟩
  obtain ⟨formed, hBlank, vBlank, _⟩ := idealTiming_bounds mode (UInt32.le_iff_toNat_le.mp width) (UInt32.le_iff_toNat_le.mp height)
  have exact := unwrapped mode (UInt32.le_iff_toNat_le.mp width) (UInt32.le_iff_toNat_le.mp height)
  have blanks : ¬ (horizontalBlank mode.width > 4095 ∨ verticalBlank mode.height > 4095) := by
    rw [not_or, gt_iff_lt, gt_iff_lt, UInt32.not_lt, UInt32.not_lt, UInt32.le_iff_toNat_le, UInt32.le_iff_toNat_le,
      exact.hBlank, exact.vBlank]
    exact ⟨hBlank, vBlank⟩
  have syncs : ¬ (3 + 5 : UInt32) ≥ verticalBlank mode.height := by
    rw [ge_iff_le, UInt32.not_le, UInt32.lt_iff_toNat_lt, exact.vBlank]
    exact formed.vertical
  unfold accepts makeDetailedTiming
  dsimp only
  rw [if_neg (by simp [wide, high, rate, UInt32.not_lt, width, height]), if_neg blanks, if_neg syncs,
    if_neg (by simp [some_clock, UInt64.not_lt, clock])]

/-- What is read back of an accepted mode is the unbounded timing. -/
theorem accepted_decoded (mode : DisplayMode) (accepted : accepts mode = true) :
    Edid.decodeTiming (timingBytes mode).toList = idealTiming mode ∧ (idealTiming mode).WellFormed ∧
      (idealTiming mode).Fits := by
  have encodable := accepts_encodable mode accepted
  have width := UInt32.le_iff_toNat_le.mp encodable.width.2
  have height := UInt32.le_iff_toNat_le.mp encodable.height.2
  have exact := unwrapped mode width height
  obtain ⟨formed, hBlank, vBlank, hFront, hSync⟩ := idealTiming_bounds mode width height
  have clock := UInt64.le_iff_toNat_le.mp encodable.clock.2
  rw [exact.clock] at clock
  refine ⟨?_, formed, ?_⟩
  · rw [decode_accepted mode accepted, exact.hBlank, exact.vBlank, exact.sync.1, exact.sync.2]
    rfl
  · constructor
    · exact Nat.lt_succ_of_le clock
    · exact Nat.lt_succ_of_le width
    · exact Nat.lt_succ_of_le hBlank
    · exact Nat.lt_succ_of_le height
    · exact Nat.lt_succ_of_le vBlank
    · exact Nat.lt_succ_of_le hFront
    · exact Nat.lt_succ_of_le hSync
    · exact show 3 < 2 ^ 6 by decide
    · exact show 5 < 2 ^ 6 by decide

/-- A mode is accepted exactly if its sizes have twelve bits and its unbounded clock has
sixteen. Nothing wraps on the way, and what is read back is well formed and whole. -/
theorem accepted_wellFormed (mode : DisplayMode) :
    (accepts mode = true ↔ (1 ≤ mode.width.toNat ∧ mode.width.toNat ≤ 4095) ∧
      (1 ≤ mode.height.toNat ∧ mode.height.toNat ≤ 4095) ∧ 1 ≤ mode.refresh.toNat ∧
      1 ≤ (idealTiming mode).pixelClock10KHz ∧ (idealTiming mode).pixelClock10KHz ≤ 65535) ∧
    (mode.width.toNat ≤ 4095 → mode.height.toNat ≤ 4095 → Unwrapped mode) ∧
    (accepts mode = true →
      let timing := Edid.decodeTiming (timingBytes mode).toList
      timing = idealTiming mode ∧ timing.WellFormed ∧ timing.Fits) := by
  refine ⟨?_, unwrapped mode, ?_⟩
  · rw [accepts_iff_encodable]
    constructor
    · rintro ⟨⟨wide, width⟩, ⟨high, height⟩, rate, some_clock, clock⟩
      have exact := unwrapped mode (UInt32.le_iff_toNat_le.mp width) (UInt32.le_iff_toNat_le.mp height)
      rw [positive64, exact.clock] at some_clock
      rw [UInt64.le_iff_toNat_le, exact.clock] at clock
      exact ⟨⟨positive32.mp wide, UInt32.le_iff_toNat_le.mp width⟩, ⟨positive32.mp high, UInt32.le_iff_toNat_le.mp height⟩,
        positive32.mp rate, some_clock, clock⟩
    · rintro ⟨⟨wide, width⟩, ⟨high, height⟩, rate, some_clock, clock⟩
      have exact := unwrapped mode width height
      rw [← exact.clock] at some_clock clock
      exact ⟨⟨positive32.mpr wide, UInt32.le_iff_toNat_le.mpr width⟩, ⟨positive32.mpr high, UInt32.le_iff_toNat_le.mpr height⟩,
        positive32.mpr rate, positive64.mpr some_clock, UInt64.le_iff_toNat_le.mpr clock⟩
  · intro accepted timing
    obtain ⟨read, formed, fits⟩ := accepted_decoded mode accepted
    rw [show timing = idealTiming mode from read]
    exact ⟨rfl, formed, fits⟩

/-- What a reader of the 18 bytes recovers: the sizes themselves, and the refresh rate as
the integer nearest to what the rounded clock stands for. -/
theorem decoded_size (mode : DisplayMode) (wide : 640 ≤ mode.width.toNat) (high : 480 ≤ mode.height.toNat)
    (accepted : accepts mode = true) :
    let timing := Edid.decodeTiming (timingBytes mode).toList
    timing.hActive = mode.width.toNat ∧ timing.vActive = mode.height.toNat ∧
      |timing.refresh - mode.refresh.toNat| < 1 / 2 := by
  intro timing
  obtain ⟨read, _⟩ := accepted_decoded mode accepted
  rw [show timing = idealTiming mode from read]
  refine ⟨rfl, rfl, ?_⟩
  have frame : 10000 < (idealTiming mode).total := by
    have bound : 640 * 480 ≤ (idealTiming mode).total :=
      Nat.mul_le_mul (Nat.le_add_right_of_le wide) (Nat.le_add_right_of_le high)
    omega
  exact rounded_near (idealTiming mode).total mode.refresh.toNat 10000 (by decide) frame

/-- The 18 bytes tell width, height and refresh rate, so no two sizes share them. -/
theorem timing_tells_mode (mode : DisplayMode) (wide : 640 ≤ mode.width.toNat) (high : 480 ≤ mode.height.toNat)
    (accepted : accepts mode = true) :
    let timing := Edid.decodeTiming (timingBytes mode).toList
    (timing.hActive = mode.width.toNat ∧ timing.vActive = mode.height.toNat) ∧
    (|timing.refresh - mode.refresh.toNat| < 1 / 2 ∧ round timing.refresh = mode.refresh.toNat) ∧
    ∀ other : DisplayMode, 640 ≤ other.width.toNat → 480 ≤ other.height.toNat → accepts other = true →
      other.size ≠ mode.size → timingBytes other ≠ timingBytes mode := by
  intro timing
  obtain ⟨width, height, refresh⟩ := decoded_size mode wide high accepted
  refine ⟨⟨width, height⟩, ⟨refresh, round_of_near refresh⟩, ?_⟩
  intro other otherWide otherHigh otherAccepted different same
  obtain ⟨otherWidth, otherHeight, otherRefresh⟩ := decoded_size other otherWide otherHigh otherAccepted
  rw [same] at otherWidth otherHeight otherRefresh
  apply different
  have sameWidth : other.width = mode.width := UInt32.toNat_inj.mp (otherWidth.symm.trans width)
  have sameHeight : other.height = mode.height := UInt32.toNat_inj.mp (otherHeight.symm.trans height)
  have sameRefresh : other.refresh = mode.refresh := by
    have rounded := (round_of_near otherRefresh).symm.trans (round_of_near refresh)
    exact UInt32.toNat_inj.mp (Int.ofNat_inj.mp rounded)
  rw [DisplayMode.size, DisplayMode.size, sameWidth, sameHeight, sameRefresh]

theorem timing_tells_mode_full :
    round (Edid.decodeTiming (timingBytes ⟨1920, 1080, 60, true⟩).toList).refresh = 60 :=
  (timing_tells_mode ⟨1920, 1080, 60, true⟩ (by decide) (by decide) (by decide)).2.1.2

end QubesIdd.CEdid
