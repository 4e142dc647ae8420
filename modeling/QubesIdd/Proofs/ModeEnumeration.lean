import Mathlib.Algebra.Order.Ring.Int
import QubesIdd.ModeReport

/-! The seven loops over the mode list: which entries a callback writes and what it
writes there, what it answers to a short buffer, and where the callbacks agree. -/

namespace QubesIdd

inductive Enumeration where
  | parseMonitorDescription
  | monitorGetDefaultModes
  | monitorQueryTargetModes
  | parseMonitorDescription2
  | monitorQueryTargetModes2
  deriving DecidableEq, Repr

namespace Enumeration

def report (canUseIddCx110DDIs : Bool) : Enumeration → DisplayModes → Option (List ModeEntry) → ModeReport
  | parseMonitorDescription => QubesIdd.parseMonitorDescription
  | monitorGetDefaultModes => QubesIdd.monitorGetDefaultModes
  | monitorQueryTargetModes => QubesIdd.monitorQueryTargetModes
  | parseMonitorDescription2 => QubesIdd.parseMonitorDescription2 canUseIddCx110DDIs
  | monitorQueryTargetModes2 => QubesIdd.monitorQueryTargetModes2 canUseIddCx110DDIs

def monitorSide : Enumeration → Bool
  | parseMonitorDescription | monitorGetDefaultModes | parseMonitorDescription2 => true
  | monitorQueryTargetModes | monitorQueryTargetModes2 => false

def entryType : Enumeration → EntryType
  | parseMonitorDescription | monitorGetDefaultModes => .IDDCX_MONITOR_MODE
  | parseMonitorDescription2 => .IDDCX_MONITOR_MODE2
  | monitorQueryTargetModes => .IDDCX_TARGET_MODE
  | monitorQueryTargetModes2 => .IDDCX_TARGET_MODE2

/-- The IddCx 1.10 versions next to the callbacks they replace. -/
def older : Enumeration → Enumeration
  | parseMonitorDescription2 => parseMonitorDescription
  | monitorQueryTargetModes2 => monitorQueryTargetModes
  | callback => callback

end Enumeration

section
variable (fill : DisplayMode → ModeEntry → ModeEntry)

@[simp] theorem fillModes_status (modes : DisplayModes) (index : Nat) (report : ModeReport) :
    (fillModes fill modes index report).status = report.status := by
  induction modes generalizing index report with
  | nil => rfl
  | cons mode rest ih => rw [fillModes, ih]

@[simp] theorem fillModes_outputCount (modes : DisplayModes) (index : Nat) (report : ModeReport) :
    (fillModes fill modes index report).outputCount = report.outputCount := by
  induction modes generalizing index report with
  | nil => rfl
  | cons mode rest ih => rw [fillModes, ih]

@[simp] theorem fillModes_length (modes : DisplayModes) (index : Nat) (report : ModeReport) :
    (fillModes fill modes index report).buffer.length = report.buffer.length := by
  induction modes generalizing index report with
  | nil => rfl
  | cons mode rest ih => rw [fillModes, ih, List.length_modify]

/-- The entry pointer stays in step with the list: the entry at `index + i` is filled
from mode `i`, once, and no other entry is touched. -/
theorem fillModes_buffer (modes : DisplayModes) (index : Nat) (report : ModeReport) (i : Nat) :
    (fillModes fill modes index report).buffer[i]? =
      if index ≤ i then report.buffer[i]?.map fun entry => (modes[i - index]?.map (fill · entry)).getD entry
      else report.buffer[i]? := by
  induction modes generalizing index report with
  | nil => simp [fillModes]
  | cons mode rest ih =>
    simp only [fillModes, ih, List.getElem?_modify]
    rcases Nat.lt_trichotomy i index with before | rfl | behind
    · simp [show ¬ index ≤ i by omega, show ¬ index + 1 ≤ i by omega, show index ≠ i by omega]
    · simp
    · have later : i - index = i - (index + 1) + 1 := by omega
      simp [show index ≤ i by omega, show index + 1 ≤ i by omega, show index ≠ i by omega, later]

/-- What a call leaves in a buffer that has room: the count, the information about each
mode in the list's order, each entry marked as the structure it is, and whatever
stood behind them. -/
structure Describes (modes : DisplayModes) (info : DisplayMode → VideoSignalInfo) (type : EntryType)
    (count : Nat) (before after : List ModeEntry) : Prop where
  count : count = modes.length
  written : (after.take modes.length).map (fun entry => (entry.signalInfo, entry.size)) =
    modes.map fun mode => (some (info mode), some type)
  kept : after.drop modes.length = before.drop modes.length

theorem fillModes_describes {info : DisplayMode → VideoSignalInfo} {type : EntryType}
    (writes : ∀ mode entry, (fill mode entry).signalInfo = some (info mode) ∧ (fill mode entry).size = some type)
    (modes : DisplayModes) (report : ModeReport) (counted : report.outputCount = modes.length)
    (room : modes.length ≤ report.buffer.length) :
    Describes modes info type (fillModes fill modes 0 report).outputCount report.buffer
      (fillModes fill modes 0 report).buffer where
  count := by rw [fillModes_outputCount, counted]
  written := by
    apply List.ext_getElem?
    intro i
    rcases Nat.lt_or_ge i modes.length with inside | beyond
    · have held : i < report.buffer.length := Nat.lt_of_lt_of_le inside room
      have filled : (fillModes fill modes 0 report).buffer[i]? = some (fill modes[i] report.buffer[i]) := by
        simp only [fillModes_buffer, Nat.zero_le, if_true, Nat.sub_zero, List.getElem?_eq_getElem held,
          List.getElem?_eq_getElem inside, Option.map_some, Option.getD_some]
      obtain ⟨described, sized⟩ := writes modes[i] report.buffer[i]
      simp only [List.getElem?_map, List.getElem?_take, if_pos inside, filled, Option.map_some, described, sized,
        List.getElem?_eq_getElem inside]
    · simp [beyond]
  kept := by
    apply List.ext_getElem?
    intro i
    simp [fillModes_buffer]

theorem reportModes_describes {info : DisplayMode → VideoSignalInfo} {type : EntryType}
    (writes : ∀ mode entry, (fill mode entry).signalInfo = some (info mode) ∧ (fill mode entry).size = some type)
    {modes : DisplayModes} {buffer : Option (List ModeEntry)} (room : modes.length ≤ inputCount buffer) :
    Describes modes info type (reportModes fill modes buffer).outputCount (buffer.getD [])
      (reportModes fill modes buffer).buffer := by
  simp only [reportModes, if_neg (Nat.not_lt.mpr room)]
  exact fillModes_describes fill writes modes _ rfl room

end

/-- The information about a mode on one side, `monitorMode` as `FillSignalInfo` has it. -/
def signalInfo (monitorMode : Bool) (mode : DisplayMode) : VideoSignalInfo :=
  fillSignalInfo mode.width mode.height mode.refresh monitorMode

structure Carries (mode : DisplayMode) (info : VideoSignalInfo) : Prop where
  activeSize : info.activeSize = (mode.width, mode.height)
  vSyncFreq : info.vSyncFreq = (mode.refresh, 1)
  hSyncFreq : info.hSyncFreq = (mode.refresh * mode.height, 1)
  pixelRate : info.pixelRate = mode.refresh.toUInt64 * mode.width.toUInt64 * mode.height.toUInt64

/-- Within the bounds of the sanity check neither product wraps around. -/
structure CarriesExactly (mode : DisplayMode) (info : VideoSignalInfo) : Prop where
  hSyncFreq : info.hSyncFreq.1.toNat = mode.refresh.toNat * mode.height.toNat
  pixelRate : info.pixelRate.toNat = mode.refresh.toNat * mode.width.toNat * mode.height.toNat

theorem signalInfo_carries (monitorMode : Bool) (mode : DisplayMode) : Carries mode (signalInfo monitorMode mode) :=
  ⟨rfl, rfl, rfl, rfl⟩

theorem signalInfo_exact (monitorMode : Bool) {mode : DisplayMode} (valid : mode.InRange) :
    CarriesExactly mode (signalInfo monitorMode mode) := by
  obtain ⟨⟨_, width⟩, ⟨_, height⟩, ⟨_, refresh⟩⟩ := valid
  have lines : mode.refresh.toNat * mode.height.toNat ≤ 1000 * 16384 := Nat.mul_le_mul refresh height
  have columns : mode.refresh.toNat * mode.width.toNat ≤ 1000 * 16384 := Nat.mul_le_mul refresh width
  have pixels : mode.refresh.toNat * mode.width.toNat * mode.height.toNat ≤ 1000 * 16384 * 16384 :=
    Nat.mul_le_mul columns height
  constructor
  · simp only [signalInfo, fillSignalInfo, UInt32.toNat_mul]
    exact Nat.mod_eq_of_lt (by omega)
  · simp only [signalInfo, fillSignalInfo, UInt64.toNat_mul, UInt32.toNat_toUInt64]
    rw [Nat.mod_eq_of_lt (by omega : mode.refresh.toNat * mode.width.toNat < 2 ^ 64), Nat.mod_eq_of_lt (by omega)]

theorem signalInfo_sides (mode : DisplayMode) :
    (signalInfo true mode).vSyncFreqDivider = 0 ∧
    signalInfo false mode = { signalInfo true mode with vSyncFreqDivider := 1 } := ⟨rfl, rfl⟩

theorem enumeration_describes (canUseIddCx110DDIs : Bool) (callback : Enumeration) {modes : DisplayModes}
    {buffer : Option (List ModeEntry)} (room : modes.length ≤ inputCount buffer) :
    Describes modes (signalInfo callback.monitorSide) callback.entryType
      (callback.report canUseIddCx110DDIs modes buffer).outputCount (buffer.getD [])
      (callback.report canUseIddCx110DDIs modes buffer).buffer := by
  cases callback with
  | parseMonitorDescription => exact reportModes_describes _ (fun _ _ => ⟨rfl, rfl⟩) room
  | monitorGetDefaultModes => exact reportModes_describes _ (fun _ _ => ⟨rfl, rfl⟩) room
  | monitorQueryTargetModes => exact reportModes_describes _ (fun _ _ => ⟨rfl, rfl⟩) room
  | parseMonitorDescription2 => exact reportModes_describes _ (fun _ _ => ⟨rfl, rfl⟩) room
  | monitorQueryTargetModes2 =>
    simp only [Enumeration.report, QubesIdd.monitorQueryTargetModes2, if_neg (Nat.not_lt.mpr room)]
    cases buffer with
    | none =>
      -- Only the empty list has room in no buffer.
      obtain rfl : modes = [] := List.eq_nil_of_length_eq_zero (Nat.le_zero.mp room)
      exact ⟨rfl, rfl, rfl⟩
    | some entries => exact fillModes_describes _ (fun _ _ => ⟨rfl, rfl⟩) modes _ rfl room

/-- The body of the loop in either branch of `UpdateMonitorModes`. -/
def updateFill (canUseIddCx110DDIs : Bool) (mode : DisplayMode) (entry : ModeEntry) : ModeEntry :=
  { entry with
    size := some (if canUseIddCx110DDIs then .IDDCX_TARGET_MODE2 else .IDDCX_TARGET_MODE)
    requiredBandwidth := mode.width.toUInt64 * mode.height.toUInt64 * mode.refresh.toUInt64 * 32
    signalInfo := some (fillSignalInfo mode.width mode.height mode.refresh false)
    bitsPerComponent :=
      if canUseIddCx110DDIs then some (getWireBitsPerComponent canUseIddCx110DDIs) else entry.bitsPerComponent }

/-- The entries handed over are what the loop leaves in an array of the list's length
it has just cleared. -/
theorem updateEntries_eq_fillModes (canUseIddCx110DDIs : Bool) (modes : DisplayModes) (report : ModeReport)
    (cleared : report.buffer = List.replicate modes.length {}) :
    updateEntries canUseIddCx110DDIs modes = (fillModes (updateFill canUseIddCx110DDIs) modes 0 report).buffer := by
  apply List.ext_getElem?
  intro i
  rw [fillModes_buffer, cleared]
  rcases Nat.lt_or_ge i modes.length with inside | beyond
  · simp [updateEntries, updateFill, inside]
  · simp [updateEntries, beyond]

theorem updateEntries_describes (canUseIddCx110DDIs : Bool) (modes : DisplayModes) :
    Describes modes (signalInfo false) (if canUseIddCx110DDIs then .IDDCX_TARGET_MODE2 else .IDDCX_TARGET_MODE)
      (updateEntries canUseIddCx110DDIs modes).length (List.replicate modes.length {})
      (updateEntries canUseIddCx110DDIs modes) := by
  let report : ModeReport := ⟨.STATUS_SUCCESS, modes.length, 0, List.replicate modes.length {}⟩
  have writes (mode : DisplayMode) (entry : ModeEntry) :
      (updateFill canUseIddCx110DDIs mode entry).signalInfo = some (signalInfo false mode) ∧
      (updateFill canUseIddCx110DDIs mode entry).size =
        some (if canUseIddCx110DDIs then .IDDCX_TARGET_MODE2 else .IDDCX_TARGET_MODE) := ⟨rfl, rfl⟩
  have filled := fillModes_describes _ writes modes report rfl (by simp [report])
  rw [← updateEntries_eq_fillModes canUseIddCx110DDIs modes report rfl] at filled
  exact ⟨by simp [updateEntries], filled.written, filled.kept⟩

theorem preferredIndex_inside {modes : DisplayModes} (nonempty : modes ≠ []) : preferredIndex modes < modes.length := by
  by_contra beyond
  have nothing := getElem?_preferredIndex modes
  rw [List.getElem?_eq_none (Nat.not_lt.mp beyond)] at nothing
  cases modes with
  | nil => exact nonempty rfl
  | cons => simp at nothing

theorem enumeration_preferred (canUseIddCx110DDIs : Bool) {callback : Enumeration} {modes : DisplayModes}
    {buffer : Option (List ModeEntry)} (monitor : callback.monitorSide = true)
    (room : modes.length ≤ inputCount buffer) :
    (callback.report canUseIddCx110DDIs modes buffer).preferredIdx = preferredIndex modes := by
  have reported (fill : DisplayMode → ModeEntry → ModeEntry) :
      (reportModes fill modes buffer).preferredIdx = preferredIndex modes := by
    rw [reportModes_preferred, if_neg (Nat.not_lt.mpr room)]
  cases callback with
  | parseMonitorDescription => exact reported _
  | monitorGetDefaultModes => exact reported _
  | parseMonitorDescription2 => exact reported _
  | monitorQueryTargetModes => cases monitor
  | monitorQueryTargetModes2 => cases monitor

/-- Every callback with enough room and both branches of an update describe the one
list, and the two sides tell of each mode the same but for the divider. -/
theorem enumerations_agree (canUseIddCx110DDIs : Bool) (modes : DisplayModes) (callback : Enumeration)
    (buffer : Option (List ModeEntry)) (room : modes.length ≤ inputCount buffer) :
    Describes modes (signalInfo callback.monitorSide) callback.entryType
      (callback.report canUseIddCx110DDIs modes buffer).outputCount (buffer.getD [])
      (callback.report canUseIddCx110DDIs modes buffer).buffer ∧
    (callback.monitorSide = true →
      (callback.report canUseIddCx110DDIs modes buffer).preferredIdx = preferredIndex modes ∧
      (modes ≠ [] → preferredIndex modes < modes.length)) ∧
    Describes modes (signalInfo false) (if canUseIddCx110DDIs then .IDDCX_TARGET_MODE2 else .IDDCX_TARGET_MODE)
      (updateEntries canUseIddCx110DDIs modes).length (List.replicate modes.length {})
      (updateEntries canUseIddCx110DDIs modes) ∧
    ∀ mode ∈ modes,
      (∀ side, Carries mode (signalInfo side mode) ∧ (mode.InRange → CarriesExactly mode (signalInfo side mode))) ∧
      (signalInfo true mode).vSyncFreqDivider = 0 ∧
      signalInfo false mode = { signalInfo true mode with vSyncFreqDivider := 1 } := by
  refine ⟨enumeration_describes canUseIddCx110DDIs callback room, ?_, updateEntries_describes _ modes, ?_⟩
  · intro monitor
    exact ⟨enumeration_preferred canUseIddCx110DDIs monitor room, preferredIndex_inside⟩
  · intro mode _
    exact ⟨fun side => ⟨signalInfo_carries side mode, signalInfo_exact side⟩, signalInfo_sides mode⟩

theorem enumerations_agree_pair :
    (Enumeration.monitorQueryTargetModes2.report true [⟨1920, 1080, 60, true⟩, ⟨800, 600, 75, false⟩]
      (some [{}, {}, { requiredBandwidth := 7 }])).outputCount = 2 :=
  (enumerations_agree true [⟨1920, 1080, 60, true⟩, ⟨800, 600, 75, false⟩] .monitorQueryTargetModes2
    (some [{}, {}, { requiredBandwidth := 7 }]) (by decide)).1.count

/-- The protocol of a call: ask for the count with no buffer, then hand in a buffer
of at least that many entries. -/
structure CountThenFill (modes : DisplayModes) (buffer : Option (List ModeEntry)) (report : ModeReport) : Prop where
  count : report.outputCount = modes.length
  untouched : inputCount buffer < modes.length → report.buffer = buffer.getD []
  status : report.status =
    if 0 < inputCount buffer ∧ inputCount buffer < modes.length then .STATUS_BUFFER_TOO_SMALL else .STATUS_SUCCESS

theorem reportModes_countThenFill (fill : DisplayMode → ModeEntry → ModeEntry) (modes : DisplayModes)
    (buffer : Option (List ModeEntry)) : CountThenFill modes buffer (reportModes fill modes buffer) := by
  rcases Nat.lt_or_ge (inputCount buffer) modes.length with short | room
  · have answered : reportModes fill modes buffer =
        ⟨if inputCount buffer > 0 then .STATUS_BUFFER_TOO_SMALL else .STATUS_SUCCESS, modes.length, 0, buffer.getD []⟩ := by
      simp only [reportModes, if_pos short]
    exact ⟨by rw [answered], fun _ => by rw [answered], by simp [answered, short]⟩
  · have enough : ¬ inputCount buffer < modes.length := Nat.not_lt.mpr room
    constructor
    · simp [reportModes, enough]
    · exact fun short => absurd short enough
    · simp [reportModes, enough]

/-- The one callback with a body of its own counts and leaves a short buffer alone as
the others do; its status is success up to a null pointer it would have to fill. -/
theorem monitorQueryTargetModes2_status (canUseIddCx110DDIs : Bool) (modes : DisplayModes)
    (buffer : Option (List ModeEntry)) :
    (monitorQueryTargetModes2 canUseIddCx110DDIs modes buffer).outputCount = modes.length ∧
    (inputCount buffer < modes.length →
      (monitorQueryTargetModes2 canUseIddCx110DDIs modes buffer).buffer = buffer.getD []) ∧
    (monitorQueryTargetModes2 canUseIddCx110DDIs modes buffer).status =
      if buffer.isNone ∧ modes = [] then .STATUS_INVALID_PARAMETER else .STATUS_SUCCESS := by
  unfold monitorQueryTargetModes2
  rcases Nat.lt_or_ge (inputCount buffer) modes.length with short | room
  · have some_mode : modes ≠ [] := List.ne_nil_of_length_pos (by omega)
    simp [short, some_mode]
  · have enough : ¬ inputCount buffer < modes.length := Nat.not_lt.mpr room
    cases buffer with
    | none =>
      obtain rfl : modes = [] := List.eq_nil_of_length_eq_zero (Nat.le_zero.mp room)
      simp [inputCount]
    | some entries => simp [enough]

/-- The five callbacks follow the protocol, and the newer ones answer as the older,
exactly on calls that only ask for the count of a list that is not empty and on calls
with a buffer that has room. -/
theorem countThenFill_iff (canUseIddCx110DDIs : Bool) (modes : DisplayModes) (buffer : Option (List ModeEntry)) :
    (∀ callback : Enumeration,
      CountThenFill modes buffer (callback.report canUseIddCx110DDIs modes buffer) ∧
      (callback.report canUseIddCx110DDIs modes buffer).status =
        (callback.older.report canUseIddCx110DDIs modes buffer).status ∧
      (callback.report canUseIddCx110DDIs modes buffer).outputCount =
        (callback.older.report canUseIddCx110DDIs modes buffer).outputCount) ↔
    (inputCount buffer = 0 ∧ modes ≠ []) ∨ (modes.length ≤ inputCount buffer ∧ buffer.isSome) := by
  obtain ⟨counted, untouched, status⟩ := monitorQueryTargetModes2_status canUseIddCx110DDIs modes buffer
  constructor
  · intro every
    have expected := (every .monitorQueryTargetModes2).1.status
    rw [Enumeration.report, status] at expected
    rcases Nat.lt_or_ge (inputCount buffer) modes.length with short | room
    · have some_mode : modes ≠ [] := List.ne_nil_of_length_pos (by omega)
      refine .inl ⟨?_, some_mode⟩
      by_contra some_entry
      simp [some_mode, short, Nat.pos_of_ne_zero some_entry] at expected
    · refine .inr ⟨room, ?_⟩
      cases buffer with
      | none =>
        obtain rfl : modes = [] := List.eq_nil_of_length_eq_zero (Nat.le_zero.mp room)
        simp at expected
      | some entries => rfl
  · intro condition
    have regular : ¬ (buffer.isNone ∧ modes = []) ∧ ¬ (0 < inputCount buffer ∧ inputCount buffer < modes.length) := by
      rcases condition with ⟨nothing, some_mode⟩ | ⟨room, held⟩
      · exact ⟨fun excluded => some_mode excluded.2, by omega⟩
      · refine ⟨fun excluded => ?_, by omega⟩
        cases buffer with
        | none => cases held
        | some entries => cases excluded.1
    have newer : CountThenFill modes buffer (monitorQueryTargetModes2 canUseIddCx110DDIs modes buffer) :=
      ⟨counted, untouched, by rw [status, if_neg regular.1, if_neg regular.2]⟩
    have follows (callback : Enumeration) :
        CountThenFill modes buffer (callback.report canUseIddCx110DDIs modes buffer) := by
      cases callback with
      | parseMonitorDescription => exact reportModes_countThenFill _ modes buffer
      | monitorGetDefaultModes => exact reportModes_countThenFill _ modes buffer
      | monitorQueryTargetModes => exact reportModes_countThenFill _ modes buffer
      | parseMonitorDescription2 => exact reportModes_countThenFill _ modes buffer
      | monitorQueryTargetModes2 => exact newer
    intro callback
    exact ⟨follows callback, (follows callback).status.trans (follows callback.older).status.symm,
      (follows callback).count.trans (follows callback.older).count.symm⟩

/-- One entry for two modes: the newest callback reports success. -/
theorem countThenFill_violated :
    ¬ ∀ (canUseIddCx110DDIs : Bool) (modes : DisplayModes) (buffer : Option (List ModeEntry)) (callback : Enumeration),
      CountThenFill modes buffer (callback.report canUseIddCx110DDIs modes buffer) := by
  intro claim
  have status := (claim true [⟨1920, 1080, 60, true⟩, ⟨800, 600, 60, false⟩] (some [{}])
    .monitorQueryTargetModes2).status
  exact absurd status (by decide)

end QubesIdd
