import QubesIdd.Proofs.ModeAssembly
import QubesIdd.Proofs.TimingCodec

/-! Sizes that are listed twice. The extra mode stands in front of a list that is not
searched for it, so its size may be there a second time and take a second slot. -/

namespace QubesIdd.CSettings
open Library

def sizes (modes : DisplayModes) : List (UInt32 × UInt32 × UInt32) := modes.map DisplayMode.size

section
variable (api : RegApi) (scratch parseScratch : DisplayMode)

/-- Where the configured strings are used, no two of them denote the same size. -/
def RepeatFree : Prop :=
  (readModesValue api).1 = true →
    (sizes ((readModesValue api).2.filterMap fun text => succeeded (parseModeString text parseScratch))).Nodup

/-- The timing descriptors in use, at most three. -/
def timings (modes : DisplayModes) : List (List UInt8) :=
  (List.range (min 3 (modes.countP CEdid.accepts))).map (Edid.descriptor (CEdid.build modes))

@[simp] theorem unprefer_size (mode : DisplayMode) : (unprefer mode).size = mode.size := rfl

theorem sizes_displace (extra : Option DisplayMode) (listed : DisplayModes) :
    sizes (displace extra listed) = sizes extra.toList ++ sizes listed := by
  cases extra with
  | none => rfl
  | some mode => cases marked : mode.preferred <;> simp [displace, sizes, marked, Function.comp_def]

theorem defaultModes_distinct (refresh : UInt32) (hasPreferred : Bool) : (sizes (defaultModes refresh hasPreferred)).Nodup := by
  have table : DefaultDisplayModes.Nodup := by decide
  have same : sizes (defaultModes refresh hasPreferred) = DefaultDisplayModes.map fun size => (size.1, size.2, refresh) := rfl
  rw [same]
  apply table.map
  intro first second equal
  simp only [Prod.mk.injEq, and_true] at equal
  exact Prod.ext equal.1 equal.2

variable {api parseScratch}

theorem configured_distinct (distinct : RepeatFree api parseScratch) : (sizes (configured api)).Nodup := by
  have parses (text : WString) : succeeded (parseModeString text parseScratch) = parsed? text :=
    (parseModeString_agrees text _).succeeded
  unfold RepeatFree at distinct
  unfold configured
  cases read : readModesValue api with
  | mk usable entries =>
    rw [read] at distinct
    cases usable with
    | false => exact defaultModes_distinct _ _
    | true => simpa only [parses] using distinct rfl

/-- A size is listed once for the extra mode and once for the list without it. -/
theorem loadModes_count (distinct : RepeatFree api parseScratch) (size : UInt32 × UInt32 × UInt32) :
    (sizes (loadModes api scratch)).count size =
      (if (extraMode? api).any (·.size = size) then 1 else 0) + if size ∈ sizes (configured api) then 1 else 0 := by
  rw [loadModes_displace, sizes_displace, List.count_append, (configured_distinct distinct).count]
  congr 1
  cases extraMode? api with
  | none => rfl
  | some mode => simp [sizes, List.count_singleton]

end

theorem accepts_size {first second : DisplayMode} (same : first.size = second.size) :
    CEdid.accepts first = CEdid.accepts second ∧ CEdid.timingBytes first = CEdid.timingBytes second := by
  obtain ⟨_, _, _, _⟩ := first
  obtain ⟨_, _, _, _⟩ := second
  cases same
  exact ⟨rfl, rfl⟩

theorem timings_selected (modes : DisplayModes) :
    timings modes = ((CEdid.selected modes).take 3).map fun mode => (CEdid.timingBytes mode).toList := by
  have length := CEdid.selected_length modes
  apply List.ext_getElem
  · simp [timings, length]
  · intro slot inside within
    have taken : slot < (CEdid.selected modes).length := by
      simp only [List.length_map, List.length_take] at within
      omega
    have small : slot < 3 := by
      simp only [List.length_map, List.length_take] at within
      omega
    simp only [timings, List.getElem_map, List.getElem_range, List.getElem_take]
    exact CEdid.build_timing_selected modes slot small _ (List.getElem?_eq_getElem taken)

section
variable {modes : DisplayModes} (valid : ∀ mode ∈ modes, mode.InRange)

theorem selected_member {mode : DisplayMode} (member : mode ∈ CEdid.selected modes) :
    mode ∈ modes ∧ CEdid.accepts mode = true := by
  obtain ⟨inside, accepted⟩ := List.mem_filter.mp member
  exact ⟨StableSort.mem.mp inside, accepted⟩

theorem selected_sizes (size : UInt32 × UInt32 × UInt32) :
    (sizes ((CEdid.selected modes).take 3)).count size ≤ (sizes modes).count size := by
  have inside : ((CEdid.selected modes).take 3).Sublist (StableSort.stableSort CEdid.less modes) :=
    (List.take_sublist 3 _).trans List.filter_sublist
  calc (sizes ((CEdid.selected modes).take 3)).count size
      ≤ (sizes (StableSort.stableSort CEdid.less modes)).count size := (inside.map _).count_le _
    _ = (sizes modes).count size := ((StableSort.perm CEdid.less modes).map _).count_eq _

include valid

theorem bytes_iff {first second : DisplayMode} (firstTaken : first ∈ CEdid.selected modes) (secondTaken : second ∈ CEdid.selected modes) :
    CEdid.timingBytes first = CEdid.timingBytes second ↔ first.size = second.size := by
  obtain ⟨inside, accepted⟩ := selected_member firstTaken
  obtain ⟨_, otherAccepted⟩ := selected_member secondTaken
  constructor
  · intro same
    exact CEdid.timingBytes_size accepted otherAccepted (valid first inside) same
  · intro same
    exact (accepts_size same).2

/-- Timings repeat where sizes do. -/
theorem timings_nodup : (timings modes).Nodup ↔ (sizes ((CEdid.selected modes).take 3)).Nodup := by
  rw [timings_selected, sizes, List.Nodup, List.Nodup, List.pairwise_map, List.pairwise_map]
  apply List.Pairwise.iff_of_mem
  intro first second firstTaken secondTaken
  exact not_congr (Vector.toList_inj.trans (bytes_iff valid (List.mem_of_mem_take firstTaken) (List.mem_of_mem_take secondTaken)))

theorem timings_count {mode : DisplayMode} (taken : mode ∈ (CEdid.selected modes).take 3) :
    (timings modes).count (CEdid.timingBytes mode).toList = (sizes ((CEdid.selected modes).take 3)).count mode.size := by
  rw [timings_selected, sizes, List.count_eq_countP, List.count_eq_countP, List.countP_map, List.countP_map]
  apply List.countP_congr
  intro other inside
  simpa using bytes_iff valid (List.mem_of_mem_take inside) (List.mem_of_mem_take taken)

end

theorem less_unprefer {mode other : DisplayMode} (same : other.size = mode.size) : CEdid.less (unprefer mode) other = false := by
  obtain ⟨_, _, _, _⟩ := mode
  obtain ⟨_, _, _, preferred⟩ := other
  cases same
  cases preferred <;> simp [CEdid.less, unprefer]

section
variable {api : RegApi} {parseScratch mode : DisplayMode} (scratch : DisplayMode) (distinct : RepeatFree api parseScratch)
  (found : extraMode? api = some mode) (listed : mode.size ∈ sizes (configured api))
include found listed

/-- One of the two copies has no mark. -/
theorem unprefer_listed : unprefer mode ∈ loadModes api scratch := by
  rw [loadModes_displace, found]
  cases marked : mode.preferred with
  | false =>
    have same : unprefer mode = mode := by
      rw [unprefer, ← marked]
    simp [displace, same]
  | true =>
    obtain ⟨other, inside, same⟩ := List.mem_map.mp listed
    have copy : unprefer mode = unprefer other := by
      obtain ⟨_, _, _, _⟩ := mode
      cases same
      rfl
    rw [copy]
    simp only [displace, Option.any_some, marked, if_true, Option.toList_some, List.singleton_append, List.mem_cons]
    exact .inr (List.mem_map_of_mem inside)

include distinct

/-- Both copies are among the three exactly if no more than three encodable modes do not sort
behind the one without a mark. -/
theorem twice_iff (accepted : CEdid.accepts mode = true) :
    (sizes ((CEdid.selected (loadModes api scratch)).take 3)).count mode.size = 2 ↔
      (loadModes api scratch).countP (fun other => CEdid.accepts other && !CEdid.less (unprefer mode) other) ≤ 3 := by
  have copies : (sizes (loadModes api scratch)).count mode.size = 2 := by
    rw [loadModes_count scratch distinct, found, if_pos (by simp), if_pos listed]
  have unmarked := unprefer_listed scratch found listed
  generalize loadModes api scratch = modes at copies unmarked
  have inside : unprefer mode ∈ CEdid.selected modes :=
    List.mem_filter.mpr ⟨StableSort.mem.mpr unmarked, (accepts_size (unprefer_size mode)).1.trans accepted⟩
  have counts (items : DisplayModes) : (sizes items).count mode.size = items.countP (·.size = mode.size) := by
    rw [sizes, List.count_eq_countP, List.countP_map]
    apply List.countP_congr
    simp
  have all : (CEdid.selected modes).countP (·.size = mode.size) = 2 := by
    rw [CEdid.selected, List.countP_filter, (StableSort.perm CEdid.less modes).countP_eq, ← copies, counts]
    apply List.countP_congr
    intro other _
    simpa using fun same : other.size = mode.size => (accepts_size same).1.trans accepted
  have place : (CEdid.selected modes).countP (fun other => !CEdid.less (unprefer mode) other) =
      modes.countP fun other => CEdid.accepts other && !CEdid.less (unprefer mode) other := by
    rw [CEdid.selected, List.countP_filter, (StableSort.perm CEdid.less modes).countP_eq]
    apply List.countP_congr
    intro other _
    rw [Bool.and_comm]
  rw [counts, ← place, ← all]
  exact CEdid.less_descending.countP_take ((CEdid.less_descending.sorted modes).filter _) inside (by simp)
    (fun other _ same => less_unprefer (by simpa using same)) 3

end

section
variable {api : RegApi} {parseScratch : DisplayMode} (scratch : DisplayMode) (distinct : RepeatFree api parseScratch)
include distinct

theorem loadModes_nodup :
    (sizes (loadModes api scratch)).Nodup ↔ ∀ mode, extraMode? api = some mode → mode.size ∉ sizes (configured api) := by
  rw [List.nodup_iff_count_le_one]
  constructor
  · intro once mode found listed
    have twice := once mode.size
    rw [loadModes_count scratch distinct] at twice
    simp [found, listed] at twice
  · intro apart size
    rw [loadModes_count scratch distinct]
    split
    next same =>
      obtain ⟨mode, found, same⟩ := (Option.any_eq_true _ _).mp same
      rw [if_neg (of_decide_eq_true same ▸ apart mode found)]
    next => split <;> decide

/-- A slot's size is listed as often as it takes slots, or more. -/
theorem taken_count (size : UInt32 × UInt32 × UInt32) :
    (sizes ((CEdid.selected (loadModes api scratch)).take 3)).count size ≤
      (if (extraMode? api).any (·.size = size) then 1 else 0) + if size ∈ sizes (configured api) then 1 else 0 :=
  (selected_sizes size).trans_eq (loadModes_count scratch distinct size)

theorem timings_twice (timing : List UInt8) :
    (timings (loadModes api scratch)).count timing ≤
      if (extraMode? api).any fun mode => (CEdid.timingBytes mode).toList = timing then 2 else 1 := by
  by_cases member : timing ∈ timings (loadModes api scratch)
  · rw [timings_selected] at member
    obtain ⟨mode, inside, rfl⟩ := List.mem_map.mp member
    rw [timings_count (fun _ => loadModes_inRange) inside]
    refine (taken_count scratch distinct mode.size).trans ?_
    split
    next same =>
      obtain ⟨other, found, same⟩ := (Option.any_eq_true _ _).mp same
      have bytes := (accepts_size (of_decide_eq_true same)).2
      have allowed : (extraMode? api).any (fun extra => (CEdid.timingBytes extra).toList = (CEdid.timingBytes mode).toList) = true := by
        simp [found, bytes]
      rw [if_pos allowed]
      split <;> decide
    next => split <;> split <;> decide
  · rw [List.count_eq_zero_of_not_mem member]
    exact Nat.zero_le _

theorem timings_nodup_iff :
    (timings (loadModes api scratch)).Nodup ↔
      ∀ mode, extraMode? api = some mode → mode.size ∈ sizes (configured api) → CEdid.accepts mode = true →
        3 < (loadModes api scratch).countP fun other => CEdid.accepts other && !CEdid.less (unprefer mode) other := by
  rw [timings_nodup fun _ => loadModes_inRange, List.nodup_iff_count_le_one]
  constructor
  · intro once mode found listed accepted
    have alone := once mode.size
    by_contra few
    have twice := (twice_iff scratch distinct found listed accepted).mpr (not_lt.mp few)
    exact absurd (twice.symm.trans_le alone) (by decide)
  · intro behind size
    by_contra more
    rw [not_le] at more
    obtain ⟨other, inside, rfl⟩ := List.mem_map.mp (List.count_pos_iff.mp (Nat.zero_lt_of_lt more))
    have bound := taken_count scratch distinct other.size
    split at bound
    next same =>
      obtain ⟨mode, found, same⟩ := (Option.any_eq_true _ _).mp same
      have same : mode.size = other.size := of_decide_eq_true same
      have accepted : CEdid.accepts mode = true :=
        (accepts_size same).1.trans (selected_member (List.mem_of_mem_take inside)).2
      rw [← same] at more bound
      split at bound
      next listed =>
        have few := (twice_iff scratch distinct found listed accepted).mp (Nat.le_antisymm bound more)
        exact absurd (behind mode found listed accepted) (not_lt.mpr few)
      next => exact absurd (more.trans_le bound) (by decide)
    next => split at bound <;> exact absurd (more.trans_le bound) (by decide)

end

/-- The extra mode is the only one that can be listed twice, and the only one that can take
two of the three slots. It is listed twice if the list has it as well, and takes two slots if
in addition it is encodable and few encodable modes come before its unmarked copy. -/
theorem loadModes_repeats (api : RegApi) (scratch parseScratch : DisplayMode) (distinct : RepeatFree api parseScratch) :
    let modes := loadModes api scratch
    let extra := succeeded (getExtraMode api parseScratch)
    (∀ size, (sizes modes).count size =
      (if extra.any (·.size = size) then 1 else 0) + if size ∈ sizes (configured api) then 1 else 0) ∧
    ((sizes modes).Nodup ↔ ∀ mode, extra = some mode → mode.size ∉ sizes (configured api)) ∧
    (∀ timing, (timings modes).count timing ≤ if extra.any fun mode => (CEdid.timingBytes mode).toList = timing then 2 else 1) ∧
    ((timings modes).Nodup ↔ ∀ mode, extra = some mode → mode.size ∈ sizes (configured api) → CEdid.accepts mode = true →
      3 < modes.countP fun other => CEdid.accepts other && !CEdid.less (unprefer mode) other) := by
  intro modes extra
  have parsed : extra = extraMode? api := (getExtraMode_agrees api _).succeeded
  rw [parsed]
  exact ⟨loadModes_count scratch distinct, loadModes_nodup scratch distinct, timings_twice scratch distinct,
    timings_nodup_iff scratch distinct⟩

/-- A key with this extra mode. -/
def withExtra (text : String) : RegKey := { extraMode := some ⟨.REG_SZ, toBytes (wide text.toList ++ [0])⟩ }

/-- An extra mode that the default table does not have. -/
theorem loadModes_repeats_default : (sizes (loadModes (Registry.api ⟨some (withExtra "1000x700@60*"), true⟩) default)).Nodup :=
  (loadModes_repeats (Registry.api ⟨some (withExtra "1000x700@60*"), true⟩) default default (fun used => absurd used (by decide))).2.1.mpr
    (by decide +kernel)

/-- The configured list has the extra mode as well. -/
def bothListed : Registry :=
  withModes (withExtra "1280x720@60*")
    ⟨[wide "800x600@60".toList, wide "1024x768@60".toList, wide "1280x720@60".toList], by decide, by decide⟩

theorem bothListed_modes : loadModes bothListed.api default =
    [⟨1280, 720, 60, true⟩, ⟨800, 600, 60, false⟩, ⟨1024, 768, 60, false⟩, ⟨1280, 720, 60, false⟩] := by
  decide +kernel

theorem bothListed_distinct : RepeatFree bothListed.api default := by
  rw [RepeatFree, bothListed, readModesValue_strings]
  decide +kernel

/-- The extra mode takes two slots, and 800x600 gets none. -/
theorem loadModes_repeats_violated :
    (¬ ∀ (api : RegApi) (scratch parseScratch : DisplayMode), RepeatFree api parseScratch → (sizes (loadModes api scratch)).Nodup) ∧
    ¬ ∀ (api : RegApi) (scratch parseScratch : DisplayMode), RepeatFree api parseScratch → (timings (loadModes api scratch)).Nodup := by
  constructor
  · intro claim
    have distinct := claim bothListed.api default default bothListed_distinct
    rw [bothListed_modes] at distinct
    exact absurd distinct (by decide)
  · intro claim
    have distinct := claim bothListed.api default default bothListed_distinct
    rw [bothListed_modes] at distinct
    exact absurd distinct (by decide +kernel)

end QubesIdd.CSettings
