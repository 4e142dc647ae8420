import QubesIdd.DeviceContext
import QubesIdd.Proofs.EdidBlock
import QubesIdd.Proofs.ModeList
import QubesIdd.Proofs.TimingCodec

/-! The two places that tell Windows the preferred mode: the index the mode callbacks
report, which follows the order of the list, and the first timing of the EDID, which
follows the sort. -/

namespace QubesIdd
open CSettings CEdid Library

theorem leading_preferredIdx (mode : DisplayMode) (others : DisplayModes) (buffer : Option (List ModeEntry)) :
    (parseMonitorDescription (mode :: others.map unprefer) buffer).preferredIdx = 0 := by
  have unmarked : ((others.map unprefer).zipIdx 1).filter (fun entry => entry.1.preferred) = [] := by
    rw [List.filter_eq_nil_iff]
    intro entry member
    obtain ⟨other, _, same⟩ := List.mem_map.mp (List.fst_mem_of_mem_zipIdx member)
    simp [← same, unprefer]
  rw [parseMonitorDescription, reportModes_preferred, preferredIndex, List.zipIdx_cons]
  split
  · rfl
  · cases marked : mode.preferred <;> simp [marked, unmarked]

/-- A mode no encodable mode sorts before gets the first timing slot. -/
theorem largest_descriptor (modes : DisplayModes) (mode : DisplayMode) (member : mode ∈ modes)
    (accepted : accepts mode = true) (largest : ∀ other ∈ modes, accepts other = true → less other mode = false) :
    Edid.descriptor (build modes) 0 = (timingBytes mode).toList := by
  refine build_timing_selected _ 0 (by omega) mode ?_
  rw [← List.head?_eq_getElem?]
  exact (less_descending.head_filter modes accepts mode).mpr ⟨member, accepted, largest⟩

theorem leading_descriptor (mode : DisplayMode) (others : DisplayModes) (marked : mode.preferred = true)
    (accepted : accepts mode = true) :
    Edid.descriptor (build (mode :: others.map unprefer)) 0 = (timingBytes mode).toList := by
  refine largest_descriptor _ mode List.mem_cons_self accepted fun item member _ => ?_
  rcases List.mem_cons.mp member with rfl | inside
  · exact (less_descending.not_less item item).mpr le_rfl
  · obtain ⟨other, _, rfl⟩ := List.mem_map.mp inside
    simp [less, marked, unprefer]

theorem first_timing {modes : DisplayModes} {mode : DisplayMode} (member : mode ∈ modes) (accepted : accepts mode = true) :
    ∃ top ∈ modes, accepts top = true ∧ (∀ other ∈ modes, accepts other = true → less other top = false) ∧
      Edid.descriptor (build modes) 0 = (timingBytes top).toList := by
  have inside : mode ∈ selected modes := List.mem_filter.mpr ⟨StableSort.mem.mpr member, accepted⟩
  have first := List.head?_eq_some_head (List.ne_nil_of_mem inside)
  generalize (selected modes).head _ = top at first
  obtain ⟨topMember, topAccepted, largest⟩ := (less_descending.head_filter modes accepts top).mp first
  exact ⟨top, topMember, topAccepted, largest, largest_descriptor modes top topMember topAccepted largest⟩

theorem reported_marked {modes : DisplayModes} {mode marked : DisplayMode}
    (reported : modes[preferredIndex modes]? = some mode) (member : marked ∈ modes) (preferred : marked.preferred = true) :
    mode.preferred = true := by
  rw [getElem?_preferredIndex] at reported
  have inside : marked ∈ modes.filter DisplayMode.preferred := List.mem_filter.mpr ⟨member, preferred⟩
  have nonempty := List.ne_nil_of_mem inside
  rw [List.getLast?_eq_some_getLast nonempty, Option.some_or, Option.some.injEq] at reported
  rw [← reported]
  exact (List.mem_filter.mp (List.getLast_mem nonempty)).2

/-- The reported mode, if it can be encoded, is the EDID's first timing. -/
def PreferredAgrees (modes : DisplayModes) (edid : List UInt8) : Prop :=
  ∀ buffer : List ModeEntry, modes.length ≤ buffer.length →
    ∀ mode, modes[(parseMonitorDescription modes (some buffer)).preferredIdx]? = some mode → accepts mode = true →
      Edid.descriptor edid 0 = (timingBytes mode).toList

/-- Over modes in range the two agree exactly if nothing encodable sorts before the
last marked mode, or before the first mode of an unmarked list. -/
theorem preferredAgrees_iff {modes : DisplayModes} (valid : ∀ mode ∈ modes, mode.InRange) :
    PreferredAgrees modes (build modes) ↔
      ∀ mode, ((modes.filter DisplayMode.preferred).getLast?).or modes.head? = some mode → accepts mode = true →
        ∀ other ∈ modes, accepts other = true → less other mode = false := by
  have index (buffer : List ModeEntry) (room : modes.length ≤ buffer.length) :
      (parseMonitorDescription modes (some buffer)).preferredIdx = preferredIndex modes := by
    rw [parseMonitorDescription, reportModes_preferred, if_neg]
    simpa [inputCount] using room
  rw [← getElem?_preferredIndex]
  constructor
  · intro agrees mode reported accepted
    have room : modes.length ≤ (List.replicate modes.length ({} : ModeEntry)).length := by simp
    have encoded := agrees _ room mode (by rw [index _ room]; exact reported) accepted
    have member := List.mem_of_getElem? reported
    obtain ⟨top, topMember, topAccepted, largest, first⟩ := first_timing member accepted
    have size := timingBytes_size topAccepted accepted (valid top topMember)
      (Vector.toList_inj.mp (first.symm.trans encoded))
    have marked : top.preferred = mode.preferred := by
      have above := largest mode member accepted
      cases topMarked : top.preferred with
      | true => exact (reported_marked reported topMember topMarked).symm
      | false => cases modeMarked : mode.preferred <;> simp [less, topMarked, modeMarked] at above ⊢
    obtain rfl : top = mode := by
      obtain ⟨width, height, refresh⟩ : top.width = mode.width ∧ top.height = mode.height ∧ top.refresh = mode.refresh := by
        simpa [DisplayMode.size] using size
      cases top
      cases mode
      simp_all
    exact largest
  · intro largest buffer room mode reported accepted
    rw [index buffer room] at reported
    exact largest_descriptor modes mode (List.mem_of_getElem? reported) accepted (largest mode reported accepted)

/-- What keeps the two places together: a marked extra mode; or an extra mode and a
configured list of which nothing encodable sorts before the last marked entry or, if
none is marked, before the first. -/
def Aligned (extra : Option DisplayMode) (listed : DisplayModes) : Prop :=
  (∃ mode, extra = some mode ∧ mode.preferred = true) ∨
    ∀ mode, (((extra.toList ++ listed).filter DisplayMode.preferred).getLast?).or (extra.toList ++ listed).head? = some mode →
      accepts mode = true → ∀ other ∈ extra.toList ++ listed, accepts other = true → less other mode = false

/-- For every registry content, the reported preferred mode and the EDID's preferred
timing agree in exactly the aligned configurations. -/
theorem preferredMode_agrees_iff (api : RegApi) (scratch : DisplayMode) (context : DeviceContext) :
    let populated := context.populateDefaultModes api scratch
    PreferredAgrees populated.displayModes populated.edid ↔ Aligned (extraMode? api) (configured api) := by
  intro populated
  have edid : populated.edid = build populated.displayModes := rfl
  have listed : populated.displayModes = loadModes api scratch := rfl
  have valid : ∀ mode ∈ populated.displayModes, mode.InRange := fun mode member => loadModes_inRange (listed ▸ member)
  rw [edid]
  by_cases marked : ∃ mode, extraMode? api = some mode ∧ mode.preferred = true
  · obtain ⟨mode, found, preferred⟩ := marked
    refine ⟨fun _ => .inl ⟨mode, found, preferred⟩, fun _ => ?_⟩
    have led : populated.displayModes = mode :: (configured api).map unprefer := by
      rw [listed, loadModes_eq, found]
      simp [preferred]
    rw [led]
    intro buffer _ reported found accepted
    rw [leading_preferredIdx, List.getElem?_cons_zero, Option.some.injEq] at found
    subst found
    exact leading_descriptor _ _ preferred accepted
  · have whole : populated.displayModes = (extraMode? api).toList ++ configured api := by
      rw [listed, loadModes_eq]
      cases found : extraMode? api with
      | none => rfl
      | some mode =>
        cases preferred : mode.preferred with
        | true => exact absurd ⟨mode, found, preferred⟩ marked
        | false => simp [preferred]
    rw [preferredAgrees_iff valid, whole, Aligned, or_iff_right marked]

/-- A list without a mark, smaller mode first: index 0 names 1280x720, the EDID
1920x1080. -/
theorem preferredMode_disagrees :
    ¬ ∀ (reg : Registry) (scratch : DisplayMode) (context : DeviceContext),
      let populated := context.populateDefaultModes reg.api scratch
      PreferredAgrees populated.displayModes populated.edid := by
  intro claim
  let modes : MultiSz :=
    ⟨wide "1280x720@60".toList ++ [0] ++ wide "1920x1080@60".toList ++ [0, 0], List.suffix_append _ _⟩
  let reg : Registry := ⟨some { modes }, true⟩
  let small : DisplayMode := ⟨1280, 720, 60, false⟩
  let large : DisplayMode := ⟨1920, 1080, 60, false⟩
  have listed : loadModes reg.api default = [small, large] := by decide
  have agrees := claim reg default {} (List.replicate 2 {}) (by rw [DeviceContext.populateDefaultModes, listed]; decide)
    small (by rw [DeviceContext.populateDefaultModes, listed]; rfl) (by decide)
  have first : Edid.descriptor (build [small, large]) 0 = (timingBytes large).toList :=
    largest_descriptor _ large (by decide) (by decide) (by decide)
  rw [DeviceContext.populateDefaultModes, listed] at agrees
  exact absurd (first.symm.trans agrees) (by decide)

end QubesIdd
