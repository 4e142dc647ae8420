import QubesIdd.Library.EdidReader
import QubesIdd.Proofs.EdidBlock
import QubesIdd.Proofs.TimingLayout

/-! `CEdid::Build` and a reader of EDID 1.4 blocks are inverse to each other up to what the
block has room for: the three modes that get a slot, without their preferred flags. -/

namespace QubesIdd.CEdid
open Library Library.StableSort

/-- The modes whose timings the block holds. -/
def stored (modes : DisplayModes) : DisplayModes := (selected modes).take EDID_BASE_DETAILED_TIMING_COUNT

/-- What a reader makes of the four descriptors. -/
def descriptorsOf (modes : DisplayModes) : List Edid.Descriptor :=
  (stored modes).map (fun mode => .timing (idealTiming mode)) ++
    List.replicate (EDID_BASE_DETAILED_TIMING_COUNT - (stored modes).length) (.other 0) ++ [.name QUBES]

/-- The block as a reader understands it. -/
def contents (modes : DisplayModes) : Edid.BaseBlock where
  manufacturer := ['Q', 'B', 'S']
  product := 0x1ddd
  serial := 1
  week := 1
  year := 2026
  descriptors := descriptorsOf modes
  extensions := 0

theorem stored_accepted {modes : DisplayModes} {mode : DisplayMode} (kept : mode ∈ stored modes) :
    mode ∈ modes ∧ accepts mode = true := by
  obtain ⟨listed, accepted⟩ := List.mem_filter.mp (List.mem_of_mem_take kept)
  exact ⟨(perm less modes).mem_iff.mp listed, accepted⟩

/-- Everything in front of the descriptors is the same for every list. -/
theorem build_leading (modes : DisplayModes) :
    (build modes).take 54 = (initEdidBaseBlock EdidBaseBlock.zero).leading := by
  have before (block : List UInt8) : (setChecksum block).take 54 = block.take 54 := by
    rw [setChecksum, EDID_BLOCK_SIZE, List.take_set_of_le (by decide)]
  rw [build, before, EdidBaseBlock.bytes, List.take_append_of_le_length (by rw [EdidBaseBlock.leading_length]),
    List.take_of_length_le (by rw [EdidBaseBlock.leading_length])]
  rfl

theorem build_byteAt (modes : DisplayModes) {index : Nat} (inside : index < 54) :
    Edid.byteAt (build modes) index = Edid.byteAt (initEdidBaseBlock EdidBaseBlock.zero).leading index := by
  rw [← build_leading modes, Edid.byteAt_take _ inside]

theorem build_believed (modes : DisplayModes) : Edid.Believed (build modes) := by
  constructor
  · rw [build, setChecksum_length, EdidBaseBlock.bytes_length]
  · rw [show (8 : Nat) = min 8 54 from rfl, ← List.take_take, build_leading]
    rfl
  · rw [build_byteAt modes (by decide), build_byteAt modes (by decide)]
    exact ⟨rfl, rfl⟩
  · exact setChecksum_sum _ (EdidBaseBlock.bytes_length _)

/-- A stored mode always has a clock, which is what tells its descriptor from the others. -/
theorem accepted_clocked {mode : DisplayMode} (accepted : accepts mode = true) :
    (idealTiming mode).pixelClock10KHz ≠ 0 := by
  have encodable := accepts_encodable mode accepted
  have exact := unwrapped mode (UInt32.le_iff_toNat_le.mp encodable.width.2) (UInt32.le_iff_toNat_le.mp encodable.height.2)
  rw [← exact.clock]
  intro zero
  exact encodable.clock.1 (UInt64.toNat_inj.mp zero)

theorem readDescriptor_build (modes : DisplayModes) (slot : Nat) (inside : slot < 3) :
    Edid.readDescriptor (Edid.descriptor (build modes) slot) =
      (((selected modes)[slot]?.map fun mode => .timing (idealTiming mode)).getD (.other 0)) := by
  rw [build_timing modes slot inside]
  cases taken : (selected modes)[slot]? with
  | none => rfl
  | some mode =>
    have accepted := (List.mem_filter.mp (List.mem_of_getElem? taken)).2
    exact Edid.readDescriptor_timing (accepted_decoded mode accepted).1 (accepted_clocked accepted)

theorem readDescriptors_build (modes : DisplayModes) : Edid.readDescriptors (build modes) = descriptorsOf modes := by
  have few : (stored modes).length ≤ 3 := List.length_take_le _ _
  apply List.ext_getElem?
  intro slot
  simp only [Edid.readDescriptors, descriptorsOf, EDID_BASE_DETAILED_TIMING_COUNT, List.getElem?_map]
  rcases Nat.lt_trichotomy slot 3 with timing | rfl | beyond
  · rw [List.getElem?_append_left (by simp; omega), List.getElem?_range (by omega), Option.map_some,
      readDescriptor_build modes slot timing]
    have same : (stored modes)[slot]? = (selected modes)[slot]? := List.getElem?_take_of_lt timing
    cases taken : (selected modes)[slot]? with
    | none =>
      have free : (stored modes).length ≤ slot := List.getElem?_eq_none_iff.mp (same.trans taken)
      rw [List.getElem?_append_right (by simpa using free), List.getElem?_replicate, if_pos (by simp; omega)]
      rfl
    | some mode =>
      have used : slot < (stored modes).length := (List.getElem?_eq_some_iff.mp (same.trans taken)).1
      rw [List.getElem?_append_left (by simpa using used), List.getElem?_map, same, taken]
      rfl
  · rw [List.getElem?_append_right (by simp; omega), List.getElem?_range (by decide), Option.map_some, build_name modes]
    simp [show 3 - ((stored modes).length + (3 - (stored modes).length)) = 0 by omega]
    decide
  · rw [List.getElem?_eq_none_iff.mpr (by simp; omega), List.getElem?_eq_none_iff.mpr (by simp; omega)]
    rfl

/-- A reader of EDID 1.4 believes every block and reads back what went into it. -/
theorem readBlock_build (modes : DisplayModes) : Edid.readBlock (build modes) = some (contents modes) := by
  have extensions : Edid.byteAt (build modes) 126 = 0 := by
    have count : Edid.extensionCount (build modes) = some 0 := by
      rw [build, extensionCount_setChecksum, EdidBaseBlock.bytes_extensionCount]
      rfl
    rw [Edid.byteAt, List.getD_eq_getElem?_getD, show (build modes)[126]? = some 0 from count]
    rfl
  have manufacturer : Edid.readManufacturer (Edid.byteAt (build modes) 8) (Edid.byteAt (build modes) 9) =
      some ['Q', 'B', 'S'] := by
    rw [build_byteAt modes (by decide), build_byteAt modes (by decide)]
    decide
  rw [Edid.readBlock_believed (build_believed modes) manufacturer, readDescriptors_build, extensions]
  simp only [build_byteAt modes (show 10 < 54 by decide), build_byteAt modes (show 11 < 54 by decide),
    build_byteAt modes (show 12 < 54 by decide), build_byteAt modes (show 13 < 54 by decide),
    build_byteAt modes (show 14 < 54 by decide), build_byteAt modes (show 15 < 54 by decide),
    build_byteAt modes (show 16 < 54 by decide), build_byteAt modes (show 17 < 54 by decide)]
  rfl

theorem contents_timings (modes : DisplayModes) : (contents modes).timings = (stored modes).map idealTiming := by
  simp [contents, descriptorsOf, Edid.BaseBlock.timings, Edid.Descriptor.decoded, List.filterMap_append,
    List.filterMap_map, Function.comp_def, List.filterMap_replicate]

/-- Sizes are told apart by their timings once a frame has 10000 pixels. -/
theorem idealTiming_size {first second : DisplayMode} (valid : first.InRange)
    (same : idealTiming first = idealTiming second) : first.size = second.size := by
  obtain ⟨clock, width, _, height, _⟩ := (Edid.DetailedTiming.mk.injEq ..).mp same
  have width : first.width = second.width := UInt32.toNat_inj.mp width
  have height : first.height = second.height := UInt32.toNat_inj.mp height
  rw [← width, ← height] at clock
  have frame : 640 * 480 ≤ (idealTiming first).total :=
    Nat.mul_le_mul (Nat.le_add_right_of_le valid.width.1) (Nat.le_add_right_of_le valid.height.1)
  have refresh := UInt32.toNat_inj.mp (refresh_of_clock (Nat.le_trans (by omega) frame) clock)
  rw [DisplayMode.size, DisplayMode.size, width, height, refresh]

/-- The preferred flag orders modes and is not written into their slot. -/
theorem timingBytes_congr {first second : DisplayMode} (same : first.size = second.size) :
    timingBytes first = timingBytes second := by
  obtain ⟨width, height, refresh, preferred⟩ := first
  obtain ⟨_, _, _, _⟩ := second
  cases same
  rfl

/-- Nothing but the sizes of the stored modes goes into a block. -/
theorem build_congr {first second : DisplayModes}
    (same : (stored first).map DisplayMode.size = (stored second).map DisplayMode.size) : build first = build second := by
  have slots (slot : Nat) (timing : slot < 3) :
      (selected first)[slot]?.map timingBytes = (selected second)[slot]?.map timingBytes := by
    have sizes := congrArg (fun list => list[slot]?) same
    simp only [stored, EDID_BASE_DETAILED_TIMING_COUNT, List.getElem?_map, List.getElem?_take_of_lt timing] at sizes
    cases kept : (selected first)[slot]? with
    | none =>
      cases other : (selected second)[slot]? with
      | none => rfl
      | some mode => simp [kept, other] at sizes
    | some mode =>
      cases other : (selected second)[slot]? with
      | none => simp [kept, other] at sizes
      | some mode' =>
        rw [kept, other] at sizes
        exact congrArg some (timingBytes_congr (Option.some.inj sizes))
  have descriptors : selectTimings (stableSort less first) 0 (initEdidBaseBlock EdidBaseBlock.zero).descriptors =
      selectTimings (stableSort less second) 0 (initEdidBaseBlock EdidBaseBlock.zero).descriptors := by
    have clear (index : Nat) (_ : 0 ≤ index) (timing : index < 3) :
        (initEdidBaseBlock EdidBaseBlock.zero).descriptors[index]? = some EdidDescriptor.zero := by
      simp [initEdidBaseBlock, EdidBaseBlock.zero, show index < 4 by omega]
    apply Vector.ext
    intro slot inside
    apply Option.some.inj
    rw [← Vector.getElem?_eq_getElem, ← Vector.getElem?_eq_getElem, selectTimings_slots _ _ _ clear, selectTimings_slots _ _ _ clear]
    split
    next timing => exact congrArg (fun bytes => some (Option.getD bytes EdidDescriptor.zero)) (slots slot timing.2)
    next => rfl
  rw [build, build, descriptors]

/-- Every block reads back as the identity of the display, its name and the timings of the
stored modes. Blocks of lists in range are equal exactly when the same sizes are stored in
the same order. -/
theorem build_tells_stored :
    (∀ modes, Edid.readBlock (build modes) = some (contents modes) ∧
      (contents modes).timings = (stored modes).map idealTiming) ∧
    ∀ first second : DisplayModes, (∀ mode ∈ first, mode.InRange) →
      (build first = build second ↔ (stored first).map DisplayMode.size = (stored second).map DisplayMode.size) := by
  refine ⟨fun modes => ⟨readBlock_build modes, contents_timings modes⟩, ?_⟩
  intro first second valid
  refine ⟨?_, build_congr⟩
  intro same
  have read : contents first = contents second := by
    apply Option.some.inj
    rw [← readBlock_build first, ← readBlock_build second, same]
  have timings : (stored first).map idealTiming = (stored second).map idealTiming := by
    rw [← contents_timings first, ← contents_timings second, read]
  apply List.ext_getElem?
  intro slot
  have timing := congrArg (fun list => list[slot]?) timings
  simp only [List.getElem?_map] at timing ⊢
  cases kept : (stored first)[slot]? with
  | none => cases other : (stored second)[slot]? <;> simp_all
  | some mode =>
    cases other : (stored second)[slot]? with
    | none => simp [kept, other] at timing
    | some mode' =>
      rw [kept, other] at timing
      have ranged := valid mode (stored_accepted (List.mem_of_getElem? kept)).1
      exact congrArg some (idealTiming_size ranged (Option.some.inj timing))

/-- The flag moves to the first mode, which had the first slot before. -/
theorem build_tells_stored_flag :
    build [⟨1920, 1080, 60, true⟩, ⟨1024, 768, 60, false⟩] = build [⟨1920, 1080, 60, false⟩, ⟨1024, 768, 60, false⟩] := by
  have valid : ∀ mode ∈ ([⟨1920, 1080, 60, true⟩, ⟨1024, 768, 60, false⟩] : DisplayModes), mode.InRange := by
    intro mode listed
    rcases List.mem_pair.mp listed with rfl | rfl
    · exact ⟨by decide, by decide, by decide⟩
    · exact ⟨by decide, by decide, by decide⟩
  exact (build_tells_stored.2 _ _ valid).mpr (by decide)

end QubesIdd.CEdid
