import Mathlib.Data.Prod.Lex
import Mathlib.Order.Bounds.Basic
import QubesIdd.Edid
import QubesIdd.Library.Edid

/-! What `CEdid::Build` stores, read back through the EDID 1.4 layout. The sort, the
selection loop and the packed layout are separate facts that meet in one theorem. -/

namespace QubesIdd.CEdid
open Library Library.StableSort

def sortKey (mode : DisplayMode) : Bool ×ₗ ℕ ×ₗ ℕ ×ₗ ℕ :=
  toLex (mode.preferred, toLex (mode.width.toNat, toLex (mode.height.toNat, mode.refresh.toNat)))

theorem less_descending : Descending less sortKey where
  compares a b := by
    obtain ⟨aw, ah, ar, ap⟩ := a
    obtain ⟨bw, bh, br, bp⟩ := b
    simp only [less, sortKey, Prod.Lex.toLex_lt_toLex, UInt32.toNat_inj, ← UInt32.lt_iff_toNat_lt]
    by_cases preferred : ap = bp
    · by_cases width : aw = bw
      · by_cases height : ah = bh
        · simp [preferred, width, height]
        · simp [preferred, width, height, eq_comm (a := bh)]
      · simp [preferred, width, eq_comm (a := bw)]
    · cases ap <;> cases bp <;> simp_all
  identifies a b same := by
    obtain ⟨aw, ah, ar, ap⟩ := a
    obtain ⟨bw, bh, br, bp⟩ := b
    simpa [sortKey, UInt32.toNat_inj, and_comm, and_assoc, and_left_comm] using same

/-- The modes that get a slot, in the order in which slots are handed out. -/
def selected (modes : DisplayModes) : DisplayModes := (stableSort less modes).filter accepts

theorem selectTimings_done (modes : DisplayModes) (slot : Nat) (descriptors : Vector EdidDescriptor 4)
    (full : 3 ≤ slot) : selectTimings modes slot descriptors = descriptors := by
  cases modes with
  | nil => rfl
  | cons mode rest => simp [selectTimings, EDID_BASE_DETAILED_TIMING_COUNT, Nat.not_lt.mpr full]

/-- From a slot on, the loop stores the accepted modes and leaves the other timing
slots clear; it never touches an earlier slot or the name slot. -/
theorem selectTimings_slots (modes : DisplayModes) (slot : Nat) (descriptors : Vector EdidDescriptor 4)
    (clear : ∀ index, slot ≤ index → index < 3 → descriptors[index]? = some EdidDescriptor.zero)
    (index : Nat) :
    (selectTimings modes slot descriptors)[index]? =
      if slot ≤ index ∧ index < 3 then
        some (((modes.filter accepts)[index - slot]?.map timingBytes).getD EdidDescriptor.zero)
      else descriptors[index]? := by
  induction modes generalizing slot descriptors with
  | nil =>
    simp only [selectTimings, List.filter_nil, List.getElem?_nil, Option.map_none, Option.getD_none]
    split
    next inside => exact clear index inside.1 inside.2
    next => rfl
  | cons mode rest ih =>
    by_cases room : slot < 3
    swap
    · rw [selectTimings_done _ _ _ (by omega), if_neg (by omega)]
    simp only [selectTimings, EDID_BASE_DETAILED_TIMING_COUNT, room, if_true]
    change (selectTimings rest (if accepts mode then slot + 1 else slot)
      (descriptors.setIfInBounds slot (timingBytes mode)))[index]? = _
    cases accepted : accepts mode with
    | true =>
      rw [if_pos rfl, ih]
      · simp only [List.filter_cons_of_pos accepted, Vector.getElem?_setIfInBounds]
        by_cases here : slot = index
        · subst slot
          simp [room, show index < 4 by omega]
        · by_cases inside : slot ≤ index ∧ index < 3
          · rw [if_pos (by omega), if_pos inside, show index - slot = (index - (slot + 1)) + 1 by omega]
            rfl
          · rw [if_neg (by omega), if_neg inside, if_neg here]
      · intro later behind inside
        rw [Vector.getElem?_setIfInBounds, if_neg (by omega)]
        exact clear later (by omega) inside
    | false =>
      -- The rejected mode was tried in this slot and cleared it again.
      rw [if_neg (by simp), rejected_zero mode accepted, ih]
      · simp only [List.filter_cons_of_neg (by simp [accepted] : ¬ accepts mode = true),
          Vector.getElem?_setIfInBounds]
        by_cases inside : slot ≤ index ∧ index < 3
        · rw [if_pos inside, if_pos inside]
        · rw [if_neg inside, if_neg inside, if_neg (by omega)]
      · intro later behind inside
        rw [Vector.getElem?_setIfInBounds]
        split
        · simp [show slot < 4 by omega]
        · exact clear later behind inside

theorem setChecksum_take (block : List UInt8) : (setChecksum block).take 127 = block.take 127 := by
  simp [setChecksum, EDID_BLOCK_SIZE, List.take_set_of_le]

theorem foldl_add_byteSum (bytes : List UInt8) (start : UInt8) :
    (bytes.foldl (fun sum byte => sum + byte) start).toNat = (start.toNat + Edid.byteSum bytes) % 256 := by
  induction bytes generalizing start with
  | nil => simp [Edid.byteSum, Nat.mod_eq_of_lt start.toNat_lt]
  | cons byte rest ih =>
    rw [List.foldl_cons, ih, UInt8.toNat_add]
    simp only [Edid.byteSum, List.map_cons, List.sum_cons]
    omega

theorem setChecksum_sum (block : List UInt8) (size : block.length = 128) :
    Edid.byteSum (setChecksum block) % 256 = 0 := by
  have whole : setChecksum block = block.take 127 ++ [0 - (block.take 127).foldl (fun sum byte => sum + byte) 0] := by
    simp [setChecksum, EDID_BLOCK_SIZE, List.set_eq_take_append_cons_drop, size]
  have total := foldl_add_byteSum (block.take 127) 0
  rw [whole, Edid.byteSum_append]
  simp only [Edid.byteSum, List.map_cons, List.map_nil, List.sum_cons, List.sum_nil, UInt8.toNat_sub] at total ⊢
  rw [total]
  simp
  omega

theorem setChecksum_length (block : List UInt8) : (setChecksum block).length = block.length := by
  simp [setChecksum]

namespace EdidBaseBlock

theorem leading_length (base : EdidBaseBlock) : base.leading.length = 54 := by
  simp [leading, List.length_flatMap, List.map_const']

theorem bytes_length (base : EdidBaseBlock) : base.bytes.length = 128 := by
  simp [bytes, leading_length, List.length_flatMap, List.map_const']

theorem bytes_descriptor (base : EdidBaseBlock) (slot : Nat) (inside : slot < 4) :
    Edid.descriptor base.bytes slot = base.descriptors[slot].toList := by
  rw [Edid.descriptor, bytes, Edid.slice_append_right _ _ _ _ (by simp [leading_length, Edid.descriptorOffset]),
    leading_length, Edid.descriptorOffset, Nat.add_sub_cancel_left]
  exact Edid.slice_chunk base.descriptors.toList slot _ (by simpa using inside)

theorem bytes_extensionCount (base : EdidBaseBlock) :
    Edid.extensionCount base.bytes = some base.extensionBlockCount := by
  have descriptors : (base.descriptors.toList.flatMap Vector.toList).length = 72 := by
    simp [List.length_flatMap, List.map_const']
  rw [Edid.extensionCount, bytes, List.getElem?_append_right (by simp [leading_length]),
    List.getElem?_append_right (by simp [leading_length, descriptors]), leading_length, descriptors]
  rfl

end EdidBaseBlock

theorem descriptor_setChecksum (block : List UInt8) (slot : Nat) (inside : slot < 4) :
    Edid.descriptor (setChecksum block) slot = Edid.descriptor block slot := by
  have bound : Edid.descriptorOffset slot + Edid.descriptorSize ≤ 127 := by
    simp only [Edid.descriptorOffset, Edid.descriptorSize]; omega
  simp only [Edid.descriptor]
  rw [← Edid.slice_take _ _ _ _ bound, setChecksum_take, Edid.slice_take _ _ _ _ bound]

theorem extensionCount_setChecksum (block : List UInt8) :
    Edid.extensionCount (setChecksum block) = Edid.extensionCount block := by
  simp [Edid.extensionCount, setChecksum, EDID_BLOCK_SIZE]

private def assembled (modes : DisplayModes) : EdidBaseBlock :=
  let baseBlock := initEdidBaseBlock EdidBaseBlock.zero
  { baseBlock with
    descriptors := (selectTimings (stableSort less modes) 0 baseBlock.descriptors).setIfInBounds
      EDID_BASE_MONITOR_NAME_DESCRIPTOR_INDEX (makeMonitorName QUBES).raw }

private theorem build_assembled (modes : DisplayModes) : build modes = setChecksum (assembled modes).bytes := rfl

theorem build_timing (modes : DisplayModes) (slot : Nat) (inside : slot < 3) :
    Edid.descriptor (build modes) slot =
      (((selected modes)[slot]?.map timingBytes).getD EdidDescriptor.zero).toList := by
  rw [build_assembled, descriptor_setChecksum _ _ (by omega), EdidBaseBlock.bytes_descriptor _ _ (by omega)]
  congr 1
  apply Option.some.inj
  rw [← Vector.getElem?_eq_getElem]
  simp only [assembled, EDID_BASE_MONITOR_NAME_DESCRIPTOR_INDEX]
  rw [Vector.getElem?_setIfInBounds, if_neg (by omega), selectTimings_slots _ _ _ _ slot, if_pos (by omega)]
  · rfl
  · intro index _ timing
    simp [initEdidBaseBlock, EdidBaseBlock.zero, show index < 4 by omega]

theorem build_timing_selected (modes : DisplayModes) (slot : Nat) (inside : slot < 3) (mode : DisplayMode)
    (taken : (selected modes)[slot]? = some mode) :
    Edid.descriptor (build modes) slot = (timingBytes mode).toList := by
  rw [build_timing modes slot inside, taken]
  rfl

theorem build_name (modes : DisplayModes) :
    Edid.descriptor (build modes) 3 = [0, 0, 0, 0xfc, 0] ++ QUBES ++ 0x0a :: List.replicate 7 0x20 := by
  rw [build_assembled, descriptor_setChecksum _ _ (by omega), EdidBaseBlock.bytes_descriptor _ _ (by omega)]
  simp only [assembled, EDID_BASE_MONITOR_NAME_DESCRIPTOR_INDEX, Vector.getElem_setIfInBounds_self]
  decide

theorem selected_length (modes : DisplayModes) : (selected modes).length = modes.countP accepts := by
  rw [selected, ← List.countP_eq_length_filter, (perm less modes).countP_eq]

/-- The block is complete and self-consistent for every mode list: the best
encodable modes in sort order, clear slots behind them, the name last. -/
theorem build_block (modes : DisplayModes) :
    let block := build modes
    let sorted := stableSort less modes
    let k := min 3 (modes.countP accepts)
    block.length = 128 ∧ Edid.byteSum block % 256 = 0 ∧ Edid.extensionCount block = some 0 ∧
    (∀ slot, slot < k → ∃ mode, (sorted.filter accepts)[slot]? = some mode ∧
      Edid.descriptor block slot = (timingBytes mode).toList) ∧
    (∀ slot, k ≤ slot → slot < 3 → Edid.descriptor block slot = List.replicate 18 0) ∧
    Edid.descriptor block 3 = [0, 0, 0, 0xfc, 0] ++ QUBES ++ 0x0a :: List.replicate 7 0x20 ∧
    sorted.Perm modes ∧ sorted.Pairwise (fun a b => sortKey b ≤ sortKey a) ∧
    IsStrictWeakOrder DisplayMode (fun a b => less a b = true) ∧
    (∀ a b, less a b = true ↔ sortKey b < sortKey a) ∧
    (∀ a b, less a b = false → less b a = false → a = b) ∧
    ∀ other, other.Perm modes → build other = block := by
  intro block sorted k
  have size : (assembled modes).bytes.length = 128 := EdidBaseBlock.bytes_length _
  refine ⟨?_, ?_, ?_, ?_, ?_, build_name modes, perm less modes, ?_, less_descending.strictWeakOrder,
    less_descending.compares, less_descending.tie, ?_⟩
  · rw [show block = setChecksum (assembled modes).bytes from rfl, setChecksum_length, size]
  · exact setChecksum_sum _ size
  · rw [show block = setChecksum (assembled modes).bytes from rfl, extensionCount_setChecksum,
      EdidBaseBlock.bytes_extensionCount]
    rfl
  · intro slot taken
    have inside : slot < (selected modes).length := by rw [selected_length]; omega
    exact ⟨_, List.getElem?_eq_getElem inside,
      build_timing_selected modes slot (by omega) _ (List.getElem?_eq_getElem inside)⟩
  · intro slot free inside
    have absent : (selected modes)[slot]? = none := by
      rw [List.getElem?_eq_none_iff, selected_length]; omega
    rw [build_timing modes slot inside, absent]
    rfl
  · exact (less_descending.sorted modes).imp fun ordered => (less_descending.not_less _ _).mp ordered
  · intro other same
    simp only [block, build, less_descending.permuted same]

end QubesIdd.CEdid
