import QubesIdd.Proofs.DeviceSteps
import QubesIdd.Proofs.ModeEnumeration
import QubesIdd.Proofs.ModeList
import QubesIdd.Library.Runs

/-! The bounds of the sanity check on every list a run can build, and the products the
driver forms from a listed mode, compared with the same products of unbounded numbers. -/

namespace QubesIdd
open CSettings Library.Runs

/-- A signal whose rates follow from one another as unbounded numbers. -/
structure SelfConsistent (info : VideoSignalInfo) : Prop where
  denominators : info.hSyncFreq.2 = 1 ∧ info.vSyncFreq.2 = 1
  hSyncFreq : info.hSyncFreq.1.toNat = info.vSyncFreq.1.toNat * info.totalSize.2.toNat
  pixelRate : info.pixelRate.toNat = info.hSyncFreq.1.toNat * info.totalSize.1.toNat

/-- An entry tells of the mode's signal, and no product in it has wrapped around. -/
def ReportsExactly (mode : DisplayMode) (entry : ModeEntry) : Prop :=
  ∃ info, entry.signalInfo = some info ∧ Carries mode info ∧ CarriesExactly mode info ∧ SelfConsistent info

def requiredBits (mode : DisplayMode) : Nat := mode.width.toNat * mode.height.toNat * mode.refresh.toNat * 32

/-- An entry of a mode update: it also asks for the mode's bandwidth. -/
def UpdatesExactly (mode : DisplayMode) (entry : ModeEntry) : Prop :=
  ReportsExactly mode entry ∧ entry.requiredBandwidth.toNat = requiredBits mode

section
variable {mode : DisplayMode} (valid : mode.InRange)
include valid

theorem signalInfo_selfConsistent (monitorMode : Bool) : SelfConsistent (signalInfo monitorMode mode) := by
  obtain ⟨lines, pixels⟩ := signalInfo_exact monitorMode valid
  refine ⟨⟨rfl, rfl⟩, lines, ?_⟩
  rw [pixels, lines]
  exact Nat.mul_right_comm _ _ _

theorem signalInfo_reports (monitorMode : Bool) {entry : ModeEntry}
    (described : entry.signalInfo = some (signalInfo monitorMode mode)) : ReportsExactly mode entry :=
  ⟨_, described, signalInfo_carries monitorMode mode, signalInfo_exact monitorMode valid, signalInfo_selfConsistent valid monitorMode⟩

theorem requiredBandwidth_exact :
    (mode.width.toUInt64 * mode.height.toUInt64 * mode.refresh.toUInt64 * 32).toNat = requiredBits mode := by
  obtain ⟨⟨_, width⟩, ⟨_, height⟩, ⟨_, refresh⟩⟩ := valid
  have pixels : mode.width.toNat * mode.height.toNat ≤ 16384 * 16384 := Nat.mul_le_mul width height
  have rate : mode.width.toNat * mode.height.toNat * mode.refresh.toNat ≤ 16384 * 16384 * 1000 :=
    Nat.mul_le_mul pixels refresh
  simp only [UInt64.toNat_mul, UInt32.toNat_toUInt64, requiredBits, UInt64.reduceToNat]
  rw [Nat.mod_eq_of_lt (by omega : mode.width.toNat * mode.height.toNat < 2 ^ 64),
    Nat.mod_eq_of_lt (by omega : mode.width.toNat * mode.height.toNat * mode.refresh.toNat < 2 ^ 64),
    Nat.mod_eq_of_lt (by omega)]

end

theorem updateEntries_exact (canUseIddCx110DDIs : Bool) {modes : DisplayModes} (valid : ∀ mode ∈ modes, mode.InRange) :
    List.Forall₂ UpdatesExactly modes (updateEntries canUseIddCx110DDIs modes) := by
  rw [updateEntries, List.forall₂_map_right_iff, List.forall₂_same]
  intro mode member
  exact ⟨signalInfo_reports (valid mode member) false rfl, requiredBandwidth_exact (valid mode member)⟩

theorem written_exact {modes : DisplayModes} {side : Bool} {type : EntryType} {entries : List ModeEntry}
    (valid : ∀ mode ∈ modes, mode.InRange)
    (written : entries.map (fun entry => (entry.signalInfo, entry.size)) =
      modes.map fun mode => (some (signalInfo side mode), some type)) :
    List.Forall₂ ReportsExactly modes entries := by
  induction modes generalizing entries with
  | nil =>
    rw [List.map_nil, List.map_eq_nil_iff] at written
    rw [written]
    exact .nil
  | cons mode rest ih =>
    cases entries with
    | nil => cases written
    | cons entry entries =>
      obtain ⟨first, later⟩ := List.cons.inj written
      have described : entry.signalInfo = some (signalInfo side mode) := congrArg Prod.fst first
      exact .cons (signalInfo_reports (valid mode List.mem_cons_self) side described)
        (ih (fun other member => valid other (List.mem_cons_of_mem mode member)) later)

namespace Device

/-- What one callback does to the list and to the lists handed to the framework: the list
is rebuilt or left alone, and only the new list is handed over. -/
structure ModesEffect (device after : Device) : Prop where
  rebuilt : after.context.displayModes = device.context.displayModes ∨
    ∃ api scratch, after.context.displayModes = loadModes api scratch
  handed : ∃ calls, after.calls = device.calls ++ calls ∧ ∀ monitor entries, .updateModes monitor entries ∈ calls →
    ∃ canUseIddCx110DDIs, entries = updateEntries canUseIddCx110DDIs after.context.displayModes

theorem ModesEffect.kept {device after : Device} (modes : after.context.displayModes = device.context.displayModes)
    (calls : List Call) (logged : after.calls = device.calls ++ calls)
    (other : ∀ monitor entries, .updateModes monitor entries ∉ calls) : ModesEffect device after :=
  ⟨.inl modes, calls, logged, fun monitor entries member => absurd member (other monitor entries)⟩

theorem step_modesEffect (device : Device) (input : Input) : ModesEffect device (device.step input) := by
  obtain ⟨callback, world⟩ := input
  cases callback with
  | d0Entry =>
    obtain ⟨_, _, _, _, _, same⟩ := initAdapter_frame world device
    simp only [step, same]
    exact ⟨.inr ⟨_, _, rfl⟩, [], by simp, by simp⟩
  | adapterInitFinished success =>
    obtain ⟨_, _, _, same⟩ := adapterInitFinished_frame world success device
    simp only [step, same]
    exact .kept rfl [] (by simp) (by simp)
  | replugMonitor =>
    obtain ⟨_, _, _, _, same⟩ := replugMonitor_frame world device
    simp only [step, same]
    exact .kept rfl [.replugMonitor] rfl (by simp)
  | setResolution width height =>
    obtain ⟨_, _, _, _, handed, calls, same⟩ := setResolution_frame world width height device
    simp only [step, same]
    refine ⟨.inr ⟨_, _, rfl⟩, _, List.append_assoc .., ?_⟩
    intro monitor entries member
    rcases List.mem_append.mp member with inside | last
    · obtain ⟨_, _, equal⟩ := calls _ inside
      cases equal
      exact ⟨_, rfl⟩
    · cases updated : device.updates world <;> simp [updated] at last
  | assignSwapChain monitor =>
    simp only [step, monitorAssignSwapChain, onAssignSwapChain]
    split
    · exact .kept rfl [.setDisplayMode _ _ _] rfl (by simp)
    · exact .kept rfl [] (by simp) (by simp)
  | unassignSwapChain monitor =>
    obtain ⟨_, _, _, same⟩ := monitorUnassignSwapChain_frame world monitor device
    simp only [step, same]
    exact .kept rfl [] (by simp) (by simp)
  | swapChainLost =>
    simp only [step, onSwapChainLost]
    split
    · exact .kept rfl [] (by simp) (by simp)
    · exact .kept rfl [] (by simp) (by simp)
  | lgmpTimer => exact .kept rfl [] (by simp [step, lgmpTimer]) (by simp)

/-- Everything a state offers is in range and computed without a wrap: the list itself,
what an enumeration with enough room writes, and what mode updates have handed over. -/
structure ExactModes (device : Device) : Prop where
  inRange : ∀ mode ∈ device.context.displayModes, mode.InRange
  enumerated : ∀ (canUseIddCx110DDIs : Bool) (callback : Enumeration) (buffer : Option (List ModeEntry)),
    device.context.displayModes.length ≤ inputCount buffer →
    List.Forall₂ ReportsExactly device.context.displayModes
      ((callback.report canUseIddCx110DDIs device.context.displayModes buffer).buffer.take device.context.displayModes.length)
  updated : ∀ monitor entries, .updateModes monitor entries ∈ device.calls →
    ∃ modes : DisplayModes, (∀ mode ∈ modes, mode.InRange) ∧ List.Forall₂ UpdatesExactly modes entries

/-- A callback, before which anyone may have edited the registry. -/
def stepEdited (device : Device) (input : Option Registry × Input) : Device :=
  step { device with registry := input.1.getD device.registry } input.2

/-- The part of it that a step has to keep. -/
structure Ranged (device : Device) : Prop where
  inRange : ∀ mode ∈ device.context.displayModes, mode.InRange
  updated : ∀ monitor entries, .updateModes monitor entries ∈ device.calls →
    ∃ modes : DisplayModes, (∀ mode ∈ modes, mode.InRange) ∧ List.Forall₂ UpdatesExactly modes entries

theorem Ranged.step {device : Device} (ranged : Ranged device) (input : Input) : Ranged (device.step input) := by
  obtain ⟨rebuilt, calls, logged, handed⟩ := step_modesEffect device input
  have inRange : ∀ mode ∈ (device.step input).context.displayModes, mode.InRange := by
    rcases rebuilt with same | ⟨api, scratch, same⟩
    · rw [same]
      exact ranged.inRange
    · rw [same]
      exact fun mode member => loadModes_inRange member
  refine ⟨inRange, fun monitor entries member => ?_⟩
  rw [logged] at member
  rcases List.mem_append.mp member with earlier | new
  · exact ranged.updated monitor entries earlier
  · obtain ⟨canUseIddCx110DDIs, rfl⟩ := handed monitor entries new
    exact ⟨_, inRange, updateEntries_exact canUseIddCx110DDIs inRange⟩

theorem Ranged.exactModes {device : Device} (ranged : Ranged device) : ExactModes device where
  inRange := ranged.inRange
  enumerated := fun canUseIddCx110DDIs callback _ room =>
    written_exact ranged.inRange (enumeration_describes canUseIddCx110DDIs callback room).written
  updated := ranged.updated

/-- For every registry and every sequence of callbacks, whatever is written to the
registry in between, the driver only ever lists, reports and updates modes in range, with
every product exact. -/
theorem run_exactModes (registry : Registry) (inputs : List (Option Registry × Input)) :
    ExactModes (run stepEdited (initial registry) inputs) := by
  apply Ranged.exactModes
  apply run_preserves Ranged
  · intro device input ranged
    have edited : Ranged { device with registry := input.1.getD device.registry } := ⟨ranged.inRange, ranged.updated⟩
    exact edited.step input.2
  · exact ⟨nofun, nofun⟩

end Device
end QubesIdd
