import QubesIdd.Proofs.DeviceSteps
import QubesIdd.Proofs.ExtraMode
import QubesIdd.Proofs.PreferredMode
import QubesIdd.Library.Runs

/-! A resolution request from its two integers to the list, the EDID and the
announcement: when what is announced is also advertised, and what the list looks
like after any history. -/

namespace QubesIdd
open CSettings CEdid Library Library.Runs

/-- A cast to an unsigned word keeps what is not negative. -/
theorem toUInt32_of_nonneg (value : Int32) (nonneg : 0 ≤ value.toInt) : (value.toUInt32.toNat : Int) = value.toInt := by
  have bound := value.toUInt32.toNat_lt
  rw [← Int32.toInt_toBitVec, BitVec.toInt_eq_toNat_cond, Int32.toNat_toBitVec] at nonneg ⊢
  split at nonneg
  next small => rw [if_pos small]
  next => omega

theorem toUInt32_between (value : Int32) (low high : Nat) (positive : 0 < low) (small : high < 2 ^ 31) :
    (low ≤ value.toUInt32.toNat ∧ value.toUInt32.toNat ≤ high) ↔ ((low : Int) ≤ value.toInt ∧ value.toInt ≤ high) := by
  have bound := value.toUInt32.toNat_lt
  rw [← Int32.toInt_toBitVec, BitVec.toInt_eq_toNat_cond, Int32.toNat_toBitVec]
  split <;> omega

namespace Device

/-- The request's two integers pass the sanity check; the refresh rate always does. -/
def RequestInRange (width height : Int32) : Prop :=
  (640 ≤ width.toInt ∧ width.toInt ≤ 16384) ∧ 480 ≤ height.toInt ∧ height.toInt ≤ 16384

theorem requestedMode_inRange (width height : Int32) (device : Device) :
    (device.requestedMode width height).InRange ↔ RequestInRange width height := by
  have widths := toUInt32_between width 640 16384 (by omega) (by omega)
  have heights := toUInt32_between height 480 16384 (by omega) (by omega)
  exact ⟨fun valid => ⟨widths.mp valid.width, heights.mp valid.height⟩,
    fun request => ⟨widths.mpr request.1, heights.mpr request.2, getDefaultRefresh_range _⟩⟩

section
variable (world : World) (width height : Int32) (device : Device)

theorem setResolution_displayModes :
    (device.setResolution world width height).context.displayModes =
      loadModes (setExtraMode (device.requestedMode width height) world.write device.registry).api world.scratch := by
  obtain ⟨_, _, _, _, _, _, same⟩ := setResolution_frame world width height device
  rw [same]
  rfl

theorem setResolution_edid :
    (device.setResolution world width height).context.edid =
      build (device.setResolution world width height).context.displayModes := by
  obtain ⟨_, _, _, _, _, _, same⟩ := setResolution_frame world width height device
  rw [same]
  rfl

/-- The driver announces a size: at once, or at the next assign callback. -/
def Announces (before after : Device) (size : UInt32 × UInt32 × UInt32) : Prop :=
  .setDisplayMode size.1 size.2.1 size.2.2 ∈ after.calls.drop before.calls.length ∨
    after.context.doSetMode = true ∧ after.context.setMode.size = size

def AdvertisesAnnounced (before after : Device) : Prop :=
  ∀ size, Announces before after size → ∃ mode ∈ after.context.displayModes, mode.size = size

/-- A request announces its own size and no other. -/
theorem setResolution_announces (size : UInt32 × UInt32 × UInt32) :
    Announces device (device.setResolution world width height) size ↔
      size = (device.requestedMode width height).size := by
  obtain ⟨_, _, _, _, handed, calls, same⟩ := setResolution_frame world width height device
  have unannounced (w h r : UInt32) : .setDisplayMode w h r ∉ handed := by
    intro member
    obtain ⟨_, _, equal⟩ := calls _ member
    cases equal
  obtain ⟨w, h, r⟩ := size
  rw [same]
  cases device.updates world with
  | true =>
    simp [Announces, unannounced, storeRequest, DeviceContext.populateDefaultModes, DisplayMode.size]
  | false =>
    simp [Announces, unannounced, storeRequest, DeviceContext.populateDefaultModes, eq_comm]

end

theorem loadModes_size (api : RegApi) (scratch : DisplayMode) (size : UInt32 × UInt32 × UInt32) :
    (∃ mode ∈ loadModes api scratch, mode.size = size) ↔
      (∃ extra, extraMode? api = some extra ∧ extra.size = size) ∨ ∃ mode ∈ configured api, mode.size = size := by
  have unpreferred (mode : DisplayMode) : (unprefer mode).size = mode.size := rfl
  rw [loadModes_eq]
  cases extraMode? api with
  | none => simp
  | some extra =>
    simp only [List.exists_mem_cons_iff, Option.some.injEq, exists_eq_left']
    cases extra.preferred <;> simp [unpreferred]

/-- What makes the requested size appear in the list: the request reaches the
registry, can be read back and passes the sanity check; or it is lost and the extra
mode already there has this size; or the configured list has it anyway. -/
def Advertisable (world : World) (width height : Int32) (device : Device) : Prop :=
  ((world.write.created && world.write.stored) = true ∧ device.registry.canQuery = true ∧
    RequestInRange width height) ∨
  ((world.write.created && world.write.stored) = false ∧
    ∃ extra, extraMode? device.registry.api = some extra ∧ extra.size = (device.requestedMode width height).size) ∨
  ∃ mode ∈ configured device.registry.api, mode.size = (device.requestedMode width height).size

theorem extraMode_unreadable (registry : Registry) (unreadable : registry.canQuery = false) :
    extraMode? registry.api = none := by
  simp [extraMode?, readStringValue_api, Registry.opened, unreadable, parsed?, trim]

/-- A request is advertised under exactly these conditions; it is announced always. -/
theorem announced_advertised_iff (world : World) (width height : Int32) (device : Device) :
    AdvertisesAnnounced device (device.step ⟨.setResolution width height, world⟩) ↔
      Advertisable world width height device := by
  have announced : AdvertisesAnnounced device (device.step ⟨.setResolution width height, world⟩) ↔
      ∃ mode ∈ loadModes (setExtraMode (device.requestedMode width height) world.write device.registry).api world.scratch,
        mode.size = (device.requestedMode width height).size := by
    rw [← setResolution_displayModes]
    exact ⟨fun every => every _ ((setResolution_announces ..).mpr rfl),
      fun found size announces => (setResolution_announces ..).mp announces ▸ found⟩
  rw [announced, loadModes_size, configured_setExtraMode, Advertisable, ← or_assoc]
  refine or_congr ?_ Iff.rfl
  have sane := (DisplayMode.inRange_iff_sane _).symm.trans (requestedMode_inRange width height device)
  cases stored : world.write.created && world.write.stored with
  | false => simp [extraMode_unstored _ _ _ stored]
  | true =>
    cases readable : device.registry.canQuery with
    | false =>
      have unreadable := extraMode_unreadable (setExtraMode (device.requestedMode width height) world.write device.registry)
        (by simp [setExtraMode_canQuery, readable])
      simp [unreadable]
    | true =>
      rw [extraMode_stored _ _ _ stored readable]
      by_cases insane : CSettings.insane (device.requestedMode width height)
      · simp [insane, ← sane]
      · simp [insane, ← sane]

/-- A size below the parser's bounds is announced and in no list. -/
theorem announced_advertised_violated :
    ¬ ∀ (world : World) (width height : Int32) (device : Device),
      AdvertisesAnnounced device (device.step ⟨.setResolution width height, world⟩) := by
  intro claim
  obtain ⟨mode, member, same⟩ := claim {} 100 100 (initial ⟨none, true⟩) (100, 100, 60)
    ((setResolution_announces ..).mpr rfl)
  rw [step, setResolution_displayModes] at member
  have width : mode.width = 100 := congrArg Prod.fst same
  have wide := (loadModes_inRange member).width.1
  rw [width] at wide
  exact absurd wide (by decide)

structure SameConfiguration (before after : Registry) : Prop where
  configured : configured after.api = configured before.api
  refresh : getDefaultRefresh after.api = getDefaultRefresh before.api
  canQuery : after.canQuery = before.canQuery

/-- No history of callbacks changes the configured list or the refresh rate. -/
theorem run_sameConfiguration (device : Device) (inputs : List Input) :
    SameConfiguration device.registry (run step device inputs).registry := by
  refine run_preserves (fun later => SameConfiguration device.registry later.registry) ?_ device inputs ⟨rfl, rfl, rfl⟩
  intro later input same
  rw [(step_effect later input).registry]
  split
  next =>
    exact ⟨(configured_setExtraMode ..).trans same.configured, (getDefaultRefresh_setExtraMode ..).trans same.refresh,
      (setExtraMode_canQuery ..).trans same.canQuery⟩
  next => exact same

/-- After any history, a stored request in range leads the list as its only preferred
mode, everything that names a preferred mode names it, and the rest of the list is
the configured one. -/
theorem setResolution_extraMode (start : Device) (history : List Input) (width height : Int32) (world : World)
    (stored : (world.write.created && world.write.stored) = true) (readable : start.registry.canQuery = true)
    (request : RequestInRange width height) :
    let after := (run step start history).step ⟨.setResolution width height, world⟩
    let mode := start.requestedMode width height
    let rest := (configured start.registry.api).map unprefer
    (mode.width.toNat = width.toInt ∧ mode.height.toNat = height.toInt ∧
      mode.refresh = getDefaultRefresh after.registry.api ∧ mode.preferred = true) ∧
    after.context.displayModes = mode :: rest ∧ (∀ other ∈ rest, other.preferred = false) ∧
    (∀ buffer, (parseMonitorDescription after.context.displayModes buffer).preferredIdx = 0) ∧
    (accepts mode = true → Edid.descriptor after.context.edid 0 = (timingBytes mode).toList) := by
  intro after mode rest
  have same := run_sameConfiguration start history
  have requested : (run step start history).requestedMode width height = mode := by
    simp [mode, requestedMode, same.refresh]
  have found : extraMode? (setExtraMode mode world.write (run step start history).registry).api = some mode := by
    rw [extraMode_stored _ _ _ stored (same.canQuery.trans readable), if_neg]
    exact (DisplayMode.inRange_iff_sane mode).mp ((requestedMode_inRange width height start).mpr request)
  have listed : after.context.displayModes = mode :: rest := by
    rw [show after = (run step start history).setResolution world width height from rfl, setResolution_displayModes,
      requested, loadModes_eq, found]
    simp [mode, requestedMode, rest, configured_setExtraMode, same.configured]
  have refreshed : getDefaultRefresh after.registry.api = mode.refresh := by
    rw [(step_effect (run step start history) ⟨.setResolution width height, world⟩).registry]
    exact (getDefaultRefresh_setExtraMode ..).trans same.refresh
  have wide : 0 ≤ width.toInt := le_trans (by omega) request.1.1
  have high : 0 ≤ height.toInt := le_trans (by omega) request.2.1
  refine ⟨⟨toUInt32_of_nonneg width wide, toUInt32_of_nonneg height high, refreshed.symm, rfl⟩, listed, ?_, ?_, ?_⟩
  · intro other member
    obtain ⟨_, _, rfl⟩ := List.mem_map.mp member
    rfl
  · intro buffer
    rw [listed]
    exact leading_preferredIdx mode _ buffer
  · intro accepted
    rw [show after.context.edid = build after.context.displayModes from setResolution_edid .., listed]
    exact leading_descriptor mode _ rfl accepted

theorem setResolution_second :
    (run step (initial ⟨none, true⟩) [⟨.setResolution 1024 768, {}⟩, ⟨.setResolution 800 600, {}⟩]).context.displayModes =
      ⟨800, 600, 60, true⟩ :: (configured (Registry.api ⟨none, true⟩)).map unprefer :=
  (setResolution_extraMode (initial ⟨none, true⟩) [⟨.setResolution 1024 768, {}⟩] 800 600 {} rfl rfl
    ⟨by decide, by decide⟩).2.1

end Device
end QubesIdd
