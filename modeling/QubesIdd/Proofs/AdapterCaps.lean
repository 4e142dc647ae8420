import QubesIdd.Library.Runs
import QubesIdd.Proofs.DeviceSteps

/-! The FP16 capability the driver remembers and the flag its adapter was created
with. They part when a later power-up recomputes the one and fails to replace the
other. -/

namespace QubesIdd.Device
open Library.Runs

/-- What the driver believes of its adapter is what the adapter was created with. -/
def CapsMatch (device : Device) : Prop :=
  ∀ adapter, device.context.adapter = some adapter →
    device.iddCx.adapters[adapter]? = some device.context.canProcessFP16

def capable (world : World) : Bool :=
  world.getVersion.any (IDDCX_VERSION_1_10 ≤ ·) && world.hasIddCx110DDIs

/-- The one attempt, or both where the first asks for FP16, end in failure. -/
def attemptsFail (world : World) : Bool := !world.adapterInit && !(capable world && world.adapterInitRetry)

/-- An initialisation fails altogether only while no FP16 adapter is in use. -/
def FailsWithoutFP16 (device : Device) (input : Input) : Prop :=
  input.callback = .d0Entry → attemptsFail input.world = true →
    ∀ adapter, device.context.adapter = some adapter → device.iddCx.adapters[adapter]? ≠ some true

theorem query_capable (world : World) (context : DeviceContext) :
    (context.queryIddCxCapabilities world).canProcessFP16 = capable world ∧
    (context.queryIddCxCapabilities world).adapter = context.adapter := by
  unfold DeviceContext.queryIddCxCapabilities capable
  cases world.getVersion with
  | none => exact ⟨rfl, rfl⟩
  | some version => exact ⟨rfl, rfl⟩

/-- A successful attempt names the new adapter; after none the old one stays, and the
capability is given up. -/
theorem initAdapter_caps (world : World) (device : Device) :
    (attemptsFail world = false → CapsMatch (device.initAdapter world)) ∧
    (attemptsFail world = true →
      (device.initAdapter world).context.adapter = device.context.adapter ∧
      (device.initAdapter world).iddCx.adapters = device.iddCx.adapters ∧
      (device.initAdapter world).context.canProcessFP16 = false) := by
  obtain ⟨queried, kept⟩ := query_capable world device.context
  have newest (flag : Bool) (context : DeviceContext) (remembered : context.canProcessFP16 = flag) :
      CapsMatch (adapterInitialised flag { device with context }) := by
    intro adapter named
    cases named
    simp [adapterInitialised, IddCx.adapterInitAsync, remembered]
  unfold initAdapter attemptsFail
  simp only [show ∀ context : DeviceContext, (context.populateDefaultModes device.registry.api world.scratch).canProcessFP16 =
    context.canProcessFP16 from fun _ => rfl, queried]
  cases world.adapterInit with
  | true => exact ⟨fun _ => newest _ _ queried, nofun⟩
  | false =>
    cases able : capable world with
    | false => exact ⟨nofun, fun _ => ⟨kept, rfl, queried.trans able⟩⟩
    | true =>
      cases world.adapterInitRetry with
      | true => exact ⟨fun _ => newest false _ rfl, nofun⟩
      | false => exact ⟨nofun, fun _ => ⟨kept, rfl, rfl⟩⟩

/-- No callback but a power-up touches the adapter or the capability. -/
theorem step_caps (device : Device) (input : Input) (other : input.callback ≠ .d0Entry) :
    (device.step input).context.adapter = device.context.adapter ∧
    (device.step input).iddCx.adapters = device.iddCx.adapters ∧
    (device.step input).context.canProcessFP16 = device.context.canProcessFP16 := by
  obtain ⟨callback, world⟩ := input
  cases callback with
  | d0Entry => exact absurd rfl other
  | adapterInitFinished success =>
    obtain ⟨_, _, _, same⟩ := adapterInitFinished_frame world success device
    simp only [step, same, and_self]
  | replugMonitor =>
    obtain ⟨_, _, _, _, same⟩ := replugMonitor_frame world device
    simp only [step, same, and_self]
  | setResolution width height =>
    obtain ⟨_, _, _, _, _, _, same⟩ := setResolution_frame world width height device
    simp [step, same, storeRequest, DeviceContext.populateDefaultModes]
  | assignSwapChain monitor =>
    obtain ⟨_, _, same⟩ := monitorAssignSwapChain_frame monitor device
    simp [step, same, IddCx.setAssigned]
  | unassignSwapChain monitor =>
    obtain ⟨_, _, _, same⟩ := monitorUnassignSwapChain_frame world monitor device
    simp only [step, same, and_self]
  | swapChainLost =>
    simp only [step, onSwapChainLost]
    split <;> simp
  | lgmpTimer => exact ⟨rfl, rfl, rfl⟩

theorem capsMatch_unmoved {before after : Device} (matching : CapsMatch before)
    (same : after.context.adapter = before.context.adapter ∧ after.iddCx.adapters = before.iddCx.adapters ∧
      after.context.canProcessFP16 = before.context.canProcessFP16) : CapsMatch after := by
  obtain ⟨adapter, adapters, caps⟩ := same
  intro name named
  rw [adapters, caps]
  exact matching name (adapter ▸ named)

/-- Along a run the two agree in every state exactly if no power-up fails altogether
while an FP16 adapter is in use. -/
theorem capsMatch_iff (registry : Registry) (inputs : List Input) :
    Always step CapsMatch (initial registry) inputs ↔ Along step FailsWithoutFP16 (initial registry) inputs := by
  refine always_iff_along (fun _ matching => matching) ?_ ?_ _ _ nofun (along_true _ _)
  · intro device input matching _ condition
    by_cases powered : input.callback = .d0Entry
    · have stepped : device.step input = device.initAdapter input.world := by rw [step, powered]
      rw [stepped]
      cases failing : attemptsFail input.world with
      | false => exact (initAdapter_caps input.world device).1 failing
      | true =>
        obtain ⟨adapter, adapters, given⟩ := (initAdapter_caps input.world device).2 failing
        intro name named
        rw [adapter] at named
        have flag := matching name named
        have plain := condition powered failing name named
        rw [flag] at plain
        rw [adapters, given, flag, Option.some.injEq]
        simpa using plain
    · exact capsMatch_unmoved matching (step_caps device input powered)
  · intro device input matching _ later powered failing name named flagged
    obtain ⟨adapter, adapters, given⟩ := (initAdapter_caps input.world device).2 failing
    rw [step, powered] at later
    have after := later name (adapter.trans named)
    rw [adapters, given, flagged] at after
    cases after

/-- A second power-up that cannot reach the framework takes the capability from the
adapter still in use. -/
theorem capsMatch_violated :
    ¬ ∀ (registry : Registry) (inputs : List Input), Always step CapsMatch (initial registry) inputs := by
  intro claim
  have every := claim ⟨none, false⟩
    [⟨.d0Entry, { getVersion := some 0x1A00, hasIddCx110DDIs := true }⟩, ⟨.d0Entry, { adapterInit := false }⟩]
  have matching := (always_iff_runs _ _).mp every _ List.prefix_rfl
  exact absurd (matching 0 rfl) (by decide)

end QubesIdd.Device
