import QubesIdd.Driver
import QubesIdd.Library.Runs
import QubesIdd.Proofs.Announcement

/-! Assigning a swap chain in the driver as a whole: what the device does to the
request it has pending when no processor could be started. -/

namespace QubesIdd.Driver
open Library.Runs

/-- A step ends an assignment whose D3D device could not be initialised. -/
def Refuses (driver : Driver) (input : DriverInput) (resources : Resources) : Prop :=
  ∃ monitor action world, input = .monitor monitor action world ∧
    (driver.contexts monitor).returns action = some (some resources) ∧ resources.init = false

/-- What a request leaves to be done at the next assignment, and what has been announced. -/
def pending (driver : Driver) : Bool × DisplayMode × Bool × List (UInt32 × UInt32 × UInt32) :=
  (driver.device.context.doSetMode, driver.device.context.setMode, driver.device.context.recoverModeUpdateSwapChain,
    driver.device.announcements)

def RefusalKeepsPending (driver : Driver) (input : DriverInput) : Prop :=
  ∀ resources, driver.Refuses input resources → (driver.step input).pending = driver.pending

/-- The refused assignment is not the one that a deferred mode or an update waits for. -/
def RefusedWithNothingPending (driver : Driver) (input : DriverInput) : Prop :=
  ∀ resources, driver.Refuses input resources →
    driver.device.context.doSetMode = false ∧ driver.device.context.recoverModeUpdateSwapChain = false

/-- The step that ends an assignment has offered the swap chain. -/
theorem returns_offered {context : MonitorContext} {action : MonitorAction} {resources : Resources}
    (returned : context.returns action = some (some resources)) :
    ∃ earlier, (context.step action).offered = earlier ++ [.offer resources] ∧
      (context.step action).swapChain = if resources.init then some earlier.length else none := by
  cases action with
  | assignSwapChain given =>
    cases control : context.control with
    | idle =>
      cases owned : context.swapChain with
      | none =>
        simp only [MonitorContext.returns, control, owned, Option.isNone_none, if_true, Option.some.injEq] at returned
        subst given
        refine ⟨context.offered, ?_⟩
        simp [MonitorContext.step, control, MonitorContext.reset, owned, MonitorContext.continueWith, MonitorContext.offer]
      | some processor => simp [MonitorContext.returns, control, owned] at returned
    | joining processor next => simp [MonitorContext.returns, control] at returned
  | unassignSwapChain => cases control : context.control <;> simp [MonitorContext.returns, control] at returned
  | joined =>
    cases control : context.control with
    | idle => simp [MonitorContext.returns, control] at returned
    | joining processor next =>
      cases running : context.isRunning processor with
      | true => simp [MonitorContext.returns, control, running] at returned
      | false =>
        simp only [MonitorContext.returns, control, running, Bool.false_eq_true, if_false, Option.some.injEq] at returned
        subst next
        refine ⟨context.offered, ?_⟩
        simp [MonitorContext.step, control, running, MonitorContext.continueWith, MonitorContext.offer]
  | work processor answer => simp [MonitorContext.returns] at returned

/-- A refused swap chain is deleted in the callback, and no processor is owned. -/
theorem refuses_deletes {driver : Driver} {monitor : Nat} {action : MonitorAction} {world : World} {resources : Resources}
    (returned : (driver.contexts monitor).returns action = some (some resources)) (refused : resources.init = false) :
    ∃ earlier chain, ((driver.step (.monitor monitor action world)).contexts monitor).offered = earlier ++ [chain] ∧
      chain.calls = [.wdfObjectDelete] ∧ chain.thread = none ∧
      ((driver.step (.monitor monitor action world)).contexts monitor).swapChain = none := by
  obtain ⟨earlier, offered, owned⟩ := returns_offered returned
  rw [refused] at owned
  refine ⟨earlier, .offer resources, ?_⟩
  simp [step, stepMonitor, offered, owned, OfferedSwapChain.offer, OfferedSwapChain.call, refused]

theorem refuses_pending {driver : Driver} {input : DriverInput} {resources : Resources}
    (refuses : driver.Refuses input resources) :
    (driver.step input).pending = driver.pending ↔
      driver.device.context.doSetMode = false ∧ driver.device.context.recoverModeUpdateSwapChain = false := by
  obtain ⟨monitor, action, world, rfl, returned, _⟩ := refuses
  have device : (driver.step (.monitor monitor action world)).device = driver.device.monitorAssignSwapChain monitor := by
    simp only [step, stepMonitor, returned]
  simp only [pending, device, Prod.mk.injEq]
  constructor
  · rintro ⟨waits, _, recovers, _⟩
    obtain ⟨_, _, same⟩ := Device.monitorAssignSwapChain_frame monitor driver.device
    rw [same] at waits recovers
    exact ⟨waits.symm, recovers.symm⟩
  · rintro ⟨waits, recovers⟩
    simp [Device.monitorAssignSwapChain, Device.onAssignSwapChain, waits, recovers, Device.announcements]

/-- A refused assignment keeps what is pending in exactly the runs where nothing is
pending when it is refused. -/
theorem refusalKeepsPending_iff (registry : Registry) (inputs : List DriverInput) :
    Along step RefusalKeepsPending (initial registry) inputs ↔
      Along step RefusedWithNothingPending (initial registry) inputs := by
  refine along_congr (fun _ => True) (fun _ _ _ _ => trivial) ?_ _ _ trivial
  intro driver input _
  constructor
  · intro keeps resources refuses
    exact (refuses_pending refuses).mp (keeps resources refuses)
  · intro nothing resources refuses
    exact (refuses_pending refuses).mpr (nothing resources refuses)

/-- A mode update falls back to a replug; the device fails at the assignment that
follows, and the mode is announced all the same. -/
theorem refusalKeepsPending_violated :
    ¬ ∀ (registry : Registry) (inputs : List DriverInput), Along step RefusalKeepsPending (initial registry) inputs := by
  intro claim
  have every := claim ⟨none, false⟩
    [.callback ⟨.d0Entry, {}⟩, .callback ⟨.adapterInitFinished true, {}⟩, .monitor 0 (.assignSwapChain {}) {},
      .callback ⟨.setResolution 1024 768, { updateModes := false }⟩, .monitor 0 .unassignSwapChain {},
      .monitor 0 (.work 0 { getDevice := false }) {}, .monitor 0 (.work 0 {}) {}, .monitor 0 .joined {},
      .monitor 1 (.assignSwapChain { init := false }) {}]
  obtain ⟨_, _, _, _, _, _, _, _, refusal, _⟩ := every
  have kept := refusal { init := false } ⟨1, _, _, rfl, rfl, rfl⟩
  exact absurd (congrArg Prod.fst kept) (by decide)

end QubesIdd.Driver
