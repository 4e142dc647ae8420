import QubesIdd.Driver
import QubesIdd.Proofs.SwapChainThreads

/-! The driver as a whole over its runs: the device takes the steps of the device alone,
and each context those of one monitor, so that what holds of every run of these holds
of their part in the driver. -/

namespace QubesIdd.Driver
open Library.Runs

theorem stepDevice_run (device : Device) (input : Input) :
    ∃ inputs, stepDevice device input = run Device.step device inputs := by
  unfold stepDevice
  split
  · exact ⟨[], rfl⟩
  · exact ⟨[], rfl⟩
  · exact ⟨[], rfl⟩
  · exact ⟨[input], rfl⟩

theorem stepMonitor_run (monitor : Nat) (action : MonitorAction) (world : World) (driver : Driver) :
    ∃ inputs, (driver.stepMonitor monitor action world).device = run Device.step driver.device inputs := by
  unfold stepMonitor
  dsimp only
  split
  · exact ⟨[⟨.assignSwapChain monitor, world⟩], rfl⟩
  · exact ⟨[⟨.unassignSwapChain monitor, world⟩], rfl⟩
  · split
    · exact ⟨[⟨.swapChainLost, world⟩], rfl⟩
    · exact ⟨[], rfl⟩

/-- Every run of the driver is a run of the device to its fields. -/
theorem device_run (driver : Driver) (inputs : List DriverInput) :
    ∃ deviceInputs, (run step driver inputs).device = run Device.step driver.device deviceInputs := by
  apply run_projects Driver.device
  intro before input
  cases input with
  | callback input => exact stepDevice_run before.device input
  | monitor monitor action world => exact stepMonitor_run monitor action world before

theorem context_run (monitor : Nat) (driver : Driver) (inputs : List DriverInput) :
    ∃ actions, (run step driver inputs).contexts monitor = run MonitorContext.step (driver.contexts monitor) actions := by
  refine run_projects (fun driver : Driver => driver.contexts monitor) ?_ driver inputs
  intro before input
  cases input with
  | callback input => exact ⟨[], rfl⟩
  | monitor other action world =>
    by_cases same : monitor = other
    · subst other
      exact ⟨[action], by simp [step, stepMonitor]⟩
    · exact ⟨[], by simp [step, stepMonitor, same]⟩

theorem contexts_sound (registry : Registry) (inputs : List DriverInput) (monitor : Nat) :
    ((run step (initial registry) inputs).contexts monitor).Sound := by
  obtain ⟨actions, reached⟩ := context_run monitor (initial registry) inputs
  rw [reached]
  exact MonitorContext.run_sound actions

end QubesIdd.Driver
