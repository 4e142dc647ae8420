import QubesIdd.LossSteps
import QubesIdd.Proofs.DriverRuns

/-! `OnSwapChainLost` reads one flag and writes another, and is as good as a single step
nevertheless: the only step that a raised `m_replugMonitorQueued` could not as well be raised
before is the unassign callback, which joins the monitor's thread first. -/

namespace QubesIdd
open Library.Runs Library.Reduction

namespace Device
variable (world : World) (device : Device)

theorem queueReplug_initAdapter : device.queueReplug.initAdapter world = (device.initAdapter world).queueReplug := by
  have queried : device.queueReplug.context.queryIddCxCapabilities world =
      { device.context.queryIddCxCapabilities world with replugMonitorQueued := true } := by
    unfold DeviceContext.queryIddCxCapabilities
    split <;> rfl
  unfold initAdapter
  rw [queried]
  generalize device.context.queryIddCxCapabilities world = context
  obtain ⟨_, _, _, _, canProcessFP16, _, _, _, _, _, _⟩ := context
  simp only [DeviceContext.populateDefaultModes]
  cases world.adapterInit with
  | true => rfl
  | false =>
    cases canProcessFP16 with
    | false => rfl
    | true => cases world.adapterInitRetry <;> rfl

theorem queueReplug_finishInit (connectorIndex : Nat) :
    device.queueReplug.finishInit world connectorIndex = (device.finishInit world connectorIndex).queueReplug := by
  unfold finishInit
  split
  · rfl
  · dsimp only
    split <;> rfl

theorem queueReplug_replugMonitor : device.queueReplug.replugMonitor world = (device.replugMonitor world).queueReplug := by
  have logged : device.queueReplug.log .replugMonitor = (device.log .replugMonitor).queueReplug := rfl
  unfold replugMonitor
  rw [logged]
  generalize device.log .replugMonitor = device
  obtain ⟨⟨adapter, monitor, replug, version, fp16, modes, edid, setMode, doSetMode, _, recover⟩, iddCx, registry, calls⟩ := device
  cases monitor with
  | none =>
    exact queueReplug_finishInit world
      ⟨⟨adapter, none, replug, version, fp16, modes, edid, setMode, doSetMode, _, recover⟩, iddCx, registry, calls⟩ 0
  | some monitor =>
    cases replug with
    | true => rfl
    | false => cases world.monitorDeparture <;> rfl

theorem queueReplug_updateMonitorModes :
    device.queueReplug.updateMonitorModes world =
      ((device.updateMonitorModes world).1, (device.updateMonitorModes world).2.queueReplug) := by
  obtain ⟨⟨adapter, monitor, _, _, _, _, _, _, _, _, _⟩, iddCx, registry, calls⟩ := device
  cases monitor with
  | none => rfl
  | some monitor =>
    simp only [updateMonitorModes, queueReplug, log]
    split <;> rfl

theorem queueReplug_setResolution (width height : Int32) :
    device.queueReplug.setResolution world width height = (device.setResolution world width height).queueReplug := by
  have stored : device.queueReplug.storeRequest world width height = (device.storeRequest world width height).queueReplug := rfl
  unfold setResolution
  rw [stored, queueReplug_updateMonitorModes]
  obtain ⟨updated, changed⟩ := (device.storeRequest world width height).updateMonitorModes world
  cases updated with
  | true => rfl
  | false =>
    exact queueReplug_replugMonitor world
      { changed with context := { changed.context with doSetMode := true, recoverModeUpdateSwapChain := false } }

theorem queueReplug_assign (monitor : Nat) :
    device.queueReplug.monitorAssignSwapChain monitor = (device.monitorAssignSwapChain monitor).queueReplug := by
  obtain ⟨⟨_, _, _, _, _, _, _, _, doSetMode, _, _⟩, iddCx, registry, calls⟩ := device
  cases doSetMode <;> rfl

end Device

namespace Driver

theorem queueReplug_stepDevice (device : Device) (input : Input) :
    stepDevice device.queueReplug input = (stepDevice device input).queueReplug := by
  obtain ⟨callback, world⟩ := input
  cases callback with
  | d0Entry => exact device.queueReplug_initAdapter world
  | adapterInitFinished success =>
    cases success with
    | true =>
      exact Device.queueReplug_finishInit world
        { device with iddCx := { device.iddCx with initPending := device.iddCx.initPending - 1 } } 0
    | false => rfl
  | replugMonitor => exact device.queueReplug_replugMonitor world
  | setResolution width height => exact device.queueReplug_setResolution world width height
  | assignSwapChain monitor => rfl
  | unassignSwapChain monitor => rfl
  | swapChainLost => rfl
  | lgmpTimer => rfl

/-- An unassign callback returns. -/
def unassigns (driver : Driver) : DriverInput → Bool
  | .callback _ => false
  | .monitor monitor action _ => (driver.contexts monitor).returns action == some none

/-- Queueing the replug can be moved before every step but the return of an unassign
callback, which takes it out of the queue again. -/
theorem queueReplug_moves {driver : Driver} {input : DriverInput} (stays : driver.unassigns input = false) :
    lossMachine.Moves driver input := by
  cases input with
  | callback input => exact ⟨congrArg (Driver.mk · driver.contexts) (queueReplug_stepDevice driver.device input), rfl⟩
  | monitor monitor action world =>
    refine ⟨?_, rfl⟩
    change stepUnreported driver.queueReplug (.monitor monitor action world) =
      (stepUnreported driver (.monitor monitor action world)).queueReplug
    simp only [stepUnreported, queueReplug]
    cases returned : (driver.contexts monitor).returns action with
    | none => rfl
    | some next =>
      cases next with
      | none => simp [unassigns, returned] at stays
      | some resources => simp only [Device.queueReplug_assign]

theorem returns_loses {context : MonitorContext} {action : MonitorAction} (loses : context.loses action = true) :
    context.returns action = none := by
  cases action with
  | work processor answer => rfl
  | assignSwapChain resources => cases loses
  | unassignSwapChain => cases loses
  | joined => cases loses

/-- With the operation in one step, the machine is the driver. -/
theorem lossMachine_atomic (driver : Driver) (input : DriverInput) : lossMachine.atomic driver input = driver.step input := by
  cases input with
  | callback input => rfl
  | monitor monitor action world =>
    have raised : driver.device.onSwapChainLost =
        if driver.device.context.recoverModeUpdateSwapChain then driver.device.queueReplug else driver.device := by
      unfold Device.onSwapChainLost Device.queueReplug
      cases driver.device.context.recoverModeUpdateSwapChain <;> rfl
    change (if (driver.contexts monitor).loses action && _ then _ else _) = driver.stepMonitor monitor action world
    simp only [lossMachine, stepUnreported, stepMonitor]
    cases loses : (driver.contexts monitor).loses action with
    | false => rfl
    | true =>
      simp only [returns_loses loses, Bool.true_and, raised, if_true]
      split <;> rfl

theorem lossMachine_lawful : lossMachine.Lawful where
  write_write _ := rfl
  guard_write _ := rfl
  owned driver input starts := by
    cases input with
    | callback input => cases starts
    | monitor monitor action world =>
      cases action with
      | work processor answer => rfl
      | assignSwapChain resources => cases starts
      | unassignSwapChain => cases starts
      | joined => cases starts

end Driver

namespace OfferedSwapChain

/-- A thread that reports its swap chain lost has yet to delete it. -/
theorem work_lost {chain : OfferedSwapChain} {answer : Answer}
    (lost : .onSwapChainLost ∈ (chain.work answer).calls.drop chain.calls.length) : (chain.work answer).running = true := by
  have effect := work_effect answer chain
  obtain ⟨calls, appended, _, _, deletes, silent⟩ := effect.calls
  rw [appended, List.drop_left] at lost
  have busy : chain.running = true := by
    cases running : chain.running with
    | true => rfl
    | false =>
      rw [silent running] at lost
      cases lost
  have staying : chain.thread ≠ some .leave := by
    intro leaving
    rw [if_pos leaving] at deletes
    rw [deletes] at lost
    simp at lost
  obtain ⟨pc, here, started⟩ := (Option.any_eq_true _ _).mp busy
  obtain ⟨next, there⟩ := Option.isSome_iff_exists.mp (effect.created.trans (here ▸ rfl))
  have unfinished : next ≠ .exited := by
    intro exited
    rcases effect.exits.mp (exited ▸ there) with leaving | already
    · exact staying leaving
    · rw [here] at already
      simp [Option.some.inj already] at started
  simp [running, there, unfinished]

end OfferedSwapChain

namespace MonitorContext
open OfferedSwapChain (work_lost)

theorem isRunning_iff {context : MonitorContext} {processor : Nat} :
    context.isRunning processor = true ↔ ∃ chain, context.offered[processor]? = some chain ∧ chain.running = true := by
  rw [isRunning, Option.any_eq_true]

theorem loses_running {context : MonitorContext} {processor : Nat} {answer : Answer}
    (loses : context.loses (.work processor answer) = true) : (context.step (.work processor answer)).isRunning processor = true := by
  obtain ⟨chain, found, lost⟩ := (Option.any_eq_true _ _).mp loses
  apply isRunning_iff.mpr
  exact ⟨chain.work answer, by simp [step, update, found], work_lost (by simpa using lost)⟩

theorem offer_isRunning {context : MonitorContext} {processor : Nat} (running : context.isRunning processor = true)
    (resources : Resources) : (context.offer resources).isRunning processor = true := by
  obtain ⟨chain, found, busy⟩ := isRunning_iff.mp running
  refine isRunning_iff.mpr ⟨chain, ?_, busy⟩
  exact (List.getElem?_append_left (List.getElem?_eq_some_iff.mp found).1).trans found

theorem continueWith_isRunning {context : MonitorContext} {processor : Nat} (running : context.isRunning processor = true)
    (next : Option Resources) : (context.continueWith next).isRunning processor = true := by
  cases next with
  | none => exact running
  | some resources => exact offer_isRunning running resources

theorem reset_isRunning {context : MonitorContext} {processor : Nat} (running : context.isRunning processor = true)
    (next : Option Resources) : (context.reset next).isRunning processor = true := by
  unfold reset
  cases owned : context.swapChain with
  | none => exact continueWith_isRunning running next
  | some other =>
    obtain ⟨chain, found, busy⟩ := isRunning_iff.mp running
    apply isRunning_iff.mpr
    by_cases same : other = processor
    · exact ⟨chain.setEvent, by simp [update, same, found], busy⟩
    · exact ⟨chain, by simp [update, same, found], busy⟩

/-- Only its own steps end a thread. -/
theorem step_isRunning {context : MonitorContext} {processor : Nat} (running : context.isRunning processor = true)
    {action : MonitorAction} (other : ∀ answer, action ≠ .work processor answer) :
    (context.step action).isRunning processor = true := by
  cases action with
  | assignSwapChain resources =>
    simp only [step]
    split
    · exact reset_isRunning running _
    · exact running
  | unassignSwapChain =>
    simp only [step]
    split
    · exact reset_isRunning running _
    · exact running
  | joined =>
    cases control : context.control with
    | idle => simpa only [step, control] using running
    | joining waited next =>
      simp only [step, control]
      split
      · exact running
      · exact @continueWith_isRunning { context with control := .idle } processor running next
  | work worker answer =>
    obtain ⟨chain, found, busy⟩ := isRunning_iff.mp running
    have apart : worker ≠ processor := fun same => other answer (same ▸ rfl)
    exact isRunning_iff.mpr ⟨chain, by simp [step, update, apart, found], busy⟩

/-- No thread is running when an unassign callback returns. -/
theorem returns_stopped {context : MonitorContext} (sound : context.Sound) {action : MonitorAction}
    (returned : context.returns action = some none) (processor : Nat) : context.isRunning processor = false := by
  have inactive : ∀ active, context.active = some active → context.isRunning active = false := by
    intro active same
    unfold MonitorContext.active at same
    cases action with
    | assignSwapChain resources =>
      cases control : context.control with
      | idle =>
        simp only [returns, control] at returned
        split at returned <;> simp at returned
      | joining => simp [returns, control] at returned
    | unassignSwapChain =>
      cases control : context.control with
      | idle =>
        simp only [returns, control] at returned
        split at returned
        next none => simp_all
        next => cases returned
      | joining => simp [returns, control] at returned
    | joined =>
      cases control : context.control with
      | idle => simp [returns, control] at returned
      | joining waited next =>
        simp only [returns, control] at returned
        rw [control] at same
        split at returned
        next => cases returned
        next stopped => simpa [← Option.some.inj same] using stopped
    | work worker answer => cases returned
  have quiet := quiet_of_inactive sound inactive
  by_contra running
  obtain ⟨chain, found, busy⟩ := isRunning_iff.mp (by simpa using running)
  exact absurd busy (by simp [quiet chain (List.mem_of_getElem? found)])

end MonitorContext

namespace Driver

/-- No thread of another monitor is between its two accesses when an unassign callback
returns. -/
def Apart (fine : Fine Driver Thread) : Event DriverInput Thread → Prop
  | .input (.monitor monitor action _) =>
    (fine.state.contexts monitor).returns action = some none → ∀ thread ∈ fine.pending, thread.1 = monitor
  | _ => True

instance (fine : Fine Driver Thread) : (event : Event DriverInput Thread) → Decidable (Apart fine event)
  | .input (.monitor _ _ _) => inferInstanceAs (Decidable (_ → _))
  | .input (.callback _) => inferInstanceAs (Decidable True)
  | .write _ => inferInstanceAs (Decidable True)

/-- Threads between their two accesses are still running. -/
structure LossSound (fine : Fine Driver Thread) : Prop where
  sound : ∀ monitor, (fine.state.contexts monitor).Sound
  running : ∀ thread ∈ fine.pending, (fine.state.contexts thread.1).isRunning thread.2 = true

section
variable {fine : Fine Driver Thread} (lossSound : LossSound fine)
include lossSound

theorem lossSound_monitor {monitor : Nat} {action : MonitorAction} {world : World}
    (free : lossMachine.blocked fine (.monitor monitor action world) = false) :
    LossSound (lossMachine.split fine (.input (.monitor monitor action world))) := by
  obtain ⟨sound, running⟩ := lossSound
  obtain ⟨state, pending⟩ := lossMachine.split_input_state free
  have contexts : (lossMachine.split fine (.input (.monitor monitor action world))).state.contexts =
      Function.update fine.state.contexts monitor ((fine.state.contexts monitor).step action) := by
    rw [state]
    rfl
  refine ⟨fun other => ?_, fun thread member => ?_⟩
  · rw [contexts]
    by_cases same : other = monitor
    · rw [same, Function.update_self]
      exact MonitorContext.step_sound _ action (sound monitor)
    · rw [Function.update_of_ne same]
      exact sound other
  · rw [contexts]
    rcases pending thread member with earlier | ⟨owner, loses⟩
    · by_cases same : thread.1 = monitor
      · rw [same, Function.update_self]
        refine MonitorContext.step_isRunning (same ▸ running thread earlier) fun answer works => ?_
        have named : (monitor, thread.2) = thread := Prod.ext same.symm rfl
        have held : lossMachine.blocked fine (.monitor monitor (.work thread.2 answer) world) = true := by
          simp [Machine.blocked, lossMachine, Driver.thread, named, earlier]
        rw [works, held] at free
        cases free
      · rw [Function.update_of_ne same]
        exact running thread earlier
    · cases action with
      | work processor answer =>
        obtain rfl : (monitor, processor) = thread := Option.some.inj owner
        rw [Function.update_self]
        exact MonitorContext.loses_running loses
      | assignSwapChain resources => cases loses
      | unassignSwapChain => cases loses
      | joined => cases loses

theorem lossSound_step (event : Event DriverInput Thread) : LossSound (lossMachine.split fine event) := by
  cases event with
  | write thread =>
    obtain ⟨pending, state⟩ := lossMachine.split_write_state fine thread
    have contexts : (lossMachine.split fine (.write thread)).state.contexts = fine.state.contexts := by
      rcases state with same | written
      · rw [same]
      · rw [written]
        rfl
    exact ⟨contexts ▸ lossSound.sound, fun other member => contexts ▸ lossSound.running other (pending other member)⟩
  | input input =>
    cases free : lossMachine.blocked fine input with
    | true =>
      rw [Machine.split, free, if_pos rfl]
      exact lossSound
    | false =>
      cases input with
      | callback input =>
        obtain ⟨state, pending⟩ := lossMachine.split_input_state free
        have contexts : (lossMachine.split fine (.input (.callback input))).state.contexts = fine.state.contexts := by
          rw [state]
          rfl
        refine ⟨contexts ▸ lossSound.sound, fun thread member => contexts ▸ lossSound.running thread ?_⟩
        rcases pending thread member with earlier | ⟨owner, _⟩
        · exact earlier
        · cases owner
      | monitor monitor action world => exact lossSound_monitor lossSound free

/-- The threads of its own monitor have been joined when an unassign callback returns. -/
theorem lossSound_movable {event : Event DriverInput Thread} (apart : Apart fine event) : lossMachine.Movable fine event := by
  cases event with
  | write thread => trivial
  | input input =>
    intro _ some_pending
    apply queueReplug_moves
    cases input with
    | callback input => rfl
    | monitor monitor action world =>
      obtain ⟨thread, member⟩ := List.exists_mem_of_ne_nil _ some_pending
      cases returned : fine.state.unassigns (.monitor monitor action world) with
      | false => rfl
      | true =>
        have returns : (fine.state.contexts monitor).returns action = some none := by simpa [unassigns] using returned
        have own := apart returns thread member
        have stopped := MonitorContext.returns_stopped (lossSound.sound monitor) returns thread.2
        have busy := lossSound.running thread member
        rw [own, stopped] at busy
        cases busy

theorem lossSound_along {events : List (Event DriverInput Thread)} (apart : Along lossMachine.split Apart fine events) :
    Along lossMachine.split lossMachine.Movable fine events := by
  induction events generalizing fine with
  | nil => trivial
  | cons event rest ih =>
    obtain ⟨here, later⟩ := apart
    exact ⟨lossSound_movable lossSound here, ih (lossSound_step lossSound event) later⟩

end

/-- With the swap chains of any monitors: a run in which `OnSwapChainLost` reads one flag and
later writes the other, and no unassign callback returns in between but that of the same
monitor, ends, once what is still to be written is written, as the run in which it does both
where it reads. -/
theorem loss_atomic (registry : Registry) (events : List (Event DriverInput Thread))
    (apart : Along lossMachine.split Apart ⟨initial registry, []⟩ events) :
    lossMachine.completed (run lossMachine.split ⟨initial registry, []⟩ events) =
      run step (initial registry) (lossMachine.taken ⟨initial registry, []⟩ events) := by
  have atomic : lossMachine.atomic = step := funext fun driver => funext fun input => lossMachine_atomic driver input
  have start : LossSound ⟨initial registry, []⟩ := ⟨fun _ => MonitorContext.initial_sound, by simp⟩
  rw [Machine.run_completed lossMachine_lawful _ _ (lossSound_along start apart), atomic]
  rfl

/-- A thread finds the recovery flag up when its swap chain is lost, and queues the replug
only after a request in between has taken the flag back. -/
private def overlapping : List (Event DriverInput Thread) :=
  [.input (.callback ⟨.d0Entry, {}⟩), .input (.callback ⟨.adapterInitFinished true, {}⟩),
    .input (.monitor 0 (.assignSwapChain {}) {}), .input (.callback ⟨.setResolution 800 600, {}⟩)] ++
  List.replicate 4 (.input (.monitor 0 (.work 0 {}) {})) ++
  [.input (.monitor 0 (.work 0 { acquire := .failure .STATUS_GRAPHICS_PATH_NOT_IN_TOPOLOGY }) {}),
    .input (.callback ⟨.setResolution 1024 768, { updateModes := false, monitorDeparture := false }⟩), .write (0, 0)]

theorem loss_atomic_overlapping :
    (run step (initial ⟨none, false⟩) (lossMachine.taken ⟨initial ⟨none, false⟩, []⟩ overlapping)).device.context.replugMonitorQueued =
      true := by
  have whole := loss_atomic ⟨none, false⟩ overlapping (by decide)
  rw [← whole]
  decide

end Driver
end QubesIdd
