import QubesIdd.Proofs.Announcement
import QubesIdd.Proofs.DevicePlug
import QubesIdd.Proofs.Lifetime

/-! A request that cannot be met in place, carried through by the departure of the
monitor, the end of its swap chain, a new monitor and the swap chain of that one. -/

namespace QubesIdd.Device
open CSettings CEdid Library.Runs

/-- Callbacks that may come at any time meanwhile. -/
def Waits (input : Input) : Prop :=
  match input.callback with
  | .d0Entry | .adapterInitFinished _ | .swapChainLost | .lgmpTimer => True
  | .replugMonitor | .setResolution _ _ | .assignSwapChain _ | .unassignSwapChain _ => False

theorem finishInit_monitors (world : World) (connectorIndex : Nat) (device : Device) :
    ∃ created, (device.finishInit world connectorIndex).iddCx.monitors = device.iddCx.monitors ++ created ∧
      (world.monitorCreate = true → world.monitorArrival = true →
        created = [⟨⟨.arrived, false⟩, connectorIndex, device.context.edid⟩]) := by
  unfold finishInit
  cases world.monitorCreate with
  | false => exact ⟨[], by simp, nofun⟩
  | true =>
    cases world.monitorArrival with
    | false => exact ⟨_, rfl, nofun⟩
    | true => exact ⟨_, modify_last .., fun _ _ => rfl⟩

/-- What the framework holds of the replug: the flag, the last departure, and the
monitors there are, to which others may be added. -/
structure Unmoved (device after : Device) : Prop where
  replugMonitor : after.context.replugMonitor = device.context.replugMonitor
  lastDeparted : after.iddCx.lastDeparted = device.iddCx.lastDeparted
  monitors : device.iddCx.monitors <+: after.iddCx.monitors

theorem Unmoved.trans {first second third : Device} (before : Unmoved first second) (after : Unmoved second third) :
    Unmoved first third where
  replugMonitor := after.replugMonitor.trans before.replugMonitor
  lastDeparted := after.lastDeparted.trans before.lastDeparted
  monitors := before.monitors.trans after.monitors

theorem finishInit_unmoved (world : World) (connectorIndex : Nat) (device : Device) :
    Unmoved device (device.finishInit world connectorIndex) := by
  obtain ⟨created, monitors, _⟩ := finishInit_monitors world connectorIndex device
  obtain ⟨_, _, same⟩ := finishInit_frame world connectorIndex device
  rw [same] at monitors ⊢
  exact ⟨rfl, rfl, created, monitors.symm⟩

theorem step_unmoved (device : Device) {input : Input} (waits : Waits input) : Unmoved device (device.step input) := by
  obtain ⟨callback, world⟩ := input
  cases callback with
  | d0Entry =>
    obtain ⟨_, _, _, _, _, same⟩ := initAdapter_frame world device
    simp only [step, same]
    exact ⟨rfl, rfl, List.prefix_rfl⟩
  | adapterInitFinished success =>
    cases success with
    | false => exact ⟨rfl, rfl, List.prefix_rfl⟩
    | true =>
      obtain ⟨replug, departed, monitors⟩ := finishInit_unmoved world 0
        { device with iddCx := { device.iddCx with initPending := device.iddCx.initPending - 1 } }
      exact ⟨replug, departed, monitors⟩
  | swapChainLost =>
    simp only [step, onSwapChainLost]
    split
    · exact ⟨rfl, rfl, List.prefix_rfl⟩
    · exact ⟨rfl, rfl, List.prefix_rfl⟩
  | lgmpTimer => exact ⟨rfl, rfl, List.prefix_rfl⟩
  | replugMonitor | setResolution | assignSwapChain | unassignSwapChain => exact waits.elim

theorem run_unmoved (device : Device) (inputs : List Input) (waits : ∀ input ∈ inputs, Waits input) :
    Unmoved device (run step device inputs) := by
  induction inputs generalizing device with
  | nil => exact ⟨rfl, rfl, List.prefix_rfl⟩
  | cons input rest ih =>
    have now := step_unmoved device (waits input List.mem_cons_self)
    exact now.trans (ih _ fun later member => waits later (List.mem_cons_of_mem _ member))

/-- The request takes the monitor away. -/
theorem setResolution_departs (asked : World) (width height : Int32) (device : Device) {old : Nat}
    (holding : device.context.monitor = some old) (idle : device.context.replugMonitor = false)
    (refused : device.updates asked = false) (departs : asked.monitorDeparture = true) :
    let after := device.setResolution asked width height
    after.context.replugMonitor = true ∧ after.iddCx.lastDeparted = some old := by
  intro after
  obtain ⟨handed, _, same⟩ := setResolution_refused asked width height device refused
  have held : (storeRequest asked width height device).context.monitor = some old := holding
  have unplugged : (storeRequest asked width height device).context.replugMonitor = false := idle
  rw [show after = _ from same]
  simp [replugMonitor, log, held, unplugged, departs, IddCx.monitorDeparture]

/-- The end of the swap chain brings the monitor back, described by the EDID of then. -/
theorem unassign_replugs (creation : World) (monitor : Nat) (device : Device) (flagged : device.context.replugMonitor = true)
    (created : creation.monitorCreate = true) (arrived : creation.monitorArrival = true) :
    let after := device.monitorUnassignSwapChain creation monitor
    after.context.replugMonitor = false ∧ after.iddCx.lastDeparted = device.iddCx.lastDeparted ∧
      after.iddCx.monitors[device.iddCx.monitors.length]? = some ⟨⟨.arrived, false⟩, 0, device.context.edid⟩ := by
  intro after
  let cleared : Device :=
    { device with
      context := { device.context with
        replugMonitor := false, replugMonitorQueued := false, recoverModeUpdateSwapChain := false }
      iddCx := device.iddCx.setAssigned monitor false }
  have same : after = cleared.finishInit creation 0 := by
    simp [after, cleared, monitorUnassignSwapChain, onUnassignedSwapChain, flagged]
  obtain ⟨made, monitors, new⟩ := finishInit_monitors creation 0 cleared
  obtain ⟨replug, departed, _⟩ := finishInit_unmoved creation 0 cleared
  have count : cleared.iddCx.monitors.length = device.iddCx.monitors.length := by simp [cleared, IddCx.setAssigned]
  rw [same, monitors, new created arrived, ← count]
  exact ⟨replug, departed, List.getElem?_concat_length⟩

theorem waits_quiet {input : Input} (waits : Waits input) : (advert input).Quiet ∧ requests input = false := by
  obtain ⟨callback, world⟩ := input
  cases callback with
  | d0Entry | adapterInitFinished | swapChainLost | lgmpTimer => exact ⟨trivial, rfl⟩
  | replugMonitor | setResolution | assignSwapChain | unassignSwapChain => exact waits.elim

/-- The list and its EDID from a request to the next one. -/
theorem quiet_listed (asked : World) (width height : Int32) (device : Device) (inputs : List Input)
    (quiet : ∀ input ∈ inputs, (advert input).Quiet) :
    let requested := device.step ⟨.setResolution width height, asked⟩
    let reached := run step requested inputs
    reached.context.displayModes = requested.context.displayModes ∧
      reached.context.edid = build requested.context.displayModes := by
  intro requested reached
  have shown : requested.advertised =
      (device.registry.configuration.remember width height (asked.write.created && asked.write.stored)).rebuilt :=
    step_advertised device _
  have kept : reached.advertised = requested.advertised := by
    rw [run_simulates advertised step_advertised, seen_map, shown]
    apply Advertised.run_quiet
    intro event member
    obtain ⟨input, inside, rfl⟩ := List.mem_map.mp member
    exact quiet input inside
  have modes : reached.context.displayModes = requested.context.displayModes := congrArg Advertised.shown kept
  have current : reached.EdidCurrent := by
    apply run_preserves EdidCurrent fun device input before => step_edidCurrent device input (.inl before)
    exact step_edidCurrent device _ (.inr rfl)
  exact ⟨modes, current.trans (congrArg build modes)⟩

/-- Once no mode is pending any more, a request with none behind it has been announced once. -/
theorem settled_announces (asked : World) (width height : Int32) (device : Device) (inputs : List Input)
    (silent : ∀ input ∈ inputs, requests input = false)
    (settled : (run step (device.step ⟨.setResolution width height, asked⟩) inputs).context.doSetMode = false) :
    (run step (device.step ⟨.setResolution width height, asked⟩) inputs).announcements =
      device.announcements ++ [(device.requestedMode width height).size] := by
  generalize named : device.step ⟨.setResolution width height, asked⟩ = requested at settled ⊢
  have viewed : (run step requested inputs).mailbox = run Library.Mailbox.step device.mailbox
      (.post (device.requestedMode width height).size (device.updates asked) :: seen step mailboxEvent requested inputs) := by
    rw [run_simulates mailbox step_mailbox, run_cons, ← named]
    exact congrArg (fun box => run _ box _) (step_mailbox device _)
  have unposted : ∀ event ∈ seen step mailboxEvent requested inputs, event.posts = false := seen_quiet silent
  have announced := (device.mailbox.run_post (device.requestedMode width height).size (device.updates asked) _ unposted).2
  rw [← viewed, show (run step requested inputs).mailbox.pending = false from settled] at announced
  exact announced

/-- A request that is refused in place is carried through by the replug: the monitor
departs, a new one with the requested list arrives once the swap chain is gone, and its
swap chain has the mode announced, once. -/
theorem request_replugs (device : Device) (asked creation assigning : World) (width height : Int32) (old gone new : Nat)
    (between later : List Input) (holding : device.context.monitor = some old)
    (idle : device.context.replugMonitor = false) (refused : device.updates asked = false)
    (departs : asked.monitorDeparture = true) (created : creation.monitorCreate = true)
    (arrived : creation.monitorArrival = true) (waits : ∀ input ∈ between ++ later, Waits input) :
    let requested := device.step ⟨.setResolution width height, asked⟩
    let departed := run step requested between
    let replugged := departed.step ⟨.unassignSwapChain gone, creation⟩
    let reached := (run step replugged later).step ⟨.assignSwapChain new, assigning⟩
    (departed.context.replugMonitor = true ∧ departed.iddCx.lastDeparted = some old) ∧
    (reached.context.replugMonitor = false ∧ reached.iddCx.lastDeparted = some old) ∧
    (∃ monitor, reached.iddCx.monitors[departed.iddCx.monitors.length]? = some monitor ∧ monitor.status = .arrived ∧
      monitor.connectorIndex = 0 ∧ monitor.description = build requested.context.displayModes) ∧
    (reached.context.displayModes = requested.context.displayModes ∧
      reached.context.edid = build requested.context.displayModes) ∧
    reached.announcements = device.announcements ++ [(device.requestedMode width height).size] ∧
    reached.context.doSetMode = false := by
  intro requested departed replugged reached
  have waitsBetween (input : Input) (member : input ∈ between) := waits input (List.mem_append_left _ member)
  have waitsLater (input : Input) (member : input ∈ later) := waits input (List.mem_append_right _ member)
  let inputs := between ++ ⟨.unassignSwapChain gone, creation⟩ :: (later ++ [⟨.assignSwapChain new, assigning⟩])
  have whole : reached = run step requested inputs := by
    simp only [inputs, run_append, run_cons, run_nil]
    rfl
  have quiet : ∀ input ∈ inputs, (advert input).Quiet ∧ requests input = false := by
    intro input member
    rcases List.mem_append.mp member with first | rest
    · exact waits_quiet (waitsBetween input first)
    · rcases List.mem_cons.mp rest with rfl | behind
      · exact ⟨trivial, rfl⟩
      · rcases List.mem_append.mp behind with middle | last
        · exact waits_quiet (waitsLater input middle)
        · rw [List.mem_singleton.mp last]
          exact ⟨trivial, rfl⟩
  -- The handles: a departure, a new monitor behind the ones there are, and no other move.
  obtain ⟨flagged, left⟩ := setResolution_departs asked width height device holding idle refused departs
  have toDeparted := run_unmoved requested between waitsBetween
  have flag : departed.context.replugMonitor = true := toDeparted.replugMonitor.trans flagged
  have away : departed.iddCx.lastDeparted = some old := toDeparted.lastDeparted.trans left
  obtain ⟨unflagged, kept, fresh⟩ := unassign_replugs creation gone departed flag created arrived
  have toLater := run_unmoved replugged later waitsLater
  obtain ⟨_, _, assigns⟩ := monitorAssignSwapChain_frame new (run step replugged later)
  have last : reached = _ := assigns
  refine ⟨⟨flag, away⟩, ?_, ?_, ?_, ?_⟩
  · rw [last]
    exact ⟨toLater.replugMonitor.trans unflagged, toLater.lastDeparted.trans (kept.trans away)⟩
  · obtain ⟨_, described⟩ := quiet_listed asked width height device between fun input member =>
      (waits_quiet (waitsBetween input member)).1
    have there : (run step replugged later).iddCx.monitors[departed.iddCx.monitors.length]? =
        some ⟨⟨.arrived, false⟩, 0, departed.context.edid⟩ := by
      obtain ⟨more, longer⟩ := toLater.monitors
      rw [← longer]
      exact (List.getElem?_append_left (List.getElem?_eq_some_iff.mp fresh).1).trans fresh
    rw [last]
    simp only [IddCx.setAssigned, List.getElem?_modify, there]
    exact ⟨_, rfl, by split <;> rfl, by split <;> rfl, by split <;> exact described⟩
  · rw [whole]
    exact quiet_listed asked width height device inputs fun input member => (quiet input member).1
  · have settled : reached.context.doSetMode = false := by rw [last]
    refine ⟨?_, settled⟩
    rw [whole] at settled ⊢
    exact settled_announces asked width height device inputs (fun input member => (quiet input member).2) settled

/-- The second monitor is there with the new mode when its swap chain is assigned. -/
theorem request_replugs_refused :
    let arrives : List Input := [⟨.d0Entry, {}⟩, ⟨.adapterInitFinished true, {}⟩, ⟨.assignSwapChain 0, {}⟩]
    let plugged := run step (initial ⟨none, true⟩) arrives
    let requested := plugged.step ⟨.setResolution 800 600, { updateModes := false }⟩
    let departed := run step requested [⟨.lgmpTimer, {}⟩]
    let replugged := departed.step ⟨.unassignSwapChain 0, {}⟩
    let reached := (run step replugged [⟨.lgmpTimer, {}⟩]).step ⟨.assignSwapChain 1, {}⟩
    reached.announcements = [(800, 600, 60)] :=
  (request_replugs (run step (initial ⟨none, true⟩) [⟨.d0Entry, {}⟩, ⟨.adapterInitFinished true, {}⟩, ⟨.assignSwapChain 0, {}⟩])
    { updateModes := false } {} {} 800 600 0 0 1 [⟨.lgmpTimer, {}⟩] [⟨.lgmpTimer, {}⟩]
    rfl rfl rfl rfl rfl rfl (by simp [Waits])).2.2.2.2.1

end QubesIdd.Device
