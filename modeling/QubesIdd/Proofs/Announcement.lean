import QubesIdd.Library.Mailbox
import QubesIdd.Proofs.DeviceSteps

/-! Announcing a requested mode: to the driver's fields the request is a slot for the
latest item, delivered at once or kept until a swap chain is assigned. -/

namespace QubesIdd.Device
open Library Library.Runs

def announcement : Call → Option (UInt32 × UInt32 × UInt32)
  | .setDisplayMode width height refresh => some (width, height, refresh)
  | _ => none

/-- The modes announced through the pipe so far. -/
def announcements (device : Device) : List (UInt32 × UInt32 × UInt32) := device.calls.filterMap announcement

def mailbox (device : Device) : Mailbox (UInt32 × UInt32 × UInt32) :=
  ⟨device.context.setMode.size, device.context.doSetMode, device.announcements⟩

/-- A callback as the slot sees it. -/
def mailboxEvent (device : Device) (input : Input) : Mailbox.Event (UInt32 × UInt32 × UInt32) :=
  match input.callback with
  | .setResolution width height => .post (device.requestedMode width height).size (device.updates input.world)
  | .assignSwapChain _ => .collect
  | _ => .idle

theorem monitorAssignSwapChain_mailbox (monitor : Nat) (device : Device) :
    (device.monitorAssignSwapChain monitor).mailbox = device.mailbox.step .collect := by
  unfold monitorAssignSwapChain onAssignSwapChain
  cases waiting : device.context.doSetMode with
  | true => simp [mailbox, Mailbox.step, announcements, announcement, announce, log, DisplayMode.size, waiting]
  | false => simp [mailbox, Mailbox.step, announcements, waiting]

theorem setResolution_mailbox (world : World) (width height : Int32) (device : Device) :
    (device.setResolution world width height).mailbox =
      device.mailbox.step (.post (device.requestedMode width height).size (device.updates world)) := by
  obtain ⟨_, _, _, _, handed, calls, same⟩ := setResolution_frame world width height device
  have silent : handed.filterMap announcement = [] := by
    rw [List.filterMap_eq_nil_iff]
    intro call member
    obtain ⟨_, _, rfl⟩ := calls call member
    rfl
  have stored : (storeRequest world width height device).context.setMode = device.requestedMode width height := rfl
  rw [same]
  cases updated : device.updates world with
  | true => simp [mailbox, Mailbox.step, announcements, announcement, silent, stored, DisplayMode.size]
  | false => simp [mailbox, Mailbox.step, announcements, announcement, silent, stored]

theorem step_mailbox (device : Device) (input : Input) :
    (device.step input).mailbox = device.mailbox.step (device.mailboxEvent input) := by
  obtain ⟨callback, world⟩ := input
  cases callback with
  | d0Entry =>
    obtain ⟨_, _, _, _, _, same⟩ := initAdapter_frame world device
    simp only [step, same]
    rfl
  | adapterInitFinished success =>
    obtain ⟨_, _, _, same⟩ := adapterInitFinished_frame world success device
    simp only [step, same]
    rfl
  | replugMonitor =>
    obtain ⟨_, _, _, _, same⟩ := replugMonitor_frame world device
    simp only [step, same]
    simp [mailbox, mailboxEvent, Mailbox.step, announcements, announcement]
  | setResolution width height => exact setResolution_mailbox world width height device
  | assignSwapChain monitor => exact monitorAssignSwapChain_mailbox monitor device
  | unassignSwapChain monitor =>
    obtain ⟨_, _, _, same⟩ := monitorUnassignSwapChain_frame world monitor device
    simp only [step, same]
    rfl
  | swapChainLost =>
    simp only [step, onSwapChainLost]
    split
    · rfl
    · rfl
  | lgmpTimer => rfl

def requests (input : Input) : Bool :=
  match input.callback with
  | .setResolution _ _ => true
  | _ => false

theorem seen_quiet {device : Device} {inputs : List Input} (quiet : ∀ input ∈ inputs, requests input = false) :
    ∀ event ∈ seen step mailboxEvent device inputs, event.posts = false := by
  intro event member
  obtain ⟨reached, input, inside, rfl⟩ := mem_seen member
  have unasked := quiet input inside
  unfold requests at unasked
  unfold mailboxEvent
  split <;> simp_all [Mailbox.Event.posts]

/-- From a request to the next one, the modes announced are the requested one, once, or
none while it is still to be set. Before the first request there is nothing to set. -/
theorem latestRequest_announced (registry : Registry) (inputs : List Input) :
    let reached := run step (initial registry) inputs
    (∀ before request after width height, inputs = before ++ request :: after →
      request.callback = .setResolution width height → (∀ input ∈ after, requests input = false) →
      let asked := run step (initial registry) before
      reached.announcements = asked.announcements ++
        if reached.context.doSetMode then [] else [(asked.requestedMode width height).size]) ∧
    ((∀ input ∈ inputs, requests input = false) →
      reached.announcements = [] ∧ reached.context.doSetMode = false) := by
  intro reached
  constructor
  · intro before request after width height split asks last asked
    have reaches : reached = run step asked (request :: after) := by
      rw [show reached = run step (initial registry) (before ++ request :: after) from split ▸ rfl]
      exact List.foldl_append
    have viewed : reached.mailbox = run Mailbox.step asked.mailbox
        (.post (asked.requestedMode width height).size (asked.updates request.world) ::
          seen step mailboxEvent (asked.step request) after) := by
      rw [reaches, run_simulates mailbox step_mailbox, seen, mailboxEvent, asks]
    have announced := (asked.mailbox.run_post (asked.requestedMode width height).size (asked.updates request.world)
      (seen step mailboxEvent (asked.step request) after) (seen_quiet last)).2
    rw [← viewed] at announced
    exact announced
  · intro quiet
    have viewed : reached.mailbox = run Mailbox.step (initial registry).mailbox
        (seen step mailboxEvent (initial registry) inputs) := run_simulates mailbox step_mailbox _ _
    obtain ⟨empty, silent⟩ := (initial registry).mailbox.run_empty _ rfl (seen_quiet quiet)
    rw [← viewed] at empty silent
    exact ⟨silent, empty⟩

/-- Two refused updates and an assignment: the second request alone is announced. -/
theorem latestRequest_announced_overtaking :
    let refused : World := { updateModes := false }
    (run step (initial ⟨none, false⟩)
      [⟨.setResolution 800 600, refused⟩, ⟨.setResolution 1024 768, refused⟩, ⟨.assignSwapChain 0, {}⟩]).announcements =
        [(1024, 768, 60)] :=
  ((latestRequest_announced ⟨none, false⟩ _).1 [_] _ [_] 1024 768 rfl rfl (by decide)).trans (by decide)

end QubesIdd.Device
