import QubesIdd.Library.Runs
import QubesIdd.Proofs.DeviceSteps
import QubesIdd.ResolutionSteps

/-! The recovery flag between the steps of `SetResolution` and the callbacks on other
threads: which losses it lets through, and when it outlives the swap chain it was
raised for. -/

namespace QubesIdd

/-- What a step is to the two flags. -/
inductive FlagEvent where
  | accept
  | raise
  | drop
  | assign
  | unassign
  | lost
  | other
  deriving DecidableEq, Repr

structure Flags where
  recover : Bool := false
  queued : Bool := false
  deriving DecidableEq, Repr

namespace Flags
open Library.Runs

def step (flags : Flags) : FlagEvent → Flags
  | .raise => { flags with recover := true }
  | .drop | .assign => { flags with recover := false }
  | .unassign => ⟨false, false⟩
  | .lost => { flags with queued := flags.queued || flags.recover }
  | .accept | .other => flags

def lowersRecover : FlagEvent → Bool
  | .drop | .assign | .unassign => true
  | _ => false

/-- The flag has been raised, and neither a callback nor a fallback has lowered it since. -/
def Raised (events : List FlagEvent) : Prop :=
  ∃ before after, events = before ++ .raise :: after ∧ ∀ later ∈ after, lowersRecover later = false

/-- A loss has found the flag up, and no unassign callback has come since. -/
def LossQueued (events : List FlagEvent) : Prop :=
  ∃ before after, events = before ++ .lost :: after ∧ Raised before ∧ ∀ later ∈ after, later ≠ .unassign

theorem recover_step (flags : Flags) (event : FlagEvent) :
    (flags.step event).recover = (!lowersRecover event && (event == .raise || flags.recover)) := by
  cases event <;> rfl

theorem queued_step (flags : Flags) (event : FlagEvent) :
    (flags.step event).queued = (!(event == .unassign) && (event == .lost && flags.recover || flags.queued)) := by
  cases event with
  | lost => exact Bool.or_comm _ _
  | _ => rfl

theorem recover_iff (flags : Flags) (down : flags.recover = false) (events : List FlagEvent) :
    (run step flags events).recover = true ↔ Raised events := by
  rw [flag_raised recover_step flags events down]
  constructor
  · rintro ⟨before, event, after, rfl, raised, _, kept⟩
    obtain rfl : event = .raise := by simpa using raised
    exact ⟨before, after, rfl, kept⟩
  · rintro ⟨before, after, rfl, kept⟩
    exact ⟨before, .raise, after, rfl, rfl, rfl, kept⟩

theorem queued_iff (events : List FlagEvent) : (run step {} events).queued = true ↔ LossQueued events := by
  rw [flag_raised queued_step {} events rfl]
  constructor
  · rintro ⟨before, event, after, rfl, raised, _, kept⟩
    obtain ⟨lost, up⟩ := Bool.and_eq_true_iff.mp raised
    obtain rfl : event = .lost := by simpa using lost
    exact ⟨before, after, rfl, (recover_iff {} rfl before).mp up, fun later member => by simpa using kept later member⟩
  · rintro ⟨before, after, rfl, raised, kept⟩
    refine ⟨before, .lost, after, rfl, ?_, rfl, fun later member => by simpa using kept later member⟩
    simpa using (recover_iff {} rfl before).mpr raised

end Flags

namespace ResolutionState
open Library.Runs

/-- Taken without anything in between, the steps are `SetResolution`. -/
theorem run_setResolution (world : World) (width height : Int32) (device : Device) :
    run step ⟨device, .idle⟩ (.setResolution width height world :: List.replicate 4 (.advance world)) =
      ⟨device.setResolution world width height, .idle⟩ := by
  cases updated : (device.storeRequest world width height).updateMonitorModes world with
  | mk result changed =>
    cases result with
    | true => simp [List.replicate, step, advance, updated, withContext, Device.setResolution]
    | false => simp [List.replicate, step, advance, updated, withContext, Device.setResolution]

def flags (state : ResolutionState) : Flags :=
  ⟨state.device.context.recoverModeUpdateSwapChain, state.device.context.replugMonitorQueued⟩

def event (state : ResolutionState) : ResolutionInput → FlagEvent
  | .setResolution _ _ _ => .other
  | .advance world =>
    match state.pc with
    | .updateMonitorModes => if state.device.updates world then .accept else .other
    | .raiseRecover => .raise
    | .dropRecover => .drop
    | _ => .other
  | .callback input =>
    match input.callback with
    | .assignSwapChain _ => .assign
    | .unassignSwapChain _ => .unassign
    | .swapChainLost => .lost
    | _ => .other

theorem advance_flags (world : World) (state : ResolutionState) :
    (state.advance world).flags = state.flags.step (state.event (.advance world)) := by
  obtain ⟨device, pc⟩ := state
  cases pc with
  | idle => rfl
  | updateMonitorModes =>
    obtain ⟨_, _, same, _⟩ := Device.updateMonitorModes_cases world device
    simp only [advance, flags, same, event]
    cases device.updates world <;> rfl
  | lowerDoSetMode => rfl
  | raiseRecover => rfl
  | announce => rfl
  | raiseDoSetMode => rfl
  | dropRecover => rfl
  | replugMonitor =>
    obtain ⟨_, _, _, _, same⟩ := Device.replugMonitor_frame world device
    simp only [advance, same]
    rfl

theorem callback_flags (input : Input) (state : ResolutionState) :
    (state.step (.callback input)).flags = state.flags.step (state.event (.callback input)) := by
  obtain ⟨callback, world⟩ := input
  cases callback with
  | d0Entry =>
    obtain ⟨_, _, _, _, _, same⟩ := Device.initAdapter_frame world state.device
    simp only [step, Device.step, same]
    rfl
  | adapterInitFinished success =>
    obtain ⟨_, _, _, same⟩ := Device.adapterInitFinished_frame world success state.device
    simp only [step, Device.step, same]
    rfl
  | replugMonitor =>
    obtain ⟨_, _, _, _, same⟩ := Device.replugMonitor_frame world state.device
    simp only [step, Device.step, same]
    rfl
  | setResolution width height => rfl
  | assignSwapChain monitor =>
    obtain ⟨_, _, same⟩ := Device.monitorAssignSwapChain_frame monitor state.device
    simp only [step, Device.step, same]
    rfl
  | unassignSwapChain monitor =>
    obtain ⟨_, _, _, same⟩ := Device.monitorUnassignSwapChain_frame world monitor state.device
    simp only [step, Device.step, same]
    rfl
  | swapChainLost =>
    cases recover : state.device.context.recoverModeUpdateSwapChain <;>
      simp [step, Device.step, Device.onSwapChainLost, flags, event, Flags.step, recover]
  | lgmpTimer => rfl

/-- Every step moves the two flags as its event does. -/
theorem step_flags (state : ResolutionState) (input : ResolutionInput) :
    (state.step input).flags = state.flags.step (state.event input) := by
  cases input with
  | setResolution width height world =>
    simp only [step]
    split
    · rfl
    · rfl
  | advance world => exact advance_flags world state
  | callback input => exact callback_flags input state

def history (registry : Registry) (inputs : List ResolutionInput) : List FlagEvent :=
  seen step event (initial registry) inputs

/-- The state a run is in after the first of its events. -/
def stateAfter (registry : Registry) (inputs : List ResolutionInput) (done : List FlagEvent) : ResolutionState :=
  run step (initial registry) (inputs.take done.length)

theorem flags_after {registry : Registry} {inputs : List ResolutionInput} {done rest : List FlagEvent}
    (split : history registry inputs = done ++ rest) :
    (stateAfter registry inputs done).flags = run Flags.step {} done := by
  rw [stateAfter, run_simulates flags step_flags, seen_take, ← history, split, List.take_left' rfl]
  rfl

/-- What the flags are for: a loss after an accepted update, with no callback in
between, queues a replug, and an assign callback ends the recovery until the next
accepted update. -/
structure RecoversUpdates (registry : Registry) (inputs : List ResolutionInput) : Prop where
  lossQueues : ∀ before between after : List FlagEvent,
    history registry inputs = (before ++ .accept :: (between ++ [.lost])) ++ after →
    (∀ event ∈ between, event ≠ .assign ∧ event ≠ .unassign) →
    (stateAfter registry inputs (before ++ .accept :: (between ++ [.lost]))).device.context.replugMonitorQueued = true
  assignEnds : ∀ before between later after : List FlagEvent,
    history registry inputs = (before ++ .accept :: (between ++ .assign :: later)) ++ after → .accept ∉ later →
    (stateAfter registry inputs (before ++ .accept :: (between ++ .assign :: later))).device.context.recoverModeUpdateSwapChain
      = false

/-- The flag goes up before the first loss that needs it, and no assign callback comes
between the acceptance and the raise. -/
structure RaisesInTime (events : List FlagEvent) : Prop where
  beforeLoss : ∀ before between after : List FlagEvent, events = (before ++ .accept :: (between ++ [.lost])) ++ after →
    (∀ event ∈ between, event ≠ .assign ∧ event ≠ .unassign) →
    Flags.Raised (before ++ .accept :: between) ∨ Flags.LossQueued (before ++ .accept :: between)
  beforeAssign : ∀ before between later after : List FlagEvent,
    events = (before ++ .accept :: (between ++ .assign :: (later ++ [.raise]))) ++ after → .accept ∈ later

section
variable {registry : Registry} {inputs : List ResolutionInput} {done later rest : List FlagEvent}

theorem queued_after_loss (split : history registry inputs = (done ++ [.lost]) ++ rest) :
    (stateAfter registry inputs (done ++ [.lost])).device.context.replugMonitorQueued = true ↔
      Flags.Raised done ∨ Flags.LossQueued done := by
  have last := congrArg Flags.queued (flags_after split)
  rw [run_append, run_cons, run_nil, Flags.queued_step] at last
  rw [← Flags.recover_iff {} rfl done, ← Flags.queued_iff done, ← Bool.or_eq_true]
  exact Bool.eq_iff_iff.mp last

theorem recover_after_raise (split : history registry inputs = (done ++ [.raise]) ++ rest) :
    (stateAfter registry inputs (done ++ [.raise])).device.context.recoverModeUpdateSwapChain = true := by
  have last := congrArg Flags.recover (flags_after split)
  rw [run_append, run_cons, run_nil, Flags.recover_step] at last
  exact last

theorem recover_after_assign (split : history registry inputs = ((done ++ [.assign]) ++ later) ++ rest) :
    (stateAfter registry inputs ((done ++ [.assign]) ++ later)).device.context.recoverModeUpdateSwapChain = true ↔
      Flags.Raised later := by
  have last := congrArg Flags.recover (flags_after split)
  have down : (run Flags.step {} (done ++ [.assign])).recover = false := by
    rw [run_append, run_cons, run_nil, Flags.recover_step]
    rfl
  rw [run_append] at last
  rw [← Flags.recover_iff _ down later]
  exact Bool.eq_iff_iff.mp last

end

/-- Updates are recovered from in exactly the runs in which the flag is raised in time. -/
theorem recoversUpdates_iff (registry : Registry) (inputs : List ResolutionInput) :
    RecoversUpdates registry inputs ↔ RaisesInTime (history registry inputs) := by
  have loss (before between : List FlagEvent) :
      before ++ .accept :: (between ++ [.lost]) = (before ++ .accept :: between) ++ [.lost] := by simp
  have assignment (before between later : List FlagEvent) :
      before ++ .accept :: (between ++ .assign :: later) = ((before ++ .accept :: between) ++ [.assign]) ++ later := by simp
  have raise (before between later : List FlagEvent) :
      before ++ .accept :: (between ++ .assign :: (later ++ [.raise])) =
        (before ++ .accept :: (between ++ .assign :: later)) ++ [.raise] := by simp
  constructor
  · intro recovers
    constructor
    · intro before between after split quiet
      have queued := recovers.lossQueues before between after split quiet
      rw [loss] at split queued
      exact (queued_after_loss split).mp queued
    · intro before between later after split
      by_contra none
      have down := recovers.assignEnds before between (later ++ [.raise]) after split (by simpa using none)
      rw [raise] at split down
      rw [recover_after_raise split] at down
      cases down
  · intro raises
    constructor
    · intro before between after split quiet
      have raised := raises.beforeLoss before between after split quiet
      rw [loss] at split ⊢
      exact (queued_after_loss split).mpr raised
    · intro before between later after split unaccepted
      by_contra up
      have shaped := split
      rw [assignment] at shaped up
      obtain ⟨first, last, rfl, _⟩ := (recover_after_assign shaped).mp (by simpa using up)
      have early := raises.beforeAssign before between first (last ++ after) (by simp [split])
      exact unaccepted (List.mem_append_left _ early)

/-- The swap chain is lost before the flag is up. -/
theorem recoversUpdates_violated :
    ¬ ∀ (registry : Registry) (inputs : List ResolutionInput), RecoversUpdates registry inputs := by
  intro claim
  have recovers := claim ⟨none, false⟩
    [.callback ⟨.d0Entry, {}⟩, .callback ⟨.adapterInitFinished true, {}⟩, .callback ⟨.assignSwapChain 0, {}⟩,
      .setResolution 1024 768 {}, .advance {}, .callback ⟨.swapChainLost, {}⟩]
  have queued := recovers.lossQueues [.other, .other, .assign, .other] [] [] (by decide) nofun
  exact absurd queued (by decide)

end ResolutionState
end QubesIdd
