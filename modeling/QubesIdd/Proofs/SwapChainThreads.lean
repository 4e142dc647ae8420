import QubesIdd.Proofs.SwapChainWork

/-! The threads of one monitor and the swap chains they are to delete: which thread may
still run, who deletes each swap chain offered, and what a set event leads to. -/

namespace QubesIdd
open Library.Runs

namespace MonitorContext
open OfferedSwapChain (work_sound setEvent_sound offer_sound work_running offer_running)

/-- The processor whose thread may still run: the one owned, or the one waited for. -/
def active (context : MonitorContext) : Option Nat :=
  match context.control with
  | .idle => context.swapChain
  | .joining processor _ => some processor

structure Sound (context : MonitorContext) : Prop where
  chains : ∀ chain ∈ context.offered, chain.Sound
  active : ∀ processor chain, context.offered[processor]? = some chain → chain.running = true →
    context.active = some processor

theorem initial_sound : Sound {} := ⟨by simp, by simp⟩

theorem update_sound {context : MonitorContext} (sound : context.Sound) (processor : Nat)
    {change : OfferedSwapChain → OfferedSwapChain} (kept : ∀ chain : OfferedSwapChain, chain.Sound → (change chain).Sound)
    (runs : ∀ chain : OfferedSwapChain, (change chain).running = true → chain.running = true) :
    (context.update processor change).Sound := by
  constructor
  · intro chain member
    obtain ⟨index, found⟩ := List.mem_iff_getElem?.mp member
    simp only [update, List.getElem?_modify, Option.map_eq_map, Option.map_eq_some_iff] at found
    obtain ⟨before, held, rfl⟩ := found
    have good := sound.chains before (List.mem_of_getElem? held)
    split
    · exact kept before good
    · exact good
  · intro index chain found running
    simp only [update, List.getElem?_modify, Option.map_eq_map, Option.map_eq_some_iff] at found
    obtain ⟨before, held, rfl⟩ := found
    apply sound.active index before held
    split at running
    · exact runs before running
    · exact running

theorem offer_sound {context : MonitorContext} (sound : context.Sound) (resources : Resources)
    (idle : context.control = .idle) (quiet : ∀ chain ∈ context.offered, chain.running = false) :
    (context.offer resources).Sound := by
  constructor
  · intro chain member
    rcases List.mem_append.mp member with earlier | new
    · exact sound.chains chain earlier
    · rw [List.mem_singleton.mp new]
      exact OfferedSwapChain.offer_sound resources
  · intro index chain found running
    simp only [offer, List.getElem?_append] at found
    split at found
    next => exact absurd running (by simp [quiet chain (List.mem_of_getElem? found)])
    next beyond =>
      rcases Nat.eq_or_lt_of_not_lt beyond with rfl | outside
      · rw [Nat.sub_self, List.getElem?_cons_zero, Option.some.injEq] at found
        simp [active, offer, idle, offer_running (found ▸ running)]
      · rw [List.getElem?_eq_none (by simp; omega)] at found
        cases found

theorem continueWith_sound {context : MonitorContext} (sound : context.Sound) (next : Option Resources)
    (idle : context.control = .idle) (quiet : ∀ chain ∈ context.offered, chain.running = false) :
    (context.continueWith next).Sound := by
  cases next with
  | none => exact sound
  | some resources => exact offer_sound sound resources idle quiet

theorem sound_of_quiet {context other : MonitorContext} (sound : context.Sound) (same : other.offered = context.offered)
    (quiet : ∀ chain ∈ context.offered, chain.running = false) : other.Sound := by
  constructor
  · rw [same]
    exact sound.chains
  · intro index chain found running
    rw [same] at found
    exact absurd running (by simp [quiet chain (List.mem_of_getElem? found)])

theorem quiet_of_inactive {context : MonitorContext} (sound : context.Sound)
    (inactive : ∀ processor, context.active = some processor → context.isRunning processor = false) :
    ∀ chain ∈ context.offered, chain.running = false := by
  intro chain member
  obtain ⟨index, found⟩ := List.mem_iff_getElem?.mp member
  cases running : chain.running with
  | false => rfl
  | true =>
    have stopped := inactive index (sound.active index chain found running)
    simp [isRunning, found, running] at stopped

theorem reset_sound {context : MonitorContext} (sound : context.Sound) (next : Option Resources)
    (idle : context.control = .idle) : (context.reset next).Sound := by
  unfold reset
  cases owned : context.swapChain with
  | none =>
    apply continueWith_sound sound next idle
    apply quiet_of_inactive sound
    intro processor active
    rw [MonitorContext.active, idle] at active
    rw [owned] at active
    cases active
  | some processor =>
    have changed := update_sound sound processor (fun _ => setEvent_sound) (fun _ running => running)
    refine ⟨changed.chains, ?_⟩
    intro index chain found running
    have active := changed.active index chain found running
    rw [MonitorContext.active, show (context.update processor .setEvent).control = .idle from idle] at active
    exact owned.symm.trans active

/-- What holds of the swap chains and the threads holds after any step. -/
theorem step_sound (context : MonitorContext) (action : MonitorAction) (sound : context.Sound) :
    (context.step action).Sound := by
  cases action with
  | assignSwapChain resources =>
    by_cases idle : context.control = .idle
    · rw [step, if_pos idle]
      exact reset_sound sound _ idle
    · rw [step, if_neg idle]
      exact sound
  | unassignSwapChain =>
    by_cases idle : context.control = .idle
    · rw [step, if_pos idle]
      exact reset_sound sound _ idle
    · rw [step, if_neg idle]
      exact sound
  | joined =>
    cases control : context.control with
    | idle => simpa only [step, control] using sound
    | joining processor next =>
      cases running : context.isRunning processor with
      | true => simpa only [step, control, running, if_true] using sound
      | false =>
        have quiet : ∀ chain ∈ context.offered, chain.running = false := by
          apply quiet_of_inactive sound
          intro active same
          rw [MonitorContext.active, control, Option.some.injEq] at same
          exact same ▸ running
        simp only [step, control, running, Bool.false_eq_true, if_false]
        have settled : Sound { context with control := .idle } := sound_of_quiet sound rfl quiet
        exact continueWith_sound settled next rfl quiet
  | work processor answer =>
    exact update_sound sound processor (fun _ => work_sound answer) (fun _ => work_running)

theorem run_sound (actions : List MonitorAction) : (run step {} actions).Sound :=
  run_preserves Sound step_sound _ actions initial_sound

/-- No callback is running and no processor is owned. -/
def unassigned (context : MonitorContext) : Prop := context.control = .idle ∧ context.swapChain = none

/-- The promise about deletions: each swap chain once by the time none is assigned, and
nothing done on it afterwards. -/
def DeletesOnce (context : MonitorContext) : Prop :=
  (context.unassigned → ∀ chain ∈ context.offered, chain.calls.count .wdfObjectDelete = 1) ∧
  ∀ chain ∈ context.offered, ∀ before after, chain.calls = before ++ .wdfObjectDelete :: after →
    ∀ call ∈ after, call = .setEvent

/-- Every processor constructed until then has got its thread. -/
def ThreadsCreated (context : MonitorContext) : Prop :=
  context.unassigned → ∀ chain ∈ context.offered, chain.resources.init = true → chain.resources.createThread = true

theorem deletions_unassigned {context : MonitorContext} (sound : context.Sound) (unassigned : context.unassigned)
    {chain : OfferedSwapChain} (member : chain ∈ context.offered) :
    chain.calls.count .wdfObjectDelete =
      if chain.resources.init = true → chain.resources.createThread = true then 1 else 0 := by
  have good := sound.chains chain member
  have stopped : chain.running = false := by
    apply quiet_of_inactive sound _ chain member
    intro processor active
    rw [MonitorContext.active, unassigned.1] at active
    rw [unassigned.2] at active
    cases active
  have counted : chain.calls.count .wdfObjectDelete = chain.made.count .wdfObjectDelete := by
    rw [OfferedSwapChain.made, List.count_filter (by decide)]
  have created := good.thread
  rw [counted, good.deleted]
  cases here : chain.thread with
  | none =>
    rw [here] at created
    cases init : chain.resources.init <;> simp_all
  | some pc =>
    rw [here] at created
    have exited : pc = .exited := by simpa [OfferedSwapChain.running, here] using stopped
    cases init : chain.resources.init <;> simp_all

/-- Every swap chain is deleted once by the end of its assignment, in exactly the runs
in which no processor is left without a thread. -/
theorem deletesOnce_iff (actions : List MonitorAction) :
    Always step DeletesOnce {} actions ↔ Always step ThreadsCreated {} actions := by
  apply always_congr step_sound _ _ _ initial_sound
  intro context sound
  constructor
  · rintro ⟨once, _⟩ unassigned chain member
    have counted := deletions_unassigned sound unassigned member
    rw [once unassigned chain member] at counted
    by_contra leaks
    rw [if_neg leaks] at counted
    cases counted
  · intro created
    refine ⟨?_, fun chain member _ _ split => OfferedSwapChain.deleted_last (sound.chains chain member) split⟩
    intro unassigned chain member
    rw [deletions_unassigned sound unassigned member, if_pos (created unassigned chain member)]

/-- A processor whose thread could not be created: unassigning it deletes nothing. -/
theorem deletesOnce_violated : ¬ ∀ actions : List MonitorAction, Always step DeletesOnce {} actions := by
  intro claim
  obtain ⟨_, _, _, last, _⟩ := claim [.assignSwapChain { createThread := false }, .unassignSwapChain, .joined]
  have once := last ⟨rfl, rfl⟩ _ (.head _)
  cases once

/-- Once the destructor has set the event the thread has left its loop or will find it
set, after one acquisition at most, and a monitor has one running thread at most. -/
theorem shutdown_kept (actions : List MonitorAction) :
    let context := run step {} actions
    (∀ chain ∈ context.offered, chain.resources = ⟨true, true, true⟩ → .setEvent ∈ chain.calls →
      (chain.terminateEvent = some true ∨ chain.left) ∧ chain.lateAcquires ≤ 1) ∧
    ∀ (first second : Nat) (one other : OfferedSwapChain), context.offered[first]? = some one → context.offered[second]? = some other →
      one.running = true → other.running = true → first = second := by
  intro context
  have sound : context.Sound := run_sound actions
  constructor
  · intro chain member complete closed
    have good := sound.chains chain member
    have event : chain.terminateEvent.isSome = true := by simp [good.event, complete]
    have thread : chain.thread.isSome = true := by simp [good.thread, complete]
    exact ⟨good.stops closed event thread, good.late event⟩
  · intro first second one other held also runs too
    have active := sound.active first one held runs
    rw [sound.active second other also too, Option.some.injEq] at active
    exact active.symm

end MonitorContext
end QubesIdd
