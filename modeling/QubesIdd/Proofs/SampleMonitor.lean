import QubesIdd.Proofs.CallbackReturns
import QubesIdd.SampleMonitor

/-! The shutdown of the sample's thread next to that of the driver's. It looks at the event
only while it waits for a buffer, so it ends when the producer pauses and not before. -/

namespace QubesIdd
open Library.Runs

/-- Buffers as fast as they are asked for: an acquisition finds one, and so does a wait,
whose handles are looked at in their order. -/
def Answer.produces : Answer := { acquire := .success ⟨1, 0, none⟩, wait := .newFrame }

/-- No buffer is ready, and none becomes ready before the event is looked at. -/
def Answer.Pauses (answer : Answer) : Prop := answer.acquire = .pending ∧ answer.wait = .terminate

namespace SwapChainProcessor
open OfferedSwapChain (call goto consume left)

/-- The thread is at a place of its own, and once the event has been set it is signalled,
was never there, or has ended the loop. -/
structure Sound (chain : OfferedSwapChain) : Prop where
  own : chain.thread ≠ some .poll ∧ chain.thread ≠ some .setPriority
  told : .setEvent ∈ chain.calls → chain.terminateEvent ≠ some false ∨ chain.left

theorem offer_sampled (resources : Resources) : Sound (.offer resources) := by
  obtain ⟨init, createEvent, createThread⟩ := resources
  cases init with
  | false => exact ⟨by simp [OfferedSwapChain.offer, call], by simp [OfferedSwapChain.offer, call]⟩
  | true =>
    cases createThread with
    | true => exact ⟨by simp [OfferedSwapChain.offer], by simp [OfferedSwapChain.offer]⟩
    | false => exact ⟨by simp [OfferedSwapChain.offer], by simp [OfferedSwapChain.offer]⟩

theorem setEvent_sampled {chain : OfferedSwapChain} (sound : Sound chain) : Sound chain.setEvent := by
  refine ⟨sound.own, fun _ => .inl ?_⟩
  cases event : chain.terminateEvent <;> simp [OfferedSwapChain.setEvent, call, event]

/-- What one call does: the thread goes on at a place of its own, and the event is reset
only by a wait that ends the loop. -/
structure WorkEffect (chain after : OfferedSwapChain) : Prop where
  own : after.thread ≠ some .poll ∧ after.thread ≠ some .setPriority
  event : after.terminateEvent = chain.terminateEvent ∨ after.left
  left : chain.left → after.left
  calls : ∃ calls, after.calls = chain.calls ++ calls ∧ .setEvent ∉ calls

theorem effect_goto {chain : OfferedSwapChain} {next : Pc} (calls : List ChainCall) (staying : ¬ chain.left)
    (place : next ≠ .poll ∧ next ≠ .setPriority) (quiet : .setEvent ∉ calls) :
    WorkEffect chain ({ chain with calls := chain.calls ++ calls }.goto next) where
  own := ⟨fun same => place.1 (Option.some.inj same), fun same => place.2 (Option.some.inj same)⟩
  event := .inl rfl
  left := fun leaving => absurd leaving staying
  calls := ⟨calls, rfl, quiet⟩

theorem effect_goto_silent {chain : OfferedSwapChain} {next : Pc} (staying : ¬ chain.left)
    (place : next ≠ .poll ∧ next ≠ .setPriority) : WorkEffect chain (chain.goto next) where
  own := ⟨fun same => place.1 (Option.some.inj same), fun same => place.2 (Option.some.inj same)⟩
  event := .inl rfl
  left := fun leaving => absurd leaving staying
  calls := ⟨[], (List.append_nil _).symm, nofun⟩

theorem work_effect (answer : Answer) {chain : OfferedSwapChain} (own : chain.thread ≠ some .poll ∧ chain.thread ≠ some .setPriority) :
    WorkEffect chain (work answer chain) := by
  have unmoved : WorkEffect chain chain := ⟨own, .inl rfl, id, [], (List.append_nil _).symm, nofun⟩
  cases thread : chain.thread with
  | none => simpa only [work, thread] using unmoved
  | some pc =>
    have inside (loop : pc ≠ .leave ∧ pc ≠ .exited) : ¬ chain.left := by
      rintro (leaving | exited)
      · exact loop.1 (Option.some.inj (thread.symm.trans leaving))
      · exact loop.2 (Option.some.inj (thread.symm.trans exited))
    cases pc with
    | getDevice =>
      simp only [work, thread]
      apply effect_goto_silent (inside ⟨nofun, nofun⟩)
      cases answer.getDevice <;> exact ⟨nofun, nofun⟩
    | setPriority => exact absurd thread own.2
    | setDevice =>
      simp only [work, thread]
      apply effect_goto [.setDevice] (inside ⟨nofun, nofun⟩) _ (by decide)
      cases answer.setDevice <;> exact ⟨nofun, nofun⟩
    | poll => exact absurd thread own.1
    | acquire =>
      simp only [work, thread]
      cases answer.acquire with
      | pending => exact effect_goto [.releaseAndAcquireBuffer] (inside ⟨nofun, nofun⟩) ⟨nofun, nofun⟩ (by decide)
      | success metaData => exact effect_goto [.releaseAndAcquireBuffer] (inside ⟨nofun, nofun⟩) ⟨nofun, nofun⟩ (by decide)
      | failure failure => exact effect_goto [.releaseAndAcquireBuffer] (inside ⟨nofun, nofun⟩) ⟨nofun, nofun⟩ (by decide)
    | wait =>
      simp only [work, thread]
      split
      · exact unmoved
      next result _ =>
        cases result with
        | newFrame => exact effect_goto_silent (inside ⟨nofun, nofun⟩) ⟨nofun, nofun⟩
        | timeout => exact effect_goto_silent (inside ⟨nofun, nofun⟩) ⟨nofun, nofun⟩
        | terminate => exact ⟨⟨nofun, nofun⟩, .inr (.inl rfl), fun _ => .inl rfl, [], (List.append_nil _).symm, nofun⟩
        | failed => exact effect_goto_silent (inside ⟨nofun, nofun⟩) ⟨nofun, nofun⟩
    | finish =>
      simp only [work, thread]
      cases answer.finished with
      | none => exact effect_goto [.finishedProcessingFrame] (inside ⟨nofun, nofun⟩) ⟨nofun, nofun⟩ (by decide)
      | some failure => exact effect_goto [.finishedProcessingFrame] (inside ⟨nofun, nofun⟩) ⟨nofun, nofun⟩ (by decide)
    | leave =>
      simp only [work, thread]
      exact ⟨⟨nofun, nofun⟩, .inl rfl, fun _ => .inr rfl, [.wdfObjectDelete], rfl, by decide⟩
    | exited => simpa only [work, thread] using unmoved

theorem work_sampled (answer : Answer) {chain : OfferedSwapChain} (sound : Sound chain) : Sound (work answer chain) := by
  obtain ⟨own, event, left, calls, appended, quiet⟩ := work_effect answer sound.own
  refine ⟨own, fun closed => ?_⟩
  have before : .setEvent ∈ chain.calls := by simpa [appended, quiet] using closed
  rcases event with same | leaves
  · rw [same]
    exact (sound.told before).imp_right left
  · exact .inr leaves

def works (chain : OfferedSwapChain) (answers : List Answer) : OfferedSwapChain :=
  run (fun chain answer => work answer chain) chain answers

/-- From one acquisition to the next the thread does what a turn of the loop does, if what
ends its wait can. -/
theorem work_loop (input : Turn) {chain : OfferedSwapChain} (here : chain.thread = some .acquire)
    (event : chain.terminateEvent.isSome = true)
    (signalled : input.acquire = .pending .terminate → chain.terminateEvent = some true) :
    ∃ steps, let after := works chain (List.replicate steps (OfferedSwapChain.turnAnswer input))
      after.thread = some (if (turn input).2 then .leave else .acquire) ∧
      after.calls = chain.calls ++ [.releaseAndAcquireBuffer] ++ (turn input).1.filterMap OfferedSwapChain.threadCall := by
  obtain ⟨terminate, acquire, finished⟩ := input
  obtain ⟨resources, terminateEvent, thread, lastFrameNumber, calls⟩ := chain
  obtain rfl : thread = some .acquire := here
  obtain ⟨set, rfl⟩ := Option.isSome_iff_exists.mp event
  cases acquire with
  | pending wait =>
    refine ⟨2, ?_⟩
    cases wait with
    | newFrame => exact ⟨rfl, (List.append_nil _).symm⟩
    | timeout => exact ⟨rfl, (List.append_nil _).symm⟩
    | terminate =>
      obtain rfl : set = true := Option.some.inj (signalled rfl)
      exact ⟨rfl, (List.append_nil _).symm⟩
    | failed => exact ⟨rfl, (List.append_nil _).symm⟩
  | failure failure => exact ⟨1, rfl, (List.append_nil _).symm⟩
  | success metaData =>
    refine ⟨2, ?_⟩
    cases finished with
    | none => simp [works, List.replicate, work, OfferedSwapChain.turnAnswer, goto, call, acquired, frameFinished,
        OfferedSwapChain.threadCall, turn]
    | some failure => simp [works, List.replicate, work, OfferedSwapChain.turnAnswer, goto, call, acquired, frameFinished,
        OfferedSwapChain.threadCall, turn]

/-- The calls a thread still makes if the producer pauses. -/
def rank : Pc → Nat
  | .exited | .poll | .setPriority => 0
  | .leave => 1
  | .wait => 2
  | .acquire => 3
  | .finish | .setDevice => 4
  | .getDevice => 5

theorem work_rank {answer : Answer} (pauses : answer.Pauses) {chain : OfferedSwapChain} {pc : Pc} (here : chain.thread = some pc)
    (own : pc ≠ .poll ∧ pc ≠ .setPriority) (told : chain.terminateEvent ≠ some false ∨ chain.left) :
    ∃ next, (work answer chain).thread = some next ∧ rank next ≤ rank pc - 1 := by
  obtain ⟨pending, signal⟩ := pauses
  cases pc with
  | getDevice => cases device : answer.getDevice <;> simp [work, here, goto, device, rank]
  | setPriority => exact absurd rfl own.2
  | setDevice => cases set : answer.setDevice <;> simp [work, here, goto, set, rank]
  | poll => exact absurd rfl own.1
  | acquire => simp [work, here, acquired, pending, goto, rank]
  | wait =>
    have set : chain.terminateEvent ≠ some false := told.resolve_right (by simp [left, here])
    cases event : chain.terminateEvent with
    | none => simp [work, here, OfferedSwapChain.waitResult, event, waitEnds, goto, rank]
    | some signalled =>
      obtain rfl : signalled = true := by simpa [event] using set
      simp [work, here, OfferedSwapChain.waitResult, event, signal, waitEnds, goto, rank]
  | finish => cases finished : answer.finished <;> simp [work, here, frameFinished, finished, goto, rank]
  | leave => simp [work, here, goto, rank]
  | exited => simp [work, here, rank]

/-- Five calls during a pause are enough from wherever the thread is. -/
theorem paused_exits {chain : OfferedSwapChain} {pc : Pc} (here : chain.thread = some pc) (sound : Sound chain)
    (closed : .setEvent ∈ chain.calls) (answers : List Answer) (pauses : ∀ answer ∈ answers, answer.Pauses)
    (enough : rank pc ≤ answers.length) : (works chain answers).thread = some .exited := by
  have own : pc ≠ .poll ∧ pc ≠ .setPriority :=
    ⟨fun same => sound.own.1 (same ▸ here), fun same => sound.own.2 (same ▸ here)⟩
  induction answers generalizing chain pc with
  | nil =>
    have done : pc = .exited := by cases pc <;> simp [rank] at enough own ⊢
    exact done ▸ here
  | cons answer rest ih =>
    obtain ⟨next, there, closer⟩ := work_rank (pauses answer List.mem_cons_self) here own (sound.told closed)
    have after := work_sampled answer sound
    obtain ⟨_, _, _, calls, appended, _⟩ := work_effect answer sound.own
    rw [List.length_cons] at enough
    apply ih there after (by simp [appended, closed]) (fun later member => pauses later (List.mem_cons_of_mem _ member)) (by omega)
    exact ⟨fun same => after.own.1 (same ▸ there), fun same => after.own.2 (same ▸ there)⟩

/-- The thread is in its loop or before it; a wait it is in can go on for lack of an event. -/
structure Busy (chain : OfferedSwapChain) : Prop where
  thread : ∃ pc, chain.thread = some pc ∧ pc ≠ .leave ∧ pc ≠ .exited
  waits : chain.thread = some .wait → chain.terminateEvent.isSome = true

theorem Busy.running {chain : OfferedSwapChain} (busy : Busy chain) : chain.running = true := by
  obtain ⟨pc, here, _, started⟩ := busy.thread
  simp [OfferedSwapChain.running, here, started]

theorem busy_acquiring {chain : OfferedSwapChain} (here : chain.thread = some .acquire) : Busy chain :=
  ⟨⟨.acquire, here, nofun, nofun⟩, by simp [here]⟩

theorem works_append (chain : OfferedSwapChain) (first last : List Answer) :
    works chain (first ++ last) = works (works chain first) last :=
  run_append ..

/-- A busy thread reaches its next acquisition by a few calls that the producer keeps going. -/
theorem busy_reaches {chain : OfferedSwapChain} (busy : Busy chain) (sound : Sound chain) :
    ∃ count, (works chain (List.replicate count .produces)).thread = some .acquire ∧
      ∃ calls, (works chain (List.replicate count .produces)).calls = chain.calls ++ calls ∧
        calls.count .releaseAndAcquireBuffer = 0 := by
  obtain ⟨pc, here, leaving, exited⟩ := busy.thread
  cases pc with
  | getDevice =>
    refine ⟨2, ?_⟩
    simp [works, List.replicate, work, here, goto, call, Answer.produces]
  | setPriority => exact absurd here sound.own.2
  | setDevice =>
    refine ⟨1, ?_⟩
    simp [works, work, here, goto, call, Answer.produces]
  | poll => exact absurd here sound.own.1
  | acquire => exact ⟨0, here, [], (List.append_nil _).symm, rfl⟩
  | wait =>
    obtain ⟨signalled, event⟩ := Option.isSome_iff_exists.mp (busy.waits here)
    refine ⟨1, ?_⟩
    simp [works, work, here, OfferedSwapChain.waitResult, event, waitEnds, goto, Answer.produces]
  | finish =>
    refine ⟨1, ?_⟩
    simp [works, work, here, frameFinished, goto, call, Answer.produces]
  | leave => exact absurd rfl leaving
  | exited => exact absurd rfl exited

/-- A thread about to acquire is there again after acquiring one more frame. -/
theorem acquires_again {chain : OfferedSwapChain} (here : chain.thread = some .acquire) (closed : .setEvent ∈ chain.calls) :
    let after := works chain [.produces, .produces]
    after.thread = some .acquire ∧ .setEvent ∈ after.calls ∧ after.lateAcquires = chain.lateAcquires + 1 := by
  intro after
  have appended : after.calls = chain.calls ++ [.releaseAndAcquireBuffer, .finishedProcessingFrame] := by
    simp [after, works, work, here, acquired, frameFinished, goto, call, Answer.produces]
  refine ⟨?_, by simp [appended, closed], OfferedSwapChain.lateAcquires_closed appended closed⟩
  simp [after, works, work, here, acquired, frameFinished, goto, call, Answer.produces]

theorem acquires_many {chain : OfferedSwapChain} (here : chain.thread = some .acquire) (closed : .setEvent ∈ chain.calls)
    (count : Nat) :
    (works chain (List.replicate (2 * count) .produces)).thread = some .acquire ∧
      (works chain (List.replicate (2 * count) .produces)).lateAcquires = chain.lateAcquires + count := by
  induction count generalizing chain with
  | zero => exact ⟨here, rfl⟩
  | succ count ih =>
    obtain ⟨again, still, more⟩ := acquires_again here closed
    obtain ⟨there, acquired⟩ := ih again still
    have split : List.replicate (2 * (count + 1)) Answer.produces =
        [.produces, .produces] ++ List.replicate (2 * count) .produces := rfl
    rw [split, works_append]
    exact ⟨there, by rw [acquired, more]; omega⟩

/-- However often, the producer can have it acquire another frame first. -/
theorem busy_starves {chain : OfferedSwapChain} (busy : Busy chain) (sound : Sound chain) (closed : .setEvent ∈ chain.calls)
    (bound : Nat) :
    ∃ count, (works chain (List.replicate count .produces)).running = true ∧
      bound ≤ (works chain (List.replicate count .produces)).lateAcquires := by
  obtain ⟨first, here, calls, appended, _⟩ := busy_reaches busy sound
  obtain ⟨there, acquired⟩ := acquires_many here (by simp [appended, closed]) bound
  refine ⟨first + 2 * bound, ?_⟩
  rw [← List.replicate_append_replicate, works_append, acquired]
  exact ⟨(busy_acquiring there).running, Nat.le_add_left _ _⟩

end SwapChainProcessor

namespace IndirectMonitorContext
open MonitorContext (Closing answerFor)
open SwapChainProcessor (works)

structure Sound (context : MonitorContext) : Prop where
  closing : context.Closing
  chains : ∀ chain ∈ context.offered, SwapChainProcessor.Sound chain

theorem offer_chains {context : MonitorContext} (every : ∀ chain ∈ context.offered, SwapChainProcessor.Sound chain)
    (resources : Resources) : ∀ chain ∈ (context.offer resources).offered, SwapChainProcessor.Sound chain := by
  intro chain member
  rcases List.mem_append.mp member with earlier | new
  · exact every chain earlier
  · rw [List.mem_singleton.mp new]
    exact SwapChainProcessor.offer_sampled resources

theorem continueWith_chains {context : MonitorContext} (every : ∀ chain ∈ context.offered, SwapChainProcessor.Sound chain)
    (next : Option Resources) : ∀ chain ∈ (context.continueWith next).offered, SwapChainProcessor.Sound chain := by
  cases next with
  | none => exact every
  | some resources => exact offer_chains every resources

theorem update_chains {context : MonitorContext} (every : ∀ chain ∈ context.offered, SwapChainProcessor.Sound chain)
    (processor : Nat) {change : OfferedSwapChain → OfferedSwapChain}
    (kept : ∀ chain : OfferedSwapChain, SwapChainProcessor.Sound chain → SwapChainProcessor.Sound (change chain)) :
    ∀ chain ∈ (context.update processor change).offered, SwapChainProcessor.Sound chain := by
  intro chain member
  obtain ⟨index, found⟩ := List.mem_iff_getElem?.mp member
  simp only [MonitorContext.update, List.getElem?_modify, Option.map_eq_map, Option.map_eq_some_iff] at found
  obtain ⟨before, held, rfl⟩ := found
  have good := every before (List.mem_of_getElem? held)
  split
  · exact kept before good
  · exact good

theorem reset_chains {context : MonitorContext} (every : ∀ chain ∈ context.offered, SwapChainProcessor.Sound chain)
    (next : Option Resources) : ∀ chain ∈ (context.reset next).offered, SwapChainProcessor.Sound chain := by
  unfold MonitorContext.reset
  cases context.swapChain with
  | none => exact continueWith_chains every next
  | some processor => exact update_chains every processor fun _ => SwapChainProcessor.setEvent_sampled

/-- The callbacks offer swap chains and set events, and nothing else. -/
theorem callback_chains {context : MonitorContext} (every : ∀ chain ∈ context.offered, SwapChainProcessor.Sound chain)
    {action : MonitorAction} (callback : ∀ processor answer, action ≠ .work processor answer) :
    ∀ chain ∈ (context.step action).offered, SwapChainProcessor.Sound chain := by
  cases action with
  | assignSwapChain resources =>
    by_cases idle : context.control = .idle
    · rw [MonitorContext.step, if_pos idle]
      exact reset_chains every _
    · rw [MonitorContext.step, if_neg idle]
      exact every
  | unassignSwapChain =>
    by_cases idle : context.control = .idle
    · rw [MonitorContext.step, if_pos idle]
      exact reset_chains every _
    · rw [MonitorContext.step, if_neg idle]
      exact every
  | joined =>
    simp only [MonitorContext.step]
    split
    · exact every
    next processor next _ =>
      have settled : ∀ chain ∈ ({ context with control := .idle } : MonitorContext).offered, SwapChainProcessor.Sound chain := every
      split
      · exact every
      · exact continueWith_chains settled next
  | work processor answer => exact absurd rfl (callback processor answer)

theorem callback_sampled {context : MonitorContext} (sound : Sound context) {action : MonitorAction}
    (callback : ∀ processor answer, action ≠ .work processor answer) : Sound (context.step action) :=
  ⟨MonitorContext.step_closing context action sound.closing, callback_chains sound.chains callback⟩

theorem step_sampled (context : MonitorContext) (action : MonitorAction) (sound : Sound context) : Sound (step context action) := by
  cases action with
  | assignSwapChain resources => exact @callback_sampled context sound (.assignSwapChain resources) nofun
  | unassignSwapChain => exact @callback_sampled context sound .unassignSwapChain nofun
  | joined => exact @callback_sampled context sound .joined nofun
  | work processor answer =>
    refine ⟨⟨?_, ?_⟩, update_chains sound.chains processor fun chain good => SwapChainProcessor.work_sampled answer good⟩
    · intro owned same
      simpa [step, MonitorContext.update] using sound.closing.owned owned same
    · intro waited next waiting
      obtain ⟨chain, held, closed⟩ := sound.closing.closed waited next waiting
      have good := sound.chains chain (List.mem_of_getElem? held)
      obtain ⟨calls, appended, _⟩ := (SwapChainProcessor.work_effect answer good.own).calls
      simp only [step, MonitorContext.update, List.getElem?_modify, held]
      refine ⟨_, rfl, ?_⟩
      split
      · simp [appended, closed]
      · exact closed

theorem run_sampled (actions : List MonitorAction) : Sound (run step {} actions) :=
  run_preserves Sound step_sampled _ actions ⟨⟨nofun, nofun⟩, by simp⟩

/-- While a callback waits, only its thread's own calls move that thread. -/
theorem step_held {context : MonitorContext} {processor : Nat} {next : Option Resources}
    (waiting : context.control = .joining processor next) {action : MonitorAction} (unjoined : action ≠ .joined) :
    (step context action).control = .joining processor next ∧
      (step context action).offered[processor]? =
        context.offered[processor]?.map fun chain => works chain (answerFor processor action).toList := by
  cases action with
  | assignSwapChain | unassignSwapChain => simp [step, MonitorContext.step, waiting, answerFor, works]
  | joined => exact absurd rfl unjoined
  | work other answer =>
    refine ⟨waiting, ?_⟩
    by_cases same : other = processor
    · simp [step, MonitorContext.update, answerFor, same, works]
    · simp [step, MonitorContext.update, answerFor, same, works]

theorem run_held {context : MonitorContext} {processor : Nat} {next : Option Resources}
    (waiting : context.control = .joining processor next) {actions : List MonitorAction} (unjoined : .joined ∉ actions) :
    (run step context actions).control = .joining processor next ∧
      (run step context actions).offered[processor]? =
        context.offered[processor]?.map fun chain => works chain (actions.filterMap (answerFor processor)) := by
  induction actions generalizing context with
  | nil => exact ⟨waiting, by simp [works]⟩
  | cons action rest ih =>
    obtain ⟨first, last⟩ := List.ne_and_not_mem_of_not_mem_cons unjoined
    obtain ⟨control, thread⟩ := step_held waiting (Ne.symm first)
    obtain ⟨still, threads⟩ := ih control last
    refine ⟨still, ?_⟩
    rw [run_cons, threads, thread, Option.map_map]
    congr 1
    funext chain
    simp only [Function.comp_apply, works, ← run_append]
    cases answered : answerFor processor action <;> simp [answered]

/-- A callback of the sample that waits for a thread returns once that thread has had five
calls answered by a producer that pauses. As long as the thread is busy, no number of frames
acquired after it was told to stop is enough. -/
theorem shutdown_starves (actions : List MonitorAction) (processor : Nat) (next : Option Resources)
    (waiting : (run step {} actions).control = .joining processor next) :
    let context := run step {} actions
    ∃ chain, context.offered[processor]? = some chain ∧
      (∀ rest, .joined ∉ rest → 5 ≤ (rest.filterMap (answerFor processor)).length →
        (∀ answer ∈ rest.filterMap (answerFor processor), answer.Pauses) →
        step (run step context rest) .joined = { run step context rest with control := .idle }.continueWith next) ∧
      (SwapChainProcessor.Busy chain → ∀ bound, ∃ rest, .joined ∉ rest ∧
        (∃ late, (run step context rest).offered[processor]? = some late ∧ bound ≤ late.lateAcquires) ∧
        step (run step context rest) .joined = run step context rest) := by
  intro context
  have sound : Sound context := run_sampled actions
  obtain ⟨chain, held, closed⟩ := sound.closing.closed processor next waiting
  have good := sound.chains chain (List.mem_of_getElem? held)
  have later {rest : List MonitorAction} (unjoined : .joined ∉ rest) :
      (run step context rest).offered[processor]? = some (works chain (rest.filterMap (answerFor processor))) ∧
      step (run step context rest) .joined =
        if (works chain (rest.filterMap (answerFor processor))).running then run step context rest
        else { run step context rest with control := .idle }.continueWith next := by
    obtain ⟨control, thread⟩ := run_held waiting unjoined
    rw [held, Option.map_some] at thread
    exact ⟨thread, MonitorContext.joined_returns control thread⟩
  refine ⟨chain, held, ?_, ?_⟩
  · intro rest unjoined enough pauses
    have stopped : (works chain (rest.filterMap (answerFor processor))).running = false := by
      cases here : chain.thread with
      | none =>
        have idle : works chain (rest.filterMap (answerFor processor)) = chain := by
          apply run_preserves (· = chain) _ chain _ rfl
          rintro _ answer rfl
          simp [SwapChainProcessor.work, here]
        rw [idle, OfferedSwapChain.running, here]
        rfl
      | some pc =>
        exact OfferedSwapChain.exited_stopped
          (SwapChainProcessor.paused_exits here good closed _ pauses (Nat.le_trans (by cases pc <;> decide) enough))
    rw [(later unjoined).2, stopped]
    rfl
  · intro busy bound
    obtain ⟨count, running, acquired⟩ := SwapChainProcessor.busy_starves busy good closed bound
    have unjoined : .joined ∉ List.replicate count (MonitorAction.work processor .produces) := by simp [List.mem_replicate]
    have answered : (List.replicate count (MonitorAction.work processor .produces)).filterMap (answerFor processor) =
        List.replicate count .produces :=
      List.filterMap_replicate_of_some (by simp [answerFor])
    obtain ⟨thread, returns⟩ := later unjoined
    rw [answered] at thread returns
    rw [running] at returns
    exact ⟨_, unjoined, ⟨_, thread, acquired⟩, returns⟩

/-- A thread that was told to stop while a frame was being finished, and then a pause. -/
theorem shutdown_starves_pause :
    let context := run step {} [.assignSwapChain {}, .work 0 {}, .work 0 {}, .work 0 .produces, .unassignSwapChain]
    let pause : List MonitorAction := List.replicate 5 (.work 0 { wait := .terminate })
    step (run step context pause) .joined = { run step context pause with control := .idle } := by
  intro context pause
  obtain ⟨chain, _, stops, _⟩ := shutdown_starves
    [.assignSwapChain {}, .work 0 {}, .work 0 {}, .work 0 .produces, .unassignSwapChain] 0 none rfl
  apply stops pause (by decide) (by decide)
  intro answer member
  obtain rfl : answer = { wait := .terminate } := List.eq_of_mem_replicate (n := 5) member
  exact ⟨rfl, rfl⟩

end IndirectMonitorContext
end QubesIdd
