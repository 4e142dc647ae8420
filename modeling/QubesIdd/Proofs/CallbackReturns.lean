import QubesIdd.Proofs.SwapChainThreads

/-! Whether a callback that waits for a thread returns: the thread's steps among those
of everyone else, and the one resource without which it may go on for ever. -/

namespace QubesIdd
open Library.Runs

/-- A frame at every acquisition. -/
def Answer.frames : Answer := { acquire := .success ⟨1, 0, none⟩ }

namespace OfferedSwapChain

/-- The thread ends by itself, or the event can tell it to. -/
def Stoppable (chain : OfferedSwapChain) : Prop :=
  chain.running = false ∨ chain.terminateEvent.isSome = true ∨ chain.thread = some .wait ∨ chain.thread = some .leave

def works (chain : OfferedSwapChain) (answers : List Answer) : OfferedSwapChain :=
  run (fun chain answer => chain.work answer) chain answers

theorem works_sound {chain : OfferedSwapChain} (sound : chain.Sound) (answers : List Answer) : (chain.works answers).Sound :=
  run_preserves Sound (fun _ answer good => work_sound answer good) chain answers sound

theorem works_stopped {chain : OfferedSwapChain} (stopped : chain.running = false) (answers : List Answer) :
    (chain.works answers).running = false := by
  apply run_preserves (fun chain => chain.running = false) _ chain answers stopped
  intro before answer idle
  cases after : (before.work answer).running with
  | false => rfl
  | true => exact absurd (work_running after) (by simp [idle])

theorem exited_stopped {chain : OfferedSwapChain} (exited : chain.thread = some .exited) : chain.running = false := by
  simp [running, exited]

/-- Five calls are enough from wherever the thread is told to stop. -/
theorem told_stops {chain : OfferedSwapChain} {pc : Pc} (here : chain.thread = some pc) (stop : chain.told)
    (answers : List Answer) (enough : 5 ≤ answers.length) : (chain.works answers).running = false :=
  exited_stopped (told_exits here stop answers (Nat.le_trans (by cases pc <;> decide) enough))

theorem stoppable_stops {chain : OfferedSwapChain} (sound : chain.Sound) (closed : .setEvent ∈ chain.calls)
    (stoppable : chain.Stoppable) (answers : List Answer) (enough : 5 ≤ answers.length) :
    (chain.works answers).running = false := by
  rcases stoppable with idle | event | waiting | leaving
  · exact works_stopped idle answers
  · cases here : chain.thread with
    | none => exact works_stopped (by simp [running, here]) answers
    | some pc => exact told_stops here (sound.stops closed event (by simp [here])) answers enough
  · cases event : chain.terminateEvent with
    | some signalled => exact told_stops waiting (sound.stops closed (by simp [event]) (by simp [waiting])) answers enough
    | none =>
      -- The wait fails at once: there is no handle to wait for.
      cases answers with
      | nil => cases enough
      | cons answer rest =>
        have leaves : (chain.work answer).thread = some .leave := by
          simp [work, waiting, waitResult, event, waitEnds, goto]
        rw [works, run_cons]
        exact exited_stopped (told_exits leaves (.inr (.inl leaves)) rest (by simp [rank] at enough ⊢; omega))
  · exact told_stops leaving (.inr (.inl leaving)) answers enough

/-- Without an event, as long as there are frames, nothing makes the thread leave. -/
structure Endless (chain : OfferedSwapChain) : Prop where
  event : chain.terminateEvent = none
  thread : ∃ pc, chain.thread = some pc ∧ pc ≠ .wait ∧ pc ≠ .leave ∧ pc ≠ .exited

theorem Endless.running {chain : OfferedSwapChain} (endless : chain.Endless) : chain.running = true := by
  obtain ⟨pc, here, _, _, started⟩ := endless.thread
  simp [OfferedSwapChain.running, here, started]

theorem work_endless {chain : OfferedSwapChain} (endless : chain.Endless) : (chain.work .frames).Endless := by
  obtain ⟨event, pc, here, waiting, leaving, exited⟩ := endless
  unfold work
  cases pc with
  | getDevice => exact ⟨by simp [here, goto, event], .setPriority, by simp [here, goto, Answer.frames], by simp, by simp, by simp⟩
  | setPriority => exact ⟨by simp [here, goto, call, Answer.frames, event], .setDevice, by simp [here, goto], by simp, by simp, by simp⟩
  | setDevice => exact ⟨by simp [here, goto, call, event], .poll, by simp [here, goto, Answer.frames], by simp, by simp, by simp⟩
  | poll => exact ⟨by simp [here, goto, event], .acquire, by simp [here, goto, event], by simp, by simp, by simp⟩
  | acquire =>
    simp only [here, acquired, Answer.frames]
    split
    · exact ⟨event, .finish, rfl, by simp, by simp, by simp⟩
    · exact ⟨event, .poll, rfl, by simp, by simp, by simp⟩
  | finish => exact ⟨by simp [here, frameFinished, Answer.frames, goto, call, event], .poll,
      by simp [here, frameFinished, Answer.frames, goto], by simp, by simp, by simp⟩
  | wait => exact absurd rfl waiting
  | leave => exact absurd rfl leaving
  | exited => exact absurd rfl exited

theorem works_endless {chain : OfferedSwapChain} (endless : chain.Endless) (count : Nat) :
    (chain.works (List.replicate count .frames)).Endless := by
  induction count generalizing chain with
  | zero => exact endless
  | succ count ih => exact ih (work_endless endless)

theorem unstoppable_endless {chain : OfferedSwapChain} (unstoppable : ¬ chain.Stoppable) : chain.Endless := by
  obtain ⟨going, event, waiting, leaving⟩ := by simpa only [Stoppable, not_or] using unstoppable
  obtain ⟨pc, here, started⟩ := (Option.any_eq_true _ _).mp (by simpa using going : chain.running = true)
  refine ⟨by simpa using event, pc, here, ?_, ?_, by simpa using started⟩
  · intro same
    exact waiting (same ▸ here)
  · intro same
    exact leaving (same ▸ here)

end OfferedSwapChain

namespace MonitorContext

/-- What a step has the thread of one processor do. -/
def answerFor (processor : Nat) : MonitorAction → Option Answer
  | .work other answer => if other = processor then some answer else none
  | _ => none

/-- The owned processor exists, and one that is waited for has had its event set. -/
structure Closing (context : MonitorContext) : Prop where
  owned : ∀ processor, context.swapChain = some processor → processor < context.offered.length
  closed : ∀ processor next, context.control = .joining processor next →
    ∃ chain, context.offered[processor]? = some chain ∧ .setEvent ∈ chain.calls

theorem offer_closing {context : MonitorContext} (resources : Resources) (idle : context.control = .idle) :
    (context.offer resources).Closing := by
  constructor
  · intro processor owned
    simp only [offer] at owned ⊢
    split at owned
    · simp [← Option.some.inj owned]
    · cases owned
  · intro processor next waiting
    cases idle.symm.trans waiting

theorem continueWith_closing {context : MonitorContext} (closing : context.Closing) (next : Option Resources)
    (idle : context.control = .idle) : (context.continueWith next).Closing := by
  cases next with
  | none => exact closing
  | some resources => exact offer_closing resources idle

theorem reset_closing {context : MonitorContext} (closing : context.Closing) (next : Option Resources)
    (idle : context.control = .idle) : (context.reset next).Closing := by
  unfold reset
  cases owned : context.swapChain with
  | none => exact continueWith_closing closing next idle
  | some processor =>
    refine ⟨nofun, ?_⟩
    intro waited later same
    cases same
    have inside := closing.owned processor owned
    refine ⟨context.offered[processor].setEvent, ?_, by simp [OfferedSwapChain.setEvent, OfferedSwapChain.call]⟩
    simp [update, List.getElem?_eq_getElem inside]

theorem step_closing (context : MonitorContext) (action : MonitorAction) (closing : context.Closing) :
    (context.step action).Closing := by
  cases action with
  | assignSwapChain resources =>
    by_cases idle : context.control = .idle
    · rw [step, if_pos idle]
      exact reset_closing closing _ idle
    · rw [step, if_neg idle]
      exact closing
  | unassignSwapChain =>
    by_cases idle : context.control = .idle
    · rw [step, if_pos idle]
      exact reset_closing closing _ idle
    · rw [step, if_neg idle]
      exact closing
  | joined =>
    cases control : context.control with
    | idle => simpa only [step, control] using closing
    | joining processor next =>
      cases running : context.isRunning processor with
      | true => simpa only [step, control, running, if_true] using closing
      | false =>
        simp only [step, control, running, Bool.false_eq_true, if_false]
        have settled : Closing { context with control := .idle } := ⟨closing.owned, fun _ _ same => by cases same⟩
        exact continueWith_closing settled next rfl
  | work processor answer =>
    constructor
    · intro owned same
      simpa [step, update] using closing.owned owned same
    · intro waited next waiting
      obtain ⟨chain, held, closed⟩ := closing.closed waited next waiting
      obtain ⟨calls, appended, _⟩ := (OfferedSwapChain.work_effect answer chain).calls
      simp only [step, update, List.getElem?_modify, held]
      refine ⟨_, rfl, ?_⟩
      split
      · simp [appended, closed]
      · exact closed

theorem run_closing (actions : List MonitorAction) : (run step {} actions).Closing :=
  run_preserves Closing step_closing _ actions ⟨nofun, nofun⟩

/-- While a callback waits, the steps of others leave the wait and the thread alone. -/
theorem step_waiting {context : MonitorContext} {processor : Nat} {next : Option Resources}
    (waiting : context.control = .joining processor next) {action : MonitorAction} (unjoined : action ≠ .joined) :
    (context.step action).control = .joining processor next ∧
      (context.step action).offered[processor]? =
        context.offered[processor]?.map fun chain => chain.works (answerFor processor action).toList := by
  have busy : ¬ context.control = .idle := by simp [waiting]
  cases action with
  | assignSwapChain | unassignSwapChain => simp [step, waiting, answerFor, OfferedSwapChain.works]
  | joined => exact absurd rfl unjoined
  | work other answer =>
    refine ⟨waiting, ?_⟩
    by_cases same : other = processor
    · simp [step, update, answerFor, same, OfferedSwapChain.works]
    · simp [step, update, answerFor, same, OfferedSwapChain.works]

theorem run_waiting {context : MonitorContext} {processor : Nat} {next : Option Resources}
    (waiting : context.control = .joining processor next) {actions : List MonitorAction} (unjoined : .joined ∉ actions) :
    (run step context actions).control = .joining processor next ∧
      (run step context actions).offered[processor]? =
        context.offered[processor]?.map fun chain => chain.works (actions.filterMap (answerFor processor)) := by
  induction actions generalizing context with
  | nil => exact ⟨waiting, by simp [OfferedSwapChain.works]⟩
  | cons action rest ih =>
    obtain ⟨first, last⟩ := List.ne_and_not_mem_of_not_mem_cons unjoined
    obtain ⟨control, thread⟩ := step_waiting waiting (Ne.symm first)
    obtain ⟨still, threads⟩ := ih control last
    refine ⟨still, ?_⟩
    rw [run_cons, threads, thread, Option.map_map]
    congr 1
    funext chain
    simp only [Function.comp_apply, OfferedSwapChain.works, ← run_append]
    cases answered : answerFor processor action <;> simp [answered]

theorem joined_returns {context : MonitorContext} {processor : Nat} {next : Option Resources} {chain : OfferedSwapChain}
    (waiting : context.control = .joining processor next) (held : context.offered[processor]? = some chain) :
    context.step .joined =
      if chain.running then context else { context with control := .idle }.continueWith next := by
  simp [step, waiting, isRunning, held]

theorem deletions_stopped {chain : OfferedSwapChain} (sound : chain.Sound) (stopped : chain.running = false)
    (created : chain.resources.createThread = true) : chain.calls.count .wdfObjectDelete = 1 := by
  have counted : chain.made.count .wdfObjectDelete = chain.calls.count .wdfObjectDelete := List.count_filter (by decide)
  rw [← counted, sound.deleted]
  have thread := sound.thread
  cases init : chain.resources.init with
  | false => simp
  | true =>
    rw [init, created] at thread
    obtain ⟨pc, here⟩ := Option.isSome_iff_exists.mp thread
    simp_all [OfferedSwapChain.running]

/-- A callback that waits for a thread returns once that thread has had five more calls
answered, in whatever way and whatever else happens, if there is an event to stop it or it
stops by itself. Otherwise no number of calls is enough. -/
theorem callback_returns (actions : List MonitorAction) (processor : Nat) (next : Option Resources)
    (waiting : (run step {} actions).control = .joining processor next) :
    let context := run step {} actions
    ∃ chain, context.offered[processor]? = some chain ∧
      (chain.Stoppable → ∀ rest, .joined ∉ rest → 5 ≤ (rest.filterMap (answerFor processor)).length →
        (run step context rest).step .joined = { run step context rest with control := .idle }.continueWith next ∧
        ∃ ended, (run step context rest).offered[processor]? = some ended ∧ ended.running = false ∧
          (ended.resources.createThread = true → ended.calls.count .wdfObjectDelete = 1)) ∧
      (¬ chain.Stoppable → ∀ bound, ∃ rest, .joined ∉ rest ∧ bound ≤ (rest.filterMap (answerFor processor)).length ∧
        (run step context rest).step .joined = run step context rest) := by
  intro context
  have sound : context.Sound := run_sound actions
  obtain ⟨chain, held, closed⟩ := (run_closing actions).closed processor next waiting
  have good := sound.chains chain (List.mem_of_getElem? held)
  have later {rest : List MonitorAction} (unjoined : .joined ∉ rest) :
      (run step context rest).step .joined =
        if (chain.works (rest.filterMap (answerFor processor))).running then run step context rest
        else { run step context rest with control := .idle }.continueWith next := by
    obtain ⟨control, thread⟩ := run_waiting waiting unjoined
    rw [held, Option.map_some] at thread
    exact joined_returns control thread
  refine ⟨chain, held, ?_, ?_⟩
  · intro stoppable rest unjoined enough
    have stopped := OfferedSwapChain.stoppable_stops good closed stoppable _ enough
    obtain ⟨_, thread⟩ := run_waiting waiting unjoined
    rw [held, Option.map_some] at thread
    refine ⟨by rw [later unjoined, stopped]; rfl, _, thread, stopped, ?_⟩
    exact deletions_stopped (OfferedSwapChain.works_sound good _) stopped
  · intro unstoppable bound
    have unjoined : .joined ∉ List.replicate bound (MonitorAction.work processor .frames) := by simp [List.mem_replicate]
    refine ⟨_, unjoined, by simp [answerFor], ?_⟩
    have endless := OfferedSwapChain.works_endless (OfferedSwapChain.unstoppable_endless unstoppable) bound
    rw [later unjoined, List.filterMap_replicate_of_some (b := .frames) (by simp [answerFor]), endless.running]
    rfl

/-- The processor of an assigned swap chain is waited for until its thread is through. -/
theorem callback_returns_unassign :
    let context := run step {} [.assignSwapChain {}, .work 0 {}, .work 0 {}, .unassignSwapChain]
    (run step context (List.replicate 5 (.work 0 .frames))).step .joined =
      { run step context (List.replicate 5 (.work 0 .frames)) with control := .idle } := by
  intro context
  obtain ⟨chain, held, stops, _⟩ :=
    callback_returns [.assignSwapChain {}, .work 0 {}, .work 0 {}, .unassignSwapChain] 0 none rfl
  cases held
  exact (stops (.inr (.inl rfl)) (List.replicate 5 (.work 0 .frames)) (by decide) (by decide)).1

end MonitorContext
end QubesIdd
