import Mathlib.Data.List.TakeWhile
import QubesIdd.Library.Runs
import QubesIdd.MonitorContext

/-! One swap chain and its thread: what a step of the thread can do, what holds from
the offer on, how soon a thread that has been told to stop returns, and that a turn
of its loop is the turn of the loop taken alone. -/

namespace QubesIdd
open Library.Runs

namespace OfferedSwapChain

/-- The calls other than the destructor's. -/
def made (chain : OfferedSwapChain) : List ChainCall := chain.calls.filter (· ≠ .setEvent)

def left (chain : OfferedSwapChain) : Prop := chain.thread = some .leave ∨ chain.thread = some .exited

/-- The acquisitions since the destructor has set the event. -/
def lateAcquires (chain : OfferedSwapChain) : Nat :=
  (chain.calls.dropWhile (· ≠ .setEvent)).count .releaseAndAcquireBuffer

structure WorkEffect (chain after : OfferedSwapChain) : Prop where
  resources : after.resources = chain.resources
  created : after.thread.isSome = chain.thread.isSome
  event : after.terminateEvent.isSome = chain.terminateEvent.isSome
  calls : ∃ calls, after.calls = chain.calls ++ calls ∧ .setEvent ∉ calls ∧
    calls.count .releaseAndAcquireBuffer = (if chain.thread = some .acquire then 1 else 0) ∧
    (if chain.thread = some .leave then calls = [.wdfObjectDelete] else .wdfObjectDelete ∉ calls) ∧
    (chain.running = false → calls = [])
  exits : after.thread = some .exited ↔ chain.thread = some .leave ∨ chain.thread = some .exited
  acquires : after.thread = some .acquire → chain.thread = some .poll ∧ chain.terminateEvent ≠ some true
  signalled : chain.terminateEvent = some true → after.terminateEvent = some true ∨ after.thread = some .leave
  left : chain.left → after.left

/-- A thread that goes from one call to the next. -/
theorem WorkEffect.moves {chain : OfferedSwapChain} {pc next : Pc} {terminateEvent : Option Bool}
    {lastFrameNumber : UInt32} {calls : List ChainCall} (here : chain.thread = some pc) (started : pc ≠ .exited)
    (event : terminateEvent.isSome = chain.terminateEvent.isSome) (quiet : .setEvent ∉ calls)
    (acquired : calls.count .releaseAndAcquireBuffer = if pc = .acquire then 1 else 0)
    (deleted : if pc = .leave then calls = [.wdfObjectDelete] else .wdfObjectDelete ∉ calls)
    (exits : next = .exited ↔ pc = .leave) (acquires : next = .acquire → pc = .poll ∧ chain.terminateEvent ≠ some true)
    (signalled : chain.terminateEvent = some true → terminateEvent = some true ∨ next = .leave) :
    WorkEffect chain
      { chain with terminateEvent, thread := some next, lastFrameNumber, calls := chain.calls ++ calls } where
  resources := rfl
  created := by simp [here]
  event := event
  calls := by
    refine ⟨calls, rfl, quiet, by simpa [here] using acquired, by simpa [here] using deleted, ?_⟩
    simp [running, here, started]
  exits := by simp [here, exits, started]
  acquires := by simpa [here] using acquires
  signalled := by simpa using signalled
  left := by
    rintro (leaving | exited)
    · rw [here, Option.some.injEq] at leaving
      exact .inr (congrArg some (exits.mpr leaving))
    · exact absurd (Option.some.inj (here.symm.trans exited)) started

theorem WorkEffect.moves_silently {chain : OfferedSwapChain} {pc next : Pc} {terminateEvent : Option Bool}
    (here : chain.thread = some pc) (waits : pc ≠ .acquire ∧ pc ≠ .leave ∧ pc ≠ .exited)
    (event : terminateEvent.isSome = chain.terminateEvent.isSome) (stays : next ≠ .exited)
    (acquires : next = .acquire → pc = .poll ∧ chain.terminateEvent ≠ some true)
    (signalled : chain.terminateEvent = some true → terminateEvent = some true ∨ next = .leave) :
    WorkEffect chain { chain with terminateEvent, thread := some next } := by
  obtain ⟨acquire, leave, exited⟩ := waits
  have silent : WorkEffect chain
      { chain with terminateEvent, thread := some next, calls := chain.calls ++ [] } :=
    moves here exited event (by simp) (by simp [acquire]) (by simp [leave]) (by simp [stays, leave]) acquires signalled
  rw [List.append_nil] at silent
  exact silent

theorem WorkEffect.stays {chain : OfferedSwapChain} (idle : chain.running = false ∨ chain.thread = some .wait) :
    WorkEffect chain chain := by
  have elsewhere : chain.thread ≠ some .leave ∧ chain.thread ≠ some .acquire := by
    rcases idle with idle | waiting
    · constructor <;> intro here <;> simp [running, here] at idle
    · simp [waiting]
  exact ⟨rfl, rfl, rfl, ⟨[], by simp [elsewhere]⟩, by simp [elsewhere], fun here => absurd here elsewhere.2, .inl, id⟩

theorem lost_call (failure : Failure) (made : ChainCall) (chain : OfferedSwapChain) :
    ∃ reported, (chain.call made).lost failure = { chain with calls := chain.calls ++ made :: reported } ∧
      (reported = [] ∨ reported = [.onSwapChainLost]) := by
  cases failure with
  | STATUS_GRAPHICS_PATH_NOT_IN_TOPOLOGY => exact ⟨[.onSwapChainLost], by simp [lost, call], .inr rfl⟩
  | other => exact ⟨[], by simp [lost, call], .inl rfl⟩

theorem acquired_effect (result : Acquired) {chain : OfferedSwapChain} (here : chain.thread = some .acquire) :
    WorkEffect chain ((chain.call .releaseAndAcquireBuffer).acquired result) := by
  cases result with
  | pending => exact .moves here nofun rfl (by simp) rfl (by simp) (by simp) nofun .inl
  | success metaData =>
    simp only [acquired]
    split
    · exact .moves here nofun rfl (by simp) rfl (by simp) (by simp) nofun .inl
    · exact .moves here nofun rfl (by simp) rfl (by simp) (by simp) nofun .inl
  | failure failure =>
    obtain ⟨reported, same, loss⟩ := lost_call failure .releaseAndAcquireBuffer chain
    rw [acquired, same]
    refine .moves here nofun rfl ?_ ?_ ?_ (by simp) nofun .inl
    all_goals rcases loss with rfl | rfl <;> simp

theorem frameFinished_effect (result : Option Failure) {chain : OfferedSwapChain} (here : chain.thread = some .finish) :
    WorkEffect chain ((chain.call .finishedProcessingFrame).frameFinished result) := by
  cases result with
  | none => exact .moves here nofun rfl (by simp) rfl (by simp) (by simp) nofun .inl
  | some failure =>
    obtain ⟨reported, same, loss⟩ := lost_call failure .finishedProcessingFrame chain
    rw [frameFinished, same]
    refine .moves here nofun rfl ?_ ?_ ?_ (by simp) nofun .inl
    all_goals rcases loss with rfl | rfl <;> simp

theorem wait_effect (answer : Wait) {chain : OfferedSwapChain} (here : chain.thread = some .wait) :
    WorkEffect chain (match chain.waitResult answer with
      | none => chain
      | some result => chain.waitEnds result) := by
  cases ended : chain.waitResult answer with
  | none => exact .stays (.inr here)
  | some result =>
    cases result with
    | newFrame => exact .moves_silently here (by simp) rfl (by simp) nofun .inl
    | timeout => exact .moves_silently here (by simp) rfl (by simp) nofun .inl
    | failed => exact .moves_silently here (by simp) rfl (by simp) nofun .inl
    | terminate =>
      have event : chain.terminateEvent.isSome := by
        cases held : chain.terminateEvent with
        | none => simp [waitResult, held] at ended
        | some signalled => rfl
      exact .moves_silently here (by simp) event.symm (by simp) nofun fun _ => .inr rfl

theorem work_effect (answer : Answer) (chain : OfferedSwapChain) : WorkEffect chain (chain.work answer) := by
  unfold work
  cases here : chain.thread with
  | none => exact .stays (.inl (by simp [running, here]))
  | some pc =>
    cases pc with
    | getDevice =>
      dsimp only
      split
      · exact .moves_silently here (by simp) rfl (by simp) (by simp) .inl
      · exact .moves_silently here (by simp) rfl (by simp) (by simp) .inl
    | setPriority =>
      cases answer.hasSetRealtimeGPUPriority with
      | true => exact .moves here nofun rfl (by simp) rfl (by simp) (by simp) nofun .inl
      | false => exact .moves_silently here (by simp) rfl (by simp) (by simp) .inl
    | setDevice =>
      dsimp only
      split
      · exact .moves here nofun rfl (by simp) rfl (by simp) (by simp) nofun .inl
      · exact .moves here nofun rfl (by simp) rfl (by simp) (by simp) nofun .inl
    | poll =>
      by_cases signalled : chain.terminateEvent = some true
      · rw [if_pos signalled]
        exact .moves_silently here (by simp) (by simp [signalled, consume]) (by simp) nofun fun _ => .inr rfl
      · rw [if_neg signalled]
        exact .moves_silently here (by simp) rfl (by simp) (fun _ => ⟨rfl, signalled⟩) .inl
    | acquire => exact acquired_effect answer.acquire here
    | wait => exact wait_effect answer.wait here
    | finish => exact frameFinished_effect answer.finished here
    | leave => exact .moves here nofun rfl (by simp) rfl rfl (by simp) nofun .inl
    | exited => exact .stays (.inl (by simp [running, here]))

/-- What holds of a swap chain from its offer on: who has deleted it, that nothing is
done on it afterwards, and that a terminate event once set is either still signalled
or has ended the loop, which acquires at most once more. -/
structure Sound (chain : OfferedSwapChain) : Prop where
  thread : chain.thread.isSome = (chain.resources.init && chain.resources.createThread)
  event : chain.terminateEvent.isSome = (chain.resources.init && chain.resources.createEvent)
  deleted : chain.made.count .wdfObjectDelete =
    if chain.resources.init = false ∨ chain.thread = some .exited then 1 else 0
  last : .wdfObjectDelete ∉ chain.made.dropLast
  stops : .setEvent ∈ chain.calls → chain.terminateEvent.isSome → chain.thread.isSome →
    chain.terminateEvent = some true ∨ chain.left
  late : chain.terminateEvent.isSome → chain.lateAcquires ≤ 1
  acquiring : chain.terminateEvent.isSome → chain.thread = some .acquire → chain.lateAcquires = 0

section
variable {chain after : OfferedSwapChain} {calls : List ChainCall} (appended : after.calls = chain.calls ++ calls)
include appended

theorem lateAcquires_closed (closed : .setEvent ∈ chain.calls) :
    after.lateAcquires = chain.lateAcquires + calls.count .releaseAndAcquireBuffer := by
  have behind : (chain.calls.dropWhile (· ≠ .setEvent)).isEmpty = false := by
    rw [List.isEmpty_eq_false_iff, Ne, List.dropWhile_eq_nil_iff]
    exact fun every => absurd (every _ closed) (by decide)
  rw [lateAcquires, appended, List.dropWhile_append, behind, if_neg nofun, List.count_append]
  rfl

theorem lateAcquires_open (unclosed : .setEvent ∉ chain.calls) :
    after.lateAcquires = (calls.dropWhile (· ≠ .setEvent)).count .releaseAndAcquireBuffer := by
  have nothing : chain.calls.dropWhile (· ≠ .setEvent) = [] := by
    rw [List.dropWhile_eq_nil_iff]
    intro call member
    exact decide_eq_true fun same => unclosed (same ▸ member)
  rw [lateAcquires, appended, List.dropWhile_append, nothing]
  rfl

theorem made_append : after.made = chain.made ++ calls.filter (· ≠ .setEvent) := by
  rw [made, appended, List.filter_append]
  rfl

end

theorem offer_sound (resources : Resources) : (offer resources).Sound := by
  obtain ⟨init, createEvent, createThread⟩ := resources
  cases init with
  | false => constructor <;> simp [offer, call, made, lateAcquires]
  | true => cases createEvent <;> cases createThread <;> constructor <;> simp [offer, made, lateAcquires]

theorem setEvent_sound {chain : OfferedSwapChain} (sound : chain.Sound) : chain.setEvent.Sound := by
  have appended : chain.setEvent.calls = chain.calls ++ [.setEvent] := rfl
  have made : chain.setEvent.made = chain.made := by simp [made_append appended]
  have event : chain.setEvent.terminateEvent.isSome = chain.terminateEvent.isSome := Option.isSome_map
  have late : chain.setEvent.lateAcquires ≤ chain.lateAcquires := by
    by_cases closed : .setEvent ∈ chain.calls
    · exact Nat.le_of_eq (lateAcquires_closed appended closed)
    · exact Nat.le_trans (Nat.le_of_eq (lateAcquires_open appended closed)) (Nat.zero_le _)
  refine ⟨sound.thread, event.trans sound.event, by rw [made]; exact sound.deleted, by rw [made]; exact sound.last, ?_, ?_, ?_⟩
  · intro _ created _
    obtain ⟨signalled, held⟩ := Option.isSome_iff_exists.mp (event ▸ created)
    exact .inl (by simp [setEvent, call, held])
  · intro created
    exact Nat.le_trans late (sound.late (event ▸ created))
  · intro created acquiring
    exact Nat.le_zero.mp (Nat.le_trans late (Nat.le_of_eq (sound.acquiring (event ▸ created) acquiring)))

theorem running_undeleted {chain : OfferedSwapChain} (sound : chain.Sound) (running : chain.running = true) :
    chain.resources.init = true ∧ chain.thread ≠ some .exited ∧ .wdfObjectDelete ∉ chain.made := by
  obtain ⟨pc, here, started⟩ := (Option.any_eq_true _ _).mp running
  have init : chain.resources.init = true := by
    have created := sound.thread
    rw [here] at created
    exact (Bool.and_eq_true_iff.mp created.symm).1
  have unfinished : chain.thread ≠ some .exited := by
    rw [here]
    intro exited
    simp [Option.some.inj exited] at started
  refine ⟨init, unfinished, ?_⟩
  have none := sound.deleted
  rw [if_neg (by simp [init, unfinished])] at none
  exact List.count_eq_zero.mp none

section
variable (answer : Answer) {chain : OfferedSwapChain} (sound : chain.Sound)
include sound

/-- What a step adds to the calls other than the destructor's: the deletion where the thread
leaves, and no deletion anywhere else. -/
theorem work_made :
    (chain.running = false ∧ (chain.work answer).made = chain.made) ∨
    (chain.resources.init = true ∧ chain.thread ≠ some .exited ∧ .wdfObjectDelete ∉ chain.made) ∧
      ∃ calls, (chain.work answer).made = chain.made ++ calls ∧
        if chain.thread = some .leave then calls = [.wdfObjectDelete] else .wdfObjectDelete ∉ calls := by
  obtain ⟨calls, appended, quiet, _, deletes, silent⟩ := (work_effect answer chain).calls
  have made : (chain.work answer).made = chain.made ++ calls := by
    rw [made_append appended, List.filter_eq_self.mpr]
    intro call member
    exact decide_eq_true fun same => quiet (same ▸ member)
  cases running : chain.running with
  | false =>
    rw [silent running, List.append_nil] at made
    exact .inl ⟨rfl, made⟩
  | true => exact .inr ⟨running_undeleted sound running, calls, made, deletes⟩

theorem work_deleted :
    (chain.work answer).made.count .wdfObjectDelete =
      if (chain.work answer).resources.init = false ∨ (chain.work answer).thread = some .exited then 1 else 0 := by
  have effect := work_effect answer chain
  rw [effect.resources]
  simp only [effect.exits]
  rcases work_made answer sound with ⟨idle, made⟩ | ⟨⟨init, unfinished, undeleted⟩, calls, made, deletes⟩
  · have away : chain.thread ≠ some .leave := fun here => by simp [running, here] at idle
    rw [made, sound.deleted]
    simp [away]
  · rw [made, List.count_append, List.count_eq_zero.mpr undeleted]
    by_cases leaving : chain.thread = some .leave
    · rw [if_pos leaving] at deletes
      simp [leaving, deletes]
    · rw [if_neg leaving] at deletes
      simp [init, leaving, unfinished, List.count_eq_zero.mpr deletes]

theorem work_last : .wdfObjectDelete ∉ (chain.work answer).made.dropLast := by
  rcases work_made answer sound with ⟨_, made⟩ | ⟨⟨_, _, undeleted⟩, calls, made, deletes⟩
  · rw [made]
    exact sound.last
  · rw [made]
    by_cases leaving : chain.thread = some .leave
    · rw [if_pos leaving] at deletes
      rw [deletes, List.dropLast_concat]
      exact undeleted
    · rw [if_neg leaving] at deletes
      intro member
      rcases List.mem_append.mp (List.dropLast_subset _ member) with earlier | now
      · exact undeleted earlier
      · exact deletes now

theorem work_sound : (chain.work answer).Sound := by
  have effect := work_effect answer chain
  obtain ⟨calls, appended, quiet, acquires, _, _⟩ := effect.calls
  have remembers : .setEvent ∈ (chain.work answer).calls → .setEvent ∈ chain.calls := by
    rw [appended, List.mem_append]
    exact fun either => either.resolve_right quiet
  have open_late (unclosed : .setEvent ∉ chain.calls) : (chain.work answer).lateAcquires = 0 := by
    rw [lateAcquires_open appended unclosed, List.dropWhile_eq_nil_iff.mpr, List.count_nil]
    intro call member
    exact decide_eq_true fun same => quiet (same ▸ member)
  refine ⟨?_, ?_, work_deleted answer sound, work_last answer sound, ?_, ?_, ?_⟩
  · rw [effect.created, effect.resources]
    exact sound.thread
  · rw [effect.event, effect.resources]
    exact sound.event
  · intro closed created started
    rcases sound.stops (remembers closed) (effect.event ▸ created) (effect.created ▸ started) with signalled | left
    · rcases effect.signalled signalled with still | leaving
      · exact .inl still
      · exact .inr (.inl leaving)
    · exact .inr (effect.left left)
  · intro created
    by_cases closed : .setEvent ∈ chain.calls
    · rw [lateAcquires_closed appended closed, acquires]
      split
      next acquiring => rw [sound.acquiring (effect.event ▸ created) acquiring]
      next => exact sound.late (effect.event ▸ created)
    · rw [open_late closed]
      exact Nat.zero_le 1
  · intro created acquiring
    obtain ⟨polled, unsignalled⟩ := effect.acquires acquiring
    apply open_late
    intro closed
    rcases sound.stops closed (effect.event ▸ created) (by rw [polled]; rfl) with signalled | leaving | exited
    · exact unsignalled signalled
    · rw [polled] at leaving
      cases leaving
    · rw [polled] at exited
      cases exited

end

theorem deleted_last {chain : OfferedSwapChain} (sound : chain.Sound)
    {before after : List ChainCall} (split : chain.calls = before ++ .wdfObjectDelete :: after) :
    ∀ call ∈ after, call = .setEvent := by
  intro call member
  by_contra other
  have made : chain.made = before.filter (· ≠ .setEvent) ++ .wdfObjectDelete :: after.filter (· ≠ .setEvent) := by
    simp [OfferedSwapChain.made, split]
  have behind : after.filter (· ≠ .setEvent) ≠ [] := by
    intro empty
    exact List.not_mem_nil (empty ▸ List.mem_filter.mpr ⟨member, decide_eq_true other⟩)
  apply sound.last
  rw [made, List.dropLast_append_of_ne_nil (by simp), List.dropLast_cons_of_ne_nil behind]
  simp

theorem work_running {answer : Answer} {chain : OfferedSwapChain} (after : (chain.work answer).running = true) :
    chain.running = true := by
  have effect := work_effect answer chain
  obtain ⟨pc, here, started⟩ := (Option.any_eq_true _ _).mp after
  cases before : chain.thread with
  | none =>
    have created := effect.created
    rw [here, before] at created
    cases created
  | some previous =>
    by_cases exited : previous = .exited
    · have stays := effect.exits.mpr (.inr (exited ▸ before))
      rw [here, Option.some.injEq] at stays
      simp [stays] at started
    · simp [running, before, exited]

theorem offer_running {resources : Resources} (started : (offer resources).running = true) : resources.init = true := by
  cases init : resources.init with
  | false => simp [offer, call, running, init] at started
  | true => rfl

/-- The calls a thread that has been told to stop still has before it at most. -/
def rank : Pc → Nat
  | .exited => 0
  | .leave => 1
  | .poll => 2
  | .wait | .finish | .setDevice => 3
  | .acquire | .setPriority => 4
  | .getDevice => 5

def told (chain : OfferedSwapChain) : Prop := chain.terminateEvent = some true ∨ chain.left

/-- A thread that has been told to stop comes nearer to its end with every step: the
wait returns, and no signal is consumed without leaving. -/
theorem work_rank (answer : Answer) {chain : OfferedSwapChain} {pc : Pc} (here : chain.thread = some pc)
    (stop : chain.told) :
    (chain.work answer).told ∧
      ∃ next, (chain.work answer).thread = some next ∧ rank next ≤ rank pc - 1 := by
  have effect := work_effect answer chain
  have again : (chain.work answer).told := by
    rcases stop with signalled | left
    · exact (effect.signalled signalled).imp_right .inl
    · exact .inr (effect.left left)
  refine ⟨again, ?_⟩
  by_cases leaves : pc = .leave ∨ pc = .exited
  · refine ⟨.exited, effect.exits.mpr ?_, Nat.zero_le _⟩
    rcases leaves with rfl | rfl
    · exact .inl here
    · exact .inr here
  · have signalled : chain.terminateEvent = some true := by
      refine stop.resolve_right fun left => leaves ?_
      rcases left with leave | exited
      · exact .inl (Option.some.inj (here.symm.trans leave))
      · exact .inr (Option.some.inj (here.symm.trans exited))
    unfold work
    cases pc with
    | getDevice => cases answer.getDevice <;> simp [here, goto, rank]
    | setPriority => cases answer.hasSetRealtimeGPUPriority <;> simp [here, goto, rank]
    | setDevice => cases answer.setDevice <;> simp [here, goto, rank]
    | poll => simp [here, signalled, goto, rank]
    | acquire =>
      cases answer.acquire with
      | pending => simp [here, acquired, goto, rank]
      | success metaData =>
        simp only [here, acquired]
        split
        · exact ⟨.finish, rfl, by decide⟩
        · exact ⟨.poll, rfl, by decide⟩
      | failure failure => exact ⟨.leave, by simp [here, acquired, goto], by decide⟩
    | wait => cases answer.wait <;> simp [here, signalled, waitResult, waitEnds, goto, rank]
    | finish =>
      cases answer.finished with
      | none => simp [here, frameFinished, goto, rank]
      | some failure => exact ⟨.leave, by simp [here, frameFinished, goto], by decide⟩
    | leave => exact absurd (.inl rfl) leaves
    | exited => exact absurd (.inr rfl) leaves

theorem told_exits {chain : OfferedSwapChain} {pc : Pc} (here : chain.thread = some pc) (stop : chain.told)
    (answers : List Answer) (enough : rank pc ≤ answers.length) :
    (run (fun chain answer => chain.work answer) chain answers).thread = some .exited := by
  induction answers generalizing chain pc with
  | nil =>
    have done : pc = .exited := by cases pc <;> simp [rank] at enough ⊢
    exact done ▸ here
  | cons answer rest ih =>
    obtain ⟨again, next, there, closer⟩ := work_rank answer here stop
    rw [List.length_cons] at enough
    exact ih there again (by omega)

/-- Five calls after it has been told to stop, whatever they are answered, a thread has
deleted its swap chain and returned. -/
theorem closing_exits {chain : OfferedSwapChain} (sound : chain.Sound) (complete : chain.resources = ⟨true, true, true⟩)
    (closed : .setEvent ∈ chain.calls) (answers : List Answer) (enough : 5 ≤ answers.length) :
    (run (fun chain answer => chain.work answer) chain answers).thread = some .exited := by
  have thread : chain.thread.isSome = true := by simp [sound.thread, complete]
  have event : chain.terminateEvent.isSome = true := by simp [sound.event, complete]
  obtain ⟨pc, here⟩ := Option.isSome_iff_exists.mp thread
  exact told_exits here (sound.stops closed event thread) answers (Nat.le_trans (by cases pc <;> decide) enough)

def threadCall : SwapChainCall → Option ChainCall
  | .finishedProcessingFrame => some .finishedProcessingFrame
  | .onSwapChainLost => some .onSwapChainLost
  | _ => none

/-- The answers behind one turn of the loop taken alone. -/
def turnAnswer (input : Turn) : Answer where
  acquire :=
    match input.acquire with
    | .pending _ => .pending
    | .success metaData => .success metaData
    | .failure failure => .failure failure
  wait :=
    match input.acquire with
    | .pending wait => wait
    | _ => .timeout
  finished := input.finished

theorem lost_calls (failure : Failure) (chain : OfferedSwapChain) :
    chain.lost failure =
      { chain with calls := chain.calls ++ (CSwapChainProcessor.lostCalls failure).filterMap threadCall } := by
  cases failure with
  | STATUS_GRAPHICS_PATH_NOT_IN_TOPOLOGY => rfl
  | other => simp [lost, CSwapChainProcessor.lostCalls]

@[simp] theorem threadCalls_references (operations : List (Library.ComPtr.Operation Surface)) :
    (CSwapChainProcessor.references operations).filterMap threadCall = [] := by
  simp [CSwapChainProcessor.references, List.filterMap_map, Function.comp_def, threadCall]

@[simp] theorem threadCalls_newFrame (acquired : Option Surface) (dirtyRectCount : UInt32) :
    (CSwapChainProcessor.swapChainNewFrame acquired dirtyRectCount).filterMap threadCall = [] := by
  simp only [CSwapChainProcessor.swapChainNewFrame, List.filterMap_append, threadCalls_references]
  rfl

/-- From poll to poll the thread does what the turn of the loop does, unless the event
is set while it waits. -/
theorem work_turn (input : Turn) {chain : OfferedSwapChain} (here : chain.thread = some .poll)
    (event : chain.terminateEvent = some input.terminate) (unset : input.acquire ≠ .pending .terminate) :
    let result := CSwapChainProcessor.turn chain.lastFrameNumber input
    ∃ steps, let after := run (fun chain answer => chain.work answer) chain (List.replicate steps (turnAnswer input))
      after.thread = some (if result.leaves then .leave else .poll) ∧
      after.lastFrameNumber = result.lastFrameNumber ∧
      after.calls = chain.calls ++ (if input.terminate then [] else [.releaseAndAcquireBuffer]) ++
        result.calls.filterMap threadCall := by
  obtain ⟨terminate, acquire, finished⟩ := input
  obtain ⟨resources, terminateEvent, thread, lastFrameNumber, calls⟩ := chain
  obtain rfl : thread = some .poll := here
  obtain rfl : terminateEvent = some terminate := event
  cases terminate with
  | true => exact ⟨1, rfl, rfl, by simp [work, consume, goto, CSwapChainProcessor.turn]⟩
  | false =>
    cases acquire with
    | pending wait =>
      refine ⟨3, ?_⟩
      cases wait with
      | newFrame => exact ⟨rfl, rfl, (List.append_nil _).symm⟩
      | timeout => exact ⟨rfl, rfl, (List.append_nil _).symm⟩
      | terminate => exact absurd rfl unset
      | failed => exact ⟨rfl, rfl, (List.append_nil _).symm⟩
    | failure failure =>
      refine ⟨2, ?_⟩
      simp [List.replicate, work, turnAnswer, goto, call, acquired, lost_calls, CSwapChainProcessor.turn]
    | success metaData =>
      by_cases fresh : metaData.presentationFrameNumber = lastFrameNumber
      · refine ⟨2, ?_⟩
        simp [List.replicate, work, turnAnswer, goto, call, acquired, fresh, CSwapChainProcessor.turn]
      · refine ⟨3, ?_⟩
        cases finished with
        | none =>
          simp [List.replicate, work, turnAnswer, goto, call, acquired, fresh, frameFinished, threadCall,
            CSwapChainProcessor.turn]
        | some failure =>
          simp [List.replicate, work, turnAnswer, goto, call, acquired, fresh, frameFinished, threadCall,
            lost_calls, CSwapChainProcessor.turn]

end OfferedSwapChain
end QubesIdd
