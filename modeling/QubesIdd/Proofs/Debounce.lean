import QubesIdd.Proofs.ResdReads
import QubesIdd.ResdTimeline

/-! The pause before a request is applied, against an unbounded clock: when `SetExact`
has to be called, and the one tick count at which a request is lost. -/

namespace QubesIdd.Resd
open Library.Runs

/-- Actions at one time, none of them a look at the pause, lead from one state to the other. -/
def Leads (time : Nat) (state after : State) : Prop :=
  ∃ actions : List Action, .debounce ∉ actions ∧ after = run (act time) state actions

theorem Leads.refl (time : Nat) (state : State) : Leads time state state := ⟨[], List.not_mem_nil, rfl⟩

theorem Leads.one {time : Nat} {state : State} (action : Action) (quiet : action ≠ .debounce) :
    Leads time state (act time state action) := ⟨[action], by simpa using Ne.symm quiet, rfl⟩

theorem Leads.trans {time : Nat} {state middle after : State} (begun : Leads time state middle) (ended : Leads time middle after) :
    Leads time state after := by
  obtain ⟨first, quiet, rfl⟩ := begun
  obtain ⟨last, later, rfl⟩ := ended
  exact ⟨first ++ last, by simp [quiet, later], (run_append _ first last).symm⟩

theorem readBytes_leads (time : Nat) (buf : Bytes) (state : State) :
    Leads time state (buf.foldl (readByte (getTickCount time)) state) :=
  ⟨buf.map .readByte, by simp, by simp only [run, List.foldl_map, act]⟩

theorem readChunks_leads (time : Nat) (content : Bytes) (reads : List Nat) (state : State) :
    Leads time state (readChunks (getTickCount time) content reads state) := by
  induction reads generalizing state with
  | nil => exact .refl time state
  | cons size reads ih =>
    simp only [readChunks]
    split
    next => exact .refl time state
    next =>
      have read := readBytes_leads time ((content.drop state.pos).take (min size BUFFER_SIZE)) state
      exact (read.trans (.one (.seek _) (by simp))).trans (ih _)

/-- Turning to the newest log and reading it takes no look at the pause. -/
theorem readLog_leads (state : State) (input : Poll) (readTime : Nat) (readTick : input.readTick = getTickCount readTime) :
    Leads readTime state (readLog input (followNewest input.newest state)) := by
  have turned : Leads readTime state (followNewest input.newest state) := .one (.followNewest input.newest) (by simp)
  apply turned.trans
  unfold readLog
  rw [readTick]
  split
  next => exact .refl _ _
  next =>
    split
    next => exact Leads.trans (.one (.seek 0) (by simp)) (readChunks_leads ..)
    next => exact readChunks_leads ..

/-- A poll is its actions one after another, those before the last at the time of reading. -/
theorem poll_actions (state : State) (input : Poll) (readTime nowTime : Nat)
    (readTick : input.readTick = getTickCount readTime) (nowTick : input.nowTick = getTickCount nowTime) :
    ∃ read, Leads readTime state read ∧ poll state input = act nowTime read .debounce :=
  ⟨_, readLog_leads state input readTime readTick, by rw [poll, nowTick]; rfl⟩

/-- Requests touch the pending size and the pause, nothing else does before the pause. -/
theorem act_read {state : State} {action : Action} {size : UInt32 × UInt32} (time : Nat)
    (read : completes state action = some size) :
    (act time state action).pendW = size.1 ∧ (act time state action).pendH = size.2 ∧
      (act time state action).pendTick = getTickCount time ∧ (act time state action).applied = state.applied := by
  cases action with
  | readByte c =>
    simp only [completes] at read
    split at read
    next flushed => simp [act, readByte, flushed, read]
    next => cases read
  | followNewest => cases read
  | seek => cases read
  | debounce => cases read

theorem act_quiet {state : State} {action : Action} (time : Nat) (other : action ≠ .debounce)
    (unread : completes state action = none) :
    (act time state action).pendW = state.pendW ∧ (act time state action).pendH = state.pendH ∧
      (act time state action).pendTick = state.pendTick ∧ (act time state action).applied = state.applied := by
  cases action with
  | followNewest newest =>
    exact followNewest_preserves
      (fun later => later.pendW = state.pendW ∧ later.pendH = state.pendH ∧
        later.pendTick = state.pendTick ∧ later.applied = state.applied)
      (fun _ _ same => same) newest state ⟨rfl, rfl, rfl, rfl⟩
  | seek => exact ⟨rfl, rfl, rfl, rfl⟩
  | readByte c =>
    simp only [completes] at unread
    simp only [act, readByte]
    split at unread
    next flushed => simp [flushed, unread]
    next kept =>
      rw [if_neg kept]
      split
      · exact ⟨rfl, rfl, rfl, rfl⟩
      · exact ⟨rfl, rfl, rfl, rfl⟩
  | debounce => exact absurd rfl other

namespace Observed

/-- The request that a look at this time has to apply: the latest, if it is older than
the pause and has not been applied. -/
def due (observed : Observed) (time : Nat) : List (UInt32 × UInt32) :=
  match observed.latest with
  | some (size, read) => if observed.handed = false ∧ read + 400 < time then [size] else []
  | none => []

/-- `SetExact` is called where a request is due, with it and once, and nowhere else. -/
def Prompt (observed : Observed) (moment : Moment) : Prop :=
  (observed.step moment).state.applied = observed.state.applied ++
    if moment.action = .debounce then observed.due (observed.time + moment.elapsed) else []

/-- Two looks at the pause are less than a turn of the tick count, less the pause, apart. -/
def Spaced (observed : Observed) (moment : Moment) : Prop :=
  moment.action = .debounce → observed.time + moment.elapsed - observed.checked < 2 ^ 32 - 400

/-- A look never finds the latest request past its pause if it was read at tick count 0. -/
def TickNonzero (observed : Observed) (moment : Moment) : Prop :=
  moment.action = .debounce → ∀ request ∈ observed.latest,
    request.2 + 400 < observed.time + moment.elapsed → getTickCount request.2 ≠ 0

instance (observed : Observed) (moment : Moment) : Decidable (Prompt observed moment) :=
  inferInstanceAs (Decidable (_ = _))

instance (observed : Observed) (moment : Moment) : Decidable (Spaced observed moment) :=
  inferInstanceAs (Decidable (_ → _))

instance (observed : Observed) (moment : Moment) : Decidable (TickNonzero observed moment) :=
  inferInstanceAs (Decidable (_ → ∀ request ∈ observed.latest, _))

/-- How the variables stand to what has been read. -/
inductive Phase (observed : Observed) : Prop where
  | unread (latest : observed.latest = none) (clear : observed.state.pendTick = 0)
  | pending (size : UInt32 × UInt32) (read : Nat) (latest : observed.latest = some (size, read))
      (handed : observed.handed = false) (past : read ≤ observed.time)
      (stored : (observed.state.pendW, observed.state.pendH) = size)
      (ticked : observed.state.pendTick = getTickCount read) (young : observed.checked ≤ read + 400)
  | handed (size : UInt32 × UInt32) (read : Nat) (latest : observed.latest = some (size, read))
      (handed : observed.handed = true) (clear : observed.state.pendTick = 0) (ticked : getTickCount read ≠ 0)

structure Timed (observed : Observed) : Prop where
  phase : Phase observed
  checked : observed.checked ≤ observed.time

section
variable {observed : Observed} {moment : Moment}

theorem step_read {size : UInt32 × UInt32} (read : completes observed.state moment.action = some size) :
    Timed observed → Timed (observed.step moment) ∧ Prompt observed moment := by
  intro timed
  obtain ⟨wide, high, ticked, applied⟩ := act_read (observed.time + moment.elapsed) read
  have other : moment.action ≠ .debounce := by
    intro same
    rw [same] at read
    cases read
  have early := timed.checked
  refine ⟨⟨?_, ?_⟩, ?_⟩
  · apply Phase.pending size (observed.time + moment.elapsed)
    · simp [step, read]
    · simp [step, read]
    · simp [step, read]
    · simp [step, read, wide, high]
    · simp [step, read, ticked]
    · simp [step, read, other]
      omega
  · simp [step, read, other]
    omega
  · simp [Prompt, step, read, other, applied]

theorem step_quiet (other : moment.action ≠ .debounce) (unread : completes observed.state moment.action = none) :
    Timed observed → Timed (observed.step moment) ∧ Prompt observed moment := by
  intro timed
  obtain ⟨wide, high, ticked, applied⟩ := act_quiet (observed.time + moment.elapsed) other unread
  have early := timed.checked
  have stepped : observed.step moment =
      { observed with
        state := act (observed.time + moment.elapsed) observed.state moment.action
        time := observed.time + moment.elapsed } := by
    simp [step, unread, other, applied]
  rw [Prompt, stepped]
  refine ⟨⟨?_, Nat.le_add_right_of_le early⟩, by simp [other, applied]⟩
  cases timed.phase with
  | unread latest clear => exact .unread latest (ticked.trans clear)
  | pending size read latest handed past stored pending young =>
    exact .pending size read latest handed (Nat.le_add_right_of_le past) (by rw [wide, high, stored]) (ticked.trans pending)
      young
  | handed size read latest handed clear nonzero => exact .handed size read latest handed (ticked.trans clear) nonzero

/-- A look that applies nothing moves the clock only. -/
theorem step_idle (look : moment.action = .debounce)
    (idle : debounce (getTickCount (observed.time + moment.elapsed)) observed.state = observed.state) :
    observed.step moment =
      { observed with time := observed.time + moment.elapsed, checked := observed.time + moment.elapsed } := by
  simp [step, look, completes, act, idle]

theorem debounce_clear {state : State} (now : UInt32) (clear : state.pendTick = 0) : debounce now state = state := by
  simp [debounce, clear]

/-- A look at the pause, in each phase. Only a pending request read at tick count 0 can
be due without being seen. -/
theorem step_debounce (look : moment.action = .debounce) (timed : Timed observed) (spaced : Spaced observed moment) :
    (Prompt observed moment ↔ TickNonzero observed moment) ∧
      (TickNonzero observed moment → Timed (observed.step moment)) := by
  have early := timed.checked
  have recent := spaced look
  cases timed.phase with
  | unread latest clear =>
    rw [Prompt, step_idle look (debounce_clear _ clear)]
    refine ⟨?_, fun _ => ⟨.unread latest clear, Nat.le_refl _⟩⟩
    simp [look, due, latest, TickNonzero]
  | handed size read latest handed clear nonzero =>
    rw [Prompt, step_idle look (debounce_clear _ clear)]
    refine ⟨?_, fun _ => ⟨.handed size read latest handed clear nonzero, Nat.le_refl _⟩⟩
    simp [look, due, latest, TickNonzero, handed, nonzero]
  | pending size read latest handed past stored ticked young =>
    have exceeds : getTickCount (observed.time + moment.elapsed) - getTickCount read > 400 ↔
        read + 400 < observed.time + moment.elapsed :=
      getTickCount_exceeds (by omega) (by omega) (by decide)
    have seen : TickNonzero observed moment ↔ (read + 400 < observed.time + moment.elapsed → getTickCount read ≠ 0) := by
      simp [TickNonzero, look, latest]
    by_cases applies : getTickCount read ≠ 0 ∧ read + 400 < observed.time + moment.elapsed
    · have stepped : observed.step moment =
          { observed with
            state := { observed.state with applied := observed.state.applied ++ [size], pendTick := 0 }
            time := observed.time + moment.elapsed
            checked := observed.time + moment.elapsed
            handed := true } := by
        simp [step, look, completes, act, debounce, ticked, exceeds, applies, stored]
      rw [Prompt, seen, stepped]
      refine ⟨?_, fun _ => ⟨.handed size read latest rfl rfl applies.1, Nat.le_refl _⟩⟩
      simp [look, due, latest, handed, applies]
    · have idle : debounce (getTickCount (observed.time + moment.elapsed)) observed.state = observed.state := by
        simp [debounce, ticked, exceeds, applies]
      rw [Prompt, seen, step_idle look idle]
      rw [not_and] at applies
      constructor
      · by_cases old : read + 400 < observed.time + moment.elapsed
        · simp [look, due, latest, handed, old, not_not.mp fun nonzero => applies nonzero old]
        · simp [look, due, latest, handed, old]
      · intro nonzero
        have still : observed.time + moment.elapsed ≤ read + 400 := by
          by_contra old
          exact applies (nonzero (by omega)) (by omega)
        exact ⟨.pending size read latest handed (Nat.le_add_right_of_le past) stored ticked still, Nat.le_refl _⟩

theorem step_prompt (timed : Timed observed) (spaced : Spaced observed moment) :
    (Prompt observed moment ↔ TickNonzero observed moment) ∧
      (TickNonzero observed moment → Timed (observed.step moment)) := by
  by_cases look : moment.action = .debounce
  · exact step_debounce look timed spaced
  · have unseen : TickNonzero observed moment := fun same => absurd same look
    obtain ⟨next, prompt⟩ : Timed (observed.step moment) ∧ Prompt observed moment := by
      cases read : completes observed.state moment.action with
      | some size => exact step_read read timed
      | none => exact step_quiet look read timed
    exact ⟨⟨fun _ => unseen, fun _ => prompt⟩, fun _ => next⟩

end

/-- Along a timeline whose looks are spaced, requests are applied on time, each once and
only the latest, exactly if no look finds one past its pause that was read at tick count 0. -/
theorem prompt_iff (start : Nat) (moments : List Moment) (spaced : Along step Spaced (Observed.start start) moments) :
    Along step Prompt (Observed.start start) moments ↔ Along step TickNonzero (Observed.start start) moments := by
  refine along_congr_promised Timed ?_ ?_ _ _ ⟨.unread rfl rfl, Nat.le_refl _⟩ spaced
  · exact fun observed moment timed near nonzero => (step_prompt timed near).2 nonzero
  · exact fun observed moment timed near => (step_prompt timed near).1

/-- One request and the looks behind it. -/
def oneRequest (waits : List Nat) : List Moment :=
  ("resolution change: 8x6\n".toList.map fun c => ⟨0, .readByte (char c)⟩) ++ waits.map fun wait => ⟨wait, .debounce⟩

theorem prompt_wrapping :
    Along step Prompt (Observed.start (2 ^ 32 - 7)) (oneRequest [100, 300, 100]) :=
  (prompt_iff (2 ^ 32 - 7) (oneRequest [100, 300, 100]) (by decide +kernel)).mpr (by decide +kernel)

/-- Read when the tick count is 0, the request is never applied. -/
theorem prompt_violated :
    ¬ ∀ (start : Nat) (moments : List Moment), Along step Spaced (Observed.start start) moments →
      Along step Prompt (Observed.start start) moments := by
  intro claim
  exact absurd (claim (2 ^ 32) (oneRequest [100, 300, 100]) (by decide +kernel)) (by decide +kernel)

end Observed
end QubesIdd.Resd
