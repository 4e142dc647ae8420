import QubesIdd.Proofs.ResdFollow
import QubesIdd.SetExact

/-! What `SetExact` promises about the driver and the display: the modes they were last
brought to are read off the calls, and the remembered size is compared with them. -/

namespace QubesIdd.Resd
open Library.Runs

/-- The mode of an escape the driver accepted. -/
def acceptedMode : ExactCall → Option Size
  | .escape priv st statusOut => if st = 0 ∧ statusOut = 0 then some (priv.width, priv.height) else none
  | _ => none

def changedMode : ExactCall → Option Size
  | .changeDisplaySettings size result => if result = DISP_CHANGE_SUCCESSFUL then some size else none
  | _ => none

def lastAccepted (state : ExactState) : Option Size := (state.calls.filterMap acceptedMode).getLast?

def lastChanged (state : ExactState) : Option Size := (state.calls.filterMap changedMode).getLast?

abbrev ExactInput := Size × ExactAnswers

def exactStep (state : ExactState) (input : ExactInput) : ExactState := (setExact input.1 input.2 state).2

/-- A mode once set is still the one the driver was last told. -/
def CacheCurrent (state : ExactState) : Prop := ∀ size, lastChanged state = some size → lastAccepted state = some size

/-- A call that returns true has left driver and display at its size, and no call leaves
the driver away from the mode the display is remembered to have. -/
def KeepsPromise (state : ExactState) (input : ExactInput) : Prop :=
  ((setExact input.1 input.2 state).1 = true →
    lastAccepted (exactStep state input) = some input.1 ∧ lastChanged (exactStep state input) = some input.1) ∧
  CacheCurrent (exactStep state input)

/-- Whether the driver accepts the escape of a call that makes one. -/
def escapes (answers : ExactAnswers) : Bool :=
  answers.enumDisplayDevices && answers.openAdapter == 0 && answers.escape == 0 && answers.statusOut == 0

/-- The shortcut is taken for a size that was set; once one was, no mode is accepted by
the driver and then refused by the display. -/
def NoHalfChange (state : ExactState) (input : ExactInput) : Prop :=
  (alreadyApplied input.1 state = true → lastChanged state ≠ none) ∧
  (alreadyApplied input.1 state = false → lastChanged state ≠ none → escapes input.2 = true →
    input.2.changeDisplaySettings = DISP_CHANGE_SUCCESSFUL)

/-- The remembered size is the mode last set, or zero. -/
def Remembers (state : ExactState) : Prop :=
  (lastChanged state = none ∧ state.lastW = 0 ∧ state.lastH = 0) ∨
  ∃ size, lastChanged state = some size ∧ state.lastW = size.1.toInt32 ∧ state.lastH = size.2.toInt32

structure Coherent (state : ExactState) : Prop where
  current : CacheCurrent state
  remembers : Remembers state

theorem lastAccepted_log (calls : List ExactCall) (state : ExactState) :
    lastAccepted (state.log calls) = ((calls.filterMap acceptedMode).getLast?).or (lastAccepted state) := by
  simp [lastAccepted, ExactState.log, List.getLast?_append]

theorem lastChanged_log (calls : List ExactCall) (state : ExactState) :
    lastChanged (state.log calls) = ((calls.filterMap changedMode).getLast?).or (lastChanged state) := by
  simp [lastChanged, ExactState.log, List.getLast?_append]

theorem alreadyApplied_iff {size : Size} {state : ExactState} :
    alreadyApplied size state = true ↔ size.1.toInt32 = state.lastW ∧ size.2.toInt32 = state.lastH := by
  simp [alreadyApplied]

/-- The shortcut is taken for the mode last set and for no other. -/
theorem Remembers.applied {state : ExactState} (remembers : Remembers state) {last : Size} (known : lastChanged state = some last)
    (size : Size) : alreadyApplied size state = true ↔ last = size := by
  rw [alreadyApplied_iff]
  rcases remembers with ⟨none, _⟩ | ⟨other, otherKnown, width, height⟩
  · exact nomatch none.symm.trans known
  · obtain rfl : last = other := Option.some.inj (known.symm.trans otherKnown)
    rw [width, height]
    constructor
    · rintro ⟨sameWidth, sameHeight⟩
      exact Prod.ext (congrArg Int32.toUInt32 sameWidth.symm) (congrArg Int32.toUInt32 sameHeight.symm)
    · rintro rfl
      exact ⟨rfl, rfl⟩

/-- Beyond the shortcut, a call either fails before the display is reached or makes the
driver accept the mode and then depends on the display. -/
theorem setExact_refused {size : Size} {answers : ExactAnswers} {state : ExactState}
    (fresh : alreadyApplied size state = false) (refused : escapes answers = false) :
    (setExact size answers state).1 = false ∧
    lastAccepted (setExact size answers state).2 = lastAccepted state ∧
    lastChanged (setExact size answers state).2 = lastChanged state ∧
    (setExact size answers state).2.lastW = state.lastW ∧ (setExact size answers state).2.lastH = state.lastH := by
  unfold setExact
  rw [fresh]
  simp only [Bool.false_eq_true, if_false]
  split
  · exact ⟨rfl, rfl, rfl, rfl, rfl⟩
  next enumerated =>
    split
    · exact ⟨rfl, rfl, rfl, rfl, rfl⟩
    next opened =>
      have rejected : answers.escape ≠ 0 ∨ answers.statusOut ≠ 0 := by
        by_contra accepted
        simp_all [escapes]
      rw [if_pos rejected]
      refine ⟨rfl, ?_, ?_, rfl, rfl⟩
      · rw [lastAccepted_log]
        rcases rejected with status | out
        · simp [acceptedMode, status]
        · simp [acceptedMode, out]
      · rw [lastChanged_log]
        rfl

theorem setExact_escaped {size : Size} {answers : ExactAnswers} {state : ExactState}
    (fresh : alreadyApplied size state = false) (escaped : escapes answers = true) :
    ∃ told, lastAccepted told = some size ∧ lastChanged told = lastChanged state ∧
      told.lastW = state.lastW ∧ told.lastH = state.lastH ∧
      setExact size answers state = changeMode size answers told := by
  simp only [escapes, Bool.and_eq_true, beq_iff_eq] at escaped
  obtain ⟨⟨⟨enumerated, opened⟩, status⟩, out⟩ := escaped
  refine ⟨_, ?_, ?_, ?_, ?_, by simp only [setExact, fresh, enumerated, opened, status, out]; rfl⟩
  · rw [lastAccepted_log]
    rfl
  · rw [lastChanged_log]
    rfl
  · rfl
  · rfl

theorem changeMode_spec (size : Size) (answers : ExactAnswers) (state : ExactState) :
    lastAccepted (changeMode size answers state).2 = lastAccepted state ∧
    if answers.changeDisplaySettings = DISP_CHANGE_SUCCESSFUL then
      (changeMode size answers state).1 = true ∧ lastChanged (changeMode size answers state).2 = some size ∧
      (changeMode size answers state).2.lastW = size.1.toInt32 ∧ (changeMode size answers state).2.lastH = size.2.toInt32
    else
      (changeMode size answers state).1 = false ∧
      lastChanged (changeMode size answers state).2 = lastChanged state ∧
      (changeMode size answers state).2.lastW = state.lastW ∧ (changeMode size answers state).2.lastH = state.lastH := by
  by_cases successful : answers.changeDisplaySettings = DISP_CHANGE_SUCCESSFUL
  · have set : changedMode (.changeDisplaySettings size answers.changeDisplaySettings) = some size := if_pos successful
    rw [if_pos successful]
    simp only [changeMode, if_pos successful]
    refine ⟨lastAccepted_log _ state, trivial, (lastChanged_log _ state).trans ?_, trivial, trivial⟩
    rw [List.filterMap_cons, set]
    rfl
  · have unset : changedMode (.changeDisplaySettings size answers.changeDisplaySettings) = none := if_neg successful
    rw [if_neg successful]
    simp only [changeMode, if_neg successful]
    refine ⟨lastAccepted_log _ state, trivial, (lastChanged_log _ state).trans ?_, rfl, rfl⟩
    rw [List.filterMap_cons, unset]
    rfl

/-- The driver and the display do as they are told. -/
def Accepting (answers : ExactAnswers) : Prop :=
  escapes answers = true ∧ answers.changeDisplaySettings = DISP_CHANGE_SUCCESSFUL

instance (answers : ExactAnswers) : Decidable (Accepting answers) := inferInstanceAs (Decidable (_ ∧ _))

theorem setExact_accepting (size : Size) {answers : ExactAnswers} (state : ExactState) (accepting : Accepting answers) :
    (setExact size answers state).1 = true := by
  cases fresh : alreadyApplied size state with
  | true => simp [setExact, fresh]
  | false =>
    obtain ⟨told, _, _, _, _, same⟩ := setExact_escaped fresh accepting.1
    obtain ⟨_, outcome⟩ := changeMode_spec size answers told
    rw [if_pos accepting.2] at outcome
    rw [same]
    exact outcome.1

theorem step_remembers (state : ExactState) (input : ExactInput) (remembers : Remembers state) :
    Remembers (exactStep state input) := by
  obtain ⟨size, answers⟩ := input
  cases fresh : alreadyApplied size state with
  | true => simpa [exactStep, setExact, fresh] using remembers
  | false =>
    cases escaped : escapes answers with
    | false =>
      obtain ⟨_, _, changed, width, height⟩ := setExact_refused fresh escaped
      simp only [Remembers, exactStep, changed, width, height]
      exact remembers
    | true =>
      obtain ⟨told, _, changed, width, height, same⟩ := setExact_escaped fresh escaped
      obtain ⟨_, outcome⟩ := changeMode_spec size answers told
      simp only [exactStep, same]
      split at outcome
      · exact .inr ⟨size, outcome.2⟩
      · simp only [Remembers, outcome, changed, width, height]
        exact remembers

/-- One call keeps the promise exactly if it changes no mode by half. -/
theorem keepsPromise_iff (state : ExactState) (input : ExactInput) (coherent : Coherent state) :
    KeepsPromise state input ↔ NoHalfChange state input := by
  obtain ⟨current, remembers⟩ := coherent
  obtain ⟨size, answers⟩ := input
  cases fresh : alreadyApplied size state with
  | true =>
    have unmoved : setExact size answers state = (true, state) := by simp [setExact, fresh]
    simp only [KeepsPromise, NoHalfChange, exactStep, unmoved, fresh]
    constructor
    · intro promise
      exact ⟨fun _ none => by simp [none] at promise, nofun⟩
    · rintro ⟨changed, _⟩
      obtain ⟨last, known⟩ := Option.ne_none_iff_exists'.mp (changed trivial)
      have same : last = size := (remembers.applied known size).mp fresh
      exact ⟨fun _ => ⟨same ▸ current last known, same ▸ known⟩, current⟩
  | false =>
    cases escaped : escapes answers with
    | false =>
      obtain ⟨failed, accepted, changed, _⟩ := setExact_refused fresh escaped
      have still : CacheCurrent (exactStep state (size, answers)) := by
        simp only [CacheCurrent, exactStep, accepted, changed]
        exact current
      simp [KeepsPromise, NoHalfChange, failed, still, fresh, escaped]
    | true =>
      obtain ⟨told, accepted, changed, width, height, same⟩ := setExact_escaped fresh escaped
      obtain ⟨acceptedLast, outcome⟩ := changeMode_spec size answers told
      rw [accepted] at acceptedLast
      simp only [KeepsPromise, NoHalfChange, CacheCurrent, exactStep, same, acceptedLast]
      by_cases successful : answers.changeDisplaySettings = DISP_CHANGE_SUCCESSFUL
      · rw [if_pos successful] at outcome
        simp [outcome, fresh, successful]
      · rw [if_neg successful] at outcome
        obtain ⟨failed, kept, _⟩ := outcome
        rw [changed] at kept
        rw [failed, kept]
        constructor
        · rintro ⟨_, away⟩
          refine ⟨fun hit => absurd hit (by simp [fresh]), fun _ known => ?_⟩
          obtain ⟨last, lastKnown⟩ := Option.ne_none_iff_exists'.mp known
          have same : size = last := Option.some.inj (away last lastKnown)
          have hit := (remembers.applied lastKnown size).mpr same.symm
          rw [fresh] at hit
          cases hit
        · rintro ⟨_, whole⟩
          refine ⟨nofun, fun last known => ?_⟩
          exact absurd (whole fresh (by simp [known]) escaped) successful

/-- Along a run of calls the promise is kept exactly if no mode is changed by half. -/
theorem exactMode_iff (inputs : List ExactInput) :
    Along exactStep KeepsPromise {} inputs ↔ Along exactStep NoHalfChange {} inputs := by
  have start : Coherent {} := ⟨nofun, .inl ⟨rfl, rfl, rfl⟩⟩
  refine along_congr Coherent ?_ keepsPromise_iff _ _ start
  intro state input coherent whole
  exact ⟨((keepsPromise_iff state input coherent).mpr whole).2, step_remembers state input coherent.remembers⟩

/-- The driver is moved on, the display is not, and the old size counts as applied. -/
theorem exactMode_violated : ¬ ∀ inputs : List ExactInput, Along exactStep KeepsPromise {} inputs := by
  intro claim
  obtain ⟨_, _, last, _⟩ := claim
    [((800, 600), {}), ((1024, 768), { changeDisplaySettings := -2 }), ((800, 600), {})]
  exact absurd (last.1 rfl).1 (by decide)

def Positive (size : Size) : Prop := 0 < size.1.toInt32 ∧ 0 < size.2.toInt32

theorem pendingRequest_positive {line : Bytes} {size : Size} (asked : pendingRequest line = some size) : Positive size := by
  unfold pendingRequest at asked
  split at asked
  · cases asked
  · split at asked
    · cases asked
    next w hh _ =>
      dsimp only at asked
      split at asked
      next positive =>
        cases asked
        exact positive
      next => cases asked

structure AppliesPositive (state : State) : Prop where
  pending : state.pendTick ≠ 0 → Positive (state.pendW, state.pendH)
  applied : ∀ size ∈ state.applied, Positive size

theorem readByte_positive (tick : UInt32) (state : State) (c : UInt8) (positive : AppliesPositive state) :
    AppliesPositive (readByte tick state c) := by
  unfold readByte
  split
  · split
    next w hh asked => exact ⟨fun _ => pendingRequest_positive asked, positive.applied⟩
    next => exact ⟨positive.pending, positive.applied⟩
  · split
    · exact ⟨positive.pending, positive.applied⟩
    · exact positive

theorem debounce_positive (now : UInt32) (state : State) (positive : AppliesPositive state) :
    AppliesPositive (debounce now state) := by
  unfold debounce
  split
  next due =>
    refine ⟨fun cleared => absurd rfl cleared, ?_⟩
    intro size member
    rcases List.mem_append.mp member with earlier | now
    · exact positive.applied size earlier
    · rw [List.mem_singleton.mp now]
      exact positive.pending due.1
  next => exact positive

theorem poll_positive (state : State) (input : Poll) (positive : AppliesPositive state) : AppliesPositive (poll state input) := by
  apply poll_preserves AppliesPositive readByte_positive
  · exact fun _ _ before => ⟨before.pending, before.applied⟩
  · exact fun _ _ before => ⟨before.pending, before.applied⟩
  · exact debounce_positive
  · exact positive

/-- The main loop only ever calls `SetExact` with a positive size. -/
theorem applied_positive (polls : List Poll) : ∀ size ∈ (run poll {} polls).applied, Positive size := by
  have start : AppliesPositive {} := ⟨fun never => absurd rfl never, by simp⟩
  exact (run_preserves AppliesPositive poll_positive {} polls start).applied

/-- Once a mode was set, the display follows the driver to the next one. -/
def DisplayFollows (state : ExactState) (input : ExactInput) : Prop :=
  alreadyApplied input.1 state = false → lastChanged state ≠ none → escapes input.2 = true →
    input.2.changeDisplaySettings = DISP_CHANGE_SUCCESSFUL

/-- The shortcut is never taken for the zeros the remembered size starts with. -/
theorem noHalfChange_positive {state : ExactState} {input : ExactInput} (remembers : Remembers state)
    (positive : Positive input.1) : NoHalfChange state input ↔ DisplayFollows state input := by
  have known (hit : alreadyApplied input.1 state = true) : lastChanged state ≠ none := by
    rcases remembers with ⟨_, width, _⟩ | ⟨size, changed, _⟩
    · obtain ⟨same, _⟩ := alreadyApplied_iff.mp hit
      have zero := positive.1
      rw [same, width] at zero
      exact absurd zero (by decide)
    · simp [changed]
  exact ⟨fun whole => whole.2, fun follows => ⟨known, follows⟩⟩

/-- For the calls the main loop makes, the display following the driver is all that the
promise depends on. -/
theorem noHalfChange_daemon (polls : List Poll) (inputs : List ExactInput)
    (called : inputs.map Prod.fst = (run poll {} polls).applied) :
    Along exactStep NoHalfChange {} inputs ↔ Along exactStep DisplayFollows {} inputs := by
  have positive : ∀ input ∈ inputs, Positive input.1 := fun input member =>
    applied_positive polls input.1 (called ▸ List.mem_map_of_mem member)
  have start : Remembers {} := .inl ⟨rfl, rfl, rfl⟩
  clear called
  generalize ({} : ExactState) = state at start ⊢
  induction inputs generalizing state with
  | nil => rfl
  | cons input rest ih =>
    apply and_congr (noHalfChange_positive start (positive input List.mem_cons_self))
    exact ih (fun later member => positive later (List.mem_cons_of_mem _ member)) _ (step_remembers state input start)

end QubesIdd.Resd
