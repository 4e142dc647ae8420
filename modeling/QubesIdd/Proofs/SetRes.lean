import QubesIdd.Proofs.ExactMode
import QubesIdd.SetRes

/-! `SetExact` on a display that others use as well: it answers as if it were alone, so its
answer is wrong where the display has been moved off the size it remembers. -/

namespace QubesIdd.Resd
open Library.Runs

/-- The modes `qb-resd` itself has set, as its log tells. -/
def ownMode : ExactCall → Option Size
  | .logApplied size _ result => if result = DISP_CHANGE_SUCCESSFUL then some size else none
  | _ => none

def lastOwn (state : ExactState) : Option Size := (state.calls.filterMap ownMode).getLast?

def DisplayEvent.own : DisplayEvent → Option ExactInput
  | .qbResd size answers => some (size, answers)
  | .setRes .. | .other _ => none

/-- The remembered size is the one `qb-resd` has set last, whatever others have done. -/
def Recalls (state : ExactState) : Prop :=
  (lastOwn state = none ∧ state.lastW = 0 ∧ state.lastH = 0) ∨
  ∃ size, lastOwn state = some size ∧ state.lastW = size.1.toInt32 ∧ state.lastH = size.2.toInt32

theorem lastOwn_log (calls : List ExactCall) (state : ExactState) :
    lastOwn (state.log calls) = ((calls.filterMap ownMode).getLast?).or (lastOwn state) := by
  simp [lastOwn, ExactState.log, List.getLast?_append]

theorem changeMode_cache {one other : ExactState} (width : one.lastW = other.lastW) (height : one.lastH = other.lastH)
    (size : Size) (answers : ExactAnswers) :
    (changeMode size answers one).1 = (changeMode size answers other).1 ∧
    (changeMode size answers one).2.lastW = (changeMode size answers other).2.lastW ∧
    (changeMode size answers one).2.lastH = (changeMode size answers other).2.lastH := by
  by_cases successful : answers.changeDisplaySettings = DISP_CHANGE_SUCCESSFUL
  · simp only [changeMode, if_pos successful]
    exact ⟨trivial, trivial, trivial⟩
  · simp only [changeMode, if_neg successful]
    exact ⟨trivial, width, height⟩

/-- What a call answers and remembers depends on what is remembered and on nothing else. -/
theorem setExact_cache {one other : ExactState} (width : one.lastW = other.lastW) (height : one.lastH = other.lastH)
    (size : Size) (answers : ExactAnswers) :
    (setExact size answers one).1 = (setExact size answers other).1 ∧
    (setExact size answers one).2.lastW = (setExact size answers other).2.lastW ∧
    (setExact size answers one).2.lastH = (setExact size answers other).2.lastH := by
  have same : alreadyApplied size one = alreadyApplied size other := by simp [alreadyApplied, width, height]
  unfold setExact
  rw [same]
  split
  · exact ⟨rfl, width, height⟩
  · split
    · exact ⟨rfl, width, height⟩
    · split
      · exact ⟨rfl, width, height⟩
      · dsimp only
        split
        · exact ⟨rfl, width, height⟩
        · exact changeMode_cache (by exact width) (by exact height) size answers

/-- What others do does not reach `qb-resd`. -/
theorem run_alone {shared alone : ExactState} (width : shared.lastW = alone.lastW) (height : shared.lastH = alone.lastH)
    (events : List DisplayEvent) :
    (run displayStep shared events).lastW = (run exactStep alone (events.filterMap DisplayEvent.own)).lastW ∧
    (run displayStep shared events).lastH = (run exactStep alone (events.filterMap DisplayEvent.own)).lastH := by
  induction events generalizing shared alone with
  | nil => exact ⟨width, height⟩
  | cons event rest ih =>
    cases event with
    | qbResd size answers =>
      obtain ⟨_, nextWidth, nextHeight⟩ := setExact_cache width height size answers
      exact ih nextWidth nextHeight
    | setRes arguments entryPoints answers => exact ih width height
    | other size => exact ih width height

theorem setRes_own (arguments : Option Size) (entryPoints : Bool) (answers : ExactAnswers) :
    (setRes arguments entryPoints answers).calls.filterMap ownMode = [] := by
  unfold setRes
  split
  · rfl
  · split
    · rfl
    · split
      · rfl
      · split
        · rfl
        · rfl

theorem changeMode_own (size : Size) (answers : ExactAnswers) (state : ExactState) :
    lastOwn (changeMode size answers state).2 =
      if answers.changeDisplaySettings = DISP_CHANGE_SUCCESSFUL then some size else lastOwn state := by
  by_cases successful : answers.changeDisplaySettings = DISP_CHANGE_SUCCESSFUL
  · simp only [changeMode, if_pos successful]
    refine (lastOwn_log _ state).trans ?_
    simp [ownMode, successful]
  · simp only [changeMode, if_neg successful]
    refine (lastOwn_log _ state).trans ?_
    simp [ownMode, successful]

/-- A call that does not take the shortcut sets the mode and remembers it, or leaves both. -/
theorem setExact_owns {size : Size} {answers : ExactAnswers} {state : ExactState} (fresh : alreadyApplied size state = false) :
    ((setExact size answers state).1 = true ∧ lastOwn (setExact size answers state).2 = some size) ∨
    ((setExact size answers state).1 = false ∧ lastOwn (setExact size answers state).2 = lastOwn state) := by
  unfold setExact
  rw [fresh]
  simp only [Bool.false_eq_true, if_false]
  split
  · exact .inr ⟨rfl, rfl⟩
  · split
    · exact .inr ⟨rfl, rfl⟩
    · split
      · exact .inr ⟨rfl, lastOwn_log _ state⟩
      · obtain ⟨_, outcome⟩ := changeMode_spec size answers (state.log _)
        rw [changeMode_own, lastOwn_log]
        split at outcome
        next successful => exact .inl ⟨outcome.1, if_pos successful⟩
        next refused => exact .inr ⟨outcome.1, if_neg refused⟩

theorem step_recalls (state : ExactState) (event : DisplayEvent) (recalls : Recalls state) : Recalls (displayStep state event) := by
  cases event with
  | qbResd size answers =>
    cases fresh : alreadyApplied size state with
    | true => simpa [displayStep, setExact, fresh] using recalls
    | false =>
      cases escaped : escapes answers with
      | false =>
        obtain ⟨failed, _, _, width, height⟩ := setExact_refused fresh escaped
        rcases @setExact_owns size answers state fresh with ⟨succeeded, _⟩ | ⟨_, own⟩
        · cases succeeded.symm.trans failed
        · simp only [Recalls, displayStep, own, width, height]
          exact recalls
      | true =>
        obtain ⟨told, _, _, width, height, same⟩ := setExact_escaped fresh escaped
        obtain ⟨_, outcome⟩ := changeMode_spec size answers told
        have owns := @setExact_owns size answers state fresh
        rw [same] at owns
        simp only [Recalls, displayStep, same]
        split at outcome
        · obtain ⟨succeeded, _, remembered⟩ := outcome
          rcases owns with ⟨_, own⟩ | ⟨failed, _⟩
          · exact .inr ⟨size, own, remembered⟩
          · cases succeeded.symm.trans failed
        · obtain ⟨failed, _, sameWidth, sameHeight⟩ := outcome
          rcases owns with ⟨succeeded, _⟩ | ⟨_, own⟩
          · cases succeeded.symm.trans failed
          · simp only [own, sameWidth, sameHeight, width, height]
            exact recalls
  | setRes arguments entryPoints answers =>
    have own := lastOwn_log (setRes arguments entryPoints answers).calls state
    rw [setRes_own] at own
    simp only [Recalls, displayStep, own]
    exact recalls
  | other size =>
    have own := lastOwn_log [.changeDisplaySettings size DISP_CHANGE_SUCCESSFUL] state
    simp only [Recalls, displayStep, own]
    exact recalls

/-- The shortcut is taken for the size `qb-resd` has set last and for no other. -/
theorem Recalls.applied {state : ExactState} (recalls : Recalls state) {size : Size} (positive : Positive size) :
    alreadyApplied size state = true ↔ lastOwn state = some size := by
  rw [alreadyApplied_iff]
  rcases recalls with ⟨never, width, _⟩ | ⟨last, own, width, height⟩
  · rw [never, width]
    constructor
    · rintro ⟨zero, _⟩
      exact absurd positive.1 (by rw [zero]; decide)
    · intro set
      cases set
  · rw [own, width, height, Option.some.injEq]
    constructor
    · rintro ⟨sameWidth, sameHeight⟩
      exact Prod.ext (congrArg Int32.toUInt32 sameWidth.symm) (congrArg Int32.toUInt32 sameHeight.symm)
    · rintro rfl
      exact ⟨rfl, rfl⟩

/-- Whatever others do to the display, `SetExact` answers as if it were alone. Where it answers
true, the display has the size unless `qb-resd` has set that size last and the display has been
moved since, and the driver the same. -/
theorem setExact_shared (events : List DisplayEvent) (size : Size) (answers : ExactAnswers) :
    let shared := run displayStep {} events
    let alone := run exactStep {} (events.filterMap DisplayEvent.own)
    let after := (setExact size answers shared).2
    (setExact size answers shared).1 = (setExact size answers alone).1 ∧
    (Positive size → (setExact size answers alone).1 = true →
      (lastChanged after = some size ↔ ¬ (lastOwn shared = some size ∧ lastChanged shared ≠ some size)) ∧
      (lastAccepted after = some size ↔ ¬ (lastOwn shared = some size ∧ lastAccepted shared ≠ some size))) := by
  intro shared alone after
  obtain ⟨width, height⟩ := @run_alone {} {} rfl rfl events
  obtain ⟨answered, _⟩ := setExact_cache width height size answers
  refine ⟨answered, fun positive succeeded => ?_⟩
  have recalls : Recalls shared := run_preserves Recalls step_recalls {} events (.inl ⟨rfl, rfl, rfl⟩)
  have own := recalls.applied positive
  rw [← answered] at succeeded
  cases applied : alreadyApplied size shared with
  | true =>
    have unmoved : after = shared := by simp [after, setExact, applied]
    simp [unmoved, own.mp applied]
  | false =>
    have elsewhere : lastOwn shared ≠ some size := fun set => by simp [own.mpr set] at applied
    cases escaped : escapes answers with
    | false =>
      obtain ⟨failed, _⟩ := setExact_refused applied escaped
      cases failed.symm.trans succeeded
    | true =>
      obtain ⟨told, accepted, _, _, _, same⟩ := setExact_escaped applied escaped
      obtain ⟨kept, outcome⟩ := changeMode_spec size answers told
      have moved : after = (changeMode size answers told).2 := congrArg Prod.snd same
      split at outcome
      · simp [moved, elsewhere, outcome.2.1, kept, accepted]
      · cases outcome.1.symm.trans ((congrArg Prod.fst same).symm.trans succeeded)

/-- `set-res` moves the display, and the size that is asked for again is taken as applied. -/
theorem setExact_shared_moved :
    let shared := run displayStep {} [.qbResd (800, 600) {}, .setRes (some (1024, 768)) true {}]
    (setExact (800, 600) {} shared).1 = true ∧ ¬ lastChanged (setExact (800, 600) {} shared).2 = some (800, 600) := by
  intro shared
  obtain ⟨answered, stands⟩ :=
    setExact_shared [.qbResd (800, 600) {}, .setRes (some (1024, 768)) true {}] (800, 600) {}
  have succeeded := answered.trans (show _ = true by decide)
  refine ⟨succeeded, fun there => ?_⟩
  exact (stands ⟨by decide, by decide⟩ (answered.symm.trans succeeded)).1.mp there (by decide)

end QubesIdd.Resd
