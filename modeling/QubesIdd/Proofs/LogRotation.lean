import QubesIdd.Library.Runs
import QubesIdd.LogRotation

/-! The log files over the lifetimes of many processes. Whatever is refused, each file holds
what one process has logged and nothing else, newer ones before older ones; and a few starts
at which nothing is refused bring the last of them all back. -/

namespace QubesIdd.CDebug
open Library Library.Runs Library.Rotation

/-- The files, and what every process with a log has logged, the newest first. -/
structure Logged where
  store : LogStore := {}
  sessions : List Text := []

namespace Logged

def step (logged : Logged) (input : LogInput) : Logged :=
  let store := logged.store.step input
  match input with
  | .init _ => { store, sessions := if store.isOpen then [] :: logged.sessions else logged.sessions }
  | .write allocated line =>
    let line := if allocated then line else "Out of memory while logging\n"
    { store, sessions := if logged.store.isOpen then logged.sessions.modifyHead (· ++ [line]) else logged.sessions }

/-- What is in the log and its backups, in this order. -/
def kept (store : LogStore) : List Text := contents (BACKUPS + 1) store.files

def backups (store : LogStore) : List Text := contents BACKUPS fun number => store.files (number + 1)

theorem kept_cons (store : LogStore) : kept store = (store.files 0).toList ++ backups store := contents_cons BACKUPS store.files

/-- The files are some of the sessions in their order; an open log is the newest. -/
structure Ordered (logged : Logged) : Prop where
  sublist : (kept logged.store).Sublist logged.sessions
  newest : logged.store.isOpen = true → ∃ text older, logged.sessions = text :: older ∧
    logged.store.files 0 = some text ∧ (backups logged.store).Sublist older

/-- The files once they have been rotated, before the log is opened. -/
def rotated (answers : InitAnswers) (store : LogStore) : Nat → Option Text :=
  shift answers.moveFile BACKUPS (if answers.deleteFile then Function.update store.files BACKUPS none else store.files)

theorem init_cases (answers : InitAnswers) (store : LogStore) :
    (answers.isDebuggerPresent = true ∧ init answers store = { store with isOpen := false }) ∨
      (answers.isDebuggerPresent = false ∧ answers.opened = false ∧ init answers store = ⟨rotated answers store, false⟩) ∨
      (answers.isDebuggerPresent = false ∧ answers.opened = true ∧
        init answers store = ⟨Function.update (rotated answers store) 0 (some []), true⟩) := by
  unfold init
  cases answers.isDebuggerPresent with
  | true => exact .inl ⟨rfl, rfl⟩
  | false =>
    cases answers.opened with
    | false => exact .inr (.inl ⟨rfl, rfl, rfl⟩)
    | true => exact .inr (.inr ⟨rfl, rfl, rfl⟩)

/-- Rotating loses the last backup at most. -/
theorem rotated_contents (answers : InitAnswers) (store : LogStore) :
    contents (BACKUPS + 1) (rotated answers store) = kept store ∨
      contents (BACKUPS + 1) (rotated answers store) = contents BACKUPS store.files := by
  rw [rotated, shift_contents _ _ (Nat.lt_succ_self BACKUPS)]
  split
  · right
    have before : contents BACKUPS (Function.update store.files BACKUPS none) = contents BACKUPS store.files :=
      contents_congr fun number below => Function.update_of_ne (Nat.ne_of_lt below) ..
    rw [contents_succ, before, Function.update_self, Option.toList_none, List.append_nil]
  · exact .inl rfl

theorem rotated_sublist (answers : InitAnswers) (store : LogStore) :
    (contents (BACKUPS + 1) (rotated answers store)).Sublist (kept store) := by
  rcases rotated_contents answers store with same | shorter
  · rw [same]
  · rw [shorter, kept, contents_succ]
    exact List.sublist_append_left _ _

theorem kept_first (files : Nat → Option Text) (text : Text) (isOpen : Bool) :
    backups ⟨Function.update files 0 (some text), isOpen⟩ = backups ⟨files, isOpen⟩ ∧
      kept ⟨Function.update files 0 (some text), isOpen⟩ = text :: backups ⟨files, isOpen⟩ := by
  have behind : backups ⟨Function.update files 0 (some text), isOpen⟩ = backups ⟨files, isOpen⟩ :=
    contents_congr fun number _ => by simp
  refine ⟨behind, ?_⟩
  rw [kept_cons, behind]
  simp

theorem step_init (logged : Logged) (answers : InitAnswers) :
    logged.step (.init answers) =
      ⟨init answers logged.store, if (init answers logged.store).isOpen then [] :: logged.sessions else logged.sessions⟩ := rfl

theorem init_ordered {logged : Logged} (ordered : Ordered logged) (answers : InitAnswers) :
    Ordered (logged.step (.init answers)) := by
  have rotation := (rotated_sublist answers logged.store).trans ordered.sublist
  rw [step_init]
  rcases init_cases answers logged.store with ⟨_, same⟩ | ⟨_, _, same⟩ | ⟨_, _, same⟩
  · rw [same]
    exact ⟨ordered.sublist, nofun⟩
  · rw [same]
    exact ⟨rotation, nofun⟩
  · have older : (backups ⟨rotated answers logged.store, true⟩).Sublist logged.sessions := by
      apply List.Sublist.trans _ rotation
      change List.Sublist _ (kept ⟨rotated answers logged.store, true⟩)
      rw [kept_cons]
      exact List.sublist_append_right _ _
    obtain ⟨behind, whole⟩ := kept_first (rotated answers logged.store) [] true
    rw [same]
    refine ⟨?_, fun _ => ⟨[], logged.sessions, rfl, by simp, behind ▸ older⟩⟩
    rw [whole]
    exact older.cons_cons []

/-- A line goes to the end of an open log. -/
theorem write_cases (logged : Logged) (allocated : Bool) (line : String) :
    (logged.store.isOpen = false ∧ logged.step (.write allocated line) = logged) ∨
      (logged.store.isOpen = true ∧ ∃ written, logged.step (.write allocated line) =
        ⟨⟨Function.update logged.store.files 0 ((logged.store.files 0).map (· ++ [written])), true⟩,
          logged.sessions.modifyHead (· ++ [written])⟩) := by
  obtain ⟨⟨files, isOpen⟩, sessions⟩ := logged
  cases isOpen with
  | false => exact .inl ⟨rfl, rfl⟩
  | true => exact .inr ⟨rfl, _, rfl⟩

theorem write_ordered {logged : Logged} (ordered : Ordered logged) (allocated : Bool) (line : String) :
    Ordered (logged.step (.write allocated line)) := by
  rcases write_cases logged allocated line with ⟨_, same⟩ | ⟨opened, written, same⟩
  · exact same.symm ▸ ordered
  · obtain ⟨text, older, sessions, first, behind⟩ := ordered.newest opened
    obtain ⟨untouched, whole⟩ := kept_first logged.store.files (text ++ [written]) true
    rw [same, sessions, first, Option.map_some]
    refine ⟨?_, fun _ => ⟨text ++ [written], older, rfl, by simp, untouched ▸ behind⟩⟩
    rw [whole]
    exact behind.cons_cons (text ++ [written])

theorem step_ordered (logged : Logged) (input : LogInput) (ordered : Ordered logged) : Ordered (logged.step input) := by
  cases input with
  | init answers => exact init_ordered ordered answers
  | write allocated line => exact write_ordered ordered allocated line

/-- Nothing is refused, and the log is not left to a debugger. -/
def Granted : LogInput → Prop
  | .init answers => answers.isDebuggerPresent = false ∧ answers.deleteFile = true ∧
      (∀ number < BACKUPS, answers.moveFile number = true) ∧ answers.opened = true
  | .write _ _ => True

instance : (input : LogInput) → Decidable (Granted input)
  | .init _ => inferInstanceAs (Decidable (_ ∧ _ ∧ _ ∧ _))
  | .write _ _ => inferInstanceAs (Decidable True)

def starts : LogInput → Bool
  | .init _ => true
  | .write _ _ => false

/-- The last sessions are where they belong, as far as this many starts back. -/
def Recent (count : Nat) (logged : Logged) : Prop :=
  ∀ number < count, number ≤ BACKUPS → logged.store.files number = logged.sessions[number]?

theorem step_recent {logged : Logged} {count : Nat} (recent : Recent count logged) {input : LogInput} (granted : Granted input) :
    Recent (if starts input then count + 1 else count) (logged.step input) := by
  cases input with
  | init answers =>
    obtain ⟨attached, deleted, moved, opened⟩ := granted
    obtain ⟨debugged, _⟩ | ⟨_, closed, _⟩ | ⟨_, _, same⟩ := init_cases answers logged.store
    · exact nomatch attached.symm.trans debugged
    · exact nomatch opened.symm.trans closed
    · rw [step_init, same]
      intro number before inside
      cases number with
      | zero => simp
      | succ number =>
        have free : Function.update logged.store.files BACKUPS none BACKUPS = none := Function.update_self ..
        have earlier : rotated answers logged.store (number + 1) = logged.store.files number := by
          rw [rotated, deleted, if_pos rfl, shift_granted moved free inside]
          exact Function.update_of_ne (Nat.ne_of_lt inside) ..
        have here := recent number (Nat.lt_of_succ_lt_succ before) (Nat.le_of_lt inside)
        simpa using earlier.trans here
  | write allocated line =>
    rcases write_cases logged allocated line with ⟨_, same⟩ | ⟨_, written, same⟩
    · exact same.symm ▸ recent
    · rw [same]
      intro number before inside
      have here := recent number before inside
      cases number with
      | zero =>
        change Function.update logged.store.files 0 _ 0 = _
        rw [Function.update_self, here]
        cases logged.sessions <;> rfl
      | succ number =>
        simp only [ne_eq, Nat.succ_ne_zero, not_false_eq_true, Function.update_of_ne, here]
        cases logged.sessions <;> rfl

theorem run_recent {logged : Logged} {count : Nat} (recent : Recent count logged) (inputs : List LogInput)
    (granted : ∀ input ∈ inputs, Granted input) : Recent (count + inputs.countP starts) (run step logged inputs) := by
  induction inputs generalizing logged count with
  | nil => exact recent
  | cons input rest ih =>
    have now := step_recent recent (granted input List.mem_cons_self)
    have later := ih now fun other member => granted other (List.mem_cons_of_mem _ member)
    rw [List.countP_cons]
    cases starting : starts input with
    | true => simpa [starting, Nat.add_assoc, Nat.add_comm 1] using later
    | false => simpa [starting] using later

/-- A start loses the log itself or the last backup, none in between. -/
theorem init_backups (answers : InitAnswers) (store : LogStore) {number : Nat} (inside : number + 1 < BACKUPS) {text : Text}
    (held : store.files (number + 1) = some text) : text ∈ kept (init answers store) := by
  have moved : text ∈ backups ⟨rotated answers store, true⟩ := by
    apply (shift_behind answers.moveFile _ (Nat.le_refl BACKUPS)).subset
    apply mem_contents (Nat.lt_of_succ_lt inside)
    split
    · rwa [Function.update_of_ne (Nat.ne_of_lt inside)]
    · exact held
  rcases init_cases answers store with ⟨_, same⟩ | ⟨_, _, same⟩ | ⟨_, _, same⟩
  · rw [same]
    exact mem_contents (Nat.lt_succ_of_lt inside) held
  · rw [same, kept_cons]
    exact List.mem_append_right _ moved
  · rw [same, (kept_first _ _ _).2]
    exact List.mem_cons_of_mem _ moved

/-- Whatever is refused at any start, the log and its backups are what some of the processes
have logged, whole and the newest first; a start never loses a backup but the last. After as
many starts as there are files at which nothing is refused, they are what the last processes
have logged, whatever came before. -/
theorem rotation_keeps (inputs : List LogInput) :
    let logged := run step {} inputs
    (kept logged.store).Sublist logged.sessions ∧
      (∀ (answers : InitAnswers) (number : Nat) (text : Text), number + 1 < BACKUPS →
        logged.store.files (number + 1) = some text → text ∈ kept (init answers logged.store)) ∧
      ∀ earlier later, inputs = earlier ++ later → (∀ input ∈ later, Granted input) → BACKUPS < later.countP starts →
        kept logged.store = logged.sessions.take (BACKUPS + 1) := by
  intro logged
  refine ⟨?_, fun answers number text inside held => init_backups answers _ inside held, ?_⟩
  · exact (run_preserves Ordered step_ordered {} inputs ⟨List.Sublist.refl _, nofun⟩).sublist
  · intro earlier later split granted enough
    have recent : Recent (0 + later.countP starts) (run step (run step {} earlier) later) :=
      run_recent (fun number before => absurd before (Nat.not_lt_zero number)) later granted
    rw [← run_append, ← split] at recent
    have found (number : Nat) (below : number < BACKUPS + 1) : logged.store.files number = logged.sessions[number]? :=
      recent number (by omega) (Nat.le_of_lt_succ below)
    rw [kept, contents_congr found, contents_list]

private def session (line : String) (answers : InitAnswers) : List LogInput := [.init answers, .write true line]

/-- A log that stays in its place is begun anew; five more sessions follow. -/
private def troubled : List LogInput := session "1" {} ++ session "2" { moveFile := fun _ => false }

private def untroubled : List LogInput := ["3", "4", "5", "6", "7"].flatMap (session · {})

theorem rotation_keeps_untroubled : kept (run step {} (troubled ++ untroubled)).store = [["7"], ["6"], ["5"], ["4"], ["3"]] := by
  have last := (rotation_keeps (troubled ++ untroubled)).2.2 troubled untroubled rfl (by decide) (by decide)
  exact last.trans (by decide)

end Logged
end QubesIdd.CDebug
