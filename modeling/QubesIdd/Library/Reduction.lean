import QubesIdd.Library.Runs

/-! Operations of two steps: a thread reads a guard, and writes if the guard was up. If
whatever is done in between could as well be done behind the write, a run in which such
operations overlap with all else ends where one does in which each is a single step. -/

namespace QubesIdd.Library.Reduction
open Runs

/-- `step` is what an input does before the guard is read, if it is one that `starts` an
operation, in the thread it belongs to. -/
structure Machine (σ : Type u) (ι : Type v) (θ : Type w) where
  step : σ → ι → σ
  thread : ι → Option θ
  starts : σ → ι → Bool
  guard : σ → Bool
  write : σ → σ

/-- `pending` are the threads that have found the guard up and have not yet written. -/
structure Fine (σ : Type u) (θ : Type w) where
  state : σ
  pending : List θ := []

inductive Event (ι : Type v) (θ : Type w) where
  | input (input : ι)
  | write (thread : θ)

namespace Machine
variable {σ : Type u} {ι : Type v} {θ : Type w} [DecidableEq θ] (machine : Machine σ ι θ)

/-- The operation as one step. -/
def atomic (state : σ) (input : ι) : σ :=
  let after := machine.step state input
  if machine.starts state input && machine.guard after then machine.write after else after

/-- A thread between its two steps takes no other. -/
def blocked (fine : Fine σ θ) (input : ι) : Bool := (machine.thread input).any (· ∈ fine.pending)

/-- The operation in two steps. -/
def split (fine : Fine σ θ) : Event ι θ → Fine σ θ
  | .input input =>
    if machine.blocked fine input then fine else
    let state := machine.step fine.state input
    if machine.starts fine.state input && machine.guard state then ⟨state, fine.pending ++ (machine.thread input).toList⟩
    else ⟨state, fine.pending⟩
  | .write thread =>
    if thread ∈ fine.pending then ⟨machine.write fine.state, fine.pending.erase thread⟩ else fine

/-- The state with all writes that are still to come. -/
def completed (fine : Fine σ θ) : σ := if fine.pending.isEmpty then fine.state else machine.write fine.state

/-- The inputs that are taken, in their order. -/
def taken : Fine σ θ → List (Event ι θ) → List ι
  | _, [] => []
  | fine, .input input :: rest =>
    (if machine.blocked fine input then [] else [input]) ++ taken (machine.split fine (.input input)) rest
  | fine, .write thread :: rest => taken (machine.split fine (.write thread)) rest

theorem split_write_state (fine : Fine σ θ) (thread : θ) :
    (∀ other ∈ (machine.split fine (.write thread)).pending, other ∈ fine.pending) ∧
      ((machine.split fine (.write thread)).state = fine.state ∨
        (machine.split fine (.write thread)).state = machine.write fine.state) := by
  by_cases waiting : thread ∈ fine.pending
  · rw [split, if_pos waiting]
    exact ⟨fun other member => List.mem_of_mem_erase member, .inr rfl⟩
  · rw [split, if_neg waiting]
    exact ⟨fun other member => member, .inl rfl⟩

theorem split_input_state {fine : Fine σ θ} {input : ι} (free : machine.blocked fine input = false) :
    (machine.split fine (.input input)).state = machine.step fine.state input ∧
      ∀ thread ∈ (machine.split fine (.input input)).pending,
        thread ∈ fine.pending ∨ machine.thread input = some thread ∧ machine.starts fine.state input = true := by
  cases found : machine.starts fine.state input && machine.guard (machine.step fine.state input) with
  | false =>
    have same : machine.split fine (.input input) = ⟨machine.step fine.state input, fine.pending⟩ := by
      simp [split, free, found]
    rw [same]
    exact ⟨rfl, fun thread member => .inl member⟩
  | true =>
    have same : machine.split fine (.input input) =
        ⟨machine.step fine.state input, fine.pending ++ (machine.thread input).toList⟩ := by
      simp [split, free, found]
    rw [same]
    refine ⟨rfl, fun thread member => ?_⟩
    rcases List.mem_append.mp member with earlier | now
    · exact .inl earlier
    · exact .inr ⟨Option.mem_toList.mp now, (Bool.and_eq_true_iff.mp found).1⟩

/-- The write could be done before the input just as well. -/
structure Moves (state : σ) (input : ι) : Prop where
  step : machine.step (machine.write state) input = machine.write (machine.step state input)
  starts : machine.starts (machine.write state) input = machine.starts state input

/-- Only inputs that a write moves before are taken while one is still to come. -/
def Movable (fine : Fine σ θ) : Event ι θ → Prop
  | .input input => machine.blocked fine input = false → fine.pending ≠ [] → machine.Moves fine.state input
  | .write _ => True

structure Lawful : Prop where
  write_write : ∀ state, machine.write (machine.write state) = machine.write state
  guard_write : ∀ state, machine.guard (machine.write state) = machine.guard state
  owned : ∀ state input, machine.starts state input = true → (machine.thread input).isSome = true

section
variable {machine} (lawful : machine.Lawful)
include lawful

theorem split_input {fine : Fine σ θ} {input : ι} (free : machine.blocked fine input = false)
    (movable : machine.Movable fine (.input input)) :
    machine.completed (machine.split fine (.input input)) = machine.atomic (machine.completed fine) input := by
  obtain ⟨state, pending⟩ := fine
  cases pending with
  | nil =>
    cases found : machine.starts state input && machine.guard (machine.step state input) with
    | false => simp [split, atomic, completed, free, found]
    | true =>
      have owned := lawful.owned state input (Bool.and_eq_true_iff.mp found).1
      obtain ⟨thread, owner⟩ := Option.isSome_iff_exists.mp owned
      simp [split, atomic, completed, free, found, owner]
  | cons first rest =>
    have moves := movable free nofun
    have before : machine.completed ⟨state, first :: rest⟩ = machine.write state := rfl
    rw [before, atomic, moves.step, moves.starts, lawful.guard_write]
    cases found : machine.starts state input && machine.guard (machine.step state input) with
    | false => simp [split, completed, free, found]
    | true => simp [split, completed, free, found, lawful.write_write]

theorem split_write (fine : Fine σ θ) (thread : θ) :
    machine.completed (machine.split fine (.write thread)) = machine.completed fine := by
  by_cases waiting : thread ∈ fine.pending
  · have some_pending : fine.pending.isEmpty = false := List.isEmpty_eq_false_iff.mpr (List.ne_nil_of_mem waiting)
    rw [split, if_pos waiting, completed, completed, some_pending]
    cases (fine.pending.erase thread).isEmpty with
    | true => rfl
    | false => exact lawful.write_write fine.state
  · rw [split, if_neg waiting]

/-- The run of the parts, all writes done, is the run of the whole operations at the places
where the guard is read. -/
theorem run_completed (fine : Fine σ θ) (events : List (Event ι θ)) (movable : Along machine.split machine.Movable fine events) :
    machine.completed (run machine.split fine events) =
      run machine.atomic (machine.completed fine) (machine.taken fine events) := by
  induction events generalizing fine with
  | nil => rfl
  | cons event rest ih =>
    obtain ⟨now, later⟩ := movable
    rw [run_cons, ih _ later]
    cases event with
    | write thread => rw [taken, split_write lawful]
    | input input =>
      cases free : machine.blocked fine input with
      | true => rw [taken, free, split, free, if_pos rfl, if_pos rfl, List.nil_append]
      | false => rw [taken, free, split_input lawful free now, if_neg nofun, List.singleton_append, run_cons]

end
end Machine
end QubesIdd.Library.Reduction
