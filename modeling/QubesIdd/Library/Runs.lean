import Mathlib.Data.List.Induction

/-! Runs of a deterministic machine over a list of inputs: properties of every state
on the way, conditions on every step, and how an invariant relates the two. -/

namespace QubesIdd.Library.Runs

variable {σ : Type u} {ι : Type v} {ε : Type w} (step : σ → ι → σ)

def run (state : σ) (inputs : List ι) : σ := inputs.foldl step state

/-- The property holds in the first state and in every state the run reaches. -/
def Always (property : σ → Prop) : σ → List ι → Prop
  | state, [] => property state
  | state, input :: rest => property state ∧ Always property (step state input) rest

/-- Every input meets the condition in the state it is taken from. -/
def Along (condition : σ → ι → Prop) : σ → List ι → Prop
  | _, [] => True
  | state, input :: rest => condition state input ∧ Along condition (step state input) rest

instance decidableAlong {condition : σ → ι → Prop} [∀ state input, Decidable (condition state input)] :
    (state : σ) → (inputs : List ι) → Decidable (Along step condition state inputs)
  | _, [] => isTrue trivial
  | state, input :: rest =>
    have : Decidable (Along step condition (step state input) rest) := decidableAlong (step state input) rest
    inferInstanceAs (Decidable (condition state input ∧ Along step condition (step state input) rest))

@[simp] theorem run_nil (state : σ) : run step state [] = state := rfl

@[simp] theorem run_cons (state : σ) (input : ι) (rest : List ι) :
    run step state (input :: rest) = run step (step state input) rest := rfl

variable {step}

theorem run_preserves (property : σ → Prop) (kept : ∀ state input, property state → property (step state input))
    (state : σ) (inputs : List ι) (start : property state) : property (run step state inputs) := by
  induction inputs generalizing state with
  | nil => exact start
  | cons input rest ih => exact ih _ (kept state input start)

theorem always_iff_runs {property : σ → Prop} (state : σ) (inputs : List ι) :
    Always step property state inputs ↔ ∀ done, done <+: inputs → property (run step state done) := by
  induction inputs generalizing state with
  | nil => simp [Always]
  | cons input rest ih =>
    simp only [Always, ih, List.prefix_cons_iff]
    constructor
    · rintro ⟨start, later⟩ done (rfl | ⟨behind, rfl, inside⟩)
      · exact start
      · exact later behind inside
    · intro every
      exact ⟨every [] (.inl rfl), fun behind inside => every (input :: behind) (.inr ⟨behind, rfl, inside⟩)⟩

/-- An invariant that implies the property and survives exactly the steps meeting
the condition: such runs are the ones along which the property always holds. The
assumption is what the environment promises about every step. -/
theorem always_iff_along {assumption condition : σ → ι → Prop} {invariant property : σ → Prop}
    (implies : ∀ state, invariant state → property state)
    (kept : ∀ state input, invariant state → assumption state input → condition state input →
      invariant (step state input))
    (needed : ∀ state input, invariant state → assumption state input → property (step state input) →
      condition state input)
    (state : σ) (inputs : List ι) (start : invariant state) (promised : Along step assumption state inputs) :
    Always step property state inputs ↔ Along step condition state inputs := by
  induction inputs generalizing state with
  | nil => simpa [Always, Along] using implies state start
  | cons input rest ih =>
    obtain ⟨now, later⟩ := promised
    simp only [Always, Along]
    constructor
    · rintro ⟨_, every⟩
      have next : property (step state input) := by
        cases rest with
        | nil => exact every
        | cons => exact every.1
      have meets := needed state input start now next
      exact ⟨meets, (ih _ (kept state input start now meets) later).mp every⟩
    · rintro ⟨meets, every⟩
      exact ⟨implies state start, (ih _ (kept state input start now meets) later).mpr every⟩

/-- An invariant that survives the steps meeting the condition. -/
theorem always_of_along {condition : σ → ι → Prop} {invariant property : σ → Prop}
    (implies : ∀ state, invariant state → property state)
    (kept : ∀ state input, invariant state → condition state input → invariant (step state input))
    (state : σ) (inputs : List ι) (start : invariant state) (meets : Along step condition state inputs) :
    Always step property state inputs := by
  induction inputs generalizing state with
  | nil => exact implies state start
  | cons input rest ih => exact ⟨implies state start, ih _ (kept state input start meets.1) meets.2⟩

theorem run_append (state : σ) (first last : List ι) : run step state (first ++ last) = run step (run step state first) last :=
  List.foldl_append

theorem along_append {condition : σ → ι → Prop} (state : σ) (first last : List ι) :
    Along step condition state (first ++ last) ↔
      Along step condition state first ∧ Along step condition (run step state first) last := by
  induction first generalizing state with
  | nil => simp [Along]
  | cons input rest ih => simp only [List.cons_append, Along, ih, run_cons, and_assoc]

/-- The inputs of a run as another machine sees them, each in the state it is taken
from. -/
def seen (step : σ → ι → σ) (view : σ → ι → ε) : σ → List ι → List ε
  | _, [] => []
  | state, input :: rest => view state input :: seen step view (step state input) rest

theorem run_simulates {τ : Type x} {stepAbstract : τ → ε → τ} {view : σ → ι → ε} (abstraction : σ → τ)
    (same : ∀ state input, abstraction (step state input) = stepAbstract (abstraction state) (view state input))
    (state : σ) (inputs : List ι) :
    abstraction (run step state inputs) = run stepAbstract (abstraction state) (seen step view state inputs) := by
  induction inputs generalizing state with
  | nil => rfl
  | cons input rest ih => rw [run_cons, ih, same, seen, run_cons]

/-- A part of the state that each step moves by some steps of another machine. -/
theorem run_projects {τ : Type x} {stepPart : τ → ε → τ} (part : σ → τ)
    (one : ∀ state input, ∃ events, part (step state input) = run stepPart (part state) events)
    (state : σ) (inputs : List ι) : ∃ events, part (run step state inputs) = run stepPart (part state) events := by
  induction inputs generalizing state with
  | nil => exact ⟨[], rfl⟩
  | cons input rest ih =>
    obtain ⟨first, moved⟩ := one state input
    obtain ⟨last, after⟩ := ih (step state input)
    refine ⟨first ++ last, ?_⟩
    rw [run_cons, after, moved, run_append]

theorem seen_take (view : σ → ι → ε) (state : σ) (inputs : List ι) (count : Nat) :
    seen step view state (inputs.take count) = (seen step view state inputs).take count := by
  induction inputs generalizing state count with
  | nil => simp [seen]
  | cons input rest ih =>
    cases count with
    | zero => rfl
    | succ count => rw [List.take_succ_cons, seen, seen, List.take_succ_cons, ih]

theorem seen_map (view : ι → ε) (state : σ) (inputs : List ι) :
    seen step (fun _ input => view input) state inputs = inputs.map view := by
  induction inputs generalizing state with
  | nil => rfl
  | cons input rest ih => rw [seen, ih, List.map_cons]

theorem mem_seen {view : σ → ι → ε} {state : σ} {inputs : List ι} {event : ε}
    (member : event ∈ seen step view state inputs) : ∃ reached input, input ∈ inputs ∧ event = view reached input := by
  induction inputs generalizing state with
  | nil => cases member
  | cons input rest ih =>
    rcases List.mem_cons.mp member with rfl | later
    · exact ⟨state, input, List.mem_cons_self, rfl⟩
    · obtain ⟨reached, other, inside, same⟩ := ih later
      exact ⟨reached, other, List.mem_cons_of_mem _ inside, same⟩

theorem always_congr {invariant first second : σ → Prop} (kept : ∀ state input, invariant state → invariant (step state input))
    (same : ∀ state, invariant state → (first state ↔ second state)) (state : σ) (inputs : List ι)
    (start : invariant state) : Always step first state inputs ↔ Always step second state inputs := by
  induction inputs generalizing state with
  | nil => exact same state start
  | cons input rest ih => exact and_congr (same state start) (ih _ (kept state input start))

theorem along_true (state : σ) (inputs : List ι) : Along step (fun _ _ => True) state inputs := by
  induction inputs generalizing state with
  | nil => trivial
  | cons input rest ih => exact ⟨trivial, ih _⟩

/-- Two conditions that agree wherever an invariant holds, which the second keeps. The
assumption is what the environment promises about every step. -/
theorem along_congr_promised (invariant : σ → Prop) {assumption first second : σ → ι → Prop}
    (kept : ∀ state input, invariant state → assumption state input → second state input → invariant (step state input))
    (same : ∀ state input, invariant state → assumption state input → (first state input ↔ second state input))
    (state : σ) (inputs : List ι) (start : invariant state) (promised : Along step assumption state inputs) :
    Along step first state inputs ↔ Along step second state inputs := by
  induction inputs generalizing state with
  | nil => rfl
  | cons input rest ih =>
    obtain ⟨now, later⟩ := promised
    simp only [Along, same state input start now]
    exact and_congr_right fun meets => ih _ (kept state input start now meets) later

theorem along_congr (invariant : σ → Prop) {first second : σ → ι → Prop}
    (kept : ∀ state input, invariant state → second state input → invariant (step state input))
    (same : ∀ state input, invariant state → (first state input ↔ second state input)) (state : σ) (inputs : List ι)
    (start : invariant state) : Along step first state inputs ↔ Along step second state inputs :=
  along_congr_promised invariant (fun state input holds _ => kept state input holds) (fun state input holds _ => same state input holds)
    state inputs start (along_true state inputs)

/-- A counter that moves exactly at certain steps has moved over a run exactly if
one of these steps is in it. -/
theorem counter_moved {counter : σ → Nat} {counts : σ → ι → Bool}
    (moves : ∀ state input, counter (step state input) = counter state + if counts state input then 1 else 0)
    (state : σ) (inputs : List ι) :
    counter state < counter (run step state inputs) ↔
      ∃ before input after, inputs = before ++ input :: after ∧ counts (run step state before) input = true := by
  induction inputs generalizing state with
  | nil => simp
  | cons input rest ih =>
    rw [run_cons]
    cases here : counts state input with
    | true =>
      have moved := moves state input
      rw [here, if_pos rfl] at moved
      have monotone : counter (step state input) ≤ counter (run step (step state input) rest) :=
        run_preserves (counter (step state input) ≤ counter ·)
          (fun later input within => by rw [moves later input]; omega) _ rest (Nat.le_refl _)
      exact ⟨fun _ => ⟨[], input, rest, rfl, here⟩, fun _ => by omega⟩
    | false =>
      have same : counter (step state input) = counter state := by simp [moves, here]
      rw [← same]
      refine (ih _).trans ?_
      constructor
      · rintro ⟨before, first, after, rfl, found⟩
        exact ⟨input :: before, first, after, rfl, found⟩
      · rintro ⟨before, first, after, split, found⟩
        cases before with
        | nil =>
          obtain ⟨rfl, rfl⟩ := List.cons.inj split
          exact absurd found (by simp [here])
        | cons head before =>
          obtain ⟨rfl, rfl⟩ := List.cons.inj split
          exact ⟨before, first, after, rfl, found⟩

/-- A flag that some steps raise and some inputs lower is up exactly if it has been
raised and not lowered since. -/
theorem flag_raised {flag : σ → Bool} {raises : σ → ι → Bool} {lowers : ι → Bool}
    (moves : ∀ state input, flag (step state input) = (!lowers input && (raises state input || flag state)))
    (state : σ) (inputs : List ι) (down : flag state = false) :
    flag (run step state inputs) = true ↔
      ∃ before input after, inputs = before ++ input :: after ∧ raises (run step state before) input = true ∧
        lowers input = false ∧ ∀ later ∈ after, lowers later = false := by
  induction inputs using List.reverseRecOn with
  | nil => simp [down]
  | append_singleton earlier input ih =>
    rw [run_append, run_cons, run_nil, moves, Bool.and_eq_true, Bool.or_eq_true, ih]
    constructor
    · rintro ⟨stays, raised | ⟨before, first, after, rfl, raised, up, kept⟩⟩
      · exact ⟨earlier, input, [], rfl, raised, by simpa using stays, nofun⟩
      · refine ⟨before, first, after ++ [input], by simp, raised, up, ?_⟩
        intro later member
        rcases List.mem_append.mp member with inside | last
        · exact kept later inside
        · rw [List.mem_singleton.mp last]
          simpa using stays
    · rintro ⟨before, first, after, split, raised, up, kept⟩
      rcases List.eq_nil_or_concat after with rfl | ⟨inside, last, rfl⟩
      · obtain ⟨rfl, same⟩ := List.append_inj' split rfl
        obtain rfl : input = first := by simpa using same
        exact ⟨by simp [up], .inl raised⟩
      · have shape : earlier ++ [input] = (before ++ first :: inside) ++ [last] := by
          rw [split]
          simp
        obtain ⟨rfl, same⟩ := List.append_inj' shape rfl
        obtain rfl : input = last := by simpa using same
        refine ⟨by simp [kept input (by simp)], .inr ⟨before, first, inside, rfl, raised, up, ?_⟩⟩
        intro later member
        exact kept later (by simp [member])

end QubesIdd.Library.Runs
