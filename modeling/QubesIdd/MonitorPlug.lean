import QubesIdd.IddCx

/-! Hot-plugging one monitor, without modes, registry or adapters: the handle the
driver holds, its replug flag, and the ports of the monitors the framework knows.
The driver's callbacks are instances of five actions. -/

namespace QubesIdd.MonitorPlug

structure State where
  monitor : Option Nat := none
  replug : Bool := false
  ports : List Port := []
  lastDeparted : Option Nat := none
  deriving DecidableEq, Repr

/-- `created` and `arrived` are the answers to the two calls that plug a monitor. -/
inductive Action where
  | idle
  | finish (created arrived : Bool)
  | depart (monitor : Nat)
  | assign (monitor : Nat)
  | unassign (monitor : Nat) (created arrived : Bool)
  deriving DecidableEq, Repr

namespace State

def live (state : State) (monitor : Nat) : Bool := state.ports[monitor]?.any fun port => port.status == .arrived

def assigned (state : State) (monitor : Nat) : Bool := state.ports[monitor]?.any fun port => port.assigned

/-- A created monitor replaces the handle whether or not it then arrives. -/
def finish (created arrived : Bool) (state : State) : State :=
  if !created then state else
  { state with
    monitor := some state.ports.length
    ports := state.ports ++ [⟨if arrived then .arrived else .created, false⟩] }

def depart (monitor : Nat) (state : State) : State :=
  { state with
    replug := true
    ports := state.ports.modify monitor fun port => { port with status := .departed }
    lastDeparted := some monitor }

def setAssigned (monitor : Nat) (assigned : Bool) (state : State) : State :=
  { state with ports := state.ports.modify monitor fun port => { port with assigned } }

def apply (state : State) : Action → State
  | .idle => state
  | .finish created arrived => state.finish created arrived
  | .depart monitor => state.depart monitor
  | .assign monitor => state.setAssigned monitor true
  | .unassign monitor created arrived =>
    let state := state.setAssigned monitor false
    if state.replug then finish created arrived { state with replug := false } else state

@[simp] theorem live_clear (state : State) (monitor : Nat) (replug : Bool) :
    live { state with replug } monitor = state.live monitor := rfl

@[simp] theorem setAssigned_replug (state : State) (monitor : Nat) (assigned : Bool) :
    (state.setAssigned monitor assigned).replug = state.replug := rfl

@[simp] theorem live_setAssigned (state : State) (monitor other : Nat) (assigned : Bool) :
    (state.setAssigned other assigned).live monitor = state.live monitor := by
  simp only [live, setAssigned, List.getElem?_modify]
  cases state.ports[monitor]? with
  | none => rfl
  | some port => by_cases same : other = monitor <;> simp [same]

theorem live_finish (state : State) (created arrived : Bool) (monitor : Nat) :
    (state.finish created arrived).live monitor =
      (state.live monitor || created && arrived && monitor == state.ports.length) := by
  cases created with
  | false => simp [finish]
  | true =>
    simp only [finish, live, List.getElem?_append, Bool.not_true, Bool.false_eq_true, if_false, Bool.true_and]
    rcases Nat.lt_trichotomy monitor state.ports.length with inside | rfl | beyond
    · simp [inside, Nat.ne_of_lt inside]
    · cases arrived <;> simp
    · obtain ⟨past, rfl⟩ := Nat.exists_eq_add_of_lt beyond
      simp [show ¬ state.ports.length + past + 1 < state.ports.length by omega,
        show state.ports.length + past + 1 - state.ports.length = past + 1 by omega,
        show state.ports.length + past + 1 ≠ state.ports.length by omega]

theorem live_depart (state : State) (monitor other : Nat) :
    (state.depart other).live monitor = (state.live monitor && monitor != other) := by
  simp only [live, depart, List.getElem?_modify]
  cases state.ports[monitor]? with
  | none => rfl
  | some port =>
    by_cases same : other = monitor
    · simp [same]
    · simp [same, Ne.symm same]

theorem live_inside {state : State} {monitor : Nat} (live : state.live monitor = true) :
    monitor < state.ports.length := by
  by_contra beyond
  simp [State.live, List.getElem?_eq_none (Nat.not_lt.mp beyond)] at live

@[simp] theorem finish_replug (state : State) (created arrived : Bool) :
    (state.finish created arrived).replug = state.replug := by
  cases created <;> rfl

@[simp] theorem finish_monitor (state : State) (created arrived : Bool) :
    (state.finish created arrived).monitor = if created then some state.ports.length else state.monitor := by
  cases created <;> rfl

end State

/-- What an action presupposes: a departure is asked for once, for the monitor the
driver holds. -/
def Action.Allowed (state : State) : Action → Prop
  | .depart monitor => state.monitor = some monitor ∧ state.replug = false
  | _ => True

end QubesIdd.MonitorPlug
