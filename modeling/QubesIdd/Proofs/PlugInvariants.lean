import QubesIdd.Library.Runs
import QubesIdd.MonitorPlug

/-! Three properties of hot-plugging: one monitor at a time, no dead handle, and a
raised replug flag that will be lowered. None holds of every run; each comes with
the condition on a step that keeps it and that every step keeping it meets. -/

namespace QubesIdd.MonitorPlug

def SingleMonitor (state : State) : Prop :=
  ∀ first second, state.live first = true → state.live second = true → first = second

/-- Outside a replug, the handle is null or a monitor that is plugged in. -/
def HandleLive (state : State) : Prop :=
  state.replug = false → ∀ monitor, state.monitor = some monitor → state.live monitor = true

/-- The unassign callback that ends the replug is still to come. -/
def UnassignOwed (state : State) : Prop :=
  state.replug = true → ∃ monitor, state.lastDeparted = some monitor ∧
    state.ports[monitor]? = some ⟨.departed, true⟩

def Finishes (state : State) : Action → Prop
  | .finish _ _ => True
  | .unassign _ _ _ => state.replug = true
  | _ => False

/-- `FinishInit` does not run while the held monitor is plugged in. -/
def PlugsAbsent (state : State) (action : Action) : Prop :=
  Finishes state action → ∀ monitor, state.monitor = some monitor → state.live monitor = false

def Reliable : Action → Prop
  | .finish created arrived => created = true ∧ arrived = true
  | .unassign _ created arrived => created = true ∧ arrived = true
  | _ => True

/-- A monitor that is created also arrives, unless the replug goes on; and when a
replug ends, a monitor is created or the held one is still plugged in. -/
def PlugsWhole (state : State) : Action → Prop
  | .finish created arrived => created = true → arrived = true ∨ state.replug = true
  | .unassign _ created arrived =>
    state.replug = true →
      if created then arrived = true else ∀ monitor, state.monitor = some monitor → state.live monitor = true
  | _ => True

def DepartsAssigned (state : State) : Action → Prop
  | .depart monitor => state.assigned monitor = true
  | _ => True

/-- The invariant behind a single monitor: only the held one can be plugged in. -/
def OnlyHeldLive (state : State) : Prop :=
  ∀ monitor, state.live monitor = true → state.monitor = some monitor

theorem OnlyHeldLive.single {state : State} (held : OnlyHeldLive state) : SingleMonitor state :=
  fun first second liveFirst liveSecond =>
    Option.some.inj ((held first liveFirst).symm.trans (held second liveSecond))

private theorem onlyHeldLive_finish {state : State} {created arrived : Bool} (held : OnlyHeldLive state)
    (reliable : created = true ∧ arrived = true)
    (absent : ∀ monitor, state.monitor = some monitor → state.live monitor = false) :
    OnlyHeldLive (state.finish created arrived) := by
  intro monitor live
  obtain ⟨rfl, rfl⟩ := reliable
  simp only [State.live_finish, Bool.and_self, Bool.true_and, Bool.or_eq_true, beq_iff_eq] at live
  rcases live with before | rfl
  · exact absurd before (by simp [absent monitor (held monitor before)])
  · rfl

theorem onlyHeldLive_apply (state : State) (action : Action) (held : OnlyHeldLive state)
    (reliable : Reliable action) (absent : PlugsAbsent state action) : OnlyHeldLive (state.apply action) := by
  cases action with
  | idle => exact held
  | finish created arrived => exact onlyHeldLive_finish held reliable (absent trivial)
  | depart departing =>
    intro monitor live
    simp only [State.apply, State.live_depart, Bool.and_eq_true] at live
    exact held monitor live.1
  | assign assigned =>
    intro monitor live
    simp only [State.apply, State.live_setAssigned] at live
    exact held monitor live
  | unassign unassigned created arrived =>
    have same : OnlyHeldLive (state.setAssigned unassigned false) := fun monitor live => by
      simp only [State.live_setAssigned] at live
      exact held monitor live
    simp only [State.apply]
    split
    next replug =>
      refine onlyHeldLive_finish same reliable fun monitor holding => ?_
      rw [State.live_clear, State.live_setAssigned]
      exact absent replug monitor holding
    next => exact same

private theorem single_finish {state : State} {created arrived : Bool} (reliable : created = true ∧ arrived = true)
    (single : SingleMonitor (state.finish created arrived)) (monitor : Nat) : state.live monitor = false := by
  obtain ⟨rfl, rfl⟩ := reliable
  by_contra live
  rw [Bool.not_eq_false] at live
  have new := single monitor state.ports.length (by simp [State.live_finish, live]) (by simp [State.live_finish])
  exact absurd (State.live_inside live) (by omega)

theorem plugsAbsent_of_single (state : State) (action : Action) (reliable : Reliable action)
    (single : SingleMonitor (state.apply action)) : PlugsAbsent state action := by
  intro finishes monitor _
  cases action with
  | finish created arrived => exact single_finish reliable single monitor
  | unassign unassigned created arrived =>
    have replug : state.replug = true := finishes
    simp only [State.apply, State.setAssigned_replug, replug, if_true] at single
    simpa using single_finish reliable single monitor
  | idle | depart | assign => cases finishes

/-- The invariant behind a live handle: a replug is under way only for a handle. -/
structure HandleKept (state : State) : Prop where
  live : HandleLive state
  held : state.replug = true → state.monitor ≠ none

theorem handleKept_apply (state : State) (action : Action) (kept : HandleKept state)
    (allowed : action.Allowed state) (whole : PlugsWhole state action) : HandleKept (state.apply action) := by
  cases action with
  | idle => exact kept
  | finish created arrived =>
    cases created with
    | false => exact kept
    | true =>
      refine ⟨fun idle monitor holding => ?_, fun _ => by simp [State.apply]⟩
      simp only [State.apply, State.finish_monitor, State.finish_replug, if_true, Option.some.injEq] at idle holding
      rcases whole rfl with rfl | replug
      · simp [State.apply, State.live_finish, holding]
      · simp [replug] at idle
  | depart departing =>
    refine ⟨fun idle => by simp [State.apply, State.depart] at idle, fun _ => ?_⟩
    simp [State.apply, State.depart, allowed.1]
  | assign assigned =>
    refine ⟨fun idle monitor holding => ?_, kept.held⟩
    rw [State.apply, State.live_setAssigned]
    exact kept.live idle monitor holding
  | unassign unassigned created arrived =>
    simp only [State.apply]
    split
    next replug =>
      refine ⟨fun _ monitor holding => ?_, fun replugging => by simp at replugging⟩
      have meets := whole replug
      cases created with
      | false => simpa [State.live_finish] using meets monitor holding
      | true =>
        simp only [if_true] at meets
        simp only [State.finish_monitor, if_true, Option.some.injEq] at holding
        simp [State.live_finish, holding, meets]
    next idle =>
      refine ⟨fun _ monitor holding => ?_, fun replugging => absurd replugging idle⟩
      rw [State.live_setAssigned]
      exact kept.live (by simpa using idle) monitor holding

theorem plugsWhole_of_live (state : State) (action : Action) (live : HandleLive (state.apply action)) :
    PlugsWhole state action := by
  cases action with
  | finish created arrived =>
    rintro rfl
    cases replug : state.replug with
    | true => exact .inr rfl
    | false =>
      have arrivedNew := live (by simpa [State.apply] using replug) state.ports.length (by simp [State.apply])
      simp only [State.apply, State.live_finish, Bool.true_and, BEq.rfl, Bool.and_true, Bool.or_eq_true] at arrivedNew
      exact .inl (arrivedNew.resolve_left fun old => absurd (State.live_inside old) (by omega))
  | unassign unassigned created arrived =>
    intro replug
    have finished : state.apply (.unassign unassigned created arrived) =
        State.finish created arrived { state.setAssigned unassigned false with replug := false } := by
      simp [State.apply, replug]
    rw [finished] at live
    cases created with
    | false =>
      simp only [Bool.false_eq_true, if_false]
      intro monitor holding
      simpa [State.live_finish] using live rfl monitor holding
    | true =>
      simp only [if_true]
      have arrivedNew := live rfl _ rfl
      simp only [State.live_finish, State.live_clear, Bool.true_and, BEq.rfl, Bool.and_true, Bool.or_eq_true] at arrivedNew
      exact arrivedNew.resolve_left fun old => absurd (State.live_inside old) (by simp)
  | idle | depart | assign => trivial

private theorem unassignOwed_finish {state : State} (created arrived : Bool) (owed : UnassignOwed state) :
    UnassignOwed (state.finish created arrived) := by
  cases created with
  | false => exact owed
  | true =>
    intro replug
    obtain ⟨monitor, last, port⟩ := owed replug
    refine ⟨monitor, last, ?_⟩
    obtain ⟨inside, _⟩ := List.getElem?_eq_some_iff.mp port
    simpa [State.finish, List.getElem?_append, inside] using port

theorem unassignOwed_apply (state : State) (action : Action) (owed : UnassignOwed state)
    (assigned : DepartsAssigned state action) : UnassignOwed (state.apply action) := by
  cases action with
  | idle => exact owed
  | finish created arrived => exact unassignOwed_finish created arrived owed
  | depart departing =>
    intro _
    simp only [DepartsAssigned, State.assigned, Option.any_eq_true] at assigned
    obtain ⟨port, found, assigned⟩ := assigned
    exact ⟨departing, rfl, by simp [State.apply, State.depart, found, assigned]⟩
  | assign assigning =>
    intro replug
    obtain ⟨monitor, last, port⟩ := owed replug
    refine ⟨monitor, last, ?_⟩
    by_cases same : assigning = monitor <;> simp [State.apply, State.setAssigned, port, same]
  | unassign unassigned created arrived =>
    simp only [State.apply]
    split
    next => exact unassignOwed_finish created arrived fun replugging => by cases replugging
    next idle => exact fun replugging => absurd replugging idle

theorem departsAssigned_of_owed (state : State) (action : Action) (owed : UnassignOwed (state.apply action)) :
    DepartsAssigned state action := by
  cases action with
  | depart departing =>
    obtain ⟨monitor, last, port⟩ := owed rfl
    obtain rfl : departing = monitor := Option.some.inj last
    simp only [State.apply, State.depart, List.getElem?_modify_eq] at port
    cases found : state.ports[departing]? with
    | none => simp [found] at port
    | some before =>
      simp only [found, Option.map_eq_map, Option.map_some, Option.some.injEq, Port.mk.injEq, true_and] at port
      simp [DepartsAssigned, State.assigned, found, port]
  | idle | finish | assign | unassign => trivial

end QubesIdd.MonitorPlug
