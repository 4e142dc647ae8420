import QubesIdd.Contexts
import QubesIdd.Proofs.CachedDevice

/-! When a callback meets a context: those of a monitor whose device is there always do, the one
of an adapter and the pointer of the process do not between two writes. -/

namespace QubesIdd
open Library.Runs

def ContextObject.delete (object : ContextObject) : ContextObject := { object with deleted := true }

def DevicePoint.wraps : DevicePoint → Bool
  | .created | .deleting => true
  | .creating | .clearing | .cleaned => false

/-- The contexts a device has been given. -/
def DevicePoint.contexts (device : Nat) : DevicePoint → List ContextObject
  | .creating => []
  | .created => [⟨device, false⟩]
  | .deleting | .clearing | .cleaned => [⟨device, true⟩]

theorem mem_modify_cases {α : Type _} {entries : List α} {index : Nat} {change : α → α} {entry : α}
    (member : entry ∈ entries.modify index change) :
    entry ∈ entries ∨ ∃ before, entries[index]? = some before ∧ entry = change before := by
  obtain ⟨place, got⟩ := List.getElem?_of_mem member
  rw [List.getElem?_modify] at got
  obtain ⟨before, found, rfl⟩ := Option.map_eq_some_iff.mp got
  split
  next same => exact .inr ⟨before, same ▸ found, rfl⟩
  next => exact .inl (List.mem_of_getElem? found)

namespace ContextObject
variable {contexts : List ContextObject} {context : Nat} {object : ContextObject}

theorem modify_split (got : contexts[context]? = some object) :
    contexts = contexts.take context ++ object :: contexts.drop (context + 1) ∧
    contexts.modify context delete = contexts.take context ++ object.delete :: contexts.drop (context + 1) := by
  obtain ⟨inside, rfl⟩ := List.getElem?_eq_some_iff.mp got
  refine ⟨by rw [List.getElem_cons_drop, List.take_append_drop], ?_⟩
  rw [List.modify_eq_take_cons_drop inside]

theorem filter_delete_other (got : contexts[context]? = some object) {device : Nat} (different : object.wdfDevice ≠ device) :
    (contexts.modify context delete).filter (·.wdfDevice == device) = contexts.filter (·.wdfDevice == device) := by
  obtain ⟨before, after⟩ := modify_split got
  rw [after]
  conv => rhs; rw [before]
  simp [List.filter_append, delete, different]

theorem filter_delete_own (got : contexts[context]? = some object) {only : ContextObject}
    (alone : contexts.filter (·.wdfDevice == object.wdfDevice) = [only]) :
    (contexts.modify context delete).filter (·.wdfDevice == object.wdfDevice) = [only.delete] := by
  obtain ⟨before, after⟩ := modify_split got
  rw [after]
  rw [before] at alone
  simp only [List.filter_append, List.filter_cons, beq_self_eq_true, if_true, List.append_eq_singleton_iff, List.cons.injEq,
    reduceCtorEq, and_false, or_false] at alone
  obtain ⟨front, rfl, back⟩ := alone
  simp [List.filter_append, delete, front, back]

theorem modify_wdfDevice (index : Nat) :
    (contexts.modify context delete)[index]?.map wdfDevice = contexts[index]?.map wdfDevice := by
  rw [List.getElem?_modify]
  cases contexts[index]? with
  | none => rfl
  | some object => by_cases same : context = index <;> simp [same, delete]

theorem mem_modify {entry : ContextObject} (member : entry ∈ contexts.modify context delete) :
    ∃ before ∈ contexts, before.wdfDevice = entry.wdfDevice := by
  rcases mem_modify_cases member with same | ⟨before, got, rfl⟩
  · exact ⟨entry, same, rfl⟩
  · exact ⟨before, List.mem_of_getElem? got, rfl⟩

end ContextObject

namespace Contexts

def deviceOf (context : Nat) (state : Contexts) : Option Nat := state.deviceContexts[context]?.map ContextObject.wdfDevice

def contextsOf (device : Nat) (state : Contexts) : List ContextObject := state.deviceContexts.filter (·.wdfDevice == device)

/-- The invariant. Whoever has not stored a context's pointer yet still runs on the context. -/
structure Sound (state : Contexts) : Prop where
  numbered : state.devices.length = state.host.devices.length
  named : ∀ device, state.host.wdfDevice = some device → state.host.isLive device = true
  inside : ∀ object ∈ state.deviceContexts, object.wdfDevice < state.devices.length
  owned : ∀ (device : Nat) (object : DeviceObject), state.devices[device]? = some object →
    state.contextsOf device = object.point.contexts device
  wraps : ∀ (device : Nat) (object : DeviceObject), state.devices[device]? = some object →
    object.context.isSome = object.point.wraps
  refers : ∀ (device : Nat) (object : DeviceObject), state.devices[device]? = some object →
    ∀ context, object.context = some context → state.deviceOf context = some device
  stores : ∀ object ∈ state.adapters, ∀ context, object.context = some context → context = object.self
  storing : ∀ object ∈ state.adapters, object.context = none → state.alive object.self = true
  carries : ∀ object ∈ state.monitors, ∀ context, object.context = some context →
    state.monitorContexts[context]? = some object.self
  arrives : ∀ object ∈ state.monitors, object.arrival.isSome = true → object.context.isSome = true
  arriving : ∀ object ∈ state.monitors, object.arrival = none → state.alive object.self = true

variable {state : Contexts}

theorem alive_object {context : Nat} :
    state.alive context = true ↔ ∃ object, state.deviceContexts[context]? = some object ∧ object.deleted = false := by
  simp [alive, Option.any_eq_true]

theorem isCreated_object {device : Nat} :
    state.isCreated device = true ↔ ∃ object, state.devices[device]? = some object ∧ object.point = .created := by
  simp [isCreated, Option.any_eq_true]

/-- A context lives as long as its device object is there and not being cleaned up. -/
theorem Sound.alive_serves (sound : state.Sound) (context : Nat) : state.alive context = state.serves context := by
  unfold alive serves
  cases got : state.deviceContexts[context]? with
  | none => rfl
  | some object =>
    have member := List.mem_of_getElem? got
    obtain ⟨held, found⟩ : ∃ held, state.devices[object.wdfDevice]? = some held :=
      ⟨_, List.getElem?_eq_getElem (sound.inside object member)⟩
    have among : object ∈ held.point.contexts object.wdfDevice := by
      rw [← sound.owned _ _ found]
      exact List.mem_filter.mpr ⟨member, beq_self_eq_true _⟩
    simp only [Option.any_some, isCreated, found]
    cases point : held.point with
    | creating => simp [point, DevicePoint.contexts] at among
    | created | deleting | clearing | cleaned =>
      rw [point] at among
      rw [List.mem_singleton.mp among]
      rfl

theorem initial_sound : Sound {} where
  numbered := rfl
  named := nofun
  inside := nofun
  owned := nofun
  wraps := nofun
  refers := nofun
  stores := nofun
  storing := nofun
  carries := nofun
  arrives := nofun
  arriving := nofun

/-- One device object moves on, with the contexts that are its own. -/
theorem Sound.setDevice (sound : state.Sound) {device : Nat} {object : DeviceObject} (held : state.devices[device]? = some object)
    (change : DeviceObject → DeviceObject) (host : HostProcess) (contexts : List ContextObject)
    (numbered : host.devices.length = state.host.devices.length)
    (named : ∀ other, host.wdfDevice = some other → host.isLive other = true)
    (inside : ∀ entry ∈ contexts, entry.wdfDevice < state.devices.length)
    (apart : ∀ other, other ≠ device → contexts.filter (·.wdfDevice == other) = state.contextsOf other)
    (own : contexts.filter (·.wdfDevice == device) = (change object).point.contexts device)
    (wraps : (change object).context.isSome = (change object).point.wraps)
    (keeps : ∀ context other, state.deviceOf context = some other → contexts[context]?.map ContextObject.wdfDevice = some other)
    (refers : ∀ context, (change object).context = some context → contexts[context]?.map ContextObject.wdfDevice = some device)
    (storing : ∀ adapter ∈ state.adapters, adapter.context = none → contexts[adapter.self]?.any (!·.deleted) = true)
    (arriving : ∀ monitor ∈ state.monitors, monitor.arrival = none → contexts[monitor.self]?.any (!·.deleted) = true) :
    Sound (Contexts.setDevice device change { state with host, deviceContexts := contexts }) := by
  have moved (other : Nat) (after : DeviceObject) (found : (state.devices.modify device change)[other]? = some after) :
      other = device ∧ after = change object ∨ other ≠ device ∧ state.devices[other]? = some after := by
    rw [List.getElem?_modify] at found
    by_cases same : device = other
    · subst same
      rw [held] at found
      exact .inl ⟨rfl, by simpa using found.symm⟩
    · exact .inr ⟨Ne.symm same, by simpa [same] using found⟩
  refine ⟨?_, named, ?_, ?_, ?_, ?_, sound.stores, storing, sound.carries, sound.arrives, arriving⟩
  · simpa [Contexts.setDevice, numbered] using sound.numbered
  · simpa [Contexts.setDevice] using inside
  · intro other after found
    rcases moved other after found with ⟨rfl, rfl⟩ | ⟨different, same⟩
    · exact own
    · exact (apart other different).trans (sound.owned other after same)
  · intro other after found
    rcases moved other after found with ⟨rfl, rfl⟩ | ⟨_, same⟩
    · exact wraps
    · exact sound.wraps other after same
  · intro other after found context pointer
    rcases moved other after found with ⟨rfl, rfl⟩ | ⟨_, same⟩
    · exact refers context pointer
    · exact keeps context other (sound.refers other after same context pointer)

theorem Sound.createDevice (sound : state.Sound) (creation : Creation) : (state.occurs (.createDevice creation)).Sound := by
  have live := HostProcess.step_live state.host (.createDevice creation) sound.named
  simp only [HostProcess.step] at live
  simp only [occurs]
  rcases HostProcess.createDevice_cases creation state.host with same | made
  · rw [same, if_pos rfl]
    exact sound
  · have longer : (state.host.createDevice creation).devices.length ≠ state.host.devices.length := by simp [made]
    rw [if_neg longer]
    have found (device : Nat) (object : DeviceObject) (held : (state.devices ++ [({} : DeviceObject)])[device]? = some object) :
        device = state.devices.length ∧ object = {} ∨ state.devices[device]? = some object := by
      rw [List.getElem?_append] at held
      split at held
      next => exact .inr held
      next beyond =>
        rw [List.getElem?_singleton] at held
        split at held
        next none_past => exact .inl ⟨by omega, (Option.some.inj held).symm⟩
        next => cases held
    refine ⟨?_, live, ?_, ?_, ?_, ?_, sound.stores, sound.storing, sound.carries, sound.arrives, sound.arriving⟩
    · simp [made, sound.numbered]
    · intro object member
      have inside := sound.inside object member
      simp only [List.length_append]
      omega
    · intro device object held
      rcases found device object held with ⟨rfl, rfl⟩ | before
      · -- no context can belong to a device that has just been numbered
        refine List.filter_eq_nil_iff.mpr fun entry member => ?_
        have inside := sound.inside entry member
        simp only [beq_iff_eq]
        omega
      · exact sound.owned device object before
    · intro device object held
      rcases found device object held with ⟨rfl, rfl⟩ | before
      · rfl
      · exact sound.wraps device object before
    · intro device object held context pointer
      rcases found device object held with ⟨rfl, rfl⟩ | before
      · cases pointer
      · exact sound.refers device object before context pointer

theorem Sound.contextMade (sound : state.Sound) {device : Nat} (promised : state.promised (.contextMade device) = true) :
    (state.occurs (.contextMade device)).Sound := by
  obtain ⟨object, held, creating⟩ := (Option.any_eq_true _ _).mp promised
  have point : object.point = .creating := by simpa using creating
  have bare : state.contextsOf device = [] := by simpa [point, DevicePoint.contexts] using sound.owned device object held
  have keeps (context other : Nat) (of : state.deviceOf context = some other) :
      (state.deviceContexts ++ [{ wdfDevice := device }])[context]?.map ContextObject.wdfDevice = some other := by
    obtain ⟨entry, got, rfl⟩ := Option.map_eq_some_iff.mp of
    rw [List.getElem?_append_left (List.getElem?_eq_some_iff.mp got).1, got, Option.map_some]
  have lives {context : Nat} (alive : state.alive context = true) :
      (state.deviceContexts ++ [{ wdfDevice := device }])[context]?.any (!·.deleted) = true := by
    obtain ⟨entry, got, kept⟩ := alive_object.mp alive
    rw [List.getElem?_append_left (List.getElem?_eq_some_iff.mp got).1, got]
    simp [kept]
  refine sound.setDevice held (fun _ => { point := .created, context := some state.deviceContexts.length }) state.host
    (state.deviceContexts ++ [{ wdfDevice := device }]) rfl sound.named ?_ ?_ ?_ rfl keeps ?_
    (fun adapter member unset => lives (sound.storing adapter member unset))
    (fun monitor member unset => lives (sound.arriving monitor member unset))
  · intro entry member
    rcases List.mem_append.mp member with earlier | new
    · exact sound.inside entry earlier
    · rw [List.mem_singleton.mp new]
      exact (List.getElem?_eq_some_iff.mp held).1
  · intro other different
    simp [List.filter_append, contextsOf, Ne.symm different]
  · rw [List.filter_append, show state.deviceContexts.filter _ = [] from bare]
    simp [DevicePoint.contexts]
  · intro context pointer
    obtain rfl := Option.some.inj pointer
    simp

theorem Sound.deleteContext (sound : state.Sound) {device : Nat} (promised : state.promised (.deleteContext device) = true) :
    (state.occurs (.deleteContext device)).Sound := by
  obtain ⟨created, idle⟩ := Bool.and_eq_true_iff.mp promised
  obtain ⟨object, held, point⟩ := isCreated_object.mp created
  obtain ⟨context, pointer⟩ : ∃ context, object.context = some context :=
    Option.isSome_iff_exists.mp ((sound.wraps device object held).trans (by simp [point, DevicePoint.wraps]))
  obtain ⟨own, got, belongs⟩ := Option.map_eq_some_iff.mp (sound.refers device object held context pointer)
  have wrapper : state.deviceWrapper device = some context := by simp [deviceWrapper, held, pointer]
  -- whatever still runs on a context runs on that of another device
  have lives {self : Nat} (alive : state.alive self = true) (different : state.deviceOf self ≠ some device) :
      (state.deviceContexts.modify context ContextObject.delete)[self]?.any (!·.deleted) = true := by
    have elsewhere : context ≠ self := by
      rintro rfl
      exact different (by simp [deviceOf, got, belongs])
    obtain ⟨entry, entered, kept⟩ := alive_object.mp alive
    simp [elsewhere, entered, kept]
  have quiet : busy device state = false := by simpa using idle
  simp only [busy, Bool.or_eq_false_iff, List.any_eq_false, Bool.and_eq_true, Option.isNone_iff_eq_none, not_and] at quiet
  have stranger {self : Nat} (other : ¬ (state.deviceContexts[self]?.any fun entry => entry.wdfDevice == device) = true) :
      state.deviceOf self ≠ some device := by
    intro of
    obtain ⟨entry, entered, same⟩ := Option.map_eq_some_iff.mp of
    exact other (by simp [entered, same])
  simp only [occurs, wrapper]
  refine sound.setDevice held _ state.host (state.deviceContexts.modify context ContextObject.delete) rfl sound.named ?_ ?_ ?_ ?_ ?_ ?_ ?_ ?_
  · intro entry member
    obtain ⟨before, entered, same⟩ := ContextObject.mem_modify member
    rw [← same]
    exact sound.inside before entered
  · intro other different
    exact ContextObject.filter_delete_other got (by rw [belongs]; exact Ne.symm different)
  · subst belongs
    rw [ContextObject.filter_delete_own got (sound.owned _ object held |>.trans (by rw [point]; rfl))]
    rfl
  · simp [pointer, DevicePoint.wraps]
  · intro index other of
    rw [ContextObject.modify_wdfDevice]
    exact of
  · intro index same
    rw [ContextObject.modify_wdfDevice]
    exact sound.refers device object held index same
  · intro adapter member unset
    exact lives (sound.storing adapter member unset) (stranger fun belongs => quiet.1 adapter member belongs unset)
  · intro monitor member unset
    exact lives (sound.arriving monitor member unset) (stranger fun belongs => quiet.2 monitor member belongs unset)

theorem Sound.clearContext (sound : state.Sound) {device : Nat} (promised : state.promised (.clearContext device) = true) :
    (state.occurs (.clearContext device)).Sound := by
  obtain ⟨object, held, deleting⟩ := (Option.any_eq_true _ _).mp promised
  have point : object.point = .deleting := by simpa using deleting
  exact sound.setDevice held (fun _ => { point := .clearing }) state.host state.deviceContexts rfl sound.named sound.inside
    (fun _ _ => rfl) ((sound.owned device object held).trans (by rw [point]; rfl)) rfl (fun _ _ of => of) nofun sound.storing
    sound.arriving

theorem Sound.resetPointer (sound : state.Sound) {device : Nat} (promised : state.promised (.resetPointer device) = true) :
    (state.occurs (.resetPointer device)).Sound := by
  obtain ⟨object, held, clearing⟩ := (Option.any_eq_true _ _).mp promised
  have point : object.point = .clearing := by simpa using clearing
  have cleaned := HostProcess.step_live state.host (.cleanup device) sound.named
  refine sound.setDevice held (fun object => { object with point := .cleaned }) (state.host.cleanup device) state.deviceContexts
    ?_ cleaned sound.inside (fun _ _ => rfl) ((sound.owned device object held).trans (by rw [point]; rfl)) ?_ (fun _ _ of => of)
    (sound.refers device object held) sound.storing sound.arriving
  · unfold HostProcess.cleanup
    split
    · rfl
    · simp
  · exact (sound.wraps device object held).trans (by rw [point]; rfl)

theorem Sound.d0Entry (sound : state.Sound) {device : Nat} {adapterInit : Bool}
    (meets : state.faults (.d0Entry device adapterInit) = false) : (state.occurs (.d0Entry device adapterInit)).Sound := by
  simp only [occurs]
  split
  next => exact sound
  next self wrapper =>
    have alive : state.alive self = true := by simpa [faults, follows, wrapper] using meets
    cases adapterInit with
    | false => exact sound
    | true =>
      have among (adapter : AdapterObject) (member : adapter ∈ state.adapters ++ [⟨self, none⟩]) :
          adapter ∈ state.adapters ∨ adapter = ⟨self, none⟩ := by simpa using member
      refine { sound with stores := ?_, storing := ?_ }
      · intro adapter member context pointer
        rcases among adapter member with earlier | rfl
        · exact sound.stores adapter earlier context pointer
        · cases pointer
      · intro adapter member unset
        rcases among adapter member with earlier | rfl
        · exact sound.storing adapter earlier unset
        · exact alive

theorem Sound.adapterStored (sound : state.Sound) (adapter : Nat) : (state.occurs (.adapterStored adapter)).Sound := by
  refine { sound with stores := ?_, storing := ?_ }
  · intro object member context pointer
    rcases mem_modify_cases member with earlier | ⟨before, _, rfl⟩
    · exact sound.stores object earlier context pointer
    · exact (Option.some.inj pointer).symm
  · intro object member unset
    rcases mem_modify_cases member with earlier | ⟨before, _, rfl⟩
    · exact sound.storing object earlier unset
    · cases unset

theorem Sound.finishInit (sound : state.Sound) {context : Option Nat} (alive : context.any state.alive = true)
    (monitorCreate : Bool) : (state.finishInit context monitorCreate).Sound := by
  obtain ⟨self, rfl, lives⟩ := (Option.any_eq_true _ _).mp alive
  cases monitorCreate with
  | false => exact sound
  | true =>
    have among (monitor : MonitorObject) (member : monitor ∈ state.monitors ++ [⟨self, none, none⟩]) :
        monitor ∈ state.monitors ∨ monitor = ⟨self, none, none⟩ := by simpa using member
    refine { sound with carries := ?_, arrives := ?_, arriving := ?_ }
    · intro monitor member context pointer
      rcases among monitor member with earlier | rfl
      · exact sound.carries monitor earlier context pointer
      · cases pointer
    · intro monitor member answered
      rcases among monitor member with earlier | rfl
      · exact sound.arrives monitor earlier answered
      · cases answered
    · intro monitor member unanswered
      rcases among monitor member with earlier | rfl
      · exact sound.arriving monitor earlier unanswered
      · exact lives

theorem Sound.monitorStored (sound : state.Sound) (monitor : Nat) : (state.occurs (.monitorStored monitor)).Sound := by
  simp only [occurs]
  split
  next => exact sound
  next object held =>
    refine { sound with carries := ?_, arrives := ?_, arriving := ?_ }
    · intro other member context pointer
      rcases mem_modify_cases member with earlier | ⟨before, found, rfl⟩
      · have carried := sound.carries other earlier context pointer
        rw [List.getElem?_append_left (List.getElem?_eq_some_iff.mp carried).1, carried]
      · obtain rfl := Option.some.inj pointer
        obtain rfl := Option.some.inj (held.symm.trans found)
        simp
    · intro other member answered
      rcases mem_modify_cases member with earlier | ⟨before, _, rfl⟩
      · exact sound.arrives other earlier answered
      · rfl
    · intro other member unanswered
      rcases mem_modify_cases member with earlier | ⟨before, found, rfl⟩
      · exact sound.arriving other earlier unanswered
      · exact sound.arriving before (List.mem_of_getElem? found) unanswered

theorem Sound.monitorArrival (sound : state.Sound) {monitor : Nat} {arrived : Bool}
    (promised : state.promised (.monitorArrival monitor arrived) = true) : (state.occurs (.monitorArrival monitor arrived)).Sound := by
  obtain ⟨object, held, stored⟩ := (Option.any_eq_true _ _).mp promised
  refine { sound with carries := ?_, arrives := ?_, arriving := ?_ }
  · intro other member context pointer
    rcases mem_modify_cases member with earlier | ⟨before, found, rfl⟩
    · exact sound.carries other earlier context pointer
    · exact sound.carries before (List.mem_of_getElem? found) context pointer
  · intro other member answered
    rcases mem_modify_cases member with earlier | ⟨before, found, rfl⟩
    · exact sound.arrives other earlier answered
    · obtain rfl := Option.some.inj (held.symm.trans found)
      exact (Bool.and_eq_true_iff.mp stored).1
  · intro other member unanswered
    rcases mem_modify_cases member with earlier | ⟨before, _, rfl⟩
    · exact sound.arriving other earlier unanswered
    · cases unanswered

theorem step_sound (state : Contexts) (event : ContextEvent) (sound : state.Sound) : (state.step event).Sound := by
  unfold step
  split
  next happens =>
    obtain ⟨promised, meets⟩ := Bool.and_eq_true_iff.mp happens
    have meets : state.faults event = false := by simpa using meets
    cases event with
    | createDevice creation => exact sound.createDevice creation
    | contextMade device => exact sound.contextMade promised
    | deleteContext device => exact sound.deleteContext promised
    | clearContext device => exact sound.clearContext promised
    | resetPointer device => exact sound.resetPointer promised
    | d0Entry device adapterInit => exact sound.d0Entry meets
    | adapterStored adapter => exact sound.adapterStored adapter
    | adapterInitFinished adapter success monitorCreate =>
      cases success with
      | false => exact sound
      | true => exact sound.finishInit (by simpa [faults, follows] using meets) monitorCreate
    | monitorStored monitor => exact sound.monitorStored monitor
    | monitorArrival monitor arrived => exact sound.monitorArrival promised
    | unassignSwapChain monitor replugs => exact sound.finishInit (by simpa [faults, follows] using meets) replugs
    | parseMonitorDescription | monitorCallback | swapChainLost => exact sound
  next => exact sound

theorem run_sound (events : List ContextEvent) : (run step {} events).Sound :=
  run_preserves Sound step_sound {} events initial_sound

/-- In between its steps the process is the one whose devices are made and cleaned up at once. -/
theorem run_host (events : List ContextEvent) :
    ∃ hostEvents, (run step {} events).host = run HostProcess.step {} hostEvents := by
  refine run_projects Contexts.host (fun state event => ?_) {} events
  unfold step
  split
  next =>
    cases event with
    | createDevice creation => exact ⟨[.createDevice creation], rfl⟩
    | resetPointer device => exact ⟨[.cleanup device], rfl⟩
    | deleteContext device | d0Entry device adapterInit | monitorStored monitor =>
      refine ⟨[], ?_⟩
      simp only [occurs]
      repeat' split
      all_goals rfl
    | adapterInitFinished adapter success monitorCreate | unassignSwapChain monitor replugs =>
      refine ⟨[], ?_⟩
      simp only [occurs, finishInit]
      repeat' split
      all_goals rfl
    | contextMade | clearContext | adapterStored | monitorArrival | parseMonitorDescription | monitorCallback | swapChainLost =>
      exact ⟨[], rfl⟩
  next => exact ⟨[], rfl⟩

/-- What a device's wrapper points at can be used while the device is there. -/
theorem Sound.wrapper_alive (sound : state.Sound) (device : Nat) :
    (state.deviceWrapper device).any state.alive = state.isCreated device := by
  unfold deviceWrapper isCreated
  cases held : state.devices[device]? with
  | none => rfl
  | some object =>
    have wraps := sound.wraps device object held
    cases pointer : object.context with
    | none =>
      rw [pointer] at wraps
      cases point : object.point <;> simp_all [DevicePoint.wraps]
    | some context =>
      obtain ⟨entry, got, rfl⟩ := Option.map_eq_some_iff.mp (sound.refers device object held context pointer)
      simp [pointer, sound.alive_serves, serves, got, isCreated, held]

theorem Sound.getDeviceContext (sound : state.Sound) {monitor : Nat} {object : MonitorObject} (held : state.monitors[monitor]? = some object)
    (spoken : state.spokenOf monitor = true) : state.getDeviceContext monitor = some object.self := by
  simp only [spokenOf, held, Option.any_some, Bool.and_eq_true] at spoken
  obtain ⟨context, pointer⟩ := Option.isSome_iff_exists.mp spoken.1
  simp [Contexts.getDeviceContext, held, pointer, sound.carries object (List.mem_of_getElem? held) context pointer]

/-- The places where a pointer is not there yet, or what it points at not any more: before the
last line of `InitAdapter`, while the device the process names is being made or cleaned up, and
on a thread whose device has been cleaned up. -/
def Exposed (state : Contexts) : ContextEvent → Prop
  | .adapterInitFinished adapter success _ => success = true ∧ state.adapterWrapper adapter = none
  | .parseMonitorDescription => ∃ device, state.host.wdfDevice = some device ∧ state.isCreated device = false
  | .swapChainLost monitor => (state.monitors[monitor]?.any fun object => state.serves object.self) = false
  | _ => False

theorem Sound.faults_iff (sound : state.Sound) {event : ContextEvent} (promised : state.promised event = true) :
    state.faults event = true ↔ state.Exposed event := by
  cases event with
  | createDevice | contextMade | clearContext | resetPointer => simp [faults, follows, Exposed]
  | deleteContext device =>
    have alive := sound.wrapper_alive device
    rw [(Bool.and_eq_true_iff.mp promised).1] at alive
    obtain ⟨context, wrapper, lives⟩ := (Option.any_eq_true _ _).mp alive
    simp [faults, follows, Exposed, wrapper, lives]
  | d0Entry device adapterInit =>
    have alive := sound.wrapper_alive device
    rw [show state.isCreated device = true from promised] at alive
    simp [faults, follows, Exposed, alive]
  | adapterStored adapter =>
    obtain ⟨object, held, unset⟩ := (Option.any_eq_true _ _).mp promised
    simp [faults, follows, Exposed, held, sound.storing object (List.mem_of_getElem? held) (by simpa using unset)]
  | adapterInitFinished adapter success monitorCreate =>
    obtain ⟨object, held, serves⟩ := (Option.any_eq_true _ _).mp promised
    cases success with
    | false => simp [faults, follows, Exposed]
    | true =>
      cases pointer : object.context with
      | none => simp [faults, follows, Exposed, adapterWrapper, held, pointer]
      | some context =>
        obtain rfl := sound.stores object (List.mem_of_getElem? held) context pointer
        simp [faults, follows, Exposed, adapterWrapper, held, pointer, sound.alive_serves, serves]
  | monitorStored monitor =>
    obtain ⟨object, held, unset⟩ := (Option.any_eq_true _ _).mp promised
    have member := List.mem_of_getElem? held
    have unanswered : object.arrival = none := by
      by_contra answered
      have stored := sound.arrives object member (Option.isSome_iff_ne_none.mpr answered)
      simp [Option.isNone_iff_eq_none.mp unset] at stored
    simp [faults, follows, Exposed, held, sound.arriving object member unanswered]
  | monitorArrival monitor arrived =>
    obtain ⟨object, held, both⟩ := (Option.any_eq_true _ _).mp promised
    have unanswered := Option.isNone_iff_eq_none.mp (Bool.and_eq_true_iff.mp both).2
    simp [faults, follows, Exposed, held, sound.arriving object (List.mem_of_getElem? held) unanswered]
  | parseMonitorDescription =>
    cases named : state.host.wdfDevice with
    | none => simp [faults, follows, Exposed, named]
    | some device => simp [faults, follows, Exposed, named, sound.wrapper_alive]
  | monitorCallback monitor | unassignSwapChain monitor =>
    obtain ⟨spoken, there⟩ := Bool.and_eq_true_iff.mp promised
    obtain ⟨object, held, serves⟩ := (Option.any_eq_true _ _).mp there
    have reached := sound.getDeviceContext held spoken
    simp [faults, follows, Exposed, reached, sound.alive_serves, serves]
  | swapChainLost monitor =>
    obtain ⟨object, held, _⟩ := (Option.any_eq_true _ _).mp promised
    have reached := sound.getDeviceContext held promised
    simp [faults, follows, Exposed, reached, held, sound.alive_serves]

/-- The device that is made or cleaned up is not the one whose monitor is described. -/
theorem Sound.described_apart (sound : state.Sound) (promised : state.promised .parseMonitorDescription = true)
    (exposed : state.Exposed .parseMonitorDescription) : 2 ≤ state.devices.length := by
  obtain ⟨named, pointer, gone⟩ := exposed
  obtain ⟨monitor, _, present⟩ := List.any_eq_true.mp promised
  obtain ⟨object, _, serves⟩ := (Option.any_eq_true _ _).mp (Bool.and_eq_true_iff.mp present).2
  obtain ⟨entry, _, created⟩ := (Option.any_eq_true _ _).mp serves
  obtain ⟨device, found, _⟩ := isCreated_object.mp created
  obtain ⟨live, inside, _⟩ := (Option.any_eq_true _ _).mp (sound.named named pointer)
  have first := (List.getElem?_eq_some_iff.mp found).1
  have second := (List.getElem?_eq_some_iff.mp inside).1
  have different : named ≠ entry.wdfDevice := by
    rintro rfl
    rw [gone] at created
    cases created
  have numbered := sound.numbered
  omega

/-- In every order of callbacks, threads and the driver's own writes that the framework permits,
a null pointer or a deleted context is used at the three places and nowhere else, and for a
description only if there is more than one device. -/
theorem faults_exactly (events : List ContextEvent) (event : ContextEvent)
    (promised : (run step {} events).promised event = true) :
    ((run step {} events).faults event = true ↔ (run step {} events).Exposed event) ∧
    (event = .parseMonitorDescription → (run step {} events).faults event = true → 2 ≤ (run step {} events).devices.length) := by
  have sound := run_sound events
  generalize run step {} events = state at promised sound ⊢
  refine ⟨sound.faults_iff promised, ?_⟩
  rintro rfl faults
  exact sound.described_apart promised ((sound.faults_iff promised).mp faults)

private def plugged : List ContextEvent :=
  [.createDevice {}, .contextMade 0, .d0Entry 0 true, .adapterStored 0, .adapterInitFinished 0 true true, .monitorStored 0,
    .monitorArrival 0 true]

/-- A monitor of one device is described while another is being made. -/
theorem faults_exactly_pair : (run step {} (plugged ++ [.createDevice {}])).faults .parseMonitorDescription = true := by
  have exactly := faults_exactly (plugged ++ [.createDevice {}]) .parseMonitorDescription (by decide)
  have named : (run step {} (plugged ++ [.createDevice {}])).host.wdfDevice = some 1 := by decide
  have making : (run step {} (plugged ++ [.createDevice {}])).isCreated 1 = false := by decide
  exact exactly.1.mpr ⟨1, named, making⟩

end Contexts
end QubesIdd
