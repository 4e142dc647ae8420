import QubesIdd.Pool
import QubesIdd.Proofs.Lifetime

/-! The devices of one host process share one request. Each shows the list it was last built
from, and what is reported for any of their monitors is the list of one of them. -/

namespace QubesIdd
open CSettings CEdid Library Library.Runs

/-- One configuration, and the list each device shows. -/
structure SharedAdvertised where
  configuration : Configuration
  shown : List DisplayModes

inductive SharedAdvert where
  | create
  | advert (device : Nat) (advert : Advert)
  | edit (configuration : Configuration)
  | idle

namespace SharedAdvertised

/-- What one device makes of the configuration. -/
def advertised (shared : SharedAdvertised) (shown : DisplayModes) : Advertised := { shared.configuration with shown }

def step (shared : SharedAdvertised) : SharedAdvert → SharedAdvertised
  | .create => { shared with shown := shared.shown ++ [[]] }
  | .advert device advert =>
    match shared.shown[device]? with
    | none => shared
    | some shown =>
      let after := (shared.advertised shown).step advert
      { configuration := after.toConfiguration, shown := shared.shown.set device after.shown }
  | .edit configuration => { shared with configuration }
  | .idle => shared

end SharedAdvertised

namespace Pool

def shared (pool : Pool) : SharedAdvertised where
  configuration := pool.registry.configuration
  shown := pool.devices.map (·.context.displayModes)

/-- What an event says to whoever is asked, if there is a device to say it. -/
def advert (pool : Pool) : PoolEvent → SharedAdvert
  | .createDevice creation =>
    if (pool.host.createDevice creation).devices.length = pool.host.devices.length then .idle else .create
  | .cleanup _ => .idle
  | .callback index input => if (pool.device index).isSome then .advert index (Device.advert input) else .idle
  | .edit registry => .edit registry.configuration

theorem device_some {pool : Pool} {index : Nat} {device : Device} (held : pool.device index = some device) :
    ∃ kept, pool.devices[index]? = some kept ∧ device = { kept with registry := pool.registry } := by
  unfold Pool.device at held
  split at held
  · obtain ⟨kept, found, same⟩ := Option.map_eq_some_iff.mp held
    exact ⟨kept, found, same.symm⟩
  · cases held

theorem callback_held {pool : Pool} {index : Nat} {device : Device} (held : pool.device index = some device) (input : Input) :
    pool.callback index input =
      { pool with registry := (device.step input).registry, devices := pool.devices.set index (device.step input) } := by
  rw [callback, held]

theorem callback_absent {pool : Pool} {index : Nat} (absent : pool.device index = none) (input : Input) :
    pool.callback index input = pool := by
  rw [callback, absent]

/-- The pool does to its lists and to the configuration what the shared ones do. -/
theorem step_shared (pool : Pool) (event : PoolEvent) : (pool.step event).shared = pool.shared.step (pool.advert event) := by
  cases event with
  | createDevice creation =>
    simp only [step, createDevice, advert]
    split
    · rfl
    · simp [shared, SharedAdvertised.step, Device.initial]
  | cleanup device => rfl
  | callback index input =>
    simp only [step, advert]
    cases held : pool.device index with
    | none => rw [callback_absent held]; rfl
    | some device =>
      obtain ⟨kept, found, same⟩ := device_some held
      have listed : pool.shared.shown[index]? = some device.context.displayModes := by simp [shared, found, same]
      have refines := Device.step_advertised device input
      have before : device.advertised = pool.shared.advertised device.context.displayModes := by simp [same]; rfl
      rw [callback_held held]
      simp only [Option.isSome_some, if_true, SharedAdvertised.step, listed, ← before, ← refines]
      simp [shared, Device.advertised, List.map_set]
  | edit registry => rfl

theorem run_shared (pool : Pool) (events : List PoolEvent) :
    (run step pool events).shared = run SharedAdvertised.step pool.shared (seen step advert pool events) :=
  run_simulates shared step_shared pool events

/-- The request in force and the configured modes stay as they are, whoever is called. -/
def Quiet : PoolEvent → Prop
  | .createDevice _ | .cleanup _ => True
  | .callback _ input => (Device.advert input).Quiet
  | .edit _ => False

/-- The event has a device build its list anew. -/
def rebuilds (index : Nat) (pool : Pool) : PoolEvent → Bool
  | .callback device input => device == index && (pool.device device).isSome && Device.rebuilds input
  | _ => false

def rebuiltSince (index : Nat) : Pool → List PoolEvent → Bool
  | _, [] => false
  | pool, event :: rest => rebuilds index pool event || rebuiltSince index (pool.step event) rest

theorem callback_displayModes (pool : Pool) (device index : Nat) (input : Input) :
    (pool.callback device input).displayModes index =
      if device = index then ((pool.device device).map fun asked => (asked.step input).context.displayModes).getD (pool.displayModes index)
      else pool.displayModes index := by
  cases held : pool.device device with
  | none => simp [callback_absent held]
  | some asked =>
    obtain ⟨kept, found, _⟩ := device_some held
    rw [callback_held held]
    by_cases same : device = index
    · subst same
      have inside := (List.getElem?_eq_some_iff.mp found).1
      simp [displayModes, inside]
    · simp [displayModes, List.getElem?_set_ne same, same]

theorem quiet_rebuilt {input : Input} (quiet : (Device.advert input).Quiet) (device : Device) :
    (device.step input).registry.configuration = device.registry.configuration ∧
      (device.step input).context.displayModes =
        if Device.rebuilds input then device.registry.configuration.rebuilt.shown else device.context.displayModes := by
  have refines := Device.step_advertised device input
  have configuration := congrArg Advertised.toConfiguration refines
  have shown := congrArg Advertised.shown refines
  obtain ⟨callback, world⟩ := input
  cases callback with
  | setResolution width height => exact quiet.elim
  | d0Entry => exact ⟨configuration, shown⟩
  | adapterInitFinished | replugMonitor | assignSwapChain | unassignSwapChain | swapChainLost | lgmpTimer =>
    exact ⟨configuration, shown⟩

/-- A quiet event leaves the configuration alone, and every list but the one that is built
from it. -/
theorem step_quiet (pool : Pool) {event : PoolEvent} (quiet : Quiet event) (index : Nat) :
    (pool.step event).registry.configuration = pool.registry.configuration ∧
      (pool.step event).displayModes index =
        if rebuilds index pool event then pool.registry.configuration.rebuilt.shown else pool.displayModes index := by
  cases event with
  | createDevice creation =>
    refine ⟨rfl, ?_⟩
    simp only [step, createDevice, displayModes, rebuilds, Bool.false_eq_true, if_false]
    split
    · rfl
    · rcases Nat.lt_trichotomy index pool.devices.length with inside | rfl | beyond
      · rw [List.getElem?_append_left inside]
      · simp [Device.initial]
      · rw [List.getElem?_append_right (by omega), List.getElem?_eq_none (by simp; omega), List.getElem?_eq_none (by omega)]
  | cleanup device => exact ⟨rfl, rfl⟩
  | callback device input =>
    refine ⟨?_, ?_⟩
    · cases held : pool.device device with
      | none => rw [step, callback_absent held]
      | some asked =>
        obtain ⟨kept, _, same⟩ := device_some held
        rw [step, callback_held held, (quiet_rebuilt quiet asked).1, same]
    · rw [step, callback_displayModes]
      by_cases here : device = index
      · subst here
        cases held : pool.device device with
        | none => simp [rebuilds, held]
        | some asked =>
          obtain ⟨kept, found, same⟩ := device_some held
          simp only [rebuilds, held, beq_self_eq_true, Option.isSome_some, Bool.and_self, Bool.true_and, if_true, Option.map_some,
            Option.getD_some, (quiet_rebuilt quiet asked).2]
          simp [same, displayModes, found]
      · simp [here, rebuilds]
  | edit registry => exact quiet.elim

theorem run_pool_quiet (pool : Pool) (events : List PoolEvent) (quiet : ∀ event ∈ events, Quiet event) (index : Nat) :
    (run step pool events).displayModes index =
      if rebuiltSince index pool events then pool.registry.configuration.rebuilt.shown else pool.displayModes index := by
  induction events generalizing pool with
  | nil => rfl
  | cons event rest ih =>
    obtain ⟨configuration, shown⟩ := step_quiet pool (quiet event List.mem_cons_self) index
    rw [run_cons, ih _ fun later member => quiet later (List.mem_cons_of_mem _ member), configuration, shown, rebuiltSince]
    cases rebuilds index pool event <;> cases rebuiltSince index (pool.step event) rest <;> rfl

/-- A device that has been built has the EDID of its list, and any other has none yet. -/
structure Built (pool : Pool) (built : Nat → Bool) : Prop where
  edid : ∀ index device, pool.devices[index]? = some device →
    if built index then device.EdidCurrent else device.context.displayModes = [] ∧ device.context.edid = []
  absent : ∀ index, pool.devices[index]? = none → built index = false

theorem Built.congr {pool other : Pool} {built : Nat → Bool} (state : Built pool built) (same : other.devices = pool.devices) :
    Built other built :=
  ⟨same ▸ state.edid, same ▸ state.absent⟩

theorem step_edid {built : Bool} {device : Device} (input : Input)
    (before : if built then device.EdidCurrent else device.context.displayModes = [] ∧ device.context.edid = []) :
    let after := device.step input
    if built || Device.rebuilds input then after.EdidCurrent else after.context.displayModes = [] ∧ after.context.edid = [] := by
  intro after
  obtain ⟨shown, edid⟩ := Device.step_rebuilds device input
  cases rebuilt : Device.rebuilds input with
  | true =>
    rw [Bool.or_true]
    exact Device.step_edidCurrent device input (.inr rebuilt)
  | false =>
    rw [Bool.or_false]
    cases built with
    | true => exact Device.step_edidCurrent device input (.inl before)
    | false =>
      rw [rebuilt, if_neg Bool.false_ne_true] at shown edid
      exact ⟨shown.trans before.1, edid.trans before.2⟩

theorem callback_built {pool : Pool} {built : Nat → Bool} (state : Built pool built) (device : Nat) (input : Input) :
    Built (pool.callback device input) fun index => built index || rebuilds index pool (.callback device input) := by
  cases live : pool.device device with
  | none =>
    rw [callback_absent live]
    simpa [rebuilds, live] using state
  | some asked =>
    obtain ⟨kept, found, same⟩ := device_some live
    have inside := (List.getElem?_eq_some_iff.mp found).1
    rw [callback_held live]
    refine ⟨fun index after held => ?_, fun index missing => ?_⟩
    · by_cases here : device = index
      · subst here
        obtain rfl : asked.step input = after := by simpa [inside] using held
        have before : if built device then asked.EdidCurrent else asked.context.displayModes = [] ∧ asked.context.edid = [] := by
          rw [same]
          exact state.edid device kept found
        simpa [rebuilds, live] using step_edid input before
      · rw [List.getElem?_set_ne here] at held
        simpa [rebuilds, here] using state.edid index after held
    · have none : pool.devices[index]? = none := by simpa using missing
      have apart : device ≠ index := by
        rintro rfl
        rw [found] at none
        cases none
      simpa [rebuilds, apart] using state.absent index none

theorem step_built {pool : Pool} {built : Nat → Bool} (state : Built pool built) (event : PoolEvent) :
    Built (pool.step event) fun index => built index || rebuilds index pool event := by
  cases event with
  | createDevice creation =>
    simp only [rebuilds, Bool.or_false, step, createDevice]
    split
    · exact state.congr rfl
    · refine ⟨fun index device held => ?_, fun index missing => state.absent index ?_⟩
      · rw [List.getElem?_append] at held
        split at held
        next => exact state.edid index device held
        next beyond =>
          obtain rfl := List.mem_singleton.mp (List.mem_of_getElem? held)
          rw [state.absent index (List.getElem?_eq_none (Nat.le_of_not_lt beyond))]
          exact ⟨rfl, rfl⟩
      · rw [List.getElem?_eq_none_iff, List.length_append] at missing
        exact List.getElem?_eq_none (by omega)
  | callback device input => exact callback_built state device input
  | cleanup device =>
    simp only [rebuilds, Bool.or_false]
    exact state.congr rfl
  | edit registry =>
    simp only [rebuilds, Bool.or_false]
    exact state.congr rfl

theorem run_built {pool : Pool} {built : Nat → Bool} (state : Built pool built) (events : List PoolEvent) :
    Built (run step pool events) fun index => built index || rebuiltSince index pool events := by
  induction events generalizing pool built with
  | nil => simpa [rebuiltSince] using state
  | cons event rest ih =>
    have later := ih (step_built state event)
    simpa only [run_cons, rebuiltSince, Bool.or_assoc] using later

theorem reached_built (registry : Registry) (events : List PoolEvent) :
    Built (run step (initial registry) events) fun index => rebuiltSince index (initial registry) events := by
  have none : Built (initial registry) fun _ => false := ⟨fun index device held => by simp [initial] at held, fun _ _ => rfl⟩
  simpa only [Bool.false_or] using run_built none events

theorem Built.edid_eq {pool : Pool} {built : Nat → Bool} (state : Built pool built) {index : Nat} {device : Device}
    (held : pool.devices[index]? = some device) :
    device.context.edid = if built index then build (pool.displayModes index) else [] := by
  have current := state.edid index device held
  have shows : pool.displayModes index = device.context.displayModes := by simp [displayModes, held]
  cases rebuilt : built index with
  | true =>
    rw [rebuilt, if_pos rfl] at current
    rw [if_pos rfl, shows]
    exact current
  | false =>
    rw [rebuilt, if_neg Bool.false_ne_true] at current
    rw [if_neg Bool.false_ne_true]
    exact current.2

/-- The monitors that a device has made so far. -/
def monitorCount (pool : Pool) (index : Nat) : Nat := (pool.devices[index]?.map (·.iddCx.monitors.length)).getD 0

/-- A monitor has been there before, or it is new and described by the EDID of its device. -/
theorem step_descriptions {pool : Pool} (event : PoolEvent) {index : Nat} {after : Device}
    (held : (pool.step event).devices[index]? = some after) {handle : Nat} {description : List UInt8}
    (described : after.descriptions[handle]? = some description) :
    (∃ before, pool.devices[index]? = some before ∧ before.descriptions[handle]? = some description) ∨
      pool.monitorCount index ≤ handle ∧ description = after.context.edid := by
  cases event with
  | createDevice creation =>
    simp only [step, createDevice] at held
    split at held
    · exact .inl ⟨after, held, described⟩
    · rw [List.getElem?_append] at held
      split at held
      · exact .inl ⟨after, held, described⟩
      · obtain rfl := List.mem_singleton.mp (List.mem_of_getElem? held)
        cases described
  | cleanup device => exact .inl ⟨after, held, described⟩
  | callback device input =>
    cases live : pool.device device with
    | none =>
      rw [step, callback_absent live] at held
      exact .inl ⟨after, held, described⟩
    | some asked =>
      obtain ⟨kept, found, same⟩ := device_some live
      have inside := (List.getElem?_eq_some_iff.mp found).1
      have stepped : (pool.step (.callback device input)).devices = pool.devices.set device (asked.step input) := by
        rw [step, callback_held live]
      by_cases here : device = index
      · subst here
        obtain rfl : asked.step input = after := by simpa [stepped, inside] using held
        rcases (Device.step_describes asked input).cases described with earlier | ⟨new, fresh⟩
        · exact .inl ⟨kept, found, by simpa [same, Device.descriptions] using earlier⟩
        · refine .inr ⟨?_, fresh⟩
          simpa [monitorCount, found, same, Device.descriptions] using new
      · rw [stepped, List.getElem?_set_ne here] at held
        exact .inl ⟨after, held, described⟩
  | edit registry => exact .inl ⟨after, held, described⟩

/-- The last of the events `made` has made this monitor of the device. -/
structure Created (pool : Pool) (events made : List PoolEvent) (index handle : Nat) : Prop where
  step : ∃ done event, made = done ++ [event] ∧ (run step pool done).monitorCount index ≤ handle ∧
    handle < (run step pool made).monitorCount index
  begins : made <+: events

theorem run_descriptions (registry : Registry) (events : List PoolEvent) {index : Nat} {device : Device}
    (held : (run step (initial registry) events).devices[index]? = some device) {handle : Nat} {description : List UInt8}
    (described : device.descriptions[handle]? = some description) :
    ∃ made, Created (initial registry) events made index handle ∧
      description = if rebuiltSince index (initial registry) made then
        build ((run Pool.step (initial registry) made).displayModes index) else [] := by
  induction events using List.reverseRecOn generalizing device with
  | nil => cases held
  | append_singleton done event ih =>
    have whole : run Pool.step (initial registry) (done ++ [event]) = (run Pool.step (initial registry) done).step event :=
      run_append ..
    have stepped := held
    rw [whole] at stepped
    rcases step_descriptions event stepped described with ⟨before, found, earlier⟩ | ⟨new, fresh⟩
    · obtain ⟨made, created, same⟩ := ih found earlier
      exact ⟨made, ⟨created.step, created.begins.trans (List.prefix_append done [event])⟩, same⟩
    · refine ⟨done ++ [event], ⟨⟨done, event, rfl, new, ?_⟩, List.prefix_rfl⟩, ?_⟩
      · obtain ⟨inside, _⟩ := List.getElem?_eq_some_iff.mp described
        simpa [monitorCount, held, Device.descriptions] using inside
      · rw [fresh, (reached_built registry (done ++ [event])).edid_eq held]

/-- Whatever is called on which device, the devices of a process are one configuration and the
lists that each has last been built from. The EDID of a device is that of its list, and each
of its monitors is described by the EDID the device had when it made the monitor; both are
empty as long as the device has not been built. -/
theorem pool_advertises (registry : Registry) (events : List PoolEvent) :
    let reached (done : List PoolEvent) : Pool := run step (initial registry) done
    let edid (index : Nat) (done : List PoolEvent) : List UInt8 :=
      if rebuiltSince index (initial registry) done then build ((reached done).displayModes index) else []
    (reached events).shared =
      run SharedAdvertised.step ⟨registry.configuration, []⟩ (seen step advert (initial registry) events) ∧
    ∀ (index : Nat) (device : Device), (reached events).devices[index]? = some device →
      device.context.edid = edid index events ∧
      ∀ handle monitor, device.iddCx.monitors[handle]? = some monitor →
        ∃ made, Created (initial registry) events made index handle ∧ monitor.description = edid index made := by
  intro reached edid
  refine ⟨run_shared (initial registry) events, fun index device held => ?_⟩
  refine ⟨(reached_built registry events).edid_eq held, fun handle monitor found => ?_⟩
  have described : device.descriptions[handle]? = some monitor.description := by
    rw [Device.descriptions, List.getElem?_map, found]
    rfl
  exact run_descriptions registry events held described

section
variable {pool : Pool} {asker : Nat} {asking : Device} (live : pool.device asker = some asking) (width height : Int32) (asked : World)
  (stored : (asked.write.created && asked.write.stored) = true) (readable : asking.registry.canQuery = true)
  (request : Device.RequestInRange width height)
include live stored readable request

/-- What is left in the registry is what the asked device shows. -/
theorem asked_configuration :
    (pool.callback asker ⟨.setResolution width height, asked⟩).registry.configuration.rebuilt.shown =
      asking.requestedMode width height :: (configured asking.registry.api).map unprefer := by
  have remembered : (asking.step ⟨.setResolution width height, asked⟩).registry.configuration =
      asking.registry.configuration.remember width height (asked.write.created && asked.write.stored) :=
    congrArg Advertised.toConfiguration (Device.step_advertised asking ⟨.setResolution width height, asked⟩)
  rw [stored, Device.remember_stored _ readable request] at remembered
  rw [callback_held live]
  exact congrArg (fun configuration => configuration.rebuilt.shown) remembered

theorem asked_displayModes (index : Nat) :
    (pool.callback asker ⟨.setResolution width height, asked⟩).displayModes index =
      if index = asker then asking.requestedMode width height :: (configured asking.registry.api).map unprefer
      else pool.displayModes index := by
  rw [callback_displayModes, live]
  by_cases here : asker = index
  · rw [if_pos here, if_pos here.symm]
    exact Device.quiet_advertised asking width height asked stored readable request [] (by simp)
  · rw [if_neg here, if_neg (Ne.symm here)]

theorem asked_quiet (after : List PoolEvent) (quiet : ∀ event ∈ after, Quiet event) (index : Nat) :
    (run step (pool.callback asker ⟨.setResolution width height, asked⟩) after).displayModes index =
      if index = asker ∨ rebuiltSince index (pool.callback asker ⟨.setResolution width height, asked⟩) after = true then
        asking.requestedMode width height :: (configured asking.registry.api).map unprefer
      else pool.displayModes index := by
  rw [run_pool_quiet _ after quiet, asked_configuration live width height asked stored readable request,
    asked_displayModes live width height asked stored readable request]
  by_cases here : index = asker
  · simp [here]
  · simp [here]

end

theorem Built.listed_edid {pool : Pool} {built : Nat → Bool} (state : Built pool built) {index : Nat} {device : Device}
    (held : pool.devices[index]? = some device) (some_mode : pool.displayModes index ≠ []) :
    device.context.edid = build (pool.displayModes index) := by
  have current := state.edid index device held
  have shows : pool.displayModes index = device.context.displayModes := by simp [displayModes, held]
  split at current
  next =>
    rw [shows]
    exact current
  next => exact absurd (shows.trans current.1) some_mode

/-- A request one device has stored is shown by that device at once and by every other from
the time it is built anew; the others keep to their lists, and so does what is reported for
any monitor if the pointer names one of them. -/
theorem request_shared (registry : Registry) (before after : List PoolEvent) (asker : Nat) (asking : Device) (width height : Int32)
    (asked : World) (live : (run step (initial registry) before).device asker = some asking)
    (stored : (asked.write.created && asked.write.stored) = true) (readable : asking.registry.canQuery = true)
    (request : Device.RequestInRange width height) (quiet : ∀ event ∈ after, Quiet event) (index : Nat) :
    let leading := asking.requestedMode width height :: (configured asking.registry.api).map unprefer
    let told := (run step (initial registry) before).step (.callback asker ⟨.setResolution width height, asked⟩)
    let reached := run step told after
    let shown := if index = asker ∨ rebuiltSince index told after = true then leading
      else (run step (initial registry) before).displayModes index
    reached.displayModes index = shown ∧
    (∀ device, reached.devices[index]? = some device → shown ≠ [] → device.context.edid = build shown) ∧
    (reached.host.wdfDevice = some index → ∀ buffer, reached.parseMonitorDescription buffer =
      .ok (QubesIdd.parseMonitorDescription shown buffer)) := by
  have current := reached_built registry before
  generalize run step (initial registry) before = pool at live current ⊢
  intro leading told reached shown
  have listed : reached.displayModes index = shown := asked_quiet live width height asked stored readable request after quiet index
  have still := run_built (step_built current (.callback asker ⟨.setResolution width height, asked⟩)) after
  refine ⟨listed, ?_, ?_⟩
  · intro device held some_mode
    rw [← listed] at some_mode ⊢
    exact still.listed_edid held some_mode
  · intro named buffer
    rw [← listed]
    simp only [parseMonitorDescription, HostProcess.parseMonitorDescription, named]

private def woken : List PoolEvent :=
  [.createDevice {}, .createDevice {}, .callback 0 ⟨.d0Entry, {}⟩, .callback 1 ⟨.d0Entry, {}⟩]

/-- The second device has the request of the first in its list once it wakes up again. -/
theorem request_shared_pair :
    let told := (run step (initial ⟨none, true⟩) woken).step (.callback 0 ⟨.setResolution 1024 768, {}⟩)
    (run step told [.callback 1 ⟨.d0Entry, {}⟩]).displayModes 1 =
      ⟨1024, 768, 60, true⟩ :: (configured (Registry.api ⟨none, true⟩)).map unprefer := by
  intro told
  have shared := request_shared ⟨none, true⟩ woken [.callback 1 ⟨.d0Entry, {}⟩] 0 (Device.start {} ⟨none, true⟩) 1024 768 {}
    rfl rfl rfl ⟨by decide, by decide⟩ (by simp [Quiet, Device.advert, Advert.Quiet]) 1
  refine shared.1.trans ((if_pos (.inr ?_)).trans (by decide))
  rfl

end Pool
end QubesIdd
