import QubesIdd.Proofs.ModeAssembly
import QubesIdd.Proofs.Resolution
import QubesIdd.Proofs.TimingLayout

/-! What the driver is there for, over the life of a machine: the last request leads
the configured modes, survives every restart, and is what monitors are described by. -/

namespace QubesIdd
open CSettings CEdid Library Library.Runs

inductive LifeEvent where
  | callback (input : Input)
  | restart (world : World)
  | edit (registry : Registry)

namespace Device

/-- A new context, up to the end of the `EvtDeviceD0Entry` that every start begins with. -/
def start (world : World) (registry : Registry) : Device := (initial registry).step ⟨.d0Entry, world⟩

/-- Editing the registry tells the driver nothing. -/
def live (device : Device) : LifeEvent → Device
  | .callback input => device.step input
  | .restart world => start world device.registry
  | .edit registry => { device with registry }

end Device

def LifeEvent.restarts : LifeEvent → Bool
  | .restart _ => true
  | _ => false

/-- What the registry says: the request kept in it, the modes listed without one, and
what a new request is completed with. -/
structure Configuration where
  extra : Option DisplayMode
  listed : DisplayModes
  defaultRefresh : UInt32
  readable : Bool

/-- `shown` is the list that is given out. -/
structure Advertised extends Configuration where
  shown : DisplayModes

inductive Advert where
  | request (width height : Int32) (stored : Bool)
  | rebuild
  | edit (configuration : Configuration)
  | idle

instance (width height : Int32) : Decidable (Device.RequestInRange width height) := by
  unfold Device.RequestInRange
  infer_instance

/-- The request in force and the configured modes stay as they are. -/
def Advert.Quiet : Advert → Prop
  | .request .. | .edit _ => False
  | .rebuild | .idle => True

namespace Configuration

def ask (width height : Int32) (configuration : Configuration) : DisplayMode :=
  ⟨width.toUInt32, height.toUInt32, configuration.defaultRefresh, true⟩

/-- A request that is stored replaces the one before, even by nothing. -/
def remember (width height : Int32) (stored : Bool) (configuration : Configuration) : Configuration :=
  if stored && configuration.readable then
    { configuration with extra := if Device.RequestInRange width height then some (configuration.ask width height) else none }
  else configuration

def rebuilt (configuration : Configuration) : Advertised :=
  { configuration with shown := displace configuration.extra configuration.listed }

end Configuration

def Registry.configuration (registry : Registry) : Configuration where
  extra := extraMode? registry.api
  listed := configured registry.api
  defaultRefresh := getDefaultRefresh registry.api
  readable := registry.canQuery

namespace Advertised

def step (advertised : Advertised) : Advert → Advertised
  | .request width height stored => (advertised.remember width height stored).rebuilt
  | .rebuild => advertised.rebuilt
  | .edit configuration => { advertised with toConfiguration := configuration }
  | .idle => advertised

theorem run_quiet (configuration : Configuration) (adverts : List Advert) (quiet : ∀ advert ∈ adverts, advert.Quiet) :
    run step configuration.rebuilt adverts = configuration.rebuilt := by
  induction adverts with
  | nil => rfl
  | cons advert rest ih =>
    have later := ih fun other member => quiet other (List.mem_cons_of_mem _ member)
    have now := quiet advert List.mem_cons_self
    cases advert with
    | request | edit => exact now.elim
    | rebuild | idle => exact later

end Advertised

namespace Device

/-- `D0Entry` and every request build the list and the EDID anew. -/
def rebuilds (input : Input) : Bool :=
  match input.callback with
  | .d0Entry | .setResolution _ _ => true
  | _ => false

/-- Only these two callbacks change the list or the EDID, and both at once. -/
theorem step_rebuilds (device : Device) (input : Input) :
    let after := device.step input
    after.context.displayModes =
      (if rebuilds input then loadModes after.registry.api input.world.scratch else device.context.displayModes) ∧
    after.context.edid = if rebuilds input then build after.context.displayModes else device.context.edid := by
  obtain ⟨callback, world⟩ := input
  cases callback with
  | d0Entry =>
    obtain ⟨_, _, _, _, _, same⟩ := initAdapter_frame world device
    simp only [step, same]
    exact ⟨rfl, rfl⟩
  | adapterInitFinished success =>
    obtain ⟨_, _, _, same⟩ := adapterInitFinished_frame world success device
    simp only [step, same]
    exact ⟨rfl, rfl⟩
  | replugMonitor =>
    obtain ⟨_, _, _, _, same⟩ := replugMonitor_frame world device
    simp only [step, same]
    exact ⟨rfl, rfl⟩
  | setResolution width height =>
    obtain ⟨_, _, _, _, _, _, same⟩ := setResolution_frame world width height device
    simp only [step, same]
    exact ⟨rfl, rfl⟩
  | assignSwapChain monitor =>
    obtain ⟨_, _, same⟩ := monitorAssignSwapChain_frame monitor device
    simp only [step, same]
    exact ⟨rfl, rfl⟩
  | unassignSwapChain monitor =>
    obtain ⟨_, _, _, same⟩ := monitorUnassignSwapChain_frame world monitor device
    simp only [step, same]
    exact ⟨rfl, rfl⟩
  | swapChainLost =>
    simp only [step, onSwapChainLost]
    split
    · exact ⟨rfl, rfl⟩
    · exact ⟨rfl, rfl⟩
  | lgmpTimer => exact ⟨rfl, rfl⟩

/-- What the driver has told the system of the machine so far. -/
def advertised (device : Device) : Advertised :=
  { device.registry.configuration with shown := device.context.displayModes }

def advert (input : Input) : Advert :=
  match input.callback with
  | .d0Entry => .rebuild
  | .setResolution width height => .request width height (input.world.write.created && input.world.write.stored)
  | _ => .idle

theorem setExtraMode_configuration (world : World) (width height : Int32) (device : Device) :
    (setExtraMode (device.requestedMode width height) world.write device.registry).configuration =
      device.registry.configuration.remember width height (world.write.created && world.write.stored) := by
  have listed := configured_setExtraMode (device.requestedMode width height) world.write device.registry
  have refresh := getDefaultRefresh_setExtraMode (device.requestedMode width height) world.write device.registry
  have readable := setExtraMode_canQuery (device.requestedMode width height) world.write device.registry
  have extra : extraMode? (setExtraMode (device.requestedMode width height) world.write device.registry).api =
      (device.registry.configuration.remember width height (world.write.created && world.write.stored)).extra := by
    unfold Configuration.remember
    cases stored : world.write.created && world.write.stored with
    | false => exact extraMode_unstored _ _ _ stored
    | true =>
      cases opened : device.registry.canQuery with
      | false =>
        rw [extraMode_unreadable _ (readable.trans opened)]
        simp [Registry.configuration, opened, extraMode_unreadable]
      | true =>
        rw [extraMode_stored _ _ _ stored opened]
        have range := (DisplayMode.inRange_iff_sane _).symm.trans (requestedMode_inRange width height device)
        simp only [Registry.configuration, opened, Bool.and_self, if_true]
        by_cases inside : RequestInRange width height
        · rw [if_neg (range.mpr inside), if_pos inside]
          rfl
        · rw [if_pos (not_not.mp (mt range.mp inside)), if_neg inside]
  simp only [Registry.configuration, listed, refresh, readable, extra]
  unfold Configuration.remember
  split <;> rfl

theorem step_advertised (device : Device) (input : Input) :
    (device.step input).advertised = device.advertised.step (advert input) := by
  obtain ⟨shown, _⟩ := step_rebuilds device input
  have registry := (step_effect device input).registry
  obtain ⟨callback, world⟩ := input
  unfold advertised
  rw [shown]
  cases callback with
  | d0Entry =>
    rw [registry]
    simp only [rebuilds, if_true, loadModes_displace]
    rfl
  | setResolution width height =>
    rw [registry]
    simp only [rebuilds, if_true, loadModes_displace]
    exact congrArg Configuration.rebuilt (setExtraMode_configuration world width height device)
  | adapterInitFinished | replugMonitor | assignSwapChain | unassignSwapChain | swapChainLost | lgmpTimer =>
    rw [registry]
    rfl

/-- What every monitor of this start was described by, in the order of creation. -/
def descriptions (device : Device) : List (List UInt8) := device.iddCx.monitors.map Monitor.description

theorem descriptions_modify (monitors : List Monitor) (monitor : Nat) (change : Monitor → Monitor)
    (kept : ∀ held, (change held).description = held.description) :
    (monitors.modify monitor change).map Monitor.description = monitors.map Monitor.description := by
  induction monitors generalizing monitor with
  | nil => simp
  | cons first rest ih => cases monitor <;> simp [kept, ih]

/-- New monitors are described by the EDID of the context. -/
def Describes (device after : Device) : Prop :=
  ∃ created, after.descriptions = device.descriptions ++ created ∧ ∀ description ∈ created, description = after.context.edid

theorem Describes.none {device after : Device} (same : after.descriptions = device.descriptions) : Describes device after :=
  ⟨[], by simp [same], by simp⟩

theorem finishInit_describes (world : World) (connectorIndex : Nat) (device : Device) :
    Describes device (device.finishInit world connectorIndex) := by
  unfold finishInit
  cases world.monitorCreate with
  | false => exact .none rfl
  | true =>
    refine ⟨[device.context.edid], ?_, ?_⟩
    · cases world.monitorArrival with
      | false => simp [descriptions, IddCx.monitorCreate]
      | true =>
        simp only [descriptions, IddCx.monitorCreate, IddCx.monitorArrival, Bool.not_true, Bool.false_eq_true, if_false]
        rw [descriptions_modify _ _ (fun monitor => { monitor with status := .arrived }) fun _ => rfl]
        simp
    · cases world.monitorArrival <;> simp [IddCx.monitorArrival]

theorem replugMonitor_describes (world : World) (device : Device) : Describes device (device.replugMonitor world) := by
  unfold replugMonitor
  dsimp only
  split
  next => exact finishInit_describes world 0 (device.log .replugMonitor)
  next monitor _ =>
    split
    next => exact .none rfl
    next =>
      split
      next => exact .none (descriptions_modify _ _ (fun monitor => { monitor with status := .departed }) fun _ => rfl)
      next => exact .none rfl

theorem setAssigned_descriptions (monitor : Nat) (assigned : Bool) (device : Device) :
    { device with iddCx := device.iddCx.setAssigned monitor assigned }.descriptions = device.descriptions :=
  descriptions_modify _ _ (fun held => { held with assigned }) fun _ => rfl

theorem step_describes (device : Device) (input : Input) : Describes device (device.step input) := by
  obtain ⟨callback, world⟩ := input
  cases callback with
  | d0Entry =>
    obtain ⟨_, _, _, _, _, same⟩ := initAdapter_frame world device
    simp only [step, same]
    exact .none rfl
  | adapterInitFinished success =>
    cases success with
    | false => exact .none rfl
    | true => exact finishInit_describes world 0 { device with iddCx := { device.iddCx with initPending := _ } }
  | replugMonitor => exact replugMonitor_describes world device
  | setResolution width height =>
    cases updated : device.updates world with
    | true =>
      obtain ⟨_, _, same⟩ := setResolution_updated world width height device updated
      simp only [step, same]
      exact .none rfl
    | false =>
      obtain ⟨handed, _, same⟩ := setResolution_refused world width height device updated
      simp only [step, same]
      exact replugMonitor_describes world { storeRequest world width height device with
        context := { (storeRequest world width height device).context with
          doSetMode := true, recoverModeUpdateSwapChain := false }
        calls := device.calls ++ handed }
  | assignSwapChain monitor =>
    obtain ⟨_, _, same⟩ := monitorAssignSwapChain_frame monitor device
    simp only [step, same]
    exact .none (setAssigned_descriptions monitor true device)
  | unassignSwapChain monitor =>
    have assigned := setAssigned_descriptions monitor false device
    simp only [step, monitorUnassignSwapChain, onUnassignedSwapChain]
    split
    next =>
      obtain ⟨created, described, fresh⟩ := finishInit_describes world 0 { device with
        context := { device.context with
          replugMonitor := false, replugMonitorQueued := false, recoverModeUpdateSwapChain := false }
        iddCx := device.iddCx.setAssigned monitor false }
      exact ⟨created, described.trans (congrArg (· ++ created) assigned), fresh⟩
    next => exact .none assigned
  | swapChainLost =>
    simp only [step, onSwapChainLost]
    split
    · exact .none rfl
    · exact .none rfl
  | lgmpTimer => exact .none rfl

end Device

def LifeEvent.advert : LifeEvent → Advert
  | .callback input => Device.advert input
  | .restart _ => .rebuild
  | .edit registry => .edit registry.configuration

namespace Device

theorem live_advertised (device : Device) (event : LifeEvent) :
    (device.live event).advertised = device.advertised.step event.advert := by
  cases event with
  | callback input => exact step_advertised device input
  | restart world => exact step_advertised (initial device.registry) ⟨.d0Entry, world⟩
  | edit registry => rfl

theorem run_advertised (device : Device) (events : List LifeEvent) :
    (run live device events).advertised = run Advertised.step device.advertised (events.map LifeEvent.advert) := by
  rw [run_simulates advertised live_advertised, seen_map]

theorem start_advertised (world : World) (registry : Registry) :
    (start world registry).advertised = registry.configuration.rebuilt :=
  step_advertised (initial registry) ⟨.d0Entry, world⟩

def EdidCurrent (device : Device) : Prop := device.context.edid = build device.context.displayModes

theorem step_edidCurrent (device : Device) (input : Input) (current : device.EdidCurrent ∨ rebuilds input = true) :
    (device.step input).EdidCurrent := by
  obtain ⟨shown, edid⟩ := step_rebuilds device input
  unfold EdidCurrent
  cases rebuilt : rebuilds input with
  | true => simpa [rebuilt] using edid
  | false =>
    have before := current.resolve_right (by simp [rebuilt])
    simp only [rebuilt, Bool.false_eq_true, if_false] at shown edid
    rw [edid, shown]
    exact before

theorem live_edidCurrent (device : Device) (event : LifeEvent) (current : device.EdidCurrent) :
    (device.live event).EdidCurrent := by
  cases event with
  | callback input => exact step_edidCurrent device input (.inl current)
  | restart world => exact step_edidCurrent (initial device.registry) ⟨.d0Entry, world⟩ (.inr rfl)
  | edit registry => exact current

theorem start_edidCurrent (world : World) (registry : Registry) : (start world registry).EdidCurrent :=
  step_edidCurrent (initial registry) ⟨.d0Entry, world⟩ (.inr rfl)

/-- A monitor has been there before, or it is new and described by the EDID. -/
theorem Describes.cases {device after : Device} (describes : Describes device after) {index : Nat} {description : List UInt8}
    (held : after.descriptions[index]? = some description) :
    device.descriptions[index]? = some description ∨
      device.descriptions.length ≤ index ∧ description = after.context.edid := by
  obtain ⟨created, same, fresh⟩ := describes
  rw [same] at held
  rcases Nat.lt_or_ge index device.descriptions.length with old | new
  · rw [List.getElem?_append_left old] at held
    exact .inl held
  · rw [List.getElem?_append_right new] at held
    exact .inr ⟨new, fresh description (List.mem_of_getElem? held)⟩

theorem start_descriptions (world : World) (registry : Registry) : (start world registry).descriptions = [] := by
  obtain ⟨_, _, _, _, _, same⟩ := initAdapter_frame world (initial registry)
  simp only [start, step, same]
  rfl

theorem live_descriptions (device : Device) (event : LifeEvent) {index : Nat} {description : List UInt8}
    (held : (device.live event).descriptions[index]? = some description) :
    event.restarts = false ∧ device.descriptions[index]? = some description ∨
      device.descriptions.length ≤ index ∧ description = (device.live event).context.edid := by
  cases event with
  | callback input => exact ((step_describes device input).cases held).imp_left fun old => ⟨rfl, old⟩
  | restart world =>
    have none : (device.live (.restart world)).descriptions = [] := start_descriptions world device.registry
    rw [none] at held
    cases held
  | edit registry => exact .inl ⟨rfl, held⟩

/-- The last of the events `made` has made the monitor, and no restart has come since. -/
structure Created (device : Device) (events made : List LifeEvent) (index : Nat) : Prop where
  step : ∃ done event, made = done ++ [event] ∧ (run live device done).iddCx.monitors.length ≤ index ∧
    index < (run live device made).iddCx.monitors.length
  since : ∃ rest, events = made ++ rest ∧ ∀ event ∈ rest, event.restarts = false

/-- A monitor has been there before, or its description tells of the list shown at the step
that has made it. -/
theorem run_descriptions (device : Device) (events : List LifeEvent) (current : device.EdidCurrent) {index : Nat}
    {description : List UInt8} (held : (run live device events).descriptions[index]? = some description) :
    (∀ event ∈ events, event.restarts = false) ∧ device.descriptions[index]? = some description ∨
      ∃ made, Created device events made index ∧ description = build (run live device made).context.displayModes := by
  induction events using List.reverseRecOn with
  | nil => exact .inl ⟨by simp, held⟩
  | append_singleton done event ih =>
    have whole : run live device (done ++ [event]) = (run live device done).live event := run_append ..
    rw [whole] at held
    rcases live_descriptions _ event held with ⟨stays, old⟩ | ⟨new, fresh⟩
    · rcases ih old with ⟨never, before⟩ | ⟨made, created, same⟩
      · refine .inl ⟨fun other member => ?_, before⟩
        rcases List.mem_append.mp member with earlier | last
        · exact never other earlier
        · exact List.mem_singleton.mp last ▸ stays
      · obtain ⟨rest, split, since⟩ := created.since
        refine .inr ⟨made, ⟨created.step, rest ++ [event], by rw [split, List.append_assoc], fun other member => ?_⟩, same⟩
        rcases List.mem_append.mp member with earlier | last
        · exact since other earlier
        · exact List.mem_singleton.mp last ▸ stays
    · refine .inr ⟨done ++ [event], ⟨⟨done, event, rfl, ?_, ?_⟩, [], (List.append_nil _).symm, by simp⟩, ?_⟩
      · rwa [descriptions, List.length_map] at new
      · obtain ⟨inside, _⟩ := List.getElem?_eq_some_iff.mp held
        rw [whole]
        rwa [descriptions, List.length_map] at inside
      · rw [fresh, whole]
        exact live_edidCurrent _ event (run_preserves EdidCurrent live_edidCurrent device done current)

theorem start_run_descriptions (world : World) (registry : Registry) (events : List LifeEvent) {index : Nat} {monitor : Monitor}
    (held : (run live (start world registry) events).iddCx.monitors[index]? = some monitor) :
    ∃ made, Created (start world registry) events made index ∧
      monitor.description = build (run live (start world registry) made).context.displayModes := by
  have described : (run live (start world registry) events).descriptions[index]? = some monitor.description := by
    rw [descriptions, List.getElem?_map, held]
    rfl
  refine (run_descriptions _ events (start_edidCurrent world registry) described).resolve_left ?_
  rintro ⟨_, before⟩
  rw [start_descriptions] at before
  cases before

/-- Over any life the driver shows what the abstract list shows, its EDID tells of that
list, and every monitor it has made since the last start of the list it showed then. -/
theorem life_advertises (world : World) (registry : Registry) (events : List LifeEvent) :
    let shown (done : List LifeEvent) : Advertised :=
      run Advertised.step registry.configuration.rebuilt (done.map LifeEvent.advert)
    let reached := run live (start world registry) events
    reached.advertised = shown events ∧ reached.context.edid = build (shown events).shown ∧
    ∀ index monitor, reached.iddCx.monitors[index]? = some monitor →
      ∃ made, Created (start world registry) events made index ∧ monitor.description = build (shown made).shown := by
  intro shown reached
  have refines (done : List LifeEvent) : (run live (start world registry) done).advertised = shown done := by
    rw [run_advertised, start_advertised]
  have current : reached.EdidCurrent := run_preserves EdidCurrent live_edidCurrent _ events (start_edidCurrent world registry)
  refine ⟨refines events, ?_, ?_⟩
  · rw [← refines events]
    exact current
  · intro index monitor held
    obtain ⟨made, created, same⟩ := start_run_descriptions world registry events held
    refine ⟨made, created, ?_⟩
    rw [← refines made]
    exact same

theorem remember_stored (configuration : Configuration) (readable : configuration.readable = true) {width height : Int32}
    (request : RequestInRange width height) :
    configuration.remember width height true = { configuration with extra := some (configuration.ask width height) } := by
  simp [Configuration.remember, readable, request]

/-- What follows a stored request shows the same list, whatever is done with it. -/
theorem quiet_advertised (asking : Device) (width height : Int32) (asked : World)
    (stored : (asked.write.created && asked.write.stored) = true) (readable : asking.registry.canQuery = true)
    (request : RequestInRange width height) (after : List LifeEvent) (quiet : ∀ event ∈ after, event.advert.Quiet) :
    (run live (asking.step ⟨.setResolution width height, asked⟩) after).context.displayModes =
      asking.requestedMode width height :: (configured asking.registry.api).map unprefer := by
  have requested : (asking.step ⟨.setResolution width height, asked⟩).advertised =
      (asking.registry.configuration.remember width height true).rebuilt := by
    rw [step_advertised, ← stored]
    rfl
  have unchanged : (run live (asking.step ⟨.setResolution width height, asked⟩) after).advertised =
      (asking.registry.configuration.remember width height true).rebuilt := by
    rw [run_advertised, requested]
    apply Advertised.run_quiet
    intro advert member
    obtain ⟨event, inside, rfl⟩ := List.mem_map.mp member
    exact quiet event inside
  rw [remember_stored _ readable request] at unchanged
  exact congrArg Advertised.shown unchanged

/-- What is made after a first event is made by it or by what follows it. -/
theorem Created.begins {device : Device} {first : LifeEvent} {after made : List LifeEvent} {index : Nat}
    (created : Created device (first :: after) made index) : ∃ inside, made = first :: inside ∧ inside <+: after := by
  obtain ⟨done, event, rfl, _⟩ := created.step
  obtain ⟨rest, whole, _⟩ := created.since
  cases done with
  | nil => exact ⟨[], by rw [List.nil_append, (List.cons.inj whole).1], List.nil_prefix⟩
  | cons head done =>
    obtain ⟨rfl, tail⟩ := List.cons.inj whole
    exact ⟨done ++ [event], rfl, rest, tail.symm⟩

/-- A request that is in range and stored leads the list from then on, through every
restart, until the next request or an edit of the registry. Monitors that the device did not
have before are described by it. -/
theorem request_persists (world : World) (registry : Registry) (before after : List LifeEvent) (width height : Int32)
    (asked : World) (stored : (asked.write.created && asked.write.stored) = true)
    (readable : (run live (start world registry) before).registry.canQuery = true) (request : RequestInRange width height)
    (quiet : ∀ event ∈ after, event.advert.Quiet) :
    let asking := run live (start world registry) before
    let mode := asking.requestedMode width height
    let reached := run live (start world registry) (before ++ .callback ⟨.setResolution width height, asked⟩ :: after)
    (mode.width.toNat = width.toInt ∧ mode.height.toNat = height.toInt) ∧
    reached.context.displayModes = mode :: (configured asking.registry.api).map unprefer ∧
    (∀ buffer, (parseMonitorDescription reached.context.displayModes buffer).preferredIdx = 0) ∧
    (accepts mode = true → Edid.descriptor reached.context.edid 0 = (timingBytes mode).toList) ∧
    ∀ index monitor, reached.iddCx.monitors[index]? = some monitor →
      (∀ event ∈ after, event.restarts = false) ∧ index < asking.iddCx.monitors.length ∨
        monitor.description = reached.context.edid := by
  intro asking mode reached
  have later (done : List LifeEvent) (inside : done <+: after) :=
    quiet_advertised asking width height asked stored readable request done fun event member => quiet event (inside.subset member)
  have split : reached = run live (asking.step ⟨.setResolution width height, asked⟩) after := run_append ..
  have listed : reached.context.displayModes = mode :: (configured asking.registry.api).map unprefer :=
    split ▸ later after List.prefix_rfl
  have current : reached.EdidCurrent := run_preserves EdidCurrent live_edidCurrent _ _ (start_edidCurrent world registry)
  have edid : reached.context.edid = build (mode :: (configured asking.registry.api).map unprefer) := listed ▸ current
  have wide : 0 ≤ width.toInt := le_trans (by omega) request.1.1
  have high : 0 ≤ height.toInt := le_trans (by omega) request.2.1
  refine ⟨⟨toUInt32_of_nonneg width wide, toUInt32_of_nonneg height high⟩, listed, ?_, ?_, ?_⟩
  · intro buffer
    rw [listed]
    exact leading_preferredIdx mode _ buffer
  · intro accepted
    rw [edid]
    exact leading_descriptor mode _ rfl accepted
  · intro index monitor held
    have atRequest : asking.EdidCurrent := run_preserves EdidCurrent live_edidCurrent _ before (start_edidCurrent world registry)
    have described : (run live asking (.callback ⟨.setResolution width height, asked⟩ :: after)).descriptions[index]? =
        some monitor.description := by
      rw [run_cons, descriptions, List.getElem?_map]
      change (run live (asking.step ⟨.setResolution width height, asked⟩) after).iddCx.monitors[index]?.map _ = _
      rw [← split, held]
      rfl
    rcases run_descriptions asking _ atRequest described with ⟨never, old⟩ | ⟨made, created, same⟩
    · left
      obtain ⟨inside, _⟩ := List.getElem?_eq_some_iff.mp old
      rw [descriptions, List.length_map] at inside
      exact ⟨fun event member => never event (List.mem_cons_of_mem _ member), inside⟩
    · right
      obtain ⟨inside, rfl, prefixed⟩ := created.begins
      rw [same, edid, ← later inside prefixed]
      rfl

/-- Two requests in one session, a reboot, and the second is in force. -/
theorem request_persists_reboot :
    let second : LifeEvent := .callback ⟨.setResolution 800 600, {}⟩
    (run live (start {} ⟨none, true⟩)
      ([.callback ⟨.setResolution 1024 768, {}⟩] ++ second :: [.restart {}, .callback ⟨.adapterInitFinished true, {}⟩])).context.displayModes =
        ⟨800, 600, 60, true⟩ :: (configured (Registry.api ⟨none, true⟩)).map unprefer :=
  ((request_persists {} ⟨none, true⟩ [.callback ⟨.setResolution 1024 768, {}⟩]
    [.restart {}, .callback ⟨.adapterInitFinished true, {}⟩] 800 600 {} rfl rfl ⟨by decide, by decide⟩
    (by simp [LifeEvent.advert, advert, Advert.Quiet])).2.1).trans (by decide)

/-- A block tells of the best encodable modes of a list, three at most, so exactly that
size and rate can be read back. -/
structure Tells (modes : DisplayModes) (block : List UInt8) : Prop where
  length : block.length = 128
  checksum : Edid.byteSum block % 256 = 0
  timings : ∀ slot < min 3 (modes.countP accepts), ∃ mode ∈ modes,
    let timing := Edid.decodeTiming (Edid.descriptor block slot)
    mode.InRange ∧ timing.WellFormed ∧ timing.hActive = mode.width.toNat ∧ timing.vActive = mode.height.toNat ∧
      |timing.refresh - mode.refresh.toNat| < 1 / 2
  unused : ∀ slot < 3, modes.countP accepts ≤ slot → Edid.descriptor block slot = List.replicate 18 0

theorem build_tells {modes : DisplayModes} (valid : ∀ mode ∈ modes, mode.InRange) : Tells modes (build modes) where
  length := by
    rw [build, setChecksum_length]
    exact EdidBaseBlock.bytes_length _
  checksum := setChecksum_sum _ (EdidBaseBlock.bytes_length _)
  timings := by
    intro slot taken
    have inside : slot < (selected modes).length := by rw [selected_length]; omega
    have member : (selected modes)[slot] ∈ selected modes := List.getElem_mem inside
    obtain ⟨listed, accepted⟩ := List.mem_filter.mp member
    have range := valid _ (StableSort.mem.mp listed)
    obtain ⟨read, formed, _⟩ := accepted_decoded _ accepted
    rw [build_timing_selected modes slot (by omega) _ (List.getElem?_eq_getElem inside)]
    exact ⟨_, StableSort.mem.mp listed, range, read ▸ formed, decoded_size _ range.width.1 range.height.1 accepted⟩
  unused := by
    intro slot inside free
    have absent : (selected modes)[slot]? = none := by
      rw [List.getElem?_eq_none_iff, selected_length]
      exact free
    rw [build_timing modes slot inside, absent]
    rfl

def ListsInRange (device : Device) : Prop := ∀ mode ∈ device.context.displayModes, mode.InRange

theorem step_listsInRange (device : Device) (input : Input) (valid : device.ListsInRange) :
    (device.step input).ListsInRange := by
  unfold ListsInRange
  rw [(step_rebuilds device input).1]
  split
  · exact fun mode member => loadModes_inRange member
  · exact valid

theorem start_listsInRange (world : World) (registry : Registry) : (start world registry).ListsInRange :=
  step_listsInRange (initial registry) ⟨.d0Entry, world⟩ nofun

theorem live_listsInRange (device : Device) (event : LifeEvent) (valid : device.ListsInRange) :
    (device.live event).ListsInRange := by
  cases event with
  | callback input => exact step_listsInRange device input valid
  | restart world => exact start_listsInRange world device.registry
  | edit registry => exact valid

/-- Whatever is written to the registry, whatever the driver is asked and however often it
is restarted, what the system can decode from a monitor's EDID is what the driver listed when
it made the monitor. -/
theorem life_tells (world : World) (registry : Registry) (events : List LifeEvent) :
    let reached (done : List LifeEvent) : Device := run live (start world registry) done
    Tells (reached events).context.displayModes (reached events).context.edid ∧
    ∀ index monitor, (reached events).iddCx.monitors[index]? = some monitor →
      ∃ made, Created (start world registry) events made index ∧
        Tells (reached made).context.displayModes monitor.description := by
  intro reached
  have valid (done : List LifeEvent) : (reached done).ListsInRange :=
    run_preserves ListsInRange live_listsInRange _ done (start_listsInRange world registry)
  constructor
  · have current : (reached events).EdidCurrent :=
      run_preserves EdidCurrent live_edidCurrent _ events (start_edidCurrent world registry)
    rw [current]
    exact build_tells (valid events)
  · intro index monitor held
    obtain ⟨made, created, same⟩ := start_run_descriptions world registry events held
    refine ⟨made, created, ?_⟩
    rw [same]
    exact build_tells (valid made)

end Device
end QubesIdd
