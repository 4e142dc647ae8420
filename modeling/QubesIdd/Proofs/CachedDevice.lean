import QubesIdd.HostProcess
import QubesIdd.Library.Runs

/-! The device pointer of the host process: it never dangles, and it is lost with the
first cleanup of any device. -/

namespace QubesIdd.HostProcess
open Library.Runs

/-- A device whose creation succeeded and that has not been cleaned up. -/
def inUse (device : Nat) (host : HostProcess) : Bool :=
  host.devices[device]?.any fun object => object.initialized && !object.cleanedUp

structure KeepsDevice (host : HostProcess) : Prop where
  live : ∀ device, host.wdfDevice = some device → host.isLive device = true
  cached : ∀ device, host.inUse device = true → ∃ other, host.wdfDevice = some other
  parses : ∀ device modes buffer, host.inUse device = true →
    host.parseMonitorDescription modes buffer ≠ .error .STATUS_INVALID_PARAMETER

/-- The device cleaned up is the only one in use, or none is. -/
def CleansLast (host : HostProcess) (event : HostEvent) : Prop :=
  ∀ device, event = .cleanup device → host.isLive device = true →
    ∀ other, host.inUse other = true → other = device

theorem isLive_of_inUse {device : Nat} {host : HostProcess} (used : host.inUse device = true) :
    host.isLive device = true := by
  obtain ⟨object, held, both⟩ := (Option.any_eq_true _ _).mp used
  exact (Option.any_eq_true _ _).mpr ⟨object, held, (Bool.and_eq_true_iff.mp both).2⟩

/-- The pointer is a live device, unless it is null and the devices in use are cut off. -/
theorem keepsDevice_iff_cached (host : HostProcess) (live : ∀ device, host.wdfDevice = some device → host.isLive device = true) :
    host.KeepsDevice ↔ (host.wdfDevice = none → ∀ device, host.inUse device = false) := by
  constructor
  · intro keeps null device
    by_contra used
    obtain ⟨other, named⟩ := keeps.cached device (by simpa using used)
    rw [null] at named
    cases named
  · intro cut
    have cached (device : Nat) (used : host.inUse device = true) : ∃ other, host.wdfDevice = some other := by
      cases named : host.wdfDevice with
      | none => exact absurd used (by simp [cut named device])
      | some other => exact ⟨other, rfl⟩
    refine ⟨live, cached, ?_⟩
    intro device modes buffer used
    obtain ⟨other, named⟩ := cached device used
    simp [parseMonitorDescription, named]

theorem cleanup_dead {device : Nat} {host : HostProcess} (dead : host.isLive device = false) : host.cleanup device = host := by
  simp [cleanup, dead]

theorem cleanup_wdfDevice {device : Nat} {host : HostProcess} (live : host.isLive device = true) :
    (host.cleanup device).wdfDevice = none := by
  simp [cleanup, live]

theorem cleanup_inUse (device other : Nat) (host : HostProcess) :
    (host.cleanup device).inUse other = (host.inUse other && other != device) := by
  cases live : host.isLive device with
  | false =>
    rw [cleanup_dead live]
    cases used : host.inUse other with
    | false => rfl
    | true =>
      have different : other ≠ device := by
        rintro rfl
        exact absurd (isLive_of_inUse used) (by simp [live])
      simp [different]
  | true =>
    simp only [cleanup, live, inUse, List.getElem?_modify, Bool.not_true, Bool.false_eq_true, if_false]
    cases host.devices[other]? with
    | none => rfl
    | some object =>
      by_cases same : device = other
      · simp [same]
      · simp [same, Ne.symm same]

theorem createDevice_cases (creation : Creation) (host : HostProcess) :
    host.createDevice creation = host ∨
    host.createDevice creation =
      ⟨some host.devices.length, host.devices ++ [{ initialized := creation.deviceInitialize }]⟩ := by
  unfold createDevice
  split
  · exact .inl rfl
  · split
    · exact .inl rfl
    · split
      · exact .inl rfl
      · exact .inr rfl

/-- Whatever is created and cleaned up, the pointer does not dangle. -/
theorem step_live (host : HostProcess) (event : HostEvent)
    (live : ∀ device, host.wdfDevice = some device → host.isLive device = true) :
    ∀ device, (host.step event).wdfDevice = some device → (host.step event).isLive device = true := by
  cases event with
  | createDevice creation =>
    rcases createDevice_cases creation host with same | created
    · rw [step, same]
      exact live
    · intro device named
      rw [step, created] at named ⊢
      cases named
      simp [isLive]
  | cleanup device =>
    cases alive : host.isLive device with
    | false =>
      rw [step, cleanup_dead alive]
      exact live
    | true =>
      intro other named
      rw [step, cleanup_wdfDevice alive] at named
      cases named

/-- The pointer serves the devices in use in exactly the runs in which none is cleaned
up beside another one in use. -/
theorem keepsDevice_iff (events : List HostEvent) :
    Always step KeepsDevice {} events ↔ Along step CleansLast {} events := by
  refine always_iff_along (fun _ keeps => keeps) ?_ ?_ _ _ ⟨nofun, nofun, nofun⟩ (along_true _ _)
  · intro host event keeps _ last
    apply (keepsDevice_iff_cached _ (step_live host event keeps.live)).mpr
    have cut := (keepsDevice_iff_cached host keeps.live).mp keeps
    cases event with
    | createDevice creation =>
      intro null
      rcases createDevice_cases creation host with same | created
      · rw [step, same] at null ⊢
        exact cut null
      · rw [step, created] at null
        cases null
    | cleanup device =>
      intro null other
      rw [step, cleanup_inUse]
      cases alive : host.isLive device with
      | false =>
        rw [step, cleanup_dead alive] at null
        rw [cut null other, Bool.false_and]
      | true =>
        cases used : host.inUse other with
        | false => rfl
        | true => simp [last device rfl alive other used]
  · rintro host event keeps _ later device rfl alive other used
    have cut := (keepsDevice_iff_cached _ later.live).mp later (cleanup_wdfDevice alive) other
    rw [step, cleanup_inUse, used] at cut
    simpa using cut

/-- Two nodes are added and the first is removed: the second is cut off. -/
theorem keepsDevice_violated : ¬ ∀ events : List HostEvent, Always step KeepsDevice {} events := by
  intro claim
  have every := (always_iff_runs _ _).mp (claim [.createDevice {}, .createDevice {}, .cleanup 0]) _ List.prefix_rfl
  exact every.parses 1 (fun _ => []) none rfl rfl

end QubesIdd.HostProcess
