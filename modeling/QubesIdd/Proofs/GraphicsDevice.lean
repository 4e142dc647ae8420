import QubesIdd.GraphicsDevice
import QubesIdd.Proofs.SwapChainThreads

/-! The references to a graphics device along any run: what its members hold as long as
somebody owns it, what its thread holds, and nothing else. -/

namespace QubesIdd
open Library Library.Runs

namespace CD3D11Device

/-- The references that the members hold to an object. -/
def holds (object : ComObject) (members : CD3D11Device) : Int :=
  ComPtr.holds object members.factory + ComPtr.holds object members.adapter + ComPtr.holds object members.device +
    ComPtr.holds object members.context

def complete (index : Nat) : CD3D11Device :=
  ⟨some (index, .factory), some (index, .adapter), some (index, .device), some (index, .context)⟩

theorem net_handOver_cons (object given : ComObject) (rest : List (ComPtr.Operation ComObject)) :
    ComPtr.net object (.handOver given :: rest) = ComPtr.holds object (some given) + ComPtr.net object rest := by
  simp [ComPtr.net, ComPtr.weight, ComPtr.holds]

theorem init_success (index : Nat) (calls : DeviceCalls) : (init index calls).1 = calls.succeed := by
  obtain ⟨factory, adapter, desc, create, device, context⟩ := calls
  unfold init DeviceCalls.succeed
  cases factory <;> cases adapter <;> cases desc <;> cases create <;> cases device <;> cases context <;> rfl

theorem init_complete (index : Nat) (calls : DeviceCalls) (success : calls.succeed = true) :
    (init index calls).2.1 = complete index := by
  simp only [DeviceCalls.succeed, Bool.and_eq_true] at success
  obtain ⟨⟨⟨⟨⟨factory, adapter⟩, desc⟩, create⟩, device⟩, context⟩ := success
  simp [init, complete, factory, adapter, desc, create, device, context]

/-- Wherever `Init` gives up, it leaves no reference behind but those of the members. -/
theorem init_net (index : Nat) (calls : DeviceCalls) (object : ComObject) :
    ComPtr.net object (init index calls).2.2 = (init index calls).2.1.holds object := by
  have held : ComPtr.net object ([] : List (ComPtr.Operation ComObject)) = 0 := rfl
  unfold init
  dsimp only
  split
  · rfl
  · split
    · simp [net_handOver_cons, holds]
    · split
      · simp [net_handOver_cons, holds]
      · split
        · simp [net_handOver_cons, holds]
        · split
          · simp only [ComPtr.net_append, net_handOver_cons, ComPtr.net_drop, held, holds, ComPtr.holds_none]
            omega
          · split
            · simp only [ComPtr.net_append, net_handOver_cons, ComPtr.net_drop, ComPtr.net_copy, held, holds, ComPtr.holds_none]
              omega
            · simp only [ComPtr.net_append, net_handOver_cons, ComPtr.net_drop, ComPtr.net_copy, held, holds]
              omega

theorem init_holds_other {index other : Nat} (apart : index ≠ other) (part : ComPart) (calls : DeviceCalls) :
    (init index calls).2.1.holds (other, part) = 0 := by
  have away (held : ComPart) : ComPtr.holds (other, part) (some (index, held)) = 0 := by simp [ComPtr.holds, apart]
  unfold init
  dsimp only
  split
  · rfl
  · split
    · simp [holds, away]
    · split
      · simp [holds, away]
      · split
        · simp [holds, away]
        · split
          · simp [holds, away]
          · split
            · simp [holds, away]
            · simp [holds, away]

@[simp] theorem drop_net (object : ComObject) (members : CD3D11Device) :
    ComPtr.net object members.drop = -members.holds object := by
  simp only [drop, ComPtr.net_append, ComPtr.net_drop, holds]
  omega

end CD3D11Device

namespace OfferedSwapChain

/-- Where the thread holds the device: from the first call behind `As` to the last. -/
def inLoop : Pc → Bool
  | .setPriority | .setDevice | .poll | .acquire | .wait | .finish => true
  | .getDevice | .leave | .exited => false

theorem dxgiDevice_at {chain : OfferedSwapChain} {pc : Pc} (here : chain.thread = some pc) (index : Nat) :
    chain.dxgiDevice index = if inLoop pc then some (index, .device) else none := by
  cases pc <;> simp [dxgiDevice, here, inLoop]

theorem work_loop (answer : Answer) {chain : OfferedSwapChain} {pc : Pc} (here : chain.thread = some pc)
    (inside : inLoop pc = true) :
    ∃ next, (chain.work answer).thread = some next ∧ (next = .leave ∨ inLoop next = true) := by
  unfold work
  cases pc with
  | setPriority => cases answer.hasSetRealtimeGPUPriority <;> simp [here, goto, inLoop]
  | setDevice => cases answer.setDevice <;> simp [here, goto, inLoop]
  | poll =>
    simp only [here]
    split
    · exact ⟨.leave, rfl, .inl rfl⟩
    · exact ⟨.acquire, rfl, .inr rfl⟩
  | acquire =>
    cases answer.acquire with
    | pending => exact ⟨.wait, by simp [here, acquired, goto], .inr rfl⟩
    | success metaData =>
      simp only [here, acquired]
      split
      · exact ⟨.finish, rfl, .inr rfl⟩
      · exact ⟨.poll, rfl, .inr rfl⟩
    | failure failure => exact ⟨.leave, by simp [here, acquired, goto], .inl rfl⟩
  | wait =>
    simp only [here]
    split
    next => exact ⟨.wait, here, .inr rfl⟩
    next result _ =>
      cases result with
      | newFrame | timeout => exact ⟨.poll, rfl, .inr rfl⟩
      | terminate | failed => exact ⟨.leave, rfl, .inl rfl⟩
  | finish =>
    cases answer.finished with
    | none => exact ⟨.poll, by simp [here, frameFinished, goto], .inr rfl⟩
    | some failure => exact ⟨.leave, by simp [here, frameFinished, goto], .inl rfl⟩
  | getDevice | leave | exited => cases inside

/-- Between two calls of the loop the pointer stays, and on the way out it is dropped. -/
theorem threadReferences_loop (index : Nat) (members : CD3D11Device) (answer : Answer) {chain : OfferedSwapChain}
    (object : ComObject) {pc : Pc} (here : chain.thread = some pc) (inside : inLoop pc = true) :
    ComPtr.net object (chain.threadReferences index members answer) =
      ComPtr.holds object ((chain.work answer).dxgiDevice index) - ComPtr.holds object (chain.dxgiDevice index) := by
  obtain ⟨next, there, onward⟩ := work_loop answer here inside
  have references : chain.threadReferences index members answer =
      if next = .leave then ComPtr.drop (chain.dxgiDevice index) else [] := by
    unfold threadReferences
    rw [here, there]
    cases pc with
    | getDevice => cases inside
    | _ => simp
  rw [references, dxgiDevice_at there, dxgiDevice_at here, if_pos inside]
  rcases onward with rfl | stays
  · simp [inLoop]
  · have remains : next ≠ .leave := fun left => by simp [left, inLoop] at stays
    simp [remains, stays]

/-- A call of the thread moves its own pointer and nothing else. -/
theorem threadReferences_net (index : Nat) (members : CD3D11Device) (answer : Answer) (chain : OfferedSwapChain)
    (object : ComObject) (there : chain.running = true → members.device = some (index, .device)) :
    ComPtr.net object (chain.threadReferences index members answer) =
      ComPtr.holds object ((chain.work answer).dxgiDevice index) - ComPtr.holds object (chain.dxgiDevice index) := by
  cases here : chain.thread with
  | none => simp [threadReferences, work, here, dxgiDevice]
  | some pc =>
    cases inside : inLoop pc with
    | true => exact threadReferences_loop index members answer object here inside
    | false =>
      cases pc with
      | getDevice =>
        have device := there (by simp [running, here])
        cases got : answer.getDevice <;> simp [threadReferences, work, here, dxgiDevice, goto, device, got]
      | leave => simp [threadReferences, work, here, dxgiDevice, goto]
      | exited => simp [threadReferences, work, here, dxgiDevice]
      | _ => cases inside

theorem offer_resources (resources : Resources) : (offer resources).resources = resources := by
  unfold offer
  split <;> rfl

theorem offer_dxgiDevice (resources : Resources) (index : Nat) : (offer resources).dxgiDevice index = none := by
  obtain ⟨init, createEvent, createThread⟩ := resources
  cases init <;> cases createThread <;> rfl

end OfferedSwapChain

namespace GraphicsContext

def view : GraphicsControl → Control
  | .idle => .idle
  | .joining processor next => .joining processor (next.map Assignment.resources)

/-- What `MonitorContext` has of it. -/
def monitor (context : GraphicsContext) : MonitorContext := ⟨context.offered, context.swapChain, view context.control⟩

def viewAction : GraphicsAction → MonitorAction
  | .assignSwapChain assignment => .assignSwapChain assignment.resources
  | .unassignSwapChain => .unassignSwapChain
  | .joined => .joined
  | .work processor answer => .work processor answer

/-- The owners of a device: the context, and the processor there is. -/
def owners (context : GraphicsContext) (index : Nat) : Nat :=
  (if context.dx11Device = some index then 1 else 0) + if context.monitor.active = some index then 1 else 0

def memberReferences (context : GraphicsContext) (object : ComObject) : Int :=
  (context.devices[object.1]?.map fun shared => shared.members.holds object).getD 0

def threadReferences (context : GraphicsContext) (object : ComObject) : Int :=
  (context.offered[object.1]?.map fun chain => ComPtr.holds object (chain.dxgiDevice object.1)).getD 0

/-- The ledger, given how many owners each device has. -/
structure Accounted (owners : Nat → Nat) (context : GraphicsContext) : Prop where
  length : context.devices.length = context.offered.length
  counts : ∀ index shared, context.devices[index]? = some shared → shared.useCount = owners index
  gone : ∀ index shared, context.devices[index]? = some shared → owners index = 0 → shared.members = {}
  complete : ∀ (index : Nat) shared chain, context.devices[index]? = some shared → context.offered[index]? = some chain →
    chain.resources.init = true → owners index ≠ 0 → shared.members = .complete index
  own : ∀ index shared, context.devices[index]? = some shared → ∀ object : ComObject, object.1 ≠ index →
    shared.members.holds object = 0
  net : ∀ object, ComPtr.net object context.references = context.memberReferences object + context.threadReferences object

variable {owners : Nat → Nat} {context : GraphicsContext}

/-- An owner more or less. Without one the members are gone. -/
theorem set_accounted (accounted : Accounted owners context) {index : Nat} {shared : SharedDevice}
    (held : context.devices[index]? = some shared) (count : Nat) (owned : owners index ≠ 0) :
    Accounted (Function.update owners index count)
      { context with
        devices := context.devices.set index ⟨count, if count = 0 then {} else shared.members⟩
        references := context.references ++ if count = 0 then shared.members.drop else [] } := by
  have inside := (List.getElem?_eq_some_iff.mp held).1
  have entry (other : Nat) : (context.devices.set index ⟨count, if count = 0 then {} else shared.members⟩)[other]? =
      if index = other then some ⟨count, if count = 0 then {} else shared.members⟩ else context.devices[other]? := by
    rw [List.getElem?_set]
    simp [inside]
  constructor
  · simpa using accounted.length
  · intro other found here
    rw [entry] at here
    split at here
    next same => simp [← same, ← Option.some.inj here]
    next apart => simpa [Ne.symm apart] using accounted.counts other found here
  · intro other found here free
    rw [entry] at here
    split at here
    next same =>
      rw [← same, Function.update_self] at free
      simp [← Option.some.inj here, free]
    next apart =>
      rw [Function.update_of_ne (Ne.symm apart)] at free
      exact accounted.gone other found here free
  · intro other found chain here offered init used
    rw [entry] at here
    split at here
    next same =>
      subst other
      rw [Function.update_self] at used
      rw [← Option.some.inj here]
      simpa [used] using accounted.complete index shared chain held offered init owned
    next apart =>
      rw [Function.update_of_ne (Ne.symm apart)] at used
      exact accounted.complete other found chain here offered init used
  · intro other found here object elsewhere
    rw [entry] at here
    split at here
    next same =>
      subst other
      rw [← Option.some.inj here]
      dsimp only
      split
      · rfl
      · exact accounted.own index shared held object elsewhere
    next => exact accounted.own other found here object elsewhere
  · intro object
    have before := accounted.net object
    simp only [memberReferences, threadReferences, entry] at before ⊢
    rw [ComPtr.net_append, before]
    by_cases here : index = object.1
    · rw [← here, held, if_pos rfl]
      by_cases free : count = 0
      · simp [free, CD3D11Device.holds]
        omega
      · simp [free]
    · have away := accounted.own index shared held object (Ne.symm here)
      rw [if_neg here]
      by_cases free : count = 0
      · simp [free, away]
      · simp [free]

theorem release_accounted (accounted : Accounted owners context) {index : Nat} (inside : index < context.devices.length)
    (owned : owners index ≠ 0) :
    Accounted (Function.update owners index (owners index - 1)) (context.release index) := by
  have held := List.getElem?_eq_getElem inside
  generalize context.devices[index] = shared at held
  have counted := accounted.counts index shared held
  have result := set_accounted accounted held (owners index - 1) owned
  unfold release
  rw [held]
  dsimp only
  by_cases last : owners index - 1 = 0
  · rw [if_pos (by omega)]
    simpa [last] using result
  · rw [if_neg (by omega), counted]
    simpa [last] using result

theorem sum_concat {α : Type} (items : List α) (item : α) (value : α → Int) (index : Nat) :
    ((items ++ [item])[index]?.map value).getD 0 =
      (items[index]?.map value).getD 0 + if index = items.length then value item else 0 := by
  rcases Nat.lt_trichotomy index items.length with below | rfl | above
  · rw [List.getElem?_append_left below, if_neg (by omega), Int.add_zero]
  · simp
  · rw [List.getElem?_eq_none (by simp; omega), List.getElem?_eq_none (by omega), if_neg (by omega)]
    rfl

theorem offer_eq (assignment : Assignment) (context : GraphicsContext) :
    context.offer assignment =
      { context with
        offered := context.offered ++ [.offer assignment.resources]
        swapChain := if assignment.calls.succeed then some context.devices.length else none
        dx11Device := some context.devices.length
        devices := context.devices ++
          [⟨if assignment.calls.succeed then 2 else 1, (CD3D11Device.init context.devices.length assignment.calls).2.1⟩]
        references := context.references ++ (CD3D11Device.init context.devices.length assignment.calls).2.2 } := by
  have success := CD3D11Device.init_success context.devices.length assignment.calls
  unfold offer
  dsimp only
  rw [success]
  cases succeed : assignment.calls.succeed with
  | false => simp [Assignment.resources, succeed]
  | true =>
    simp only [if_true, share, Assignment.resources, succeed]
    rw [List.modify_eq_take_cons_drop (by simp)]
    simp

theorem offer_accounted (accounted : Accounted owners context) (assignment : Assignment) :
    Accounted (Function.update owners context.devices.length (if assignment.calls.succeed then 2 else 1))
      (context.offer assignment) := by
  rw [offer_eq]
  have entry {α : Type} (items : List α) (item : α) {index : Nat} {found : α}
      (here : (items ++ [item])[index]? = some found) :
      items[index]? = some found ∧ index ≠ items.length ∨ index = items.length ∧ item = found := by
    rcases Nat.lt_trichotomy index items.length with below | same | above
    · exact .inl ⟨by rwa [List.getElem?_append_left below] at here, by omega⟩
    · exact .inr ⟨same, by simpa [same] using here⟩
    · rw [List.getElem?_eq_none (by simp; omega)] at here
      cases here
  constructor
  · simp [accounted.length]
  · intro index shared here
    rcases entry _ _ here with ⟨old, apart⟩ | ⟨rfl, rfl⟩
    · rw [Function.update_of_ne apart]
      exact accounted.counts index shared old
    · rw [Function.update_self]
  · intro index shared here free
    rcases entry _ _ here with ⟨old, apart⟩ | ⟨rfl, rfl⟩
    · rw [Function.update_of_ne apart] at free
      exact accounted.gone index shared old free
    · rw [Function.update_self] at free
      split at free <;> cases free
  · intro index shared chain here offered init used
    rcases entry _ _ here with ⟨old, apart⟩ | ⟨rfl, rfl⟩
    · rw [Function.update_of_ne apart] at used
      refine accounted.complete index shared chain old ?_ init used
      exact ((entry _ _ offered).resolve_right fun last => apart (last.1.trans accounted.length.symm)).1
    · apply CD3D11Device.init_complete
      rcases entry _ _ offered with ⟨_, apart⟩ | ⟨_, rfl⟩
      · exact absurd accounted.length apart
      · rwa [OfferedSwapChain.offer_resources] at init
  · intro index shared here object elsewhere
    rcases entry _ _ here with ⟨old, apart⟩ | ⟨rfl, rfl⟩
    · exact accounted.own index shared old object elsewhere
    · exact CD3D11Device.init_holds_other (Ne.symm elsewhere) object.2 assignment.calls
  · intro object
    have before := accounted.net object
    simp only [memberReferences, threadReferences] at before ⊢
    rw [ComPtr.net_append, CD3D11Device.init_net, before, sum_concat, sum_concat, OfferedSwapChain.offer_dxgiDevice,
      ComPtr.holds_none]
    by_cases new : object.1 = context.devices.length
    · simp [new]
      omega
    · simp [new, CD3D11Device.init_holds_other (Ne.symm new) object.2]

theorem work_accounted (accounted : Accounted owners context) (processor : Nat) (answer : Answer)
    (used : ∀ chain, context.offered[processor]? = some chain → chain.running = true →
      chain.resources.init = true ∧ owners processor ≠ 0) :
    Accounted owners (context.work processor answer) := by
  unfold work
  split
  next chain shared offered held =>
    have resources := (OfferedSwapChain.work_effect answer chain).resources
    have there (running : chain.running = true) : shared.members.device = some (processor, .device) := by
      obtain ⟨init, owned⟩ := used chain offered running
      rw [accounted.complete processor shared chain held offered init owned]
      rfl
    refine ⟨by simpa using accounted.length, accounted.counts, accounted.gone, ?_, accounted.own, ?_⟩
    · intro index other worked here found init owned
      rw [List.getElem?_modify] at found
      split at found
      next same =>
        subst index
        simp only [offered, Option.map_eq_map, Option.map_some, Option.some.injEq] at found
        rw [← found, resources] at init
        exact accounted.complete processor other chain here offered init owned
      next => exact accounted.complete index other worked here (by simpa using found) init owned
    · intro object
      have before := accounted.net object
      have moved := OfferedSwapChain.threadReferences_net processor shared.members answer chain object there
      simp only [memberReferences, threadReferences] at before ⊢
      rw [ComPtr.net_append, before, moved, List.getElem?_modify]
      by_cases here : processor = object.1
      · rw [← here, offered]
        simp
      · have away (pointer : OfferedSwapChain) : ComPtr.holds object (pointer.dxgiDevice processor) = 0 := by
          have other (part : ComPart) : (processor, part) ≠ object := fun same => here (congrArg Prod.fst same)
          unfold OfferedSwapChain.dxgiDevice
          split <;> simp [ComPtr.holds, other]
        simp [here, away]
  next => exact accounted

/-- What the context keeps: an owned processor has its device in `m_dx11Device`, and
without a processor that is the device of an assignment that failed. -/
structure Kept (context : GraphicsContext) : Prop where
  accounted : Accounted context.owners context
  shared : ∀ index, context.monitor.active = some index → context.dx11Device = some index
  inside : ∀ index, context.dx11Device = some index → index < context.devices.length
  waiting : ∀ processor next, context.control = .joining processor next → context.swapChain = none
  failed : ∀ index chain, context.dx11Device = some index → context.monitor.active = none →
    context.offered[index]? = some chain → chain.resources.init = false

theorem release_frame (index : Nat) (context : GraphicsContext) :
    ∃ devices references, devices.length = context.devices.length ∧
      context.release index = { context with devices, references } := by
  unfold release
  split
  next => exact ⟨_, _, rfl, rfl⟩
  next =>
    split
    · exact ⟨_, _, List.length_set, rfl⟩
    · exact ⟨_, _, List.length_set, rfl⟩

theorem resetDevice_frame (context : GraphicsContext) :
    ∃ devices references, devices.length = context.devices.length ∧
      context.resetDevice = { context with devices, references, dx11Device := none } := by
  unfold resetDevice
  split
  next none => exact ⟨_, _, rfl, by rw [← none]⟩
  next index _ =>
    obtain ⟨devices, references, length, same⟩ := release_frame index context
    exact ⟨devices, references, length, by rw [same]⟩

/-- With the context as the last owner, the reset destroys the device. -/
theorem resetDevice_accounted (accounted : Accounted owners context)
    (alone : ∀ index, owners index = if context.dx11Device = some index then 1 else 0)
    (inside : ∀ index, context.dx11Device = some index → index < context.devices.length) :
    Accounted (fun _ => 0) context.resetDevice := by
  unfold resetDevice
  cases held : context.dx11Device with
  | none =>
    have nobody : owners = fun _ => 0 := funext fun index => by rw [alone, held]; rfl
    exact nobody ▸ accounted
  | some index =>
    have one : owners index = 1 := by rw [alone, held, if_pos rfl]
    have nobody : Function.update owners index (owners index - 1) = fun _ => 0 := by
      funext other
      by_cases same : other = index
      · rw [same, Function.update_self, one]
      · rw [Function.update_of_ne same, alone, held, if_neg (by simpa using Ne.symm same)]
    have released := release_accounted accounted (inside index held) (by rw [one]; decide)
    rw [nobody] at released
    exact ⟨released.length, released.counts, released.gone, released.complete, released.own, released.net⟩

theorem offer_kept (accounted : Accounted (fun _ => 0) context) (idle : context.control = .idle) (assignment : Assignment) :
    (context.offer assignment).Kept := by
  have ledger := offer_accounted accounted assignment
  have active : (context.offer assignment).monitor.active =
      if assignment.calls.succeed then some context.devices.length else none := by
    rw [offer_eq]
    simp [monitor, MonitorContext.active, idle, view]
  have device : (context.offer assignment).dx11Device = some context.devices.length := by rw [offer_eq]
  have count : (context.offer assignment).devices.length = context.devices.length + 1 := by rw [offer_eq]; simp
  have same : (context.offer assignment).owners =
      Function.update (fun _ => 0) context.devices.length (if assignment.calls.succeed then 2 else 1) := by
    funext index
    simp only [GraphicsContext.owners, active, device]
    by_cases new : index = context.devices.length
    · subst new
      cases assignment.calls.succeed <;> simp
    · cases assignment.calls.succeed <;> simp [new, Ne.symm new]
  refine ⟨same ▸ ledger, ?_, ?_, ?_, ?_⟩
  · intro index owned
    rw [active] at owned
    rw [device]
    split at owned
    · exact owned
    · cases owned
  · intro index here
    rw [device] at here
    rw [count, ← Option.some.inj here]
    exact Nat.lt_succ_self _
  · intro processor next joining
    rw [offer_eq] at joining
    cases idle.symm.trans joining
  · intro index chain here unowned offered
    rw [device, Option.some.injEq] at here
    rw [active] at unowned
    have failed : assignment.calls.succeed = false := by
      cases succeed : assignment.calls.succeed with
      | false => rfl
      | true => simp [succeed] at unowned
    rw [offer_eq, ← here, accounted.length] at offered
    simp only [List.getElem?_concat_length, Option.some.injEq] at offered
    rw [← offered, OfferedSwapChain.offer_resources]
    exact failed

theorem continueWith_kept (accounted : Accounted owners context)
    (alone : ∀ index, owners index = if context.dx11Device = some index then 1 else 0)
    (inside : ∀ index, context.dx11Device = some index → index < context.devices.length)
    (idle : context.control = .idle) (unowned : context.swapChain = none) (next : Option Assignment) :
    (context.continueWith next).Kept := by
  have ledger := resetDevice_accounted accounted alone inside
  obtain ⟨devices, references, _, same⟩ := resetDevice_frame context
  cases next with
  | some assignment => exact offer_kept ledger (by rw [same]; exact idle) assignment
  | none =>
    have active : (context.continueWith none).monitor.active = none := by
      simp [continueWith, same, monitor, MonitorContext.active, idle, view, unowned]
    have device : (context.continueWith none).dx11Device = none := by simp [continueWith, same]
    have nobody : (context.continueWith none).owners = fun _ => 0 := by
      funext index
      simp [GraphicsContext.owners, active, device]
    refine ⟨nobody ▸ ledger, ?_, ?_, ?_, ?_⟩
    · intro index owned
      rw [active] at owned
      cases owned
    · intro index here
      rw [device] at here
      cases here
    · intro processor next joining
      simp only [continueWith, same] at joining
      cases idle.symm.trans joining
    · intro index chain here
      rw [device] at here
      cases here

theorem setEvent_accounted (accounted : Accounted owners context) (processor : Nat) :
    Accounted owners { context with offered := context.offered.modify processor .setEvent } := by
  have untouched (index : Nat) : (context.offered.modify processor .setEvent)[index]? =
      context.offered[index]?.map fun chain => if processor = index then chain.setEvent else chain := by
    rw [List.getElem?_modify]
    rfl
  refine ⟨by simpa using accounted.length, accounted.counts, accounted.gone, ?_, accounted.own, ?_⟩
  · intro index shared chain held offered init owned
    rw [untouched, Option.map_eq_some_iff] at offered
    obtain ⟨before, found, same⟩ := offered
    refine accounted.complete index shared before held found ?_ owned
    rw [← same] at init
    split at init <;> exact init
  · intro object
    have before := accounted.net object
    simp only [memberReferences, threadReferences] at before ⊢
    rw [before, untouched, Option.map_map]
    congr 3
    funext chain
    simp only [Function.comp_apply]
    split <;> rfl

theorem reset_kept (kept : context.Kept) (idle : context.control = .idle) (next : Option Assignment) :
    (context.reset next).Kept := by
  unfold reset
  cases owned : context.swapChain with
  | none =>
    apply continueWith_kept kept.accounted _ kept.inside idle owned
    intro index
    simp [GraphicsContext.owners, monitor, MonitorContext.active, idle, view, owned]
  | some processor =>
    have active : context.monitor.active = some processor := by
      simp [monitor, MonitorContext.active, idle, view, owned]
    have ledger := setEvent_accounted kept.accounted processor
    have same : context.owners = fun index =>
        (if context.dx11Device = some index then 1 else 0) + if some processor = some index then 1 else 0 := by
      funext index
      rw [GraphicsContext.owners, active]
    rw [same] at ledger
    refine ⟨⟨ledger.length, ledger.counts, ledger.gone, ledger.complete, ledger.own, ledger.net⟩, ?_, kept.inside, fun _ _ _ => rfl, ?_⟩
    · intro index waited
      exact kept.shared index (active.trans waited)
    · intro index chain _ unowned
      cases unowned

theorem joined_kept (kept : context.Kept) {processor : Nat} {next : Option Assignment}
    (waiting : context.control = .joining processor next) :
    (({ context with control := .idle }.release processor).continueWith next).Kept := by
  have active : context.monitor.active = some processor := by simp [monitor, MonitorContext.active, waiting, view]
  have device := kept.shared processor active
  have inside := kept.inside processor device
  have two : context.owners processor = 2 := by simp [GraphicsContext.owners, active, device]
  have settled : Accounted context.owners { context with control := .idle } := by
    obtain ⟨length, counts, gone, complete, own, net⟩ := kept.accounted
    exact ⟨length, counts, gone, complete, own, net⟩
  have released := release_accounted settled inside (by rw [two]; decide)
  obtain ⟨devices, references, length, same⟩ := release_frame processor { context with control := .idle }
  rw [same] at released ⊢
  apply continueWith_kept released _ _ rfl (kept.waiting processor next waiting)
  · intro index
    rw [two, device]
    by_cases here : index = processor
    · simp [here]
    · simp [here, Ne.symm here, GraphicsContext.owners, active, device]
  · intro index here
    rw [show ({ context with control := .idle, devices, references } : GraphicsContext).devices.length = _ from length]
    exact kept.inside index here

theorem work_frame (processor : Nat) (answer : Answer) (length : context.devices.length = context.offered.length) :
    ∃ references, context.work processor answer =
      { context with offered := context.offered.modify processor (.work answer), references } := by
  unfold work
  split
  next => exact ⟨_, rfl⟩
  next missing =>
    have outside : context.offered.length ≤ processor := by
      by_contra inside
      have here : processor < context.offered.length := by omega
      exact missing _ _ (List.getElem?_eq_getElem here) (List.getElem?_eq_getElem (length ▸ here))
    exact ⟨context.references, by rw [List.modify_eq_self outside]⟩

theorem work_kept (kept : context.Kept) (sound : context.monitor.Sound) (processor : Nat) (answer : Answer) :
    (context.work processor answer).Kept := by
  have ledger := work_accounted kept.accounted processor answer fun chain offered running => by
    have active := sound.active processor chain offered running
    obtain ⟨init, _⟩ := OfferedSwapChain.running_undeleted (sound.chains chain (List.mem_of_getElem? offered)) running
    exact ⟨init, by simp [GraphicsContext.owners, active]⟩
  obtain ⟨references, same⟩ := work_frame processor answer kept.accounted.length
  rw [same] at ledger ⊢
  refine ⟨ledger, kept.shared, kept.inside, kept.waiting, ?_⟩
  intro index chain device unowned offered
  simp only [List.getElem?_modify] at offered
  obtain ⟨before, found, rfl⟩ := Option.map_eq_some_iff.mp offered
  have failed := kept.failed index before device unowned found
  split
  · rw [(OfferedSwapChain.work_effect answer before).resources]
    exact failed
  · exact failed

theorem step_kept (action : GraphicsAction) (kept : context.Kept) (sound : context.monitor.Sound) :
    (context.step action).Kept := by
  cases action with
  | assignSwapChain assignment =>
    by_cases idle : context.control = .idle
    · rw [step, if_pos idle]
      exact reset_kept kept idle _
    · rw [step, if_neg idle]
      exact kept
  | unassignSwapChain =>
    by_cases idle : context.control = .idle
    · rw [step, if_pos idle]
      exact reset_kept kept idle _
    · rw [step, if_neg idle]
      exact kept
  | joined =>
    cases control : context.control with
    | idle => simpa only [step, control] using kept
    | joining processor next =>
      cases running : context.isRunning processor with
      | true => simpa only [step, control, running, if_true] using kept
      | false =>
        simp only [step, control, running, Bool.false_eq_true, if_false]
        exact joined_kept kept control
  | work processor answer => exact work_kept kept sound processor answer

theorem offer_monitor (length : context.devices.length = context.offered.length) (assignment : Assignment) :
    (context.offer assignment).monitor = context.monitor.offer assignment.resources := by
  rw [offer_eq, monitor, MonitorContext.offer, length]
  rfl

theorem continueWith_monitor (length : context.devices.length = context.offered.length) (next : Option Assignment) :
    (context.continueWith next).monitor = context.monitor.continueWith (next.map Assignment.resources) := by
  obtain ⟨devices, references, kept, same⟩ := resetDevice_frame context
  cases next with
  | none =>
    simp only [continueWith, same]
    rfl
  | some assignment =>
    simp only [continueWith, same]
    exact offer_monitor (kept.trans length) assignment

theorem reset_monitor (length : context.devices.length = context.offered.length) (next : Option Assignment) :
    (context.reset next).monitor = context.monitor.reset (next.map Assignment.resources) := by
  unfold reset MonitorContext.reset
  cases owned : context.swapChain with
  | none =>
    rw [show context.monitor.swapChain = none from owned]
    exact continueWith_monitor length next
  | some processor =>
    rw [show context.monitor.swapChain = some processor from owned]
    rfl

/-- With its devices left out, this is the monitor's context. -/
theorem step_monitor (length : context.devices.length = context.offered.length) (action : GraphicsAction) :
    (context.step action).monitor = context.monitor.step (viewAction action) := by
  have idle : context.monitor.control = .idle ↔ context.control = .idle := by
    unfold monitor
    cases context.control <;> simp [view]
  cases action with
  | assignSwapChain assignment =>
    simp only [step, viewAction, MonitorContext.step, idle]
    split
    · exact reset_monitor length _
    · rfl
  | unassignSwapChain =>
    simp only [step, viewAction, MonitorContext.step, idle]
    split
    · exact reset_monitor length _
    · rfl
  | joined =>
    cases control : context.control with
    | idle => simp [step, viewAction, MonitorContext.step, monitor, control, view]
    | joining processor next =>
      have waits : context.monitor.control = .joining processor (next.map Assignment.resources) := congrArg view control
      simp only [step, viewAction, MonitorContext.step, control, waits]
      cases running : context.isRunning processor with
      | true => rw [if_pos rfl, if_pos (show context.monitor.isRunning processor = true from running)]
      | false =>
        obtain ⟨devices, references, kept, same⟩ := release_frame processor { context with control := .idle }
        rw [if_neg Bool.false_ne_true, if_neg (by simpa using (show context.monitor.isRunning processor = false from running)), same]
        exact continueWith_monitor (kept.trans length) next
  | work processor answer =>
    obtain ⟨references, same⟩ := work_frame processor answer length
    rw [step, same]
    rfl

theorem initial_kept : ({} : GraphicsContext).Kept where
  accounted := by
    refine ⟨rfl, by simp, by simp, by simp, by simp, ?_⟩
    intro object
    rfl
  shared := nofun
  inside := nofun
  waiting := nofun
  failed := nofun

/-- One device at most, and all of it for as long as its thread runs. Only the device of
a failed assignment is there without a processor. The device somebody holds is the
context's, and no reference is left to any object of a device that nobody holds, also
when a later assignment has put another in its place. -/
structure DeviceSafe (context : GraphicsContext) : Prop where
  running : ∀ (index : Nat) chain, context.offered[index]? = some chain → chain.running = true →
    ∃ shared, context.devices[index]? = some shared ∧ shared.members = .complete index ∧ 0 < shared.useCount
  single : ∀ (first second : Nat) one other, context.devices[first]? = some one → context.devices[second]? = some other →
    0 < one.useCount → 0 < other.useCount → first = second
  failed : context.control = .idle → context.swapChain = none → ∀ index chain, context.dx11Device = some index →
    context.offered[index]? = some chain → chain.resources.init = false
  counted : ∀ object, 0 ≤ ComPtr.net object context.references
  held : ∀ (index : Nat) shared, context.devices[index]? = some shared →
    (0 < shared.useCount ↔ context.dx11Device = some index)
  released : ∀ object : ComObject, (∀ shared, context.devices[object.1]? = some shared → shared.useCount = 0) →
    ComPtr.net object context.references = 0

theorem Kept.owner (kept : context.Kept) {index : Nat} (owned : context.owners index ≠ 0) :
    context.dx11Device = some index := by
  by_contra other
  have unowned : context.monitor.active ≠ some index := fun active => other (kept.shared index active)
  exact owned (by simp [GraphicsContext.owners, other, unowned])

theorem holds_nonneg (object : ComObject) (held : Option ComObject) : 0 ≤ ComPtr.holds object held := by
  unfold ComPtr.holds
  split <;> decide

theorem references_nonneg (context : GraphicsContext) (object : ComObject) :
    0 ≤ context.memberReferences object ∧ 0 ≤ context.threadReferences object := by
  have held (pointer : Option ComObject) := holds_nonneg object pointer
  constructor
  · unfold memberReferences
    cases context.devices[object.1]? with
    | none => exact Int.le_refl 0
    | some shared =>
      have factory := held shared.members.factory
      have adapter := held shared.members.adapter
      have device := held shared.members.device
      have immediate := held shared.members.context
      simp only [Option.map_some, Option.getD_some, CD3D11Device.holds]
      omega
  · unfold threadReferences
    cases context.offered[object.1]? with
    | none => exact Int.le_refl 0
    | some chain => exact held _

theorem stopped_dxgiDevice {chain : OfferedSwapChain} (stopped : chain.running = false) (index : Nat) :
    chain.dxgiDevice index = none := by
  cases here : chain.thread with
  | none => simp [OfferedSwapChain.dxgiDevice, here]
  | some pc =>
    rw [OfferedSwapChain.running, here] at stopped
    have exited : pc = .exited := by simpa using stopped
    simp [OfferedSwapChain.dxgiDevice, here, exited]

theorem Kept.unheld (kept : context.Kept) (sound : context.monitor.Sound) (object : ComObject)
    (free : ∀ shared, context.devices[object.1]? = some shared → shared.useCount = 0) :
    context.memberReferences object = 0 ∧ context.threadReferences object = 0 := by
  have ledger := kept.accounted
  constructor
  · unfold memberReferences
    cases held : context.devices[object.1]? with
    | none => rfl
    | some shared =>
      have unowned : context.owners object.1 = 0 := by
        rw [← ledger.counts object.1 shared held]
        exact free shared held
      rw [Option.map_some, ledger.gone object.1 shared held unowned]
      rfl
  · unfold threadReferences
    cases offered : context.offered[object.1]? with
    | none => rfl
    | some chain =>
      -- a thread that still runs is the processor's, which owns the device
      have stopped : chain.running = false := by
        by_contra running
        have active := sound.active object.1 chain offered (eq_true_of_ne_false running)
        have held := List.getElem?_eq_getElem (kept.inside object.1 (kept.shared object.1 active))
        have unowned := (ledger.counts object.1 _ held).symm.trans (free _ held)
        simp [GraphicsContext.owners, active] at unowned
      rw [Option.map_some, stopped_dxgiDevice stopped]
      rfl

theorem Kept.deviceSafe (kept : context.Kept) (sound : context.monitor.Sound) : context.DeviceSafe := by
  have ledger := kept.accounted
  have held (index : Nat) (shared : SharedDevice) (here : context.devices[index]? = some shared) :
      0 < shared.useCount ↔ context.dx11Device = some index := by
    rw [ledger.counts index shared here]
    constructor
    · exact fun owned => kept.owner (Nat.ne_of_gt owned)
    · intro own
      rw [GraphicsContext.owners, if_pos own]
      omega
  refine ⟨?_, ?_, ?_, ?_, held, ?_⟩
  · intro index chain offered running
    have active := sound.active index chain offered running
    obtain ⟨init, _⟩ := OfferedSwapChain.running_undeleted (sound.chains chain (List.mem_of_getElem? offered)) running
    have here := List.getElem?_eq_getElem (kept.inside index (kept.shared index active))
    have owned : context.owners index ≠ 0 := by simp [GraphicsContext.owners, active]
    refine ⟨_, here, ledger.complete index _ chain here offered init owned, ?_⟩
    rw [ledger.counts index _ here]
    exact Nat.pos_of_ne_zero owned
  · intro first second one other here there used shared
    have same := ((held first one here).mp used).symm.trans ((held second other there).mp shared)
    exact Option.some.inj same
  · intro idle unowned index chain device offered
    exact kept.failed index chain device (by simp [monitor, MonitorContext.active, idle, view, unowned]) offered
  · intro object
    obtain ⟨members, thread⟩ := references_nonneg context object
    rw [ledger.net object]
    exact Int.add_nonneg members thread
  · intro object free
    obtain ⟨members, thread⟩ := kept.unheld sound object free
    rw [ledger.net object, members, thread]
    rfl

/-- Whatever is assigned, whatever fails, and however the thread's calls fall among the
callbacks. -/
theorem run_deviceSafe (actions : List GraphicsAction) : (run step {} actions).DeviceSafe := by
  have reached : (run step {} actions).Kept ∧ (run step {} actions).monitor.Sound := by
    apply run_preserves (fun context : GraphicsContext => context.Kept ∧ context.monitor.Sound)
    · intro context action ⟨kept, sound⟩
      refine ⟨step_kept action kept sound, ?_⟩
      rw [step_monitor kept.accounted.length]
      exact MonitorContext.step_sound _ _ sound
    · exact ⟨initial_kept, MonitorContext.initial_sound⟩
  exact reached.1.deviceSafe reached.2

end GraphicsContext
end QubesIdd
