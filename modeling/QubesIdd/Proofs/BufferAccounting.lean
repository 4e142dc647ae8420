import QubesIdd.ReaderBuffers

/-! Which registry replies keep the readers inside their buffers. Where they do, the checks
change nothing about what is read. -/

namespace QubesIdd

/-- What the registry functions promise about a query with a buffer: they write at most what
they are told, and a multi-string that they deliver ends in two terminators. -/
structure RegContract (api : RegApi) : Prop where
  string : ∀ name told, (api.regQueryValueExW name (some told)).data.length ≤ told
  multi : ∀ name told, (api.regGetMultiSz name (some told)).data.length ≤ told
  terminated : ∀ name told, (api.regGetMultiSz name (some told)).success = true →
    [0, 0] <:+ ofBytes (api.regGetMultiSz name (some told)).data

theorem reply_contract (type : RegType) (data : List UInt8) (told : Nat) :
    (Registry.reply type data (some told)).data.length ≤ told := by
  unfold Registry.reply
  dsimp only
  split
  next fits => exact fits
  next => exact Nat.zero_le _

theorem reply_terminated {type : RegType} {data : List UInt8} {told : Nat} (terminated : [0, 0] <:+ ofBytes data)
    (delivered : (Registry.reply type data (some told)).success = true) :
    [0, 0] <:+ ofBytes (Registry.reply type data (some told)).data := by
  unfold Registry.reply at delivered ⊢
  dsimp only at delivered ⊢
  split at delivered
  next fits => rwa [if_pos fits]
  next => cases delivered

/-- A registry whose content does not change between the two queries. -/
theorem Registry.api_contract (reg : Registry) : RegContract reg.api where
  string name told := by
    cases name with
    | ExtraMode =>
      simp only [api]
      cases reg.opened.bind RegKey.extraMode with
      | none => exact Nat.zero_le _
      | some value => exact reply_contract value.type value.data told
    | Modes => exact Nat.zero_le _
    | DefaultRefresh => exact Nat.zero_le _
  multi name told := by
    cases name with
    | ExtraMode => exact Nat.zero_le _
    | Modes =>
      simp only [api]
      cases reg.opened.bind RegKey.modes with
      | none => exact Nat.zero_le _
      | some value => exact reply_contract .REG_MULTI_SZ (toBytes value.chars) told
    | DefaultRefresh => exact Nat.zero_le _
  terminated name told delivered := by
    cases name with
    | ExtraMode => cases delivered
    | Modes =>
      simp only [api] at delivered ⊢
      cases modes : reg.opened.bind RegKey.modes with
      | none =>
        rw [modes] at delivered
        cases delivered
      | some value =>
        rw [modes] at delivered
        exact reply_terminated ((ofBytes_toBytes value.chars).symm ▸ value.terminated) delivered
    | DefaultRefresh => cases delivered

theorem ofBytes_prefix (first last : List UInt8) : ofBytes first <+: ofBytes (first ++ last) := by
  induction first using ofBytes.induct with
  | case1 lo hi rest ih => exact List.cons_prefix_cons.mpr ⟨rfl, ih⟩
  | case2 bytes short =>
    rw [(ofBytes_short short).2]
    exact List.nil_prefix

namespace CSettings

theorem overwrite_length {buffer data : List UInt8} (fits : data.length ≤ buffer.length) :
    (overwrite buffer data).length = buffer.length := by
  rw [overwrite, List.length_append, List.length_drop]
  omega

namespace Bounded

theorem cString_terminated {buf : WString} (terminated : 0 ∈ buf) : cString buf = .ok (QubesIdd.cString buf) := by
  induction buf with
  | nil => cases terminated
  | cons c rest ih =>
    rw [cString]
    split
    next other =>
      rw [ih ((List.mem_cons.mp terminated).resolve_left (Ne.symm other))]
      simp [QubesIdd.cString, Except.map, other]
    next last => simp [QubesIdd.cString, not_not.mp last]

/-- Two terminators stop the walk, wherever it is when it comes to them. -/
theorem splitStrings_terminated (before behind current : WString) :
    splitStrings current (before ++ [0, 0] ++ behind) = .ok (CSettings.splitStrings current (before ++ [0, 0] ++ behind)) := by
  induction before generalizing current with
  | nil => cases current <;> simp [splitStrings, CSettings.splitStrings, Except.map]
  | cons c before ih =>
    simp only [List.cons_append, splitStrings, CSettings.splitStrings]
    by_cases other : c ≠ 0
    · rw [if_pos other, if_pos other]
      exact ih (current ++ [c])
    · rw [if_neg other, if_neg other]
      cases current with
      | nil => rfl
      | cons head tail =>
        rw [ih []]
        rfl

theorem fill_fits {size told : Nat} {data : List UInt8} (room : told ≤ 2 * size) (written : data.length ≤ told) :
    let buf := ofBytes (overwrite (List.replicate (2 * size) 0) data)
    fill (List.replicate (2 * size) 0) told data = .ok buf ∧ buf.length = size := by
  intro buf
  have inside : data.length ≤ (List.replicate (2 * size) (0 : UInt8)).length := by
    rw [List.length_replicate]
    omega
  refine ⟨if_pos (by rwa [List.length_replicate]), ?_⟩
  rw [ofBytes_length, overwrite_length inside, List.length_replicate]
  omega

/-- The string reader allocates one character more than it asks for, and so never leaves its
buffer. -/
theorem readStringValue_inside {api : RegApi} (contract : RegContract api) (name : ValueName) (defaultValue : WString) :
    readStringValue api name defaultValue = .ok (CSettings.readStringValue api name defaultValue) := by
  unfold readStringValue CSettings.readStringValue
  split
  next => rfl
  next =>
    dsimp only
    split
    next => rfl
    next =>
      generalize (api.regQueryValueExW name none).cb = cb
      have written := contract.string name cb
      generalize api.regQueryValueExW name (some cb) = reply at written
      obtain ⟨filled, length⟩ := @fill_fits (cb / 2 + 1) cb reply.data (by omega) written
      rw [filled]
      dsimp only [bind, Except.bind]
      split
      next => rfl
      next accepted =>
        have shorter : reply.cb ≤ cb := by
          simp only [Bool.or_eq_true, decide_eq_true_eq, not_or] at accepted
          omega
        have inside : reply.cb / 2 < (ofBytes (overwrite (List.replicate (2 * (cb / 2 + 1)) 0) reply.data)).length := by
          rw [length]
          omega
        rw [write, if_pos inside]
        exact cString_terminated (List.mem_set inside 0)

/-- An odd byte count, which leaves the last byte of the buffer out. -/
def OddModes (api : RegApi) : Prop :=
  api.regOpenKeyExW = true ∧ (api.regGetMultiSz .Modes none).success = true ∧ (api.regGetMultiSz .Modes none).cb % 2 = 1

theorem readModesValue_odd {api : RegApi} (odd : OddModes api) :
    readModesValue api =
      .error (.query (api.regGetMultiSz .Modes none).cb ((api.regGetMultiSz .Modes none).cb - 1)) := by
  obtain ⟨opened, answered, odd⟩ := odd
  unfold readModesValue
  generalize api.regGetMultiSz .Modes none = size at answered odd
  have some' : ¬ size.cb = 0 := by omega
  have allocated : (List.replicate (2 * (size.cb / 2)) (0 : UInt8)).length = size.cb - 1 := by
    rw [List.length_replicate]
    omega
  have overrun : ¬ size.cb ≤ size.cb - 1 := by omega
  simp only [opened, answered, some', fill, allocated, overrun, Bool.not_true, Bool.false_eq_true, if_false, beq_iff_eq,
    Bool.false_or]
  rfl

theorem readModesValue_inside {api : RegApi} (contract : RegContract api) (even : ¬ OddModes api) :
    readModesValue api = .ok (CSettings.readModesValue api) := by
  unfold readModesValue CSettings.readModesValue
  split
  next => rfl
  next opened =>
    dsimp only
    split
    next => rfl
    next answered =>
      have even : (api.regGetMultiSz .Modes none).cb % 2 = 0 := by
        simp only [Bool.or_eq_true, not_or, Bool.not_eq_true', Bool.not_eq_false] at opened answered
        have other : ¬ (api.regGetMultiSz .Modes none).cb % 2 = 1 := fun odd => even ⟨by simpa using opened, answered.1, odd⟩
        omega
      generalize (api.regGetMultiSz .Modes none).cb = cb at even
      have written := contract.multi .Modes cb
      have terminated := contract.terminated .Modes cb
      generalize api.regGetMultiSz .Modes (some cb) = reply at written terminated
      obtain ⟨filled, _⟩ := @fill_fits (cb / 2) cb reply.data (by omega) written
      rw [filled]
      dsimp only [bind, Except.bind]
      cases delivered : reply.success with
      | false => rfl
      | true =>
        -- The terminators are the last characters delivered; the buffer may go on behind them.
        obtain ⟨before, chars⟩ := terminated delivered
        obtain ⟨behind, whole⟩ := ofBytes_prefix reply.data ((List.replicate (2 * (cb / 2)) 0).drop reply.data.length)
        rw [← chars] at whole
        rw [overwrite, ← whole, splitStrings_terminated]
        rfl

end Bounded

/-- Neither reader leaves its buffer, whatever is asked for. -/
def KeepsBuffers (api : RegApi) : Prop :=
  (∀ name defaultValue, ∃ text, Bounded.readStringValue api name defaultValue = .ok text) ∧
    ∃ modes, Bounded.readModesValue api = .ok modes

/-- `ReadStringValue` turns odd byte counts away, `ReadModesValue` does not. -/
theorem keepsBuffers_iff (api : RegApi) (contract : RegContract api) :
    KeepsBuffers api ↔
      (api.regOpenKeyExW = true → (api.regGetMultiSz .Modes none).success = true →
        (api.regGetMultiSz .Modes none).cb % 2 = 0) := by
  constructor
  · rintro ⟨_, modes, inside⟩ opened answered
    by_contra odd
    have overrun := Bounded.readModesValue_odd ⟨opened, answered, by omega⟩
    exact nomatch overrun.symm.trans inside
  · intro even
    refine ⟨fun name defaultValue => ⟨_, Bounded.readStringValue_inside contract name defaultValue⟩, _,
      Bounded.readModesValue_inside contract ?_⟩
    rintro ⟨opened, answered, odd⟩
    have same := even opened answered
    omega

/-- One mode, and the terminators. -/
def oneMode : MultiSz := ⟨wide "640x480@60".toList ++ [0, 0], ⟨_, rfl⟩⟩

theorem keepsBuffers_registry : KeepsBuffers (Registry.api ⟨some { modes := some oneMode }, true⟩) :=
  (keepsBuffers_iff _ (Registry.api_contract _)).mpr (by decide)

/-- The value is seven bytes long, one more than the buffer. -/
def oddApi : RegApi where
  regOpenKeyExW := true
  regQueryValueExW _ _ := .failed
  regGetMultiSz
    | .Modes, size => Registry.reply .REG_MULTI_SZ [0x61, 0, 0, 0, 0, 0, 0] size
    | _, _ => .failed
  regGetDword _ := none

theorem keepsBuffers_violated : ¬ ∀ api, RegContract api → KeepsBuffers api := by
  intro claim
  have contract : RegContract oddApi := by
    refine ⟨fun name told => Nat.zero_le _, fun name told => ?_, fun name told delivered => ?_⟩
    · cases name with
      | Modes => exact reply_contract _ _ told
      | _ => exact Nat.zero_le _
    · cases name with
      | Modes =>
        have terminated : [0, 0] <:+ ofBytes [0x61, 0, 0, 0, 0, 0, 0] := ⟨[0x61], rfl⟩
        exact reply_terminated terminated delivered
      | _ => cases delivered
  obtain ⟨_, modes, inside⟩ := claim oddApi contract
  exact nomatch inside

end CSettings
end QubesIdd
