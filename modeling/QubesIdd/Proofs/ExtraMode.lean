import QubesIdd.Proofs.ModeList

/-! Writing the extra mode and reading it back. A reader depends only on its own
value of the key, so a write never disturbs the configured list. -/

namespace QubesIdd.CSettings
open Library

theorem ofBytes_append (s : WString) (rest : List UInt8) : ofBytes (toBytes s ++ rest) = s ++ ofBytes rest := by
  induction s with
  | nil => rfl
  | cons c s ih =>
    have alone := ofBytes_toBytes [c]
    simp only [toBytes, List.flatMap_cons, List.flatMap_nil, List.cons_append, List.nil_append, List.append_nil,
      ofBytes, List.cons.injEq, and_true] at alone ih ⊢
    exact ⟨alone, ih⟩

theorem readStringValue_api (reg : Registry) (defaultValue : WString) :
    readStringValue reg.api .ExtraMode defaultValue =
      match reg.opened.bind RegKey.extraMode with
      | none => defaultValue
      | some value =>
        if !isText value.type || value.data.length == 0 || value.data.length % 2 != 0 then defaultValue
        else cString ((ofBytes (overwrite (List.replicate (2 * (value.data.length / 2 + 1)) 0) value.data)).set
          (value.data.length / 2) 0) := by
  unfold readStringValue
  cases seen : reg.opened with
  | none => simp [Registry.api, seen]
  | some key =>
    cases stored : key.extraMode with
    | none => simp [Registry.api, seen, stored, RegReply.failed]
    | some value =>
      simp only [Registry.api, seen, stored, Option.bind_some, Option.isSome_some, Option.map_some, Option.getD_some,
        Registry.reply, le_refl, if_true, Bool.not_true, Bool.false_or, Bool.false_eq_true, if_false, gt_iff_lt,
        lt_self_iff_false, decide_false, Bool.or_false]
      split <;> rfl

theorem readModesValue_api (reg : Registry) :
    readModesValue reg.api =
      match reg.opened.bind RegKey.modes with
      | none => (false, [])
      | some value => (!(splitStrings [] value.chars).isEmpty, splitStrings [] value.chars) := by
  unfold readModesValue
  cases seen : reg.opened with
  | none => simp [Registry.api, seen]
  | some key =>
    cases stored : key.modes with
    | none => simp [Registry.api, seen, stored, RegReply.failed]
    | some value =>
      have size := toBytes_length value.chars
      have nonempty : value.chars.length ≠ 0 := by
        intro empty
        have bound := value.terminated.length_le
        simp [empty] at bound
      have exact : ofBytes (overwrite (List.replicate (2 * ((toBytes value.chars).length / 2)) 0) (toBytes value.chars)) =
          value.chars := by
        rw [overwrite, size, List.drop_eq_nil_of_le (by simp), List.append_nil, ofBytes_toBytes]
      simp only [Registry.api, seen, stored, Option.bind_some, Option.isSome_some, Option.map_some, Option.getD_some,
        Registry.reply, le_refl, if_true, Bool.not_true, Bool.false_or, Bool.false_eq_true, if_false, exact]
      rw [if_neg (by rw [size, beq_iff_eq]; omega)]

theorem getDefaultRefresh_api (reg : Registry) :
    getDefaultRefresh reg.api =
      match reg.opened.bind RegKey.defaultRefresh with
      | none => 60
      | some refresh => if refresh < 30 ∨ refresh > 1000 then 60 else refresh := by
  unfold getDefaultRefresh
  cases seen : reg.opened with
  | none => simp [Registry.api, seen]
  | some key =>
    cases stored : key.defaultRefresh <;> simp [Registry.api, seen, stored]

section
variable (mode : DisplayMode) (outcome : WriteOutcome) (reg : Registry)

theorem setExtraMode_canQuery : (setExtraMode mode outcome reg).canQuery = reg.canQuery := by
  unfold setExtraMode
  dsimp only
  split
  · rfl
  · split <;> rfl

theorem setExtraMode_frame :
    (setExtraMode mode outcome reg).opened.bind RegKey.modes = reg.opened.bind RegKey.modes ∧
    (setExtraMode mode outcome reg).opened.bind RegKey.defaultRefresh = reg.opened.bind RegKey.defaultRefresh := by
  obtain ⟨key, canQuery⟩ := reg
  obtain ⟨created, stored⟩ := outcome
  cases created <;> cases stored <;> cases canQuery <;> cases key <;>
    simp [setExtraMode, Registry.opened]

theorem getDefaultRefresh_setExtraMode :
    getDefaultRefresh (setExtraMode mode outcome reg).api = getDefaultRefresh reg.api := by
  rw [getDefaultRefresh_api, getDefaultRefresh_api, (setExtraMode_frame mode outcome reg).2]

theorem configured_setExtraMode : configured (setExtraMode mode outcome reg).api = configured reg.api := by
  unfold configured
  rw [getDefaultRefresh_setExtraMode, readModesValue_api, readModesValue_api, (setExtraMode_frame mode outcome reg).1]

theorem extraMode_unstored (lost : (outcome.created && outcome.stored) = false) :
    extraMode? (setExtraMode mode outcome reg).api = extraMode? reg.api := by
  have same : (setExtraMode mode outcome reg).opened.bind RegKey.extraMode = reg.opened.bind RegKey.extraMode := by
    obtain ⟨key, canQuery⟩ := reg
    obtain ⟨created, stored⟩ := outcome
    cases created <;> cases stored <;> cases canQuery <;> cases key <;>
      simp_all [setExtraMode, Registry.opened]
  rw [extraMode?, extraMode?, readStringValue_api, readStringValue_api, same]

end

theorem format_length_le (value : UInt32) : (formatUnsigned value).length ≤ 10 := by
  have bound := value.toNat_lt
  simpa [formatUnsigned] using Decimal.digits_length_le value.toNat 10 (by omega) (by omega)

/-- The text buffer of 64 characters never truncates a mode. -/
theorem formatMode_take (mode : DisplayMode) : (formatMode mode).take 63 = formatMode mode := by
  have width := format_length_le mode.width
  have height := format_length_le mode.height
  have refresh := format_length_le mode.refresh
  apply List.take_of_length_le
  simp only [formatMode, List.length_append, List.length_singleton]
  split <;> simp <;> omega

theorem formatMode_no_nul {mode : DisplayMode} {c : WChar} (member : c ∈ formatMode mode) : c ≠ 0 := by
  rw [formatMode_body, List.mem_append] at member
  rcases member with inside | star
  · rcases body_char inside with digit | rfl | rfl
    · exact digit_ne digit (by decide)
    · decide
    · decide
  · split at star
    · rw [List.mem_singleton.mp star]; decide
    · cases star

theorem cString_terminated (s rest : WString) (plain : ∀ c ∈ s, c ≠ 0) : cString (s ++ 0 :: rest) = s := by
  have taken : s.takeWhile (· ≠ 0) = s := List.takeWhile_eq_self_iff.mpr (by simpa using plain)
  rw [cString, List.takeWhile_append_of_pos (by simpa using plain)]
  simp

theorem readStringValue_stored (reg : Registry) (text : WString) (plain : ∀ c ∈ text, c ≠ 0)
    (stored : reg.opened.bind RegKey.extraMode = some ⟨.REG_SZ, toBytes (text ++ [0])⟩) :
    readStringValue reg.api .ExtraMode [] = text := by
  have size : (toBytes (text ++ [0])).length = 2 * (text.length + 1) := by simp [toBytes_length]
  have half : 2 * (text.length + 1) / 2 = text.length + 1 := by omega
  rw [readStringValue_api, stored]
  dsimp only
  rw [size, if_neg (by simp [isText]), half, overwrite, size, List.drop_replicate,
    show 2 * (text.length + 1 + 1) - 2 * (text.length + 1) = 2 by omega, ofBytes_append, List.append_assoc]
  have tail : ofBytes (List.replicate 2 0) = [0] := by decide
  rw [tail, List.set_append_right _ _ (by omega)]
  simpa using cString_terminated text [0] plain

/-- Once written and readable, exactly the modes that pass the sanity check are
found again. -/
theorem extraMode_stored (mode : DisplayMode) (outcome : WriteOutcome) (reg : Registry)
    (written : (outcome.created && outcome.stored) = true) (readable : reg.canQuery = true) :
    extraMode? (setExtraMode mode outcome reg).api = if insane mode then none else some mode := by
  obtain ⟨key, canQuery⟩ := reg
  obtain ⟨created, stored⟩ := outcome
  simp only [Bool.and_eq_true] at written
  obtain ⟨rfl, rfl⟩ := written
  cases readable
  rw [extraMode?, readStringValue_stored _ (formatMode mode) (fun _ member => formatMode_no_nul member)]
  · exact parsed_formatMode mode
  · simp [setExtraMode, Registry.opened, formatMode_take]

/-- A mode of any size written to a readable key: the text fits the buffer with its
terminator, is stored whole, and is read back as the same mode or, out of range, not at
all. The variable that is read into may hold anything. -/
theorem extraMode_roundTrip (mode out : DisplayMode) (key : Option RegKey) :
    let reg := setExtraMode mode ⟨true, true⟩ ⟨key, true⟩
    (formatMode mode).length + 1 ≤ 64 ∧
    reg.opened.bind RegKey.extraMode = some ⟨.REG_SZ, toBytes (formatMode mode ++ [0])⟩ ∧
    (mode.InRange → getExtraMode reg.api out = (true, mode)) ∧
    (¬ mode.InRange → (getExtraMode reg.api out).1 = false) := by
  intro reg
  have stored : reg.opened.bind RegKey.extraMode = some ⟨.REG_SZ, toBytes (formatMode mode ++ [0])⟩ := by
    simp [reg, setExtraMode, Registry.opened, formatMode_take]
  have fits : ((formatMode mode).take 63).length ≤ 63 := List.length_take_le 63 (formatMode mode)
  rw [formatMode_take] at fits
  obtain ⟨success, value⟩ := getExtraMode_agrees reg.api out
  rw [show extraMode? reg.api = if insane mode then none else some mode from extraMode_stored _ _ _ rfl rfl]
    at success value
  refine ⟨by omega, stored, fun valid => ?_, fun invalid => ?_⟩
  · have sane := (DisplayMode.inRange_iff_sane mode).mp valid
    rw [if_neg sane] at success value
    exact Prod.ext success (value mode rfl)
  · have rejected : insane mode := by
      by_contra sane
      exact invalid ((DisplayMode.inRange_iff_sane mode).mpr sane)
    rw [success, if_pos rejected]
    rfl

end QubesIdd.CSettings
