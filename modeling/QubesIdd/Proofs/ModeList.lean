import QubesIdd.Proofs.ModeText

/-! The mode list as a function of what the registry answers: the extra mode in
front of the configured or default list. The scratch variable and the previous
list have disappeared from the statement. -/

namespace QubesIdd.CSettings

def unprefer (mode : DisplayMode) : DisplayMode := { mode with preferred := false }

def extraMode? (api : RegApi) : Option DisplayMode := parsed? (readStringValue api .ExtraMode [])

/-- The list that is there without an extra mode. -/
def configured (api : RegApi) : DisplayModes :=
  match readModesValue api with
  | (false, _) => defaultModes (getDefaultRefresh api) false
  | (true, entries) => entries.filterMap parsed?

theorem parseEntries_eq (hasPreferred : Bool) (m : DisplayMode) (lines : List WString) :
    parseEntries hasPreferred m lines =
      (lines.filterMap parsed?).map fun mode => if hasPreferred then unprefer mode else mode := by
  induction lines generalizing m with
  | nil => rfl
  | cons line rest ih =>
    obtain ⟨success, value⟩ := parseModeString_agrees line m
    simp only [parseEntries]
    cases found : parsed? line with
    | none =>
      rw [found] at success
      simp [success, ih, found]
    | some mode =>
      rw [found] at success
      simp only [success, value mode found, Option.isSome_some, if_true, ih, List.filterMap_cons_some found,
        List.map_cons]
      cases hasPreferred <;> rfl

theorem defaultModes_unprefer (refresh : UInt32) :
    defaultModes refresh true = (defaultModes refresh false).map unprefer := by
  simp [defaultModes, unprefer, Function.comp_def]

theorem getExtraMode_agrees (api : RegApi) (m : DisplayMode) : Agrees (getExtraMode api m) (extraMode? api) := by
  unfold getExtraMode extraMode?
  dsimp only
  split
  next empty => simp [Agrees, List.isEmpty_iff.mp empty, parsed?, trim]
  next => exact parseModeString_agrees _ m

/-- The extra mode, if there is one, leads the list, and a preferred extra mode
takes the mark away from every other entry. -/
theorem loadModes_eq (api : RegApi) (m : DisplayMode) :
    loadModes api m = match extraMode? api with
      | none => configured api
      | some extra => extra :: if extra.preferred then (configured api).map unprefer else configured api := by
  obtain ⟨success, value⟩ := getExtraMode_agrees api m
  unfold loadModes configured
  dsimp only
  cases found : extraMode? api with
  | none =>
    rw [found] at success
    simp only [success, Option.isSome_none, Bool.false_eq_true, if_false, Bool.false_and, List.nil_append]
    split <;> simp [parseEntries_eq, *]
  | some extra =>
    rw [found] at success
    simp only [success, value extra found, Option.isSome_some, if_true, Bool.true_and]
    cases extra.preferred
    · split <;> simp [parseEntries_eq, *]
    · split <;> simp [parseEntries_eq, defaultModes_unprefer, *]

theorem getDefaultRefresh_range (api : RegApi) :
    30 ≤ (getDefaultRefresh api).toNat ∧ (getDefaultRefresh api).toNat ≤ 1000 := by
  unfold getDefaultRefresh
  split
  · decide
  next refresh _ =>
    split
    · decide
    next sane => simpa [not_or, UInt32.le_iff_toNat_le] using sane

theorem unprefer_inRange {mode : DisplayMode} (valid : mode.InRange) : (unprefer mode).InRange :=
  ⟨valid.width, valid.height, valid.refresh⟩

theorem configured_inRange {api : RegApi} {mode : DisplayMode} (member : mode ∈ configured api) : mode.InRange := by
  unfold configured at member
  split at member
  · obtain ⟨⟨⟨width, height⟩, index⟩, inside, rfl⟩ := List.mem_map.mp member
    have sizes : DefaultDisplayModes.all (fun size => decide (640 ≤ size.1.toNat ∧ size.1.toNat ≤ 16384 ∧
        480 ≤ size.2.toNat ∧ size.2.toNat ≤ 16384)) = true := by decide
    have size := of_decide_eq_true (List.all_eq_true.mp sizes (width, height) (List.fst_mem_of_mem_zipIdx inside))
    exact ⟨⟨size.1, size.2.1⟩, size.2.2, getDefaultRefresh_range api⟩
  · obtain ⟨line, _, parsed⟩ := List.mem_filterMap.mp member
    exact parsed_inRange parsed

theorem loadModes_inRange {api : RegApi} {m mode : DisplayMode} (member : mode ∈ loadModes api m) :
    mode.InRange := by
  rw [loadModes_eq] at member
  split at member
  · exact configured_inRange member
  next extra found =>
    rcases List.mem_cons.mp member with rfl | inside
    · exact parsed_inRange found
    · split at inside
      · obtain ⟨original, kept, rfl⟩ := List.mem_map.mp inside
        exact unprefer_inRange (configured_inRange kept)
      · exact configured_inRange inside

end QubesIdd.CSettings
