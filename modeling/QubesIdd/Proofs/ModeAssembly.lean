import QubesIdd.Proofs.EdidBlock
import QubesIdd.Proofs.ExtraMode
import QubesIdd.DeviceContext

/-! The mode list from the text of the registry: which strings of a multi-string end
up in it, when it is empty, and how many entries carry the preferred mark. -/

namespace QubesIdd.CSettings
open Library

/-- Strings that a multi-string can hold: an empty one would end it, and so would none
at all. -/
structure ModeStrings where
  texts : List WString
  nonempty : texts ≠ []
  plain : ∀ text ∈ texts, text ≠ [] ∧ 0 ∉ text

namespace ModeStrings

def chars (strings : ModeStrings) : WString := strings.texts.flatMap (· ++ [0]) ++ [0]

theorem terminated (strings : ModeStrings) : [0, 0] <:+ strings.chars := by
  have ended := strings.texts.dropLast_append_getLast strings.nonempty
  refine ⟨strings.texts.dropLast.flatMap (· ++ [0]) ++ strings.texts.getLast strings.nonempty, ?_⟩
  rw [chars]
  conv_rhs => rw [← ended]
  simp

def multiSz (strings : ModeStrings) : MultiSz := ⟨strings.chars, strings.terminated⟩

end ModeStrings

theorem splitStrings_text (text current rest : WString) (plain : 0 ∉ text) (started : current ++ text ≠ []) :
    splitStrings current (text ++ 0 :: rest) = (current ++ text) :: splitStrings [] rest := by
  induction text generalizing current with
  | nil =>
    rw [List.append_nil] at started ⊢
    simp [splitStrings, started]
  | cons c text ih =>
    simp only [List.mem_cons, not_or] at plain
    have step := ih (current ++ [c]) plain.2 (by simp)
    rw [List.append_assoc] at step
    simpa [splitStrings, Ne.symm plain.1] using step

/-- The strings of a multi-string, up to the first empty one. -/
def HoldsStrings (value : MultiSz) (texts : List WString) : Prop :=
  (∀ text ∈ texts, text ≠ [] ∧ 0 ∉ text) ∧ ∃ rest, value.chars = texts.flatMap (· ++ [0]) ++ 0 :: rest

/-- The pointer walk takes a multi-string apart into its strings. -/
theorem splitStrings_joined (texts : List WString) (rest : WString) (plain : ∀ text ∈ texts, text ≠ [] ∧ 0 ∉ text) :
    splitStrings [] (texts.flatMap (· ++ [0]) ++ 0 :: rest) = texts := by
  induction texts with
  | nil => simp [splitStrings]
  | cons text others ih =>
    obtain ⟨nonempty, free⟩ := plain text List.mem_cons_self
    have split := splitStrings_text text [] (others.flatMap (· ++ [0]) ++ 0 :: rest) free nonempty
    rw [ih fun other member => plain other (List.mem_cons_of_mem text member)] at split
    simpa using split

/-- Two NULs at the end terminate every string and leave one to end the list. -/
theorem splitStrings_terminated (current chars : WString) (free : 0 ∉ current)
    (ended : [0, 0] <:+ chars ∨ current = [] ∧ chars = [0]) :
    (∀ text ∈ splitStrings current chars, text ≠ [] ∧ 0 ∉ text) ∧
      ∃ rest, current ++ chars = (splitStrings current chars).flatMap (· ++ [0]) ++ 0 :: rest := by
  induction chars generalizing current with
  | nil => simp at ended
  | cons c chars ih =>
    by_cases inside : c = 0
    · subst c
      cases current with
      | nil => exact ⟨by simp [splitStrings], chars, by simp [splitStrings]⟩
      | cons first others =>
        have again : [0, 0] <:+ chars ∨ ([] : WString) = [] ∧ chars = [0] := by
          rcases ended with ended | ⟨nothing, _⟩
          · rcases List.suffix_cons_iff.mp ended with all | later
            · exact .inr ⟨rfl, (List.cons.inj all).2.symm⟩
            · exact .inl later
          · cases nothing
        obtain ⟨plain, rest, same⟩ := ih [] List.not_mem_nil again
        have split : splitStrings (first :: others) (0 :: chars) = (first :: others) :: splitStrings [] chars := by
          simp [splitStrings]
        rw [split]
        refine ⟨?_, rest, ?_⟩
        · intro text member
          rcases List.mem_cons.mp member with rfl | later
          · exact ⟨List.cons_ne_nil first others, free⟩
          · exact plain text later
        · rw [List.flatMap_cons, List.append_assoc, ← same]
          simp
    · have again : [0, 0] <:+ chars := by
        rcases ended with ended | ⟨_, only⟩
        · rcases List.suffix_cons_iff.mp ended with all | later
          · exact absurd (List.cons.inj all).1.symm inside
          · exact later
        · exact absurd (List.cons.inj only).1 inside
      have longer : 0 ∉ current ++ [c] := by simp [free, Ne.symm inside]
      simpa [splitStrings, inside] using ih (current ++ [c]) longer (.inl again)

theorem splitStrings_iff (value : MultiSz) (texts : List WString) :
    splitStrings [] value.chars = texts ↔ HoldsStrings value texts := by
  constructor
  · rintro rfl
    exact splitStrings_terminated [] value.chars List.not_mem_nil (.inl value.terminated)
  · rintro ⟨plain, rest, same⟩
    rw [same]
    exact splitStrings_joined texts rest plain

/-- A readable key with these strings as its `Modes`. -/
def withModes (key : RegKey) (strings : ModeStrings) : Registry := ⟨some { key with modes := some strings.multiSz }, true⟩

theorem readModesValue_strings (key : RegKey) (strings : ModeStrings) :
    readModesValue (withModes key strings).api = (true, strings.texts) := by
  have split : splitStrings [] strings.multiSz.chars = strings.texts := splitStrings_joined strings.texts [] strings.plain
  rw [readModesValue_api]
  simp [withModes, Registry.opened, split, strings.nonempty]

theorem configured_strings (key : RegKey) (strings : ModeStrings) :
    configured (withModes key strings).api = strings.texts.filterMap parsed? := by
  rw [configured, readModesValue_strings]

/-- What a caller reads from the variable it passed, if the call succeeds. -/
def succeeded (result : Bool × DisplayMode) : Option DisplayMode := if result.1 then some result.2 else none

theorem Agrees.succeeded {result : Bool × DisplayMode} {mode : Option DisplayMode} (agrees : Agrees result mode) :
    succeeded result = mode := by
  obtain ⟨success, value⟩ := agrees
  cases mode with
  | none => simpa [CSettings.succeeded] using success
  | some found => simpa [CSettings.succeeded, success] using value found rfl

/-- The mark of every listed mode gives way to the mark of the extra mode. -/
def displace (extra : Option DisplayMode) (listed : DisplayModes) : DisplayModes :=
  extra.toList ++ if extra.any DisplayMode.preferred then listed.map unprefer else listed

theorem loadModes_displace (api : RegApi) (scratch : DisplayMode) :
    loadModes api scratch = displace (extraMode? api) (configured api) := by
  rw [loadModes_eq]
  cases extraMode? api <;> simp [displace]

/-- Whatever the scratch modes and the earlier list held, the list is the extra mode
followed by the modes that the strings denote, in their order. Strings that denote none
may come and go. -/
theorem loadModes_strings (key : RegKey) (strings other : ModeStrings) (lineScratch : WString → DisplayMode)
    (padded : other.texts.filter (fun text => (parseModeString text (lineScratch text)).1) =
      strings.texts.filter fun text => (parseModeString text (lineScratch text)).1)
    (extraScratch scratch otherScratch : DisplayMode) (context otherContext : DeviceContext) :
    let extra := succeeded (getExtraMode (withModes key strings).api extraScratch)
    let listed := strings.texts.filterMap fun text => succeeded (parseModeString text (lineScratch text))
    (context.populateDefaultModes (withModes key strings).api scratch).displayModes = displace extra listed ∧
    (otherContext.populateDefaultModes (withModes key other).api otherScratch).displayModes = displace extra listed := by
  intro extra listed
  have parses (text : WString) : succeeded (parseModeString text (lineScratch text)) = parsed? text :=
    (parseModeString_agrees text _).succeeded
  have accepts (text : WString) : (parseModeString text (lineScratch text)).1 = (parsed? text).isSome :=
    (parseModeString_agrees text _).1
  have found : extra = extraMode? (withModes key strings).api := (getExtraMode_agrees _ _).succeeded
  have same : extraMode? (withModes key other).api = extraMode? (withModes key strings).api := by
    rw [extraMode?, extraMode?, readStringValue_api, readStringValue_api]
    rfl
  have kept (texts : List WString) :
      texts.filterMap parsed? = (texts.filter fun text => (parsed? text).isSome).filterMap parsed? := by
    rw [List.filterMap_filter]
    apply List.filterMap_congr
    intro text _
    cases parsed? text <;> rfl
  have denoted : listed = strings.texts.filterMap parsed? := List.filterMap_congr fun text _ => parses text
  have equal : other.texts.filterMap parsed? = strings.texts.filterMap parsed? := by
    simp only [accepts] at padded
    rw [kept, padded, ← kept]
  constructor
  · change loadModes _ _ = _
    rw [loadModes_displace, configured_strings, found, denoted]
  · change loadModes _ _ = _
    rw [loadModes_displace, configured_strings, same, found, denoted, equal]

/-- Two modes between strings that the parser turns down, one of which overwrites the
scratch mode before it fails, and the same two modes alone. -/
theorem loadModes_strings_junk :
    let plain (text : String) : WString := wide text.toList
    let tidy : ModeStrings := ⟨[plain "800x600@60", plain "1024x768@75*"], by decide, by decide⟩
    let junk : ModeStrings :=
      ⟨[plain "x", plain "800x600@60", plain "9999x9999@9999*", plain "1024x768@75*", plain " "], by decide, by decide⟩
    let listed (strings : ModeStrings) : DisplayModes :=
      (({} : DeviceContext).populateDefaultModes (withModes {} strings).api default).displayModes
    listed tidy = [⟨800, 600, 60, false⟩, ⟨1024, 768, 75, true⟩] ∧ listed junk = listed tidy := by
  intro plain tidy junk listed
  obtain ⟨first, second⟩ := loadModes_strings {} tidy junk (fun _ => default) (by decide) default default default {} {}
  exact ⟨first.trans (by decide), second.trans first.symm⟩

section
variable (reg : Registry) (scratch : DisplayMode)

/-- The strings in the `Modes` value of a readable key. -/
def HasModes (texts : List WString) : Prop :=
  ∃ value, reg.opened.bind RegKey.modes = some value ∧ HoldsStrings value texts

/-- The text in the `ExtraMode` value of a readable key: a string of whole characters, up
to its first NUL. -/
def HasExtraMode (text : WString) : Prop :=
  ∃ value, reg.opened.bind RegKey.extraMode = some value ∧ isText value.type = true ∧ value.data.length % 2 = 0 ∧
    cString (ofBytes value.data) = text

theorem readModesValue_iff (texts : List WString) :
    texts ≠ [] ∧ HasModes reg texts ↔ readModesValue reg.api = (true, texts) := by
  rw [readModesValue_api]
  unfold HasModes
  cases reg.opened.bind RegKey.modes with
  | none => simp
  | some value =>
    simp only [Option.some.injEq, exists_eq_left', ← splitStrings_iff, Prod.mk.injEq, Bool.not_eq_true',
      List.isEmpty_eq_false_iff]
    constructor
    · rintro ⟨nonempty, rfl⟩
      exact ⟨nonempty, rfl⟩
    · rintro ⟨nonempty, rfl⟩
      exact ⟨nonempty, rfl⟩

/-- A fallback for the case that there is nothing to read, and otherwise the strings. -/
theorem readModesValue_either (holds : List WString → Prop) :
    (readModesValue reg.api).1 = false ∨ holds (readModesValue reg.api).2 ↔
      ∀ texts, HasModes reg texts → texts ≠ [] → holds texts := by
  cases read : readModesValue reg.api with
  | mk usable found =>
    constructor
    · intro either texts has nonempty
      have same := read.symm.trans ((readModesValue_iff reg texts).mp ⟨nonempty, has⟩)
      obtain ⟨rfl, rfl⟩ := Prod.mk.inj same
      simpa using either
    · intro all
      cases usable with
      | false => exact .inl rfl
      | true =>
        obtain ⟨nonempty, has⟩ := (readModesValue_iff reg found).mpr read
        exact .inr (all found has nonempty)

theorem ofBytes_terminated (data : List UInt8) (whole : data.length % 2 = 0) : ofBytes (data ++ [0, 0]) = ofBytes data ++ [0] := by
  induction data using ofBytes.induct with
  | case1 lo hi rest ih =>
    rw [List.length_cons, List.length_cons] at whole
    rw [List.cons_append, List.cons_append, ofBytes, ofBytes, ih (by omega), List.cons_append]
  | case2 data short =>
    have none : data = [] := List.eq_nil_of_length_eq_zero (by have := (ofBytes_short short).1; omega)
    subst none
    rfl

/-- The buffer of `ReadStringValue` has the value's characters and a terminator. -/
theorem cString_buffer (data : List UInt8) (whole : data.length % 2 = 0) :
    cString ((ofBytes (overwrite (List.replicate (2 * (data.length / 2 + 1)) 0) data)).set (data.length / 2) 0) =
      cString (ofBytes data) := by
  have room : 2 * (data.length / 2 + 1) - data.length = 2 := by omega
  have padded : overwrite (List.replicate (2 * (data.length / 2 + 1)) 0) data = data ++ [0, 0] := by
    rw [overwrite, List.drop_replicate, room]
    rfl
  have ended : (ofBytes data ++ [0]).set (data.length / 2) 0 = ofBytes data ++ [0] := by
    rw [List.set_append_right _ _ (by rw [ofBytes_length])]
    simp [ofBytes_length]
  rw [padded, ofBytes_terminated data whole, ended, cString, cString, List.takeWhile_append]
  split
  next all => simpa using ((List.takeWhile_prefix _).eq_of_length all).symm
  next => rfl

theorem readStringValue_iff (text : WString) (nonempty : text ≠ []) :
    HasExtraMode reg text ↔ readStringValue reg.api .ExtraMode [] = text := by
  rw [readStringValue_api]
  unfold HasExtraMode
  cases reg.opened.bind RegKey.extraMode with
  | none => simpa using Ne.symm nonempty
  | some value =>
    simp only [Option.some.injEq, exists_eq_left']
    split
    next refused =>
      simp only [Bool.or_eq_true, Bool.not_eq_true', bne_iff_ne, beq_iff_eq] at refused
      constructor
      · rintro ⟨typed, whole, rfl⟩
        rcases refused with (untyped | none) | odd
        · rw [untyped] at typed
          cases typed
        · rw [List.eq_nil_of_length_eq_zero none]
          rfl
        · exact absurd whole odd
      · exact fun empty => absurd empty.symm nonempty
    next accepted =>
      simp only [Bool.or_eq_true, Bool.not_eq_true', bne_iff_ne, beq_iff_eq, not_or, Bool.not_eq_false, not_not] at accepted
      obtain ⟨⟨typed, _⟩, whole⟩ := accepted
      rw [cString_buffer _ whole]
      exact ⟨fun has => has.2.2, fun same => ⟨typed, whole, same⟩⟩

/-- The extra mode is what its text denotes. -/
theorem getExtraMode_iff (found : DisplayMode) :
    succeeded (getExtraMode reg.api scratch) = some found ↔
      ∃ text, HasExtraMode reg text ∧ succeeded (parseModeString text scratch) = some found := by
  have parses (text : WString) : succeeded (parseModeString text scratch) = parsed? text :=
    (parseModeString_agrees text _).succeeded
  have empty : parsed? [] = none := by simp [parsed?, trim]
  rw [(getExtraMode_agrees reg.api scratch).succeeded, extraMode?]
  simp only [parses]
  constructor
  · intro denoted
    have nonempty : readStringValue reg.api .ExtraMode [] ≠ [] := fun nothing => by simp [nothing, empty] at denoted
    exact ⟨_, (readStringValue_iff reg _ nonempty).mpr rfl, denoted⟩
  · rintro ⟨text, has, denoted⟩
    have nonempty : text ≠ [] := fun nothing => by simp [nothing, empty] at denoted
    rw [(readStringValue_iff reg text nonempty).mp has]
    exact denoted

end

section
variable (api : RegApi) (scratch parseScratch : DisplayMode) (context : DeviceContext)

/-- There is something to list: the extra mode parses, the fallback to the default table
is taken, or some configured string parses. -/
def Offers : Prop :=
  (getExtraMode api parseScratch).1 = true ∨ (readModesValue api).1 = false ∨
    ∃ text ∈ (readModesValue api).2, (parseModeString text parseScratch).1 = true

/-- The same of the stored values: the text of the extra mode parses, or some string of a
`Modes` value with strings does. -/
def OffersStored (reg : Registry) : Prop :=
  (∃ text, HasExtraMode reg text ∧ (parseModeString text parseScratch).1 = true) ∨
    ∀ texts, HasModes reg texts → texts ≠ [] → ∃ text ∈ texts, (parseModeString text parseScratch).1 = true

/-- No mode in the list and none of the three timing descriptors of the EDID in use. -/
structure Blank (context : DeviceContext) : Prop where
  displayModes : context.displayModes = []
  edid : ∀ slot < 3, Edid.descriptor context.edid slot = List.replicate 18 0

theorem configured_nil :
    configured api = [] ↔ (readModesValue api).1 = true ∧ ∀ text ∈ (readModesValue api).2, parsed? text = none := by
  unfold configured
  cases read : readModesValue api with
  | mk usable entries =>
    cases usable with
    | false =>
      have default : defaultModes (getDefaultRefresh api) false ≠ [] := by simp [defaultModes, DefaultDisplayModes]
      simp [default]
    | true => simp [List.filterMap_eq_nil_iff]

theorem loadModes_nil : loadModes api scratch = [] ↔ ¬ Offers api parseScratch := by
  have extra := (getExtraMode_agrees api parseScratch).1
  have lines (text : WString) := (parseModeString_agrees text parseScratch).1
  have empty : displace (extraMode? api) (configured api) = [] ↔ extraMode? api = none ∧ configured api = [] := by
    cases extraMode? api <;> simp [displace]
  rw [loadModes_displace, empty, configured_nil]
  simp [Offers, extra, lines]

theorem blank_nil : Blank (context.populateDefaultModes api scratch) ↔ loadModes api scratch = [] := by
  constructor
  · intro blank
    exact blank.displayModes
  · intro empty
    refine ⟨empty, fun slot inside => ?_⟩
    change Edid.descriptor (CEdid.build (loadModes api scratch)) slot = _
    rw [empty]
    exact (CEdid.build_block []).2.2.2.2.1 slot (Nat.zero_le slot) inside

theorem succeeded_true (result : Bool × DisplayMode) : result.1 = true ↔ ∃ found, succeeded result = some found := by
  unfold succeeded
  cases result.1 <;> simp

theorem offers_stored (reg : Registry) : Offers reg.api parseScratch ↔ OffersStored parseScratch reg := by
  have extra : (getExtraMode reg.api parseScratch).1 = true ↔
      ∃ text, HasExtraMode reg text ∧ (parseModeString text parseScratch).1 = true := by
    simp only [succeeded_true, getExtraMode_iff]
    exact ⟨fun ⟨found, text, has, parsed⟩ => ⟨text, has, found, parsed⟩,
      fun ⟨text, has, found, parsed⟩ => ⟨found, text, has, parsed⟩⟩
  unfold Offers OffersStored
  rw [extra, readModesValue_either reg fun texts => ∃ text ∈ texts, (parseModeString text parseScratch).1 = true]

end

/-- The list is empty, and with it the EDID, exactly if there is nothing to offer: the
fallback is decided before the strings are parsed. For the answers of a registry that is
the case exactly if its values offer nothing. -/
theorem loadModes_offers_iff (scratch parseScratch : DisplayMode) (context : DeviceContext) :
    (∀ api : RegApi, let populated := context.populateDefaultModes api scratch
      (populated.displayModes ≠ [] ↔ Offers api parseScratch) ∧ (Blank populated ↔ ¬ Offers api parseScratch)) ∧
    ∀ reg : Registry, Offers reg.api parseScratch ↔ OffersStored parseScratch reg := by
  refine ⟨fun api => ?_, offers_stored parseScratch⟩
  have empty := loadModes_nil api scratch parseScratch
  exact ⟨(not_congr empty).trans not_not, (blank_nil api scratch context).trans empty⟩

/-- One configured string that does not parse keeps the default table away. -/
theorem loadModes_offers_violated :
    ¬ ∀ (reg : Registry) (scratch : DisplayMode) (context : DeviceContext),
      (context.populateDefaultModes reg.api scratch).displayModes ≠ [] := by
  intro claim
  let strings : ModeStrings := ⟨[wide "junk".toList], by decide, by decide⟩
  have listed : loadModes (withModes {} strings).api default = [] := by decide
  exact claim (withModes {} strings) default {} listed

section
variable (api : RegApi) (scratch parseScratch : DisplayMode) (context : DeviceContext)

def SinglePreferred (modes : DisplayModes) : Prop := modes.countP DisplayMode.preferred ≤ 1

/-- A text that parses as a preferred mode. -/
def starred (text : WString) : Bool := (succeeded (parseModeString text parseScratch)).any DisplayMode.preferred

/-- At most one mark comes in: the extra mode clears the others, the default table has
one, and the configured strings at most one. -/
def SingleMark : Prop :=
  (succeeded (getExtraMode api parseScratch)).any DisplayMode.preferred = true ∨ (readModesValue api).1 = false ∨
    (readModesValue api).2.countP (starred parseScratch) ≤ 1

/-- The same of the stored values. -/
def SingleMarkStored (reg : Registry) : Prop :=
  (∃ text, HasExtraMode reg text ∧ starred parseScratch text = true) ∨
    ∀ texts, HasModes reg texts → texts.countP (starred parseScratch) ≤ 1

@[simp] theorem unprefer_preferred (mode : DisplayMode) : (unprefer mode).preferred = false := rfl

theorem countP_displace (extra : Option DisplayMode) (listed : DisplayModes) :
    (displace extra listed).countP DisplayMode.preferred =
      if extra.any DisplayMode.preferred then 1 else listed.countP DisplayMode.preferred := by
  cases extra with
  | none => simp [displace]
  | some mode => cases marked : mode.preferred <;> simp [displace, marked]

theorem countP_default (refresh : UInt32) : (defaultModes refresh false).countP DisplayMode.preferred = 1 := by
  simp only [defaultModes, List.countP_map, Function.comp_def]
  decide

theorem countP_starred (texts : List WString) :
    (texts.filterMap parsed?).countP DisplayMode.preferred = texts.countP (starred parseScratch) := by
  induction texts with
  | nil => rfl
  | cons text rest ih =>
    have parses : succeeded (parseModeString text parseScratch) = parsed? text := (parseModeString_agrees text _).succeeded
    cases found : parsed? text with
    | none => simp [found, ih, starred, parses]
    | some mode => simp [found, ih, starred, parses, List.countP_cons]

theorem single_mark : SinglePreferred (context.populateDefaultModes api scratch).displayModes ↔ SingleMark api parseScratch := by
  have extra : succeeded (getExtraMode api parseScratch) = extraMode? api := (getExtraMode_agrees api _).succeeded
  change (loadModes api scratch).countP DisplayMode.preferred ≤ 1 ↔ _
  rw [loadModes_displace, countP_displace, SingleMark, extra, configured]
  cases (extraMode? api).any DisplayMode.preferred with
  | true => simp
  | false =>
    cases readModesValue api with
    | mk usable entries =>
      cases usable with
      | false => simp [countP_default]
      | true => simp [countP_starred parseScratch]

theorem singleMark_stored (reg : Registry) : SingleMark reg.api parseScratch ↔ SingleMarkStored parseScratch reg := by
  have extra : (succeeded (getExtraMode reg.api parseScratch)).any DisplayMode.preferred = true ↔
      ∃ text, HasExtraMode reg text ∧ starred parseScratch text = true := by
    simp only [starred, Option.any_eq_true, getExtraMode_iff]
    exact ⟨fun ⟨found, ⟨text, has, parsed⟩, marked⟩ => ⟨text, has, found, parsed, marked⟩,
      fun ⟨text, has, found, parsed, marked⟩ => ⟨found, ⟨text, has, parsed⟩, marked⟩⟩
  have few : (∀ texts, HasModes reg texts → texts ≠ [] → texts.countP (starred parseScratch) ≤ 1) ↔
      ∀ texts, HasModes reg texts → texts.countP (starred parseScratch) ≤ 1 := by
    refine forall₂_congr fun texts _ => ⟨fun single => ?_, fun single _ => single⟩
    by_cases nothing : texts = []
    · simp [nothing]
    · exact single nothing
  unfold SingleMark SingleMarkStored
  rw [extra, readModesValue_either reg fun texts => texts.countP (starred parseScratch) ≤ 1, few]

end

/-- Several marks in the configured strings survive unless a preferred extra mode clears
them all: the loop over them does not look at what it has let through. -/
theorem loadModes_preferred_iff (scratch parseScratch : DisplayMode) (context : DeviceContext) :
    (∀ api : RegApi, SinglePreferred (context.populateDefaultModes api scratch).displayModes ↔ SingleMark api parseScratch) ∧
    ∀ reg : Registry, SingleMark reg.api parseScratch ↔ SingleMarkStored parseScratch reg :=
  ⟨fun api => single_mark api scratch parseScratch context, singleMark_stored parseScratch⟩

/-- Two configured strings with a star. -/
theorem loadModes_preferred_violated :
    ¬ ∀ (reg : Registry) (scratch : DisplayMode) (context : DeviceContext),
      SinglePreferred (context.populateDefaultModes reg.api scratch).displayModes := by
  intro claim
  let strings : ModeStrings := ⟨[wide "800x600@60*".toList, wide "1024x768@60*".toList], by decide, by decide⟩
  have listed : loadModes (withModes {} strings).api default = [⟨800, 600, 60, true⟩, ⟨1024, 768, 60, true⟩] := by decide
  have single : (loadModes (withModes {} strings).api default).countP DisplayMode.preferred ≤ 1 :=
    claim (withModes {} strings) default {}
  rw [listed] at single
  exact absurd single (by decide)

end QubesIdd.CSettings
