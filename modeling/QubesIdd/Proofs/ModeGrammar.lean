import QubesIdd.Library.Scan
import QubesIdd.Proofs.ModeText

/-! The texts `ParseModeString` accepts, said as a grammar: three numerals between an
`x` and an `@`, and a star. What the parser makes of a minus sign is its one deviation. -/

namespace QubesIdd.CSettings
open Library Library.Scan

/-- White space, the sign, and one or more digits, whose value is not bounded. -/
def Signed (sign t : WString) (value : Nat) : Prop :=
  ∃ spaces digits, t = spaces ++ (sign ++ digits) ∧ (∀ c ∈ spaces, iswspace c = true) ∧
    digits ≠ [] ∧ (∀ c ∈ digits, iswdigit c = true) ∧ value = Decimal.value (digits.map UInt16.toNat)

def Numeral (t : WString) (value : Nat) : Prop := Signed [] t value ∨ Signed [wchar '+'] t value

def Negative (t : WString) (magnitude : Nat) : Prop := Signed [wchar '-'] t magnitude

/-- The trimmed text is three numerals with their separators, and a star behind them,
after optional white space, if the mode is preferred. -/
def Spells (reads : WString → Nat → Prop) (s : WString) (mode : DisplayMode) : Prop :=
  ∃ width height refresh spaces : WString,
    trim s = width ++ wchar 'x' :: (height ++ wchar '@' ::
      (refresh ++ if mode.preferred then spaces ++ [wchar '*'] else [])) ∧
    (∀ c ∈ spaces, iswspace c = true) ∧
    reads width mode.width.toNat ∧ reads height mode.height.toNat ∧ reads refresh mode.refresh.toNat

/-- The mode a text is meant to stand for. -/
def Denotes (s : WString) (mode : DisplayMode) : Prop := Spells Numeral s mode ∧ mode.InRange

/-- The number a conversion to 32 bits makes of a numeral, which may be negative. -/
def Wrapped (t : WString) (value : Nat) : Prop := Numeral t value ∨ Negative t (2 ^ 32 - value)

/-- The text has a minus sign, and would stand for a mode in range if a negative numeral
stood for 2^32 less its magnitude. -/
def WrapsAround (s : WString) : Prop := wchar '-' ∈ s ∧ ∃ mode : DisplayMode, Spells Wrapped s mode ∧ mode.InRange

theorem sign_cut (s : WString) : ∃ sign tail, s = sign ++ tail ∧ (sign = [] ∨ sign = [wchar '+'] ∨ sign = [wchar '-']) ∧
    (if s.head? == some (wchar '-') || s.head? == some (wchar '+') then s.tail else s) = tail := by
  cases s with
  | nil => exact ⟨[], [], rfl, .inl rfl, rfl⟩
  | cons c rest =>
    by_cases minus : c = wchar '-'
    · exact ⟨[c], rest, rfl, by simp [minus], by simp [minus]⟩
    · by_cases plus : c = wchar '+'
      · exact ⟨[c], rest, rfl, by simp [plus], by simp [plus]⟩
      · exact ⟨[], c :: rest, rfl, .inl rfl, by simp [minus, plus]⟩

/-- What is converted to the end begins with white space and at most a sign, and goes on
with digits only. -/
theorem unsigned_cut {t : WString} {v : UInt32} (nulFree : 0 ∉ t) (converted : unsigned? t = some v) :
    ∃ sign value, (sign = [] ∨ sign = [wchar '+'] ∨ sign = [wchar '-']) ∧ Signed sign t value := by
  have blank : ∀ c ∈ t.takeWhile iswspace, iswspace c = true := fun c member => List.mem_takeWhile_imp member
  have whole : t.takeWhile iswspace ++ t.dropWhile iswspace = t := List.takeWhile_append_dropWhile
  obtain ⟨sign, tail, body, known, behind⟩ := sign_cut (t.dropWhile iswspace)
  unfold unsigned? at converted
  split at converted
  · cases converted
  next complete =>
    rw [not_or, not_not] at complete
    obtain ⟨some_text, stops⟩ := complete
    have plain (rest : WString) (inside : rest ⊆ t) (ends : rest.headD 0 = 0) : rest = [] := by
      cases rest with
      | nil => rfl
      | cons c rest =>
        cases show c = 0 from ends
        exact absurd (inside List.mem_cons_self) nulFree
    simp only [wcstoul, behind] at stops
    split at stops
    next => exact absurd (plain t (fun _ member => member) stops) (by simpa using some_text)
    next nonempty =>
      have ends : tail.dropWhile iswdigit = [] := by
        apply plain
        · intro c member
          rw [← whole, body]
          exact List.mem_append_right _ (List.mem_append_right _ ((List.dropWhile_sublist _).subset member))
        · split at stops
          · exact stops
          · split at stops
            · exact stops
            · exact stops
      refine ⟨sign, _, known, t.takeWhile iswspace, tail, by rw [← body, whole], blank, ?_, ?_, rfl⟩
      · rintro rfl
        exact nonempty rfl
      · exact List.dropWhile_eq_nil_iff.mp ends

theorem unsigned_signed {sign t : WString} {value : Nat} (known : sign = [] ∨ sign = [wchar '+'] ∨ sign = [wchar '-'])
    (signed : Signed sign t value) :
    unsigned? t = some (if value > ULONG_MAX.toNat then ULONG_MAX
      else if sign = [wchar '-'] then 0 - value.toUInt32 else value.toUInt32) := by
  obtain ⟨spaces, digits, rfl, blank, nonempty, all, rfl⟩ := signed
  rw [unsigned?, wcstoul_signed blank nonempty all known, if_neg]
  simp [nonempty]

theorem negated_toNat {value : Nat} (positive : 0 < value) (small : value ≤ ULONG_MAX.toNat) :
    (0 - value.toUInt32).toNat = 2 ^ 32 - value := by
  have bound : value < 2 ^ 32 := Nat.lt_succ_of_le small
  rw [UInt32.toNat_sub, UInt32.toNat_ofNat', Nat.mod_eq_of_lt bound]
  simp only [UInt32.reduceToNat]
  omega

/-- A number that is neither zero nor the saturated one comes from a numeral that stands
for it, or from a negative one that wraps around to it. -/
theorem unsigned_wrapped {t : WString} (nulFree : 0 ∉ t) {v : UInt32} (positive : 0 < v.toNat)
    (small : v.toNat < ULONG_MAX.toNat) : unsigned? t = some v ↔ Wrapped t v.toNat := by
  constructor
  · intro converted
    obtain ⟨sign, value, known, signed⟩ := unsigned_cut nulFree converted
    rw [unsigned_signed known signed, Option.some.injEq] at converted
    split at converted
    next => exact absurd small (by simp [← converted])
    next bounded =>
      have bounded : value ≤ ULONG_MAX.toNat := Nat.not_lt.mp bounded
      have exact : value.toUInt32.toNat = value := by
        rw [UInt32.toNat_ofNat', Nat.mod_eq_of_lt (show value < 2 ^ 32 from Nat.lt_succ_of_le bounded)]
      rcases known with rfl | rfl | rfl
      · rw [if_neg (by decide)] at converted
        rw [← converted, exact]
        exact .inl (.inl signed)
      · rw [if_neg (by decide)] at converted
        rw [← converted, exact]
        exact .inl (.inr signed)
      · rw [if_pos rfl] at converted
        have nonzero : 0 < value := by
          by_contra zero
          rw [Nat.eq_zero_of_not_pos zero] at converted
          rw [← converted] at positive
          exact absurd positive (by decide)
        have magnitude : 2 ^ 32 - v.toNat = value := by
          rw [← converted, negated_toNat nonzero bounded]
          exact Nat.sub_sub_self (Nat.le_succ_of_le bounded)
        exact .inr (magnitude ▸ signed)
  · have bound := v.toNat_lt
    rintro ((plain | plus) | negative)
    · rw [unsigned_signed (.inl rfl) plain, if_neg (Nat.not_lt_of_lt small), if_neg (by decide)]
      exact congrArg some UInt32.ofNat_toNat
    · rw [unsigned_signed (.inr (.inl rfl)) plus, if_neg (Nat.not_lt_of_lt small), if_neg (by decide)]
      exact congrArg some UInt32.ofNat_toNat
    · have within : 2 ^ 32 - v.toNat ≤ ULONG_MAX.toNat := by
        simp only [ULONG_MAX, UInt32.reduceToNat]
        omega
      rw [unsigned_signed (.inr (.inr rfl)) negative, if_neg (Nat.not_lt.mpr within), if_pos rfl, Option.some.injEq,
        ← UInt32.toNat_inj, negated_toNat (by omega) within]
      omega

theorem trim_subset (s : WString) : trim s ⊆ s := by
  obtain ⟨front, back, whole, _⟩ := strip_cut iswspace s
  intro c member
  rw [whole]
  exact List.mem_append_right _ (List.mem_append_left _ member)

theorem signed_char {sign t : WString} {value : Nat} (signed : Signed sign t value) {c : WChar} (member : c ∈ t) :
    iswspace c = true ∨ c ∈ sign ∨ iswdigit c = true := by
  obtain ⟨spaces, digits, rfl, blank, _, all, _⟩ := signed
  rcases List.mem_append.mp member with space | behind
  · exact .inl (blank c space)
  · rcases List.mem_append.mp behind with inside | digit
    · exact .inr (.inl inside)
    · exact .inr (.inr (all c digit))

theorem signed_last {sign t : WString} {value : Nat} (signed : Signed sign t value) :
    ∃ front last, t = front ++ [last] ∧ iswdigit last = true := by
  obtain ⟨spaces, digits, rfl, _, nonempty, all, _⟩ := signed
  refine ⟨spaces ++ (sign ++ digits.dropLast), digits.getLast nonempty, ?_, all _ (List.getLast_mem nonempty)⟩
  rw [List.append_assoc, List.append_assoc, List.dropLast_append_getLast]

theorem wrapped_signed {t : WString} {value : Nat} (wrapped : Wrapped t value) :
    ∃ sign n, (sign = [] ∨ sign = [wchar '+'] ∨ sign = [wchar '-']) ∧ Signed sign t n := by
  rcases wrapped with (plain | plus) | negative
  · exact ⟨_, _, .inl rfl, plain⟩
  · exact ⟨_, _, .inr (.inl rfl), plus⟩
  · exact ⟨_, _, .inr (.inr rfl), negative⟩

/-- No separator lies inside a numeral. -/
theorem wrapped_absent {t : WString} {value : Nat} (wrapped : Wrapped t value) {c : WChar} (solid : iswspace c = false)
    (plus : c ≠ wchar '+') (minus : c ≠ wchar '-') (other : iswdigit c = false) : c ∉ t := by
  intro member
  obtain ⟨sign, n, known, signed⟩ := wrapped_signed wrapped
  rcases signed_char signed member with space | inside | digit
  · rw [solid] at space
    cases space
  · rcases known with rfl | rfl | rfl
    · cases inside
    · exact plus (List.mem_singleton.mp inside)
    · exact minus (List.mem_singleton.mp inside)
  · rw [other] at digit
    cases digit

/-- Taking the star off, for a text that ends in a digit once it is gone. -/
theorem star_iff (s : WString) {text : WString} (ends : ∃ front last, text = front ++ [last] ∧ iswdigit last = true)
    (preferred : Bool) :
    ((trim s).getLast? == some (wchar '*')) = preferred ∧
        (if preferred then trim (trim s).dropLast else trim s) = text ↔
      ∃ spaces, trim s = text ++ (if preferred then spaces ++ [wchar '*'] else []) ∧ ∀ c ∈ spaces, iswspace c = true := by
  obtain ⟨front, last, rfl, digit⟩ := ends
  cases preferred with
  | false =>
    simp only [Bool.false_eq_true, if_false, List.append_nil, beq_eq_false_iff_ne, ne_eq]
    constructor
    · rintro ⟨_, same⟩
      exact ⟨[], same, nofun⟩
    · rintro ⟨_, same, _⟩
      refine ⟨?_, same⟩
      rw [same, List.getLast?_concat, Option.some.injEq]
      exact digit_ne digit (by decide)
  | true =>
    simp only [if_true, beq_iff_eq]
    constructor
    · rintro ⟨star, same⟩
      obtain ⟨behind, whole⟩ := List.getLast?_eq_some_iff.mp star
      rw [whole, List.dropLast_concat] at same
      obtain ⟨spaces, back, split, blank, blankBack⟩ := strip_cut iswspace behind
      cases spaces with
      | nil =>
        refine ⟨back, ?_, blankBack⟩
        rw [whole, split, List.nil_append, show strip iswspace behind = front ++ [last] from same, List.append_assoc]
      | cons c spaces =>
        have first : (trim s).head? = some c := by
          rw [whole, split]
          rfl
        have solid := strip_head first
        rw [blank c List.mem_cons_self] at solid
        cases solid
    · rintro ⟨spaces, same, blank⟩
      refine ⟨by rw [same, ← List.append_assoc, List.getLast?_concat], ?_⟩
      rw [same, ← List.append_assoc, List.dropLast_concat]
      have stripped : strip iswspace ([] ++ ((front ++ [last]) ++ spaces)) = front ++ [last] := by
        apply strip_exact (by simp) blank
        · intro c first
          apply strip_head
          rw [show strip iswspace s = trim s from rfl, same, List.head?_append, first]
          rfl
        · intro c final
          rw [List.getLast?_concat, Option.some.injEq] at final
          exact digit_not_space (final ▸ digit)
      exact stripped

theorem body_ends (width height : WString) {refresh : WString} {value : Nat} (wrapped : Wrapped refresh value) :
    ∃ front last, width ++ wchar 'x' :: (height ++ wchar '@' :: refresh) = front ++ [last] ∧ iswdigit last = true := by
  obtain ⟨_, _, _, signed⟩ := wrapped_signed wrapped
  obtain ⟨front, last, rfl, digit⟩ := signed_last signed
  exact ⟨width ++ wchar 'x' :: (height ++ wchar '@' :: front), last, by simp, digit⟩

/-- Every field of a mode in range is neither zero nor saturated. -/
theorem unsigned_field {t : WString} (nulFree : 0 ∉ t) {v : UInt32} (valid : 30 ≤ v.toNat ∧ v.toNat ≤ 16384) :
    unsigned? t = some v ↔ Wrapped t v.toNat := by
  refine unsigned_wrapped nulFree (Nat.lt_of_lt_of_le (by decide) valid.1) (Nat.lt_of_le_of_lt valid.2 ?_)
  decide

/-- Up to the wrapped numbers the parser reads the grammar. -/
theorem parsed_spells {s : WString} (nulFree : 0 ∉ s) (mode : DisplayMode) :
    parsed? s = some mode ↔ Spells Wrapped s mode ∧ mode.InRange := by
  have fields (valid : mode.InRange) {width height refresh : WString} (noWidth : 0 ∉ width) (noHeight : 0 ∉ height)
      (noRefresh : 0 ∉ refresh) :
      (unsigned? width = some mode.width ∧ unsigned? height = some mode.height ∧ unsigned? refresh = some mode.refresh) ↔
        Wrapped width mode.width.toNat ∧ Wrapped height mode.height.toNat ∧ Wrapped refresh mode.refresh.toNat := by
    rw [unsigned_field noWidth (by have := valid.width; omega), unsigned_field noHeight (by have := valid.height; omega),
      unsigned_field noRefresh (by have := valid.refresh; omega)]
  rw [parsed_pieces]
  constructor
  · intro parsed
    split at parsed
    next => cases parsed
    next =>
      obtain ⟨width, height, refresh, body, _, _, read, preferred, valid⟩ := (pieces_iff _ _ _).mp parsed
      have inside : width ++ wchar 'x' :: (height ++ wchar '@' :: refresh) ⊆ s := by
        rw [← body]
        split
        · exact fun c member => trim_subset s (List.dropLast_subset _ (trim_subset _ member))
        · exact trim_subset s
      obtain ⟨w, h, r⟩ := (fields valid (fun nul => nulFree (inside (by simp [nul]))) (fun nul => nulFree (inside (by simp [nul])))
        (fun nul => nulFree (inside (by simp [nul])))).mp read
      obtain ⟨spaces, same, blank⟩ := (star_iff s (body_ends width height r) mode.preferred).mp
        ⟨preferred.symm, by rw [preferred]; exact body⟩
      exact ⟨⟨width, height, refresh, spaces, by rw [same]; simp, blank, w, h, r⟩, valid⟩
  · rintro ⟨⟨width, height, refresh, spaces, same, blank, w, h, r⟩, valid⟩
    obtain ⟨preferred, body⟩ := (star_iff s (body_ends width height r) mode.preferred).mpr
      ⟨spaces, by rw [same]; simp, blank⟩
    have inside : trim s ⊆ s := trim_subset s
    rw [same] at inside
    have read := (fields valid (fun nul => nulFree (inside (by simp [nul]))) (fun nul => nulFree (inside (by simp [nul])))
      (fun nul => nulFree (inside (by simp [nul])))).mpr ⟨w, h, r⟩
    rw [if_neg (by simp [same]), preferred, body]
    apply (pieces_iff _ _ _).mpr
    refine ⟨width, height, refresh, rfl, ?_, ?_, read, rfl, valid⟩
    · exact wrapped_absent w (by decide) (by decide) (by decide) (by decide)
    · exact wrapped_absent h (by decide) (by decide) (by decide) (by decide)

theorem Spells.weaken {reads other : WString → Nat → Prop} {s : WString} {mode : DisplayMode} (spells : Spells reads s mode)
    (implies : ∀ t value, t ⊆ s → reads t value → other t value) : Spells other s mode := by
  obtain ⟨width, height, refresh, spaces, same, blank, w, h, r⟩ := spells
  have inside : trim s ⊆ s := trim_subset s
  rw [same] at inside
  refine ⟨width, height, refresh, spaces, same, blank, implies _ _ ?_ w, implies _ _ ?_ h, implies _ _ ?_ r⟩
  · exact fun c member => inside (by simp [member])
  · exact fun c member => inside (by simp [member])
  · exact fun c member => inside (by simp [member])

/-- The text of a mode has no minus sign. -/
theorem spells_plain {s : WString} {mode : DisplayMode} (spells : Spells Numeral s mode) : wchar '-' ∉ s := by
  obtain ⟨width, height, refresh, spaces, same, blank, w, h, r⟩ := spells
  have solid : iswspace (wchar '-') = false := by decide
  have absent {t : WString} {value : Nat} (numeral : Numeral t value) : wchar '-' ∉ t := by
    intro member
    rcases numeral with plain | plus
    · rcases signed_char plain member with space | inside | digit
      · exact absurd space (by decide)
      · cases inside
      · exact absurd digit (by decide)
    · rcases signed_char plus member with space | inside | digit
      · exact absurd space (by decide)
      · exact absurd (List.mem_singleton.mp inside) (by decide)
      · exact absurd digit (by decide)
  have unspaced {t : WString} (white : ∀ c ∈ t, iswspace c = true) : wchar '-' ∉ t := by
    intro member
    rw [white _ member] at solid
    cases solid
  obtain ⟨front, back, whole, blankFront, blankBack⟩ := strip_cut iswspace s
  have starless : wchar '-' ∉ (if mode.preferred then spaces ++ [wchar '*'] else []) := by
    split
    · simpa [unspaced blank] using show wchar '-' ≠ wchar '*' by decide
    · exact List.not_mem_nil
  rw [whole, show strip iswspace s = _ from same]
  simp [unspaced blankFront, unspaced blankBack, absent w, absent h, absent r, starless,
    show wchar '-' ≠ wchar 'x' by decide, show wchar '-' ≠ wchar '@' by decide]

/-- The parser succeeds on exactly the texts of modes in range, with that mode. -/
def MeetsGrammar (s : WString) : Prop := ∀ out mode, parseModeString s out = (true, mode) ↔ Denotes s mode

theorem parseModeString_iff (s : WString) (out mode : DisplayMode) :
    parseModeString s out = (true, mode) ↔ parsed? s = some mode := by
  obtain ⟨success, value⟩ := parseModeString_agrees s out
  constructor
  · intro parsed
    rw [parsed] at success value
    obtain ⟨found, is⟩ := Option.isSome_iff_exists.mp success.symm
    rw [is, show mode = found from value found is]
  · intro found
    rw [found] at success
    exact Prod.ext success (value mode found)

/-- A text is parsed as the grammar has it exactly if no negative numeral in it wraps
around to a mode in range. -/
theorem grammar_iff {s : WString} (nulFree : 0 ∉ s) : MeetsGrammar s ↔ ¬ WrapsAround s := by
  simp only [MeetsGrammar, Denotes, parseModeString_iff, parsed_spells nulFree]
  constructor
  · rintro every ⟨minus, mode, wraps, valid⟩
    exact spells_plain ((every default mode).mp ⟨wraps, valid⟩).1 minus
  · intro never _ mode
    constructor
    · rintro ⟨spells, valid⟩
      refine ⟨spells.weaken ?_, valid⟩
      rintro t value inside (numeral | ⟨spaces, digits, rfl, _⟩)
      · exact numeral
      · exact absurd ⟨inside (by simp), mode, spells, valid⟩ never
    · rintro ⟨spells, valid⟩
      exact ⟨spells.weaken fun _ _ _ numeral => .inl numeral, valid⟩

theorem grammar_iff_plain :
    MeetsGrammar (wide "800x600@60*".toList) ↔ ¬ WrapsAround (wide "800x600@60*".toList) :=
  grammar_iff (by decide)

/-- A width of 2^32 less 640 with a minus sign is read as 640. -/
theorem grammar_violated : ¬ ∀ s : WString, 0 ∉ s → MeetsGrammar s := by
  intro claim
  have meets := claim (wide "-4294966656x480@60".toList) (by decide) default ⟨640, 480, 60, false⟩
  exact spells_plain (meets.mp (by decide)).1 (by decide)

end QubesIdd.CSettings
