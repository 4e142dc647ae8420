import QubesIdd.Library.Scan
import QubesIdd.Settings

/-! The mode text: what the parser returns does not depend on the scratch mode it
fills, a parsed mode is in range, and the printed form of any mode is read back
exactly. -/

namespace QubesIdd

namespace DisplayMode

theorem inRange_iff_sane (mode : DisplayMode) : mode.InRange ↔ ¬ CSettings.insane mode := by
  simp only [CSettings.insane, not_or, UInt32.not_lt, gt_iff_lt, UInt32.le_iff_toNat_le]
  constructor
  · intro valid
    exact ⟨valid.width.1, valid.height.1, valid.width.2, valid.height.2, valid.refresh.1, valid.refresh.2⟩
  · rintro ⟨wide, high, widthBound, heightBound, rate, rateBound⟩
    exact ⟨⟨wide, widthBound⟩, ⟨high, heightBound⟩, rate, rateBound⟩

end DisplayMode

namespace CSettings
open Library Library.Scan

/-- The number a text converts to, if the conversion uses all of it. -/
def unsigned? (t : WString) : Option UInt32 :=
  if t.isEmpty ∨ (wcstoul t).2.headD 0 ≠ 0 then none else some (wcstoul t).1

theorem toUnsigned_eq (t : WString) (v : UInt32) :
    toUnsigned t v = ((unsigned? t).isSome, (unsigned? t).getD v) := by
  unfold toUnsigned unsigned?
  by_cases empty : t.isEmpty = true
  · simp [empty]
  · dsimp only
    rw [if_neg empty]
    by_cases stopped : (wcstoul t).2.headD 0 = 0
    · rw [if_neg (not_not_intro stopped), if_neg (not_or_intro empty (not_not_intro stopped))]
      rfl
    · rw [if_pos stopped, if_pos (Or.inr stopped)]
      rfl

def fields? (s : WString) (xPos atPos : Nat) (preferred : Bool) : Option DisplayMode := do
  let width ← unsigned? (substr s 0 xPos)
  let height ← unsigned? (substr s (xPos + 1) (atPos - (xPos + 1)))
  let refresh ← unsigned? (s.drop (atPos + 1))
  let mode : DisplayMode := { width, height, refresh, preferred }
  if insane mode then none else some mode

/-- The mode a text denotes: the parser without its scratch variable. -/
def parsed? (input : WString) : Option DisplayMode :=
  let s := trim input
  if s.isEmpty then none else
  let preferred := s.getLast? == some (wchar '*')
  let s := if preferred then trim s.dropLast else s
  match find s (wchar 'x') 0, find s (wchar '@') (((find s (wchar 'x') 0).map (· + 1)).getD 0) with
  | some xPos, some atPos =>
    if xPos = 0 ∨ atPos ≤ xPos + 1 ∨ atPos + 1 ≥ s.length then none else fields? s xPos atPos preferred
  | _, _ => none

/-- A call that fills a variable agrees with an optional result: it succeeds when
there is one, and then the variable holds it. -/
def Agrees (result : Bool × DisplayMode) (mode : Option DisplayMode) : Prop :=
  result.1 = mode.isSome ∧ ∀ value, mode = some value → result.2 = value

theorem parseFields_agrees (s : WString) (xPos atPos : Nat) (out : DisplayMode) :
    Agrees (parseFields s xPos atPos out) (fields? s xPos atPos out.preferred) := by
  unfold parseFields fields?
  simp only [toUnsigned_eq]
  cases unsigned? (substr s 0 xPos) with
  | none => simp [Agrees]
  | some width =>
    cases unsigned? (substr s (xPos + 1) (atPos - (xPos + 1))) with
    | none => simp [Agrees]
    | some height =>
      cases unsigned? (s.drop (atPos + 1)) with
      | none => simp [Agrees]
      | some refresh =>
        by_cases rejected : insane { width, height, refresh, preferred := out.preferred }
        · simp [Agrees, rejected]
        · simp [Agrees, rejected]

/-- Neither the outcome nor a parsed mode depends on what the scratch mode held. -/
theorem parseModeString_agrees (input : WString) (out : DisplayMode) :
    Agrees (parseModeString input out) (parsed? input) := by
  unfold parseModeString parsed?
  dsimp only
  split
  · simp [Agrees]
  · generalize ((trim input).getLast? == some (wchar '*')) = preferred
    generalize (if preferred = true then trim (trim input).dropLast else trim input) = s
    generalize find s (wchar '@') _ = atPos
    cases find s (wchar 'x') 0 with
    | none => simp [Agrees]
    | some xPos =>
      cases atPos with
      | none => simp [Agrees]
      | some atPos =>
        dsimp only
        split
        · simp [Agrees]
        · exact parseFields_agrees s xPos atPos { out with preferred }

theorem fields_inRange {s : WString} {xPos atPos : Nat} {preferred : Bool} {mode : DisplayMode}
    (accepted : fields? s xPos atPos preferred = some mode) : mode.InRange := by
  simp only [fields?, Option.bind_eq_bind, Option.bind_eq_some_iff] at accepted
  obtain ⟨width, _, height, _, refresh, _, kept⟩ := accepted
  split at kept
  · cases kept
  next sane =>
    cases kept
    exact (DisplayMode.inRange_iff_sane _).mpr sane

theorem parsed_inRange {input : WString} {mode : DisplayMode} (parsed : parsed? input = some mode) :
    mode.InRange := by
  unfold parsed? at parsed
  dsimp only at parsed
  split at parsed
  · cases parsed
  · generalize (if ((trim input).getLast? == some (wchar '*')) = true then trim (trim input).dropLast
      else trim input) = s at parsed
    split at parsed
    · split at parsed
      · cases parsed
      · exact fields_inRange parsed
    · cases parsed

theorem digit_code {c : WChar} (digit : iswdigit c = true) : 48 ≤ c.toNat ∧ c.toNat ≤ 57 := by
  simpa [iswdigit, Decimal.isDigit] using digit

theorem digit_not_space {c : WChar} (digit : iswdigit c = true) : iswspace c = false := by
  have code := digit_code digit
  simp only [iswspace, Bool.or_eq_false_iff, Bool.and_eq_false_iff, decide_eq_false_iff_not, beq_eq_false_iff_ne,
    UInt16.le_iff_toNat_le, ne_eq, ← UInt16.toNat_inj, UInt16.reduceToNat]
  omega

theorem digit_ne {c other : WChar} (digit : iswdigit c = true) (outside : iswdigit other = false) : c ≠ other := by
  rintro rfl
  rw [digit] at outside
  cases outside

theorem printed_code {value code : Nat} (printed : code ∈ Decimal.digits value) : code.toUInt16.toNat = code := by
  have digit := Decimal.isDigit_of_mem_digits printed
  simp only [Decimal.isDigit, Bool.and_eq_true, decide_eq_true_eq] at digit
  simp only [Nat.toUInt16_eq, UInt16.toNat_ofNat']
  omega

theorem format_digits {value : UInt32} {c : WChar} (member : c ∈ formatUnsigned value) : iswdigit c = true := by
  obtain ⟨code, printed, rfl⟩ := List.mem_map.mp member
  rw [iswdigit, printed_code printed]
  exact Decimal.isDigit_of_mem_digits printed

theorem format_codes (value : UInt32) : (formatUnsigned value).map UInt16.toNat = Decimal.digits value.toNat := by
  rw [formatUnsigned, List.map_map]
  exact (List.map_congr_left fun code printed => printed_code printed).trans (List.map_id _)

/-- White space, an optional sign and digits are converted as a whole. -/
theorem wcstoul_signed {sign spaces digits : WString} (blank : ∀ c ∈ spaces, iswspace c = true) (nonempty : digits ≠ [])
    (all : ∀ c ∈ digits, iswdigit c = true) (known : sign = [] ∨ sign = [wchar '+'] ∨ sign = [wchar '-']) :
    wcstoul (spaces ++ (sign ++ digits)) =
      (if Decimal.value (digits.map UInt16.toNat) > ULONG_MAX.toNat then ULONG_MAX
        else if sign = [wchar '-'] then 0 - (Decimal.value (digits.map UInt16.toNat)).toUInt32
        else (Decimal.value (digits.map UInt16.toNat)).toUInt32, []) := by
  obtain ⟨first, rest, rfl⟩ := List.exists_cons_of_ne_nil nonempty
  have digit := all first List.mem_cons_self
  have minus : first ≠ wchar '-' := digit_ne digit (by decide)
  have plus : first ≠ wchar '+' := digit_ne digit (by decide)
  have body : (spaces ++ (sign ++ first :: rest)).dropWhile iswspace = sign ++ first :: rest := by
    apply dropWhile_run blank
    intro c head
    rcases known with rfl | rfl | rfl
    · cases head
      exact digit_not_space digit
    · cases head
      decide
    · cases head
      decide
  have taken : (first :: rest).takeWhile iswdigit = first :: rest := List.takeWhile_eq_self_iff.mpr all
  have dropped : (first :: rest).dropWhile iswdigit = [] := List.dropWhile_eq_nil_iff.mpr all
  unfold wcstoul
  dsimp only
  rw [body]
  rcases known with rfl | rfl | rfl
  · simp only [List.nil_append, List.head?_cons, beq_iff_eq, Option.some.injEq, minus, plus, Bool.or_eq_true, or_self, if_false,
      taken, dropped, List.isEmpty_cons, Bool.false_eq_true, List.nil_eq, reduceCtorEq]
    split <;> rfl
  · have other : wchar '+' ≠ wchar '-' := by decide
    simp only [List.cons_append, List.nil_append, List.head?_cons, beq_iff_eq, Option.some.injEq, other, Bool.or_eq_true, or_true,
      if_true, List.tail_cons, taken, dropped, List.isEmpty_cons, Bool.false_eq_true, if_false, List.cons.injEq, false_and]
    split <;> rfl
  · simp only [List.cons_append, List.nil_append, List.head?_cons, beq_self_eq_true, Bool.true_or, if_true, List.tail_cons, taken,
      dropped, List.isEmpty_cons, Bool.false_eq_true, if_false]
    split <;> rfl

theorem unsigned_format (value : UInt32) : unsigned? (formatUnsigned value) = some value := by
  have nonempty : formatUnsigned value ≠ [] := by simp [formatUnsigned, Decimal.digits_ne_nil]
  have converted : wcstoul (formatUnsigned value) = _ :=
    @wcstoul_signed [] [] (formatUnsigned value) (by simp) nonempty (fun c member => format_digits member) (.inl rfl)
  rw [unsigned?, converted, format_codes, Decimal.value_digits]
  have bound := value.toNat_lt
  rw [if_neg (by simp [nonempty]), if_neg (by simp [ULONG_MAX]; omega)]
  simp

theorem trim_solid {s : WString} (solid : ∀ c ∈ s, iswspace c = false) : trim s = s := by
  have kept (t : WString) (inside : ∀ c ∈ t, iswspace c = false) : t.dropWhile iswspace = t := by
    cases t with
    | nil => rfl
    | cons c rest => rw [List.dropWhile_cons_of_neg (by simp [inside c List.mem_cons_self])]
  rw [trim, kept s solid, kept s.reverse (by simpa using solid), List.reverse_reverse]

theorem find_append {before : WString} (behind : WString) {c : WChar} (absent : c ∉ before) (pos : Nat)
    (start : WString) (reached : start.length = pos) :
    find (start ++ before ++ c :: behind) c pos = some (pos + before.length) := by
  have missing : before.findIdx? (· == c) = none := by
    rw [List.findIdx?_eq_none_iff]
    intro other member
    rw [beq_eq_false_iff_ne]
    rintro rfl
    exact absent member
  rw [find, List.append_assoc, ← reached, List.drop_left, List.findIdx?_append, missing]
  simp [List.findIdx?_cons, Nat.add_comm]

theorem drop_separator (before behind : WString) (c : WChar) :
    (before ++ c :: behind).drop (before.length + 1) = behind := by
  rw [List.drop_length_add_append, List.drop_one, List.tail_cons]

theorem find_cut {s : WString} {c : WChar} {pos i : Nat} (found : find s c pos = some i) :
    ∃ before behind, s.drop pos = before ++ c :: behind ∧ c ∉ before ∧ i = pos + before.length := by
  obtain ⟨index, here, rfl⟩ := Option.map_eq_some_iff.mp found
  obtain ⟨inside, same, first⟩ := List.findIdx?_eq_some_iff_getElem.mp here
  refine ⟨(s.drop pos).take index, (s.drop pos).drop (index + 1), ?_, ?_, ?_⟩
  · rw [← eq_of_beq same, ← List.drop_eq_getElem_cons inside, List.take_append_drop]
  · intro member
    obtain ⟨earlier, before, equal⟩ := List.mem_take_iff_getElem.mp member
    exact first earlier (by omega) (by simp [equal])
  · rw [List.length_take, Nat.min_eq_left (Nat.le_of_lt inside), Nat.add_comm]

def body (mode : DisplayMode) : WString :=
  formatUnsigned mode.width ++ wchar 'x' :: (formatUnsigned mode.height ++ wchar '@' :: formatUnsigned mode.refresh)

theorem formatMode_body (mode : DisplayMode) :
    formatMode mode = body mode ++ if mode.preferred then [wchar '*'] else [] := by
  simp [formatMode, body]

theorem format_absent (value : UInt32) {c : WChar} (other : iswdigit c = false) : c ∉ formatUnsigned value :=
  fun member => digit_ne (format_digits member) other rfl

theorem body_char {mode : DisplayMode} {c : WChar} (member : c ∈ body mode) :
    iswdigit c = true ∨ c = wchar 'x' ∨ c = wchar '@' := by
  simp only [body, List.mem_append, List.mem_cons] at member
  rcases member with width | x | height | at' | refresh
  · exact .inl (format_digits width)
  · exact .inr (.inl x)
  · exact .inl (format_digits height)
  · exact .inr (.inr at')
  · exact .inl (format_digits refresh)

theorem body_solid {mode : DisplayMode} {c : WChar} (member : c ∈ body mode) : iswspace c = false := by
  rcases body_char member with digit | rfl | rfl
  · exact digit_not_space digit
  · decide
  · decide

theorem body_last (mode : DisplayMode) : ((body mode).getLast? == some (wchar '*')) = false := by
  rw [beq_eq_false_iff_ne]
  intro star
  rcases body_char (List.mem_of_getLast? star) with digit | x | at'
  · exact digit_ne digit (by decide) rfl
  · exact absurd x (by decide)
  · exact absurd at' (by decide)

/-- The three pieces that two separators cut out. -/
theorem fields_pieces (width height refresh : WString) (preferred : Bool) :
    fields? (width ++ wchar 'x' :: (height ++ wchar '@' :: refresh)) width.length (width.length + 1 + height.length) preferred =
      (unsigned? width).bind fun w => (unsigned? height).bind fun h => (unsigned? refresh).bind fun r =>
        if insane ⟨w, h, r, preferred⟩ then none else some ⟨w, h, r, preferred⟩ := by
  have first : substr (width ++ wchar 'x' :: (height ++ wchar '@' :: refresh)) 0 width.length = width := by
    simp [substr]
  have second : substr (width ++ wchar 'x' :: (height ++ wchar '@' :: refresh)) (width.length + 1) height.length = height := by
    rw [substr, drop_separator, List.take_left]
  have third : (width ++ wchar 'x' :: (height ++ wchar '@' :: refresh)).drop (width.length + 1 + height.length + 1) =
      refresh := by
    rw [Nat.add_assoc, ← List.drop_drop, drop_separator, drop_separator]
  simp only [fields?, first, Nat.add_sub_cancel_left, second, third, Option.bind_eq_bind]

/-- The parser behind the trimming. -/
def pieces? (s : WString) (preferred : Bool) : Option DisplayMode :=
  match find s (wchar 'x') 0, find s (wchar '@') (((find s (wchar 'x') 0).map (· + 1)).getD 0) with
  | some xPos, some atPos =>
    if xPos = 0 ∨ atPos ≤ xPos + 1 ∨ atPos + 1 ≥ s.length then none else fields? s xPos atPos preferred
  | _, _ => none

theorem parsed_pieces (s : WString) :
    parsed? s = if (trim s).isEmpty then none else
      pieces? (if (trim s).getLast? == some (wchar '*') then trim (trim s).dropLast else trim s)
        ((trim s).getLast? == some (wchar '*')) := rfl

/-- A text in three pieces is cut between them. The position guards turn down an empty
piece, and so would the conversion. -/
theorem pieces_cut {width height : WString} (refresh : WString) (noX : wchar 'x' ∉ width) (noAt : wchar '@' ∉ height)
    (preferred : Bool) :
    pieces? (width ++ wchar 'x' :: (height ++ wchar '@' :: refresh)) preferred =
      (unsigned? width).bind fun w => (unsigned? height).bind fun h => (unsigned? refresh).bind fun r =>
        if insane ⟨w, h, r, preferred⟩ then none else some ⟨w, h, r, preferred⟩ := by
  have xFound : find (width ++ wchar 'x' :: (height ++ wchar '@' :: refresh)) (wchar 'x') 0 = some width.length := by
    simpa using find_append (height ++ wchar '@' :: refresh) noX 0 [] rfl
  have atFound : find (width ++ wchar 'x' :: (height ++ wchar '@' :: refresh)) (wchar '@') (width.length + 1) =
      some (width.length + 1 + height.length) := by
    simpa using find_append refresh noAt (width.length + 1) (width ++ [wchar 'x']) (by simp)
  simp only [pieces?, xFound, Option.map_some, Option.getD_some, atFound]
  split
  next guard =>
    have empty : width = [] ∨ height = [] ∨ refresh = [] := by
      simp only [List.length_append, List.length_cons] at guard
      simp only [← List.length_eq_zero_iff]
      omega
    have nothing : unsigned? [] = none := rfl
    rcases empty with rfl | rfl | rfl
    · rw [nothing, Option.bind_none]
    · simp only [nothing, Option.bind_none, Option.bind_fun_none]
    · simp only [nothing, Option.bind_none, Option.bind_fun_none]
  next => exact fields_pieces width height refresh preferred

/-- The text is cut at its first `x` and the first `@` behind it. -/
theorem pieces_iff (s : WString) (mode : DisplayMode) (preferred : Bool) :
    pieces? s preferred = some mode ↔ ∃ width height refresh,
      s = width ++ wchar 'x' :: (height ++ wchar '@' :: refresh) ∧ wchar 'x' ∉ width ∧ wchar '@' ∉ height ∧
      (unsigned? width = some mode.width ∧ unsigned? height = some mode.height ∧ unsigned? refresh = some mode.refresh) ∧
      mode.preferred = preferred ∧ mode.InRange := by
  constructor
  · intro parsed
    unfold pieces? at parsed
    split at parsed
    next xPos atPos xFound atFound =>
      rw [xFound, Option.map_some, Option.getD_some] at atFound
      obtain ⟨width, afterX, cut, noX, rfl⟩ := find_cut xFound
      obtain ⟨height, refresh, again, noAt, rfl⟩ := find_cut atFound
      rw [List.drop_zero] at cut
      subst cut
      rw [Nat.zero_add, drop_separator] at again
      subst again
      split at parsed
      next => cases parsed
      next =>
        rw [Nat.zero_add, fields_pieces] at parsed
        simp only [Option.bind_eq_some_iff] at parsed
        obtain ⟨w, wRead, h, hRead, r, rRead, kept⟩ := parsed
        split at kept
        next => cases kept
        next sane =>
          cases kept
          exact ⟨width, height, refresh, rfl, noX, noAt, ⟨wRead, hRead, rRead⟩, rfl, (DisplayMode.inRange_iff_sane _).mpr sane⟩
    next => cases parsed
  · rintro ⟨width, height, refresh, rfl, noX, noAt, ⟨w, h, r⟩, rfl, valid⟩
    rw [pieces_cut refresh noX noAt, w, h, r]
    simp [(DisplayMode.inRange_iff_sane mode).mp valid]

/-- Any printed mode, in range or not, is taken apart at its two separators; only
the sanity check decides whether it is accepted. -/
theorem parsed_formatMode (mode : DisplayMode) :
    parsed? (formatMode mode) = if insane mode then none else some mode := by
  have solid (c : WChar) (member : c ∈ formatMode mode) : iswspace c = false := by
    rw [formatMode_body, List.mem_append] at member
    rcases member with inside | star
    · exact body_solid inside
    · split at star
      · rw [List.mem_singleton.mp star]; decide
      · cases star
  have nonempty : (formatMode mode).isEmpty = false := by simp [formatMode]
  have last : ((formatMode mode).getLast? == some (wchar '*')) = mode.preferred := by
    rw [formatMode_body]
    cases mode.preferred
    · simpa using body_last mode
    · simp
  have stripped : (if mode.preferred = true then trim (formatMode mode).dropLast else formatMode mode) = body mode := by
    rw [formatMode_body]
    cases mode.preferred
    · simp
    · simpa using trim_solid fun c member => body_solid member
  have width := format_absent mode.width (by decide : iswdigit (wchar 'x') = false)
  have height := format_absent mode.height (by decide : iswdigit (wchar '@') = false)
  rw [parsed_pieces, trim_solid solid, nonempty, if_neg Bool.false_ne_true, last, stripped, body, pieces_cut _ width height]
  simp only [unsigned_format, Option.bind_some]

end CSettings
end QubesIdd
