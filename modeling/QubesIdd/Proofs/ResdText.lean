import QubesIdd.Library.Scan
import QubesIdd.Resd

/-! What a line asks for, said without scanning: where its first marker ends, and
which two numerals stand there. -/

namespace QubesIdd.Resd
open Library Library.Scan

/-- The text behind the first marker of a line. -/
def FollowsMarker (line after : Bytes) : Prop :=
  ∃ before, line = before ++ (marker ++ after) ∧
    ∀ earlier later, line = earlier ++ (marker ++ later) → before.length ≤ earlier.length

/-- A decimal numeral with its sign, white space in front allowed. -/
def Numeral (text : Bytes) (value : Int) : Prop :=
  ∃ spaces sign digits, text = spaces ++ (sign ++ digits) ∧ (∀ c ∈ spaces, isspace c = true) ∧
    digits ≠ [] ∧ (∀ c ∈ digits, isdigit c = true) ∧
    ((sign = [] ∨ sign = [char '+']) ∧ value = Decimal.value (digits.map UInt8.toNat) ∨
      sign = [char '-'] ∧ value = -(Decimal.value (digits.map UInt8.toNat) : Int))

def NumeralEnds (rest : Bytes) : Prop := ∀ c, rest.head? = some c → isdigit c = false

/-- The text begins with `WxH`. -/
def SpellsSize (text : Bytes) (w hh : Int) : Prop :=
  ∃ width height rest, text = width ++ char 'x' :: (height ++ rest) ∧ Numeral width w ∧ Numeral height hh ∧
    NumeralEnds rest

def Requests (line : Bytes) (w hh : UInt32) : Prop :=
  ∃ after, FollowsMarker line after ∧ SpellsSize after w.toNat hh.toNat ∧ 0 < w.toNat ∧ 0 < hh.toNat

/-- Numerals that follow the marker fit an `int`. -/
def IntRange (line : Bytes) : Prop :=
  ∀ after w hh, FollowsMarker line after → SpellsSize after w hh →
    (-2 ^ 31 ≤ w ∧ w < 2 ^ 31) ∧ -2 ^ 31 ≤ hh ∧ hh < 2 ^ 31

private theorem digit_not_space {c : UInt8} (digit : isdigit c = true) : isspace c = false := by
  simp only [isdigit, Decimal.isDigit, Bool.and_eq_true, decide_eq_true_eq] at digit
  have space : c ≠ char ' ' := by
    rintro rfl
    exact absurd digit (by decide)
  have control : ¬ c ≤ 0x0d := by
    rw [UInt8.le_iff_toNat_le]
    simp only [UInt8.reduceToNat]
    omega
  simp [isspace, space, control]

private theorem digit_not_sign {c : UInt8} (digit : isdigit c = true) : c ≠ char '-' ∧ c ≠ char '+' := by
  constructor <;> (rintro rfl; exact absurd digit (by decide))

/-- Once the sign is gone, the numeral is the whole run of digits. -/
private theorem scanDigits_iff (negative : Bool) (s rest : Bytes) (value : Int) :
    scanDigits negative s = some (value, rest) ↔ ∃ digits, s = digits ++ rest ∧ digits ≠ [] ∧
      (∀ c ∈ digits, isdigit c = true) ∧ NumeralEnds rest ∧
      value = if negative then -(Decimal.value (digits.map UInt8.toNat) : Int) else Decimal.value (digits.map UInt8.toNat) := by
  unfold scanDigits
  constructor
  · intro scanned
    dsimp only at scanned
    split at scanned
    next => simp at scanned
    next nonempty =>
      simp only [Option.some.injEq, Prod.mk.injEq] at scanned
      obtain ⟨rfl, rfl⟩ := scanned
      refine ⟨s.takeWhile isdigit, List.takeWhile_append_dropWhile.symm, nonempty,
        fun c member => List.mem_takeWhile_imp member, fun c first => ?_, rfl⟩
      have stops := List.head?_dropWhile_not isdigit s
      rw [first] at stops
      simpa using stops
  · rintro ⟨digits, rfl, nonempty, all, ends, rfl⟩
    simp [takeWhile_run all ends, dropWhile_run all ends, nonempty]

private theorem scanInt_numeral {s rest : Bytes} {value : Int} (scanned : scanInt s = some (value, rest)) :
    ∃ text, s = text ++ rest ∧ Numeral text value ∧ NumeralEnds rest := by
  have blank : ∀ c ∈ s.takeWhile isspace, isspace c = true := fun c member => List.mem_takeWhile_imp member
  have whole : s.takeWhile isspace ++ s.dropWhile isspace = s := List.takeWhile_append_dropWhile
  rw [← whole]
  unfold scanInt at scanned
  generalize s.takeWhile isspace = spaces at blank
  split at scanned
  next => cases scanned
  next c tail body =>
    rw [body]
    split at scanned
    next minus =>
      obtain ⟨digits, rfl, nonempty, all, ends, rfl⟩ := (scanDigits_iff _ _ _ _).mp scanned
      refine ⟨spaces ++ ([c] ++ digits), by simp, ⟨spaces, [c], digits, rfl, blank, nonempty, all, .inr ⟨?_, rfl⟩⟩, ends⟩
      rw [minus]
    next =>
      split at scanned
      next plus =>
        obtain ⟨digits, rfl, nonempty, all, ends, rfl⟩ := (scanDigits_iff _ _ _ _).mp scanned
        refine ⟨spaces ++ ([c] ++ digits), by simp,
          ⟨spaces, [c], digits, rfl, blank, nonempty, all, .inl ⟨.inr ?_, rfl⟩⟩, ends⟩
        rw [plus]
      next =>
        obtain ⟨digits, split, nonempty, all, ends, rfl⟩ := (scanDigits_iff _ _ _ _).mp scanned
        exact ⟨spaces ++ ([] ++ digits), by simp [split],
          ⟨spaces, [], digits, rfl, blank, nonempty, all, .inl ⟨.inl rfl, rfl⟩⟩, ends⟩

private theorem numeral_scanInt {text rest : Bytes} {value : Int} (numeral : Numeral text value) (ends : NumeralEnds rest) :
    scanInt (text ++ rest) = some (value, rest) := by
  obtain ⟨spaces, sign, digits, rfl, blank, nonempty, all, signed⟩ := numeral
  obtain ⟨first, others, rfl⟩ := List.exists_cons_of_ne_nil nonempty
  have firstDigit := all first List.mem_cons_self
  have notSign := digit_not_sign firstDigit
  have scanned (negative : Bool) := (scanDigits_iff negative (first :: others ++ rest) rest _).mpr
    ⟨_, rfl, nonempty, all, ends, rfl⟩
  have body (head : ∀ c, (sign ++ (first :: others ++ rest)).head? = some c → isspace c = false) :
      (spaces ++ (sign ++ first :: others) ++ rest).dropWhile isspace = sign ++ (first :: others ++ rest) := by
    rw [List.append_assoc, List.append_assoc]
    exact dropWhile_run blank head
  unfold scanInt
  rcases signed with ⟨rfl | rfl, rfl⟩ | ⟨rfl, rfl⟩
  · rw [body fun c head => by cases head; exact digit_not_space firstDigit]
    simpa [notSign] using scanned false
  · rw [body fun c head => by cases head; decide]
    simpa [show char '+' ≠ char '-' by decide] using scanned false
  · rw [body fun c head => by cases head; decide]
    simpa using scanned true

theorem scanInt_iff (s rest : Bytes) (value : Int) :
    scanInt s = some (value, rest) ↔ ∃ text, s = text ++ rest ∧ Numeral text value ∧ NumeralEnds rest := by
  constructor
  · exact scanInt_numeral
  · rintro ⟨text, rfl, numeral, ends⟩
    exact numeral_scanInt numeral ends

/-- `sscanf_s` converts both numerals exactly when the text begins with `WxH`. -/
theorem scanSize_iff (s : Bytes) (w hh : Int) : scanSize s = some (w, hh) ↔ SpellsSize s w hh := by
  constructor
  · intro scanned
    unfold scanSize at scanned
    split at scanned
    · cases scanned
    next w' rest first =>
      split at scanned
      · cases scanned
      next separated =>
        split at scanned
        · cases scanned
        next hh' behind second =>
          simp only [Option.some.injEq, Prod.mk.injEq] at scanned
          obtain ⟨rfl, rfl⟩ := scanned
          obtain ⟨tail, rfl⟩ : ∃ tail, rest = char 'x' :: tail := List.head?_eq_some_iff.mp (not_not.mp separated)
          obtain ⟨width, rfl, widthNumeral, _⟩ := (scanInt_iff _ _ _).mp first
          obtain ⟨height, split, heightNumeral, ends⟩ := (scanInt_iff _ _ _).mp second
          exact ⟨width, height, behind, by rw [← split]; rfl, widthNumeral, heightNumeral, ends⟩
  · rintro ⟨width, height, rest, rfl, widthNumeral, heightNumeral, ends⟩
    have separator : NumeralEnds (char 'x' :: (height ++ rest)) := by
      intro c head
      cases head
      decide
    simp [scanSize, numeral_scanInt widthNumeral separator, numeral_scanInt heightNumeral ends]

theorem strstr_iff (needle s found : Bytes) (nonempty : needle ≠ []) :
    strstr needle s = some found ↔ ∃ before, s = before ++ found ∧ needle <+: found ∧
      ∀ earlier later, s = earlier ++ (needle ++ later) → before.length ≤ earlier.length := by
  induction s with
  | nil =>
    simp only [strstr, List.isEmpty_iff, nonempty, if_false, reduceCtorEq, false_iff]
    rintro ⟨before, split, begins, _⟩
    obtain ⟨_, rfl⟩ := List.append_eq_nil_iff.mp split.symm
    exact nonempty (List.prefix_nil.mp begins)
  | cons c rest ih =>
    simp only [strstr, List.isPrefixOf_iff_prefix]
    split
    next begins =>
      simp only [Option.some.injEq]
      constructor
      · rintro rfl
        exact ⟨[], rfl, begins, fun _ _ _ => Nat.zero_le _⟩
      · rintro ⟨before, split, _, first⟩
        obtain ⟨later, same⟩ := begins
        have empty := List.length_eq_zero_iff.mp (Nat.le_zero.mp (first [] later same.symm))
        rw [split, empty, List.nil_append]
    next elsewhere =>
      rw [ih]
      constructor
      · rintro ⟨before, rfl, begins, first⟩
        refine ⟨c :: before, rfl, begins, fun earlier later split => ?_⟩
        cases earlier with
        | nil => exact absurd ⟨later, split.symm⟩ elsewhere
        | cons head earlier =>
          obtain ⟨_, split⟩ := List.cons.inj split
          exact Nat.succ_le_succ (first earlier later split)
      · rintro ⟨before, split, begins, first⟩
        cases before with
        | nil => exact absurd (split ▸ begins) elsewhere
        | cons head before =>
          obtain ⟨rfl, rfl⟩ := List.cons.inj split
          exact ⟨before, rfl, begins, fun earlier later same =>
            Nat.le_of_succ_le_succ (first (c :: earlier) later (by rw [same]; rfl))⟩

theorem strstr_marker (line after : Bytes) : (strstr marker line).map (·.drop 19) = some after ↔ FollowsMarker line after := by
  have size : marker.length = 19 := by decide
  rw [Option.map_eq_some_iff]
  constructor
  · rintro ⟨found, search, rfl⟩
    obtain ⟨before, rfl, ⟨after, rfl⟩, first⟩ := (strstr_iff marker line found (by decide)).mp search
    rw [← size, List.drop_left]
    exact ⟨before, rfl, first⟩
  · rintro ⟨before, rfl, first⟩
    refine ⟨marker ++ after, (strstr_iff marker _ _ (by decide)).mpr ⟨before, rfl, List.prefix_append _ _, first⟩, ?_⟩
    rw [← size, List.drop_left]

theorem storedInt_fits {value : Int} (range : -2 ^ 31 ≤ value ∧ value < 2 ^ 31) : storedInt value = Int32.ofInt value := by
  rw [storedInt, min_eq_left (by omega), max_eq_right (by omega)]

theorem storedInt_positive {value : Int} (range : -2 ^ 31 ≤ value ∧ value < 2 ^ 31) : 0 < storedInt value ↔ 0 < value := by
  rw [storedInt_fits range, Int32.lt_iff_toInt_lt, Int32.toInt_ofInt_of_le range.1 range.2, Int32.toInt_zero]

theorem storedInt_toNat {value : Int} (range : -2 ^ 31 ≤ value ∧ value < 2 ^ 31) (positive : 0 < value) :
    ((storedInt value).toUInt32.toNat : Int) = value := by
  have word : (Int32.ofInt value).toUInt32.toNat = (value % 2 ^ 32).toNat := BitVec.toNat_ofInt value
  rw [storedInt_fits range, word, Int.emod_eq_of_lt (by omega) (by omega), Int.toNat_of_nonneg (by omega)]

theorem FollowsMarker.unique {line first second : Bytes} (one : FollowsMarker line first) (other : FollowsMarker line second) :
    first = second :=
  Option.some.inj (((strstr_marker line first).mpr one).symm.trans ((strstr_marker line second).mpr other))

/-- What is written behind a line comes behind its first marker. -/
theorem FollowsMarker.append {line after : Bytes} (follows : FollowsMarker line after) (more : Bytes) :
    FollowsMarker (line ++ more) (after ++ more) := by
  obtain ⟨before, split, first⟩ := follows
  refine ⟨before, by rw [split]; simp, fun earlier later same => ?_⟩
  by_contra sooner
  have inside : earlier ++ marker <+: line := by
    refine List.prefix_of_prefix_length_le ⟨later, ?_⟩ (List.prefix_append line more) ?_
    · rw [same, List.append_assoc]
    · rw [split, List.length_append, List.length_append, List.length_append]
      omega
  obtain ⟨rest, whole⟩ := inside
  exact sooner (first earlier rest (by rw [← whole, List.append_assoc]))

theorem SpellsSize.unique {text : Bytes} {w hh w' hh' : Int} (one : SpellsSize text w hh) (other : SpellsSize text w' hh') :
    w = w' ∧ hh = hh' := by
  have same := ((scanSize_iff text w hh).mpr one).symm.trans ((scanSize_iff text w' hh').mpr other)
  simpa using same

/-- A line asks for what is stored of the two numerals behind its first marker. -/
theorem pendingRequest_stored (line : Bytes) (w hh : UInt32) :
    pendingRequest line = some (w, hh) ↔ ∃ after width height, FollowsMarker (cString line) after ∧
      SpellsSize after width height ∧ (0 < storedInt width ∧ 0 < storedInt height) ∧
      (storedInt width).toUInt32 = w ∧ (storedInt height).toUInt32 = hh := by
  simp only [pendingRequest, ← strstr_marker, ← scanSize_iff]
  cases strstr marker (cString line) with
  | none => simp
  | some found =>
    cases size : scanSize (found.drop 19) with
    | none => simp [size]
    | some pair =>
      obtain ⟨width, height⟩ := pair
      simp [size]

/-- The low 32 bits are those of 800, but the numeral does not fit 64. -/
example : pendingRequest (marker ++ "18446744073709552416x600".toList.map char) = none := by decide

theorem pendingRequest_unmarked {line : Bytes} (unmarked : ¬ marker <:+: line) : pendingRequest line = none := by
  by_contra asks
  obtain ⟨⟨w, hh⟩, asked⟩ := Option.ne_none_iff_exists'.mp asks
  obtain ⟨after, _, _, ⟨before, split, _⟩, _⟩ := (pendingRequest_stored line w hh).mp asked
  have visible : marker <:+: cString line := ⟨before, after, by rw [split, List.append_assoc]⟩
  exact unmarked (visible.trans (List.takeWhile_prefix _).isInfix)

theorem cString_whole {line : Bytes} (nulFree : 0 ∉ line) : cString line = line := by
  refine List.takeWhile_eq_self_iff.mpr fun c member => ?_
  simpa using fun nul : c = 0 => nulFree (nul ▸ member)

/-- On a line without NUL whose numerals fit, the code reads exactly what is asked. -/
theorem pendingRequest_iff {line : Bytes} (nulFree : 0 ∉ line) (range : IntRange line) (w hh : UInt32) :
    pendingRequest line = some (w, hh) ↔ Requests line w hh := by
  rw [pendingRequest_stored, cString_whole nulFree]
  constructor
  · rintro ⟨after, width, height, follows, spells, ⟨wide, high⟩, rfl, rfl⟩
    obtain ⟨widthRange, heightRange⟩ := range after width height follows spells
    rw [storedInt_positive widthRange] at wide
    rw [storedInt_positive heightRange] at high
    have widthExact := storedInt_toNat widthRange wide
    have heightExact := storedInt_toNat heightRange high
    exact ⟨after, follows, by rwa [widthExact, heightExact], by omega, by omega⟩
  · rintro ⟨after, follows, spells, wide, high⟩
    obtain ⟨widthRange, heightRange⟩ := range after _ _ follows spells
    refine ⟨after, _, _, follows, spells, ⟨(storedInt_positive widthRange).mpr (by omega), (storedInt_positive heightRange).mpr (by omega)⟩, ?_, ?_⟩
    · exact UInt32.toNat_inj.mp (Int.ofNat_inj.mp (storedInt_toNat widthRange (by omega)))
    · exact UInt32.toNat_inj.mp (Int.ofNat_inj.mp (storedInt_toNat heightRange (by omega)))

end QubesIdd.Resd
