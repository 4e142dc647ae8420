import Mathlib.Data.List.Infix
import QubesIdd.Proofs.ResdReads
import QubesIdd.Proofs.ResdText

/-! Lines that do not fit the buffer. A full buffer is read as if the line ended there, so
the size it asks for may be another one than the line spells out. -/

namespace QubesIdd.Resd
open Library Library.Lines

/-- A marker stands in the text, with both numerals in full behind it. -/
def Spells (text : Bytes) (w hh : UInt32) : Prop :=
  ∃ before after, text = before ++ (marker ++ after) ∧ SpellsSize after w.toNat hh.toNat

/-- Some newline-terminated line spells the size out, carriage returns apart. -/
def SpelledOut (stream : Bytes) (w hh : UInt32) : Prop := ∃ line ∈ (cut newline stream).complete, Spells (withoutCR line) w hh

/-- What the line that is being read goes on with. -/
def lineEnd (later : Bytes) : Bytes := withoutCR (later.takeWhile (· ≠ newline))

/-- Behind the first marker in the buffer, the buffer and what follows it in the line have
the size in full. -/
def InFull (buffer behind : Bytes) (w hh : UInt32) : Prop :=
  ∃ text, FollowsMarker buffer text ∧ SpellsSize (text ++ behind) w.toNat hh.toNat

/-- The buffer ends where the second numeral behind its first marker does. -/
def EndsInSize (buffer : Bytes) : Prop :=
  ∃ width height w hh, FollowsMarker buffer (width ++ char 'x' :: height) ∧ Numeral width w ∧ Numeral height hh

/-- Nothing is lost of the size in the buffer when what follows is `later`: its numerals fit
an `int`, a newline comes, and before it no digit continues a buffer that ends in the size. -/
structure SizeWhole (buffer later : Bytes) : Prop where
  fits : IntRange (cString buffer)
  ended : newline ∈ later
  stops : EndsInSize buffer → NumeralEnds (lineEnd later)

theorem cString_split (buffer : Bytes) : ∃ hidden, buffer = cString buffer ++ hidden ∧ ∀ c, hidden.head? = some c → c = 0 := by
  refine ⟨buffer.dropWhile (· ≠ 0), List.takeWhile_append_dropWhile.symm, fun c head => ?_⟩
  have stops := List.head?_dropWhile_not (· ≠ 0) buffer
  rw [head] at stops
  simpa using stops

/-- What follows the buffer in the line leaves the size as it is, unless it lengthens the
second numeral. A NUL in the buffer ends the numeral as well. -/
theorem spells_on {buffer behind after : Bytes} {w hh : Int} (follows : FollowsMarker (cString buffer) after)
    (spells : SpellsSize after w hh) (stops : EndsInSize buffer → NumeralEnds behind) :
    ∃ text, FollowsMarker buffer text ∧ SpellsSize (text ++ behind) w hh := by
  obtain ⟨hidden, whole, nul⟩ := cString_split buffer
  have visible := follows.append hidden
  rw [← whole] at visible
  refine ⟨_, visible, ?_⟩
  obtain ⟨width, height, rest, rfl, wide, high, ends⟩ := spells
  refine ⟨width, height, rest ++ (hidden ++ behind), by simp, wide, high, ?_⟩
  cases rest with
  | cons c rest => exact ends
  | nil =>
    cases hidden with
    | cons c hidden =>
      intro first head
      cases head
      obtain rfl : c = 0 := nul c rfl
      decide
    | nil => exact stops ⟨width, height, w, hh, by simpa using visible, wide, high⟩

theorem Numeral.nulFree {text : Bytes} {value : Int} (numeral : Numeral text value) : 0 ∉ text := by
  obtain ⟨spaces, sign, digits, rfl, blank, _, all, signed⟩ := numeral
  have plain : 0 ∉ sign := by
    rcases signed with ⟨rfl | rfl, _⟩ | ⟨rfl, _⟩ <;> decide
  rw [List.mem_append, List.mem_append]
  rintro (inside | inside | inside)
  · exact absurd (blank 0 inside) (by decide)
  · exact plain inside
  · exact absurd (all 0 inside) (by decide)

/-- No NUL stands in the buffer behind the marker, so the code has read the same text. -/
theorem reads_same {buffer after text : Bytes} (visible : FollowsMarker (cString buffer) after)
    (follows : FollowsMarker buffer text) (nulFree : 0 ∉ text) : after = text := by
  obtain ⟨hidden, whole, nul⟩ := cString_split buffer
  have here := visible.append hidden
  rw [← whole] at here
  have split := here.unique follows
  cases hidden with
  | nil => rwa [List.append_nil] at split
  | cons c hidden =>
    obtain rfl : c = 0 := nul c rfl
    exact absurd (split ▸ List.mem_append_right _ List.mem_cons_self) nulFree

/-- A digit behind a numeral makes another one of it, ten times as large at least. -/
theorem Numeral.continued {text more : Bytes} {value : Int} (numeral : Numeral text value) (nonempty : more ≠ [])
    (digits : ∀ c ∈ more, isdigit c = true) :
    ∃ longer, Numeral (text ++ more) longer ∧ (0 < longer → 0 ≤ value ∧ 10 * value ≤ longer) := by
  obtain ⟨spaces, sign, numerals, rfl, blank, _, all, signed⟩ := numeral
  obtain ⟨c, more, rfl⟩ := List.exists_cons_of_ne_nil nonempty
  have grows := Decimal.value_append_cons (numerals.map UInt8.toNat) (more.map UInt8.toNat) c.toNat
  rw [← List.map_cons, ← List.map_append] at grows
  have longer (value : Int)
      (signed : (sign = [] ∨ sign = [char '+']) ∧ value = Decimal.value ((numerals ++ c :: more).map UInt8.toNat) ∨
        sign = [char '-'] ∧ value = -(Decimal.value ((numerals ++ c :: more).map UInt8.toNat) : Int)) :
      Numeral (spaces ++ (sign ++ numerals) ++ c :: more) value := by
    refine ⟨spaces, sign, numerals ++ c :: more, by simp, blank, by simp, ?_, signed⟩
    intro digit member
    exact (List.mem_append.mp member).elim (all digit) (digits digit)
  rcases signed with ⟨plus, rfl⟩ | ⟨minus, rfl⟩
  · exact ⟨_, longer _ (.inl ⟨plus, rfl⟩), fun _ => ⟨Int.natCast_nonneg _, by exact_mod_cast grows⟩⟩
  · exact ⟨_, longer _ (.inr ⟨minus, rfl⟩), fun positive => by omega⟩

/-- Digits behind a size lengthen its second numeral. -/
theorem spells_continued {width height behind : Bytes} {w hh : Int} (wide : Numeral width w) (high : Numeral height hh)
    (continued : ¬ NumeralEnds behind) :
    ∃ longer, SpellsSize (width ++ char 'x' :: height ++ behind) w longer ∧ (0 < longer → 0 ≤ hh ∧ 10 * hh ≤ longer) := by
  obtain ⟨c, head, digit⟩ : ∃ c, behind.head? = some c ∧ isdigit c = true := by
    simpa [NumeralEnds] using continued
  have nonempty : behind.takeWhile isdigit ≠ [] := by
    obtain ⟨more, rfl⟩ := List.head?_eq_some_iff.mp head
    simp [digit]
  obtain ⟨longer, numeral, grows⟩ := high.continued nonempty fun _ member => List.mem_takeWhile_imp member
  have ends : NumeralEnds (behind.dropWhile isdigit) := by
    intro c head
    have stops := List.head?_dropWhile_not isdigit behind
    rw [head] at stops
    simpa using stops
  exact ⟨longer, ⟨width, height ++ behind.takeWhile isdigit, behind.dropWhile isdigit, by simp, wide, numeral, ends⟩, grows⟩

/-- An `int` above zero is the same number without its sign. -/
theorem toUInt32_positive {value : Int32} (positive : 0 < value) :
    0 < value.toUInt32.toNat ∧ value.toUInt32.toNat < 2 ^ 31 := by
  have bound := value.toUInt32.toNat_lt
  rw [Int32.lt_iff_toInt_lt, Int32.toInt_zero, ← Int32.toInt_toBitVec, BitVec.toInt_eq_toNat_cond, Int32.toNat_toBitVec]
    at positive
  split at positive <;> omega

section
variable {buffer : Bytes} {w hh : UInt32} (asked : pendingRequest buffer = some (w, hh))
include asked

/-- A numeral that goes on behind the buffer is not the one that has been read. -/
theorem InFull.stops {behind : Bytes} (full : InFull buffer behind w hh) (reached : EndsInSize buffer) : NumeralEnds behind := by
  obtain ⟨width, height, w', hh', follows, wide, high⟩ := reached
  obtain ⟨_, same, spells⟩ := full
  obtain rfl := same.unique follows
  obtain ⟨after, readW, readH, visible, read, ⟨_, positive⟩, rfl, rfl⟩ := (pendingRequest_stored buffer w hh).mp asked
  have nulFree : 0 ∉ width ++ char 'x' :: height := by
    rw [List.mem_append, List.mem_cons]
    rintro (inside | inside | inside)
    · exact wide.nulFree inside
    · exact absurd inside (by decide)
    · exact high.nulFree inside
  obtain rfl := reads_same visible follows nulFree
  obtain ⟨rfl, rfl⟩ := read.unique ⟨width, height, [], by simp, wide, high, by simp [NumeralEnds]⟩
  by_contra continued
  obtain ⟨longer, whole, grows⟩ := spells_continued wide high continued
  obtain ⟨_, rfl⟩ := spells.unique whole
  have word := toUInt32_positive positive
  obtain ⟨nonneg, ten⟩ := grows (by omega)
  have range : -2 ^ 31 ≤ readH ∧ readH < 2 ^ 31 := by omega
  have exact := storedInt_toNat range ((storedInt_positive range).mp positive)
  omega

theorem SizeWhole.inFull {later : Bytes} (whole : SizeWhole buffer later) : InFull buffer (lineEnd later) w hh := by
  obtain ⟨after, width, height, visible, spells, ⟨wide, high⟩, rfl, rfl⟩ := (pendingRequest_stored buffer w hh).mp asked
  obtain ⟨widthRange, heightRange⟩ := whole.fits after width height visible spells
  rw [storedInt_positive widthRange] at wide
  rw [storedInt_positive heightRange] at high
  rw [InFull, storedInt_toNat widthRange wide, storedInt_toNat heightRange high]
  exact spells_on visible spells whole.stops

theorem InFull.sizeWhole {later : Bytes} (full : InFull buffer (lineEnd later) w hh) (ended : newline ∈ later) :
    SizeWhole buffer later := by
  refine ⟨fun after width height visible spells => ?_, ended, full.stops asked⟩
  obtain ⟨other, readW, readH, follows, read, ⟨wide, high⟩, rfl, rfl⟩ := (pendingRequest_stored buffer w hh).mp asked
  obtain rfl := follows.unique visible
  obtain ⟨rfl, rfl⟩ := read.unique spells
  obtain ⟨text, same, size⟩ := spells_on visible spells (full.stops asked)
  obtain ⟨other, here, exact⟩ := full
  obtain rfl := same.unique here
  obtain ⟨sameW, sameH⟩ := size.unique exact
  have wideWord := toUInt32_positive wide
  have highWord := toUInt32_positive high
  omega

end

/-- A size that the line has in full at some place is spelled out by a line of the stream. -/
theorem InFull.spelledOut {before later : Bytes} {w hh : UInt32} (full : InFull (lineBuffer.rest [] before) (lineEnd later) w hh)
    (ended : newline ∈ later) : SpelledOut (before ++ later) w hh := by
  obtain ⟨text, ⟨front, split, _⟩, spells⟩ := full
  obtain ⟨earlier, whole⟩ := lineBuffer.rest_suffix before
  have shape : withoutCR ((cut newline before).rest ++ later.takeWhile (· ≠ newline)) =
      earlier ++ front ++ (marker ++ (text ++ lineEnd later)) := by
    have kept : withoutCR (cut newline before).rest = earlier ++ (front ++ (marker ++ text)) := by
      rw [← split, whole]
      rfl
    rw [withoutCR, List.filter_append]
    change withoutCR (cut newline before).rest ++ lineEnd later = _
    rw [kept]
    simp
  exact ⟨_, cut_line before ended, earlier ++ front, text ++ lineEnd later, shape, spells⟩

theorem readByte_records (tick : UInt32) (state : State) (c : UInt8) (size : UInt32 × UInt32) :
    (readByte tick state c).updates = state.updates ++ [size] ↔
      lineBuffer.Ends state.line c ∧ pendingRequest state.line = some size := by
  rw [(readByte_recorded tick state c).1, List.append_right_inj]
  by_cases ends : lineBuffer.Ends state.line c
  · rw [recorded_ends ends]
    cases asked : pendingRequest state.line <;> simp [ends]
  · simp [recorded, LineBuffer.handedOver, ends]

/-- Every size that the stream records is spelled out in one of its lines. At the place where
it is read, no numeral of it has been cut short. -/
structure RecordsSpelledOut (tick : UInt32) (stream : Bytes) : Prop where
  spelledOut : ∀ w hh, (w, hh) ∈ (stream.foldl (readByte tick) {}).updates → SpelledOut stream w hh
  inFull : ∀ before c after w hh, stream = before ++ c :: after →
    let state := before.foldl (readByte tick) {}
    (readByte tick state c).updates = state.updates ++ [(w, hh)] →
      newline ∈ c :: after ∧ InFull state.line (lineEnd (c :: after)) w hh

/-- That is so exactly if every buffer that is handed over with a request in it has the
request's size whole. -/
theorem recordsSpelledOut_iff (tick : UInt32) (stream : Bytes) :
    RecordsSpelledOut tick stream ↔
      ∀ before c after, stream = before ++ c :: after → lineBuffer.Ends (lineBuffer.rest [] before) c →
        pendingRequest (lineBuffer.rest [] before) ≠ none → SizeWhole (lineBuffer.rest [] before) (c :: after) := by
  have buffered (before : Bytes) : (before.foldl (readByte tick) {}).line = lineBuffer.rest [] before :=
    (readBytes_recorded tick before {}).2
  constructor
  · intro every before c after split ends asks
    obtain ⟨⟨w, hh⟩, asked⟩ := Option.ne_none_iff_exists'.mp asks
    have records := (readByte_records tick (before.foldl (readByte tick) {}) c (w, hh)).mpr (by rw [buffered]; exact ⟨ends, asked⟩)
    obtain ⟨ended, full⟩ := every.inFull before c after w hh split records
    rw [buffered] at full
    exact full.sizeWhole asked ended
  · intro whole
    refine ⟨fun w hh member => ?_, ?_⟩
    · rw [(readBytes_recorded tick stream {}).1] at member
      obtain ⟨_, handed, asked⟩ := List.mem_filterMap.mp member
      obtain ⟨before, c, after, split, ends, rfl⟩ := lineBuffer.mem_handedOver.mp handed
      have sound := whole before c after split ends (asked ▸ Option.some_ne_none _)
      exact split ▸ (sound.inFull asked).spelledOut sound.ended
    · intro before c after w hh split state records
      obtain ⟨ends, asked⟩ := (readByte_records tick state c (w, hh)).mp records
      have line : state.line = lineBuffer.rest [] before := buffered before
      rw [line] at ends asked ⊢
      have sound := whole before c after split ends (asked ▸ Option.some_ne_none _)
      exact ⟨sound.ended, sound.inFull asked⟩

/-- Every place where a marker may stand is tried. -/
theorem spells_iff (text : Bytes) (w hh : UInt32) :
    Spells text w hh ↔ ∃ found ∈ text.tails, marker.isPrefixOf found = true ∧ scanSize (found.drop 19) = some ((w.toNat : Int), (hh.toNat : Int)) := by
  have size : marker.length = 19 := by decide
  constructor
  · rintro ⟨before, after, rfl, spells⟩
    refine ⟨marker ++ after, (List.mem_tails _ _).mpr (List.suffix_append _ _), ?_, ?_⟩
    · rw [List.isPrefixOf_iff_prefix]
      exact List.prefix_append _ _
    · rw [← size, List.drop_left]
      exact (scanSize_iff _ _ _).mpr spells
  · rintro ⟨found, tail, begins, scanned⟩
    obtain ⟨before, rfl⟩ := (List.mem_tails _ _).mp tail
    obtain ⟨after, rfl⟩ := List.isPrefixOf_iff_prefix.mp begins
    rw [← size, List.drop_left] at scanned
    exact ⟨before, after, rfl, (scanSize_iff _ _ _).mp scanned⟩

instance (text : Bytes) (w hh : UInt32) : Decidable (Spells text w hh) := decidable_of_iff' _ (spells_iff text w hh)

instance (stream : Bytes) (w hh : UInt32) : Decidable (SpelledOut stream w hh) :=
  inferInstanceAs (Decidable (∃ line ∈ (cut newline stream).complete, Spells (withoutCR line) w hh))

section
variable (count : Nat) (text : Bytes)

/-- Dots in front of a text, which begin no marker. -/
def padded : Bytes := List.replicate count (char '.') ++ text

theorem padded_succ : padded (count + 1) text = char '.' :: padded count text := rfl

theorem padded_strstr : strstr marker (padded count text) = strstr marker text := by
  induction count with
  | zero => rfl
  | succ count ih =>
    have other : marker.isPrefixOf (char '.' :: padded count text) = false := rfl
    rw [padded_succ, strstr, other, if_neg Bool.false_ne_true, ih]

theorem padded_pendingRequest : pendingRequest (padded count text) = pendingRequest text := by
  have visible : cString (padded count text) = padded count (cString text) := by
    induction count with
    | zero => rfl
    | succ count ih =>
      rw [padded_succ, padded_succ, ← ih]
      rfl
  rw [pendingRequest, pendingRequest, visible, padded_strstr]

theorem padded_spells (w hh : UInt32) : Spells (padded count text) w hh ↔ Spells text w hh := by
  induction count with
  | zero => rfl
  | succ count ih =>
    rw [padded_succ, ← ih]
    constructor
    · rintro ⟨before, after, split, spells⟩
      cases before with
      | nil =>
        have first : char '.' = char 'r' := (List.cons.inj split).1
        exact absurd first (by decide)
      | cons c before => exact ⟨before, after, (List.cons.inj split).2, spells⟩
    · rintro ⟨before, after, split, spells⟩
      exact ⟨char '.' :: before, after, by rw [split]; rfl, spells⟩

theorem padded_mem {c : UInt8} (member : c ∈ padded count text) : c = char '.' ∨ c ∈ text :=
  (List.mem_append.mp member).imp List.eq_of_mem_replicate id

variable {count text} in
theorem padded_plain {c : UInt8} (other : c ≠ char '.') (plain : c ∉ text) : c ∉ padded count text :=
  fun member => (padded_mem count text member).elim other plain

theorem padded_length : (padded count text).length = count + text.length := by simp [padded]

theorem padded_withoutCR (plain : char '\r' ∉ text) : withoutCR (padded count text) = padded count text := by
  rw [withoutCR, List.filter_eq_self]
  intro c member
  refine decide_eq_true ?_
  rintro rfl
  exact (padded_mem count text member).elim (by decide) plain

theorem padded_append (first last : Bytes) : padded count (first ++ last) = padded count first ++ last :=
  (List.append_assoc ..).symm

end

def asksFor (size : String) : Bytes := marker ++ size.toList.map char

/-- The buffer is full behind `800x60`. -/
theorem long_recorded {count : Nat} (place : count + (asksFor "800x60").length = LINE_LIMIT) (tick : UInt32) :
    (800, 60) ∈ ((padded count (asksFor "800x600" ++ [newline])).foldl (readByte tick) {}).updates := by
  have filled : (padded count (asksFor "800x60")).length = LINE_LIMIT := (padded_length _ _).trans place
  have asked : pendingRequest (padded count (asksFor "800x60")) = some (800, 60) := by
    rw [padded_pendingRequest]
    decide
  have split : padded count (asksFor "800x600" ++ [newline]) = padded count (asksFor "800x60") ++ char '0' :: ([] ++ [newline]) := by
    rw [← padded_append]
    congr 1
  have read := @recorded_overflow [] (padded count (asksFor "800x60")) (padded_plain (by decide) (by decide))
    (padded_plain (by decide) (by decide)) (.inr (by simp [filled])) (char '0') (by simp [filled]) [] (by decide) (by decide)
  rw [(readBytes_recorded tick _ {}).1, split]
  change _ ∈ recorded [] _
  rw [read, List.nil_append, asked]
  exact List.mem_append_left _ (List.mem_singleton_self _)

theorem long_not_spelledOut (count : Nat) : ¬ SpelledOut (padded count (asksFor "800x600" ++ [newline])) 800 60 := by
  rintro ⟨line, complete, spells⟩
  have splits : Splits newline (padded count (asksFor "800x600" ++ [newline])) [padded count (asksFor "800x600")] [] := by
    refine ⟨by rw [padded_append]; simp, fun other member => ?_, nofun⟩
    rw [List.mem_singleton.mp member]
    exact padded_plain (by decide) (by decide)
  rw [splits.cut_eq, List.mem_singleton] at complete
  rw [complete, padded_withoutCR _ _ (by decide), padded_spells] at spells
  exact absurd spells (by decide)

/-- The line asks for 800x600, and 800x60 is recorded, which no line spells out. -/
theorem recordsSpelledOut_violated :
    ¬ ∀ tick stream w hh, (w, hh) ∈ (stream.foldl (readByte tick) {}).updates → SpelledOut stream w hh := by
  intro claim
  have place : 998 + (asksFor "800x60").length = LINE_LIMIT := by decide
  exact long_not_spelledOut 998 (claim 0 _ 800 60 (long_recorded place 0))

end QubesIdd.Resd
