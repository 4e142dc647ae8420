import QubesIdd.Library.Decimal

/-! Wide strings as the driver uses them: UTF-16 code units without a terminator,
`std::wstring` searching, and the C library's `iswspace` and `wcstoul`. -/

namespace QubesIdd

abbrev WChar := UInt16

abbrev WString := List WChar

def wchar (char : Char) : WChar := char.toNat.toUInt16

def wide (chars : List Char) : WString := chars.map wchar

/-- The characters Windows classifies as white space. -/
def iswspace (c : WChar) : Bool :=
  (0x09 ≤ c && c ≤ 0x0d) || c == 0x20 || c == 0x85 || c == 0xa0 || c == 0x1680 ||
    (0x2000 ≤ c && c ≤ 0x200a) || c == 0x2028 || c == 0x2029 || c == 0x202f || c == 0x205f || c == 0x3000

def iswdigit (c : WChar) : Bool := Library.Decimal.isDigit c.toNat

def trim (s : WString) : WString := ((s.dropWhile iswspace).reverse.dropWhile iswspace).reverse

/-- `s.find(c, pos)`, with `none` for `npos`. -/
def find (s : WString) (c : WChar) (pos : Nat) : Option Nat := ((s.drop pos).findIdx? (· == c)).map (· + pos)

def substr (s : WString) (pos count : Nat) : WString := (s.drop pos).take count

def ULONG_MAX : UInt32 := 0xffffffff

/-- `wcstoul(t, &end, 10)`: the 32-bit value, saturated on overflow and negated
modulo 2^32 after a minus sign, and what `end` points at. Without a digit nothing
is consumed. -/
def wcstoul (t : WString) : UInt32 × WString :=
  let s := t.dropWhile iswspace
  let negative := s.head? == some (wchar '-')
  let s := if negative || s.head? == some (wchar '+') then s.tail else s
  let numeral := s.takeWhile iswdigit
  let rest := s.dropWhile iswdigit
  if numeral.isEmpty then (0, t) else
  let value := Library.Decimal.value (numeral.map UInt16.toNat)
  if value > ULONG_MAX.toNat then (ULONG_MAX, rest)
  else if negative then (0 - value.toUInt32, rest)
  else (value.toUInt32, rest)

def formatUnsigned (value : UInt32) : WString := (Library.Decimal.digits value.toNat).map Nat.toUInt16

def cString (buffer : WString) : WString := buffer.takeWhile (· ≠ 0)

end QubesIdd
