import Mathlib.Algebra.Order.Ring.Int

/-! Decimal numerals over character codes, shared by every character width: the
printed form of a number, the value of a digit run, and that one undoes the other. -/

namespace QubesIdd.Library.Decimal

def isDigit (code : Nat) : Bool := 48 ≤ code && code ≤ 57

/-- The number a digit run denotes, without any bound. -/
def value (codes : List Nat) : Nat := codes.foldl (fun prior code => 10 * prior + (code - 48)) 0

/-- A numeral that goes on denotes ten times as much at least. -/
theorem value_append_cons (codes more : List Nat) (code : Nat) : 10 * value codes ≤ value (codes ++ code :: more) := by
  have grows (prior : Nat) : prior ≤ more.foldl (fun prior code => 10 * prior + (code - 48)) prior := by
    induction more generalizing prior with
    | nil => exact Nat.le_refl _
    | cons code more ih => exact le_trans (by omega) (ih (10 * prior + (code - 48)))
  rw [value, value, List.foldl_append, List.foldl_cons]
  exact le_trans (Nat.le_add_right _ _) (grows _)

/-- The decimal digits of a number, most significant first, as `%u` prints them. -/
def digits (n : Nat) : List Nat := (Nat.toDigits 10 n).map Char.toNat

theorem value_digits (n : Nat) : value (digits n) = n := by
  have printed := Nat.ofDigitChars_ten_toDigits (n := n)
  rw [Nat.ofDigitChars_eq_foldl] at printed
  simpa [value, digits, List.foldl_map] using printed

theorem isDigit_of_mem_digits {n code : Nat} (member : code ∈ digits n) : isDigit code = true := by
  obtain ⟨char, inside, rfl⟩ := List.mem_map.mp member
  have digit := Nat.isDigit_of_mem_toDigits (by omega) (by omega) inside
  simpa [Char.isDigit, isDigit, UInt32.le_iff_toNat_le] using digit

theorem digits_ne_nil (n : Nat) : digits n ≠ [] := by
  simp [digits, Nat.toDigits_ne_nil]

theorem digits_length_le (n width : Nat) (positive : 0 < width) (small : n < 10 ^ width) :
    (digits n).length ≤ width := by
  simpa [digits] using (Nat.length_toDigits_le_iff (by omega) positive).mpr small

end QubesIdd.Library.Decimal
