import Mathlib.Algebra.Order.Round
import Mathlib.Data.Rat.Floor
import Mathlib.Tactic.Linarith
import Mathlib.Tactic.FieldSimp
import Mathlib.Tactic.Ring

/-! A product rounded to multiples of a unit still tells one factor apart from its
neighbours, as long as the other factor is larger than the unit. -/

namespace QubesIdd.Library.Rounding

variable (total rate unit : Nat)

/-- The nearest multiple of the unit is at most half a unit away. -/
theorem rounded_distance (positive : 0 < unit) :
    2 * (total * rate) ≤ 2 * ((total * rate + unit / 2) / unit * unit) + unit ∧
    2 * ((total * rate + unit / 2) / unit * unit) ≤ 2 * (total * rate) + unit := by
  have whole := Nat.div_add_mod (total * rate + unit / 2) unit
  have part := Nat.mod_lt (total * rate + unit / 2) positive
  rw [Nat.mul_comm] at whole
  omega

theorem rounded_near (positive : 0 < unit) (wide : unit < total) :
    |(((total * rate + unit / 2) / unit : Nat) * unit : Rat) / total - rate| < 1 / 2 := by
  obtain ⟨above, below⟩ := rounded_distance total rate unit positive
  generalize (total * rate + unit / 2) / unit = multiple at above below
  have size : (0 : Rat) < total := by exact_mod_cast Nat.lt_trans positive wide
  have wider : (unit : Rat) < total := by exact_mod_cast wide
  have above : 2 * ((total : Rat) * rate) ≤ 2 * (multiple * unit) + unit := by exact_mod_cast above
  have below : 2 * ((multiple : Rat) * unit) ≤ 2 * (total * rate) + unit := by exact_mod_cast below
  have distance : (multiple * unit : Rat) / total - rate = (multiple * unit - total * rate) / total := by
    field_simp
  rw [distance, abs_div, abs_of_pos size, div_lt_iff₀ size, abs_lt]
  constructor
  · linarith
  · linarith

theorem round_of_near {value : Rat} {whole : Nat} (near : |value - whole| < 1 / 2) : round value = whole := by
  obtain ⟨above, below⟩ := abs_lt.mp near
  rw [round_eq_iff, Set.mem_Ico]
  push_cast
  constructor
  · linarith
  · linarith

end QubesIdd.Library.Rounding
