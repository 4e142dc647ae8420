import Mathlib.Data.List.DropRight
import Mathlib.Data.List.TakeWhile

/-! Reading a text from its ends: the run of selected items it begins with, and what is
left of it once such runs are stripped off on both sides. -/

namespace QubesIdd.Library.Scan

variable {α : Type u} {select : α → Bool}

section
variable {taken rest : List α} (all : ∀ item ∈ taken, select item = true)
  (ends : ∀ item, rest.head? = some item → select item = false)
include all ends

theorem takeWhile_run : (taken ++ rest).takeWhile select = taken := by
  rw [List.takeWhile_append_of_pos all]
  cases rest with
  | nil => simp
  | cons item rest => simp [ends item rfl]

theorem dropWhile_run : (taken ++ rest).dropWhile select = rest := by
  rw [List.dropWhile_append_of_pos all]
  cases rest with
  | nil => simp
  | cons item rest => simp [ends item rfl]

end

def strip (select : α → Bool) (text : List α) : List α := (text.dropWhile select).rdropWhile select

theorem strip_cut (select : α → Bool) (text : List α) :
    ∃ front back, text = front ++ (strip select text ++ back) ∧
      (∀ item ∈ front, select item = true) ∧ ∀ item ∈ back, select item = true := by
  refine ⟨text.takeWhile select, (text.dropWhile select).rtakeWhile select, ?_, ?_, ?_⟩
  · rw [strip, List.rdropWhile_append_rtakeWhile, List.takeWhile_append_dropWhile]
  · exact fun item member => List.mem_takeWhile_imp member
  · exact fun item member => List.mem_rtakeWhile_imp member

theorem strip_head {text : List α} {item : α} (first : (strip select text).head? = some item) : select item = false := by
  obtain ⟨back, whole⟩ := List.rdropWhile_prefix select (text.dropWhile select)
  have begins : (text.dropWhile select).head? = some item := by
    rw [← whole, List.head?_append]
    simp [show (List.rdropWhile select (text.dropWhile select)).head? = some item from first]
  have stops := List.head?_dropWhile_not select text
  rw [begins] at stops
  simpa using stops

theorem strip_exact {front core back : List α} (front_all : ∀ item ∈ front, select item = true)
    (back_all : ∀ item ∈ back, select item = true) (begins : ∀ item, core.head? = some item → select item = false)
    (ends : ∀ item, core.getLast? = some item → select item = false) : strip select (front ++ (core ++ back)) = core := by
  have stripped : (core ++ back).rdropWhile select = core := by
    have reversed : (back.reverse ++ core.reverse).dropWhile select = core.reverse :=
      dropWhile_run (by simpa using back_all) (by simpa using ends)
    rw [List.rdropWhile, List.reverse_append, reversed, List.reverse_reverse]
  cases core with
  | nil =>
    have whole : ∀ item ∈ front ++ ([] ++ back), select item = true := by
      intro item member
      rcases List.mem_append.mp member with inside | inside
      · exact front_all item inside
      · exact back_all item inside
    rw [strip, List.dropWhile_eq_nil_iff.mpr whole, List.rdropWhile_nil]
  | cons first core =>
    rw [strip, dropWhile_run front_all (by simpa using begins), stripped]

end QubesIdd.Library.Scan
