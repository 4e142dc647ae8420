import Mathlib.Data.List.Sort

/-! Stable sorting by a Boolean comparator, as `std::stable_sort` does it. When the
comparator compares the keys of a linear order downwards and keys identify their
elements, the result depends only on which elements there are. -/

namespace QubesIdd.Library.StableSort

variable {α : Type u}

/-- No later element compares less than an earlier one; ties keep their order. -/
def stableSort (less : α → α → Bool) (items : List α) : List α :=
  items.insertionSort fun a b => less b a = false

theorem perm (less : α → α → Bool) (items : List α) : (stableSort less items).Perm items :=
  List.perm_insertionSort _ items

theorem mem {less : α → α → Bool} {items : List α} {item : α} : item ∈ stableSort less items ↔ item ∈ items :=
  (perm less items).mem_iff

structure Descending {κ : Type v} [LinearOrder κ] (less : α → α → Bool) (key : α → κ) : Prop where
  compares : ∀ a b, less a b = true ↔ key b < key a
  identifies : Function.Injective key

namespace Descending
variable {κ : Type v} [LinearOrder κ] {less : α → α → Bool} {key : α → κ}

theorem not_less (order : Descending less key) (a b : α) : less a b = false ↔ key a ≤ key b := by
  rw [← Bool.not_eq_true, order.compares, not_lt]

theorem tie (order : Descending less key) (a b : α) (first : less a b = false) (second : less b a = false) :
    a = b :=
  order.identifies (le_antisymm ((order.not_less a b).mp first) ((order.not_less b a).mp second))

theorem strictWeakOrder (order : Descending less key) : IsStrictWeakOrder α (fun a b => less a b = true) where
  irrefl a := by simp [order.compares]
  trans a b c := by
    simp only [order.compares]
    exact fun first second => second.trans first
  incomp_trans a b c := by
    simp only [Bool.not_eq_true]
    rintro ⟨ab, ba⟩ ⟨bc, cb⟩
    obtain rfl := order.tie a b ab ba
    exact ⟨bc, cb⟩

theorem sorted (order : Descending less key) (items : List α) :
    (stableSort less items).Pairwise (fun a b => less b a = false) := by
  have total : Std.Total (fun a b => less b a = false) :=
    ⟨fun a b => by simpa only [order.not_less] using le_total (key b) (key a)⟩
  have trans : IsTrans α (fun a b => less b a = false) := by
    refine ⟨fun a b c => ?_⟩
    simp only [order.not_less]
    exact fun first second => second.trans first
  exact List.pairwise_insertionSort _ items

/-- Sorting is determined by the elements, whatever order they came in. -/
theorem unique (order : Descending less key) {items result : List α} (same : result.Perm items)
    (ordered : result.Pairwise (fun a b => less b a = false)) : result = stableSort less items := by
  apply List.Perm.eq_of_pairwise (fun a b _ _ first second => order.tie a b second first)
    ordered (order.sorted items)
  exact same.trans (perm less items).symm

theorem permuted (order : Descending less key) {first last : List α} (same : first.Perm last) :
    stableSort less first = stableSort less last :=
  order.unique ((perm less first).trans same) (order.sorted first)

/-- The first sorted element a predicate selects is the largest selected one. -/
theorem head_filter (order : Descending less key) (items : List α) (select : α → Bool) (top : α) :
    ((stableSort less items).filter select).head? = some top ↔
      top ∈ items ∧ select top = true ∧ ∀ item ∈ items, select item = true → less item top = false := by
  have chosen := (order.sorted items).filter select
  have member (item : α) : item ∈ (stableSort less items).filter select ↔ item ∈ items ∧ select item = true := by
    rw [List.mem_filter, mem]
  generalize (stableSort less items).filter select = selected at chosen member
  cases selected with
  | nil =>
    simp only [List.head?_nil, reduceCtorEq, false_iff]
    rintro ⟨inside, accepted, _⟩
    exact absurd ((member top).mpr ⟨inside, accepted⟩) List.not_mem_nil
  | cons first rest =>
    have later := (List.pairwise_cons.mp chosen).1
    have firstMember := (member first).mp List.mem_cons_self
    have largest (item : α) (inside : item ∈ items) (accepted : select item = true) : less item first = false := by
      rcases List.mem_cons.mp ((member item).mpr ⟨inside, accepted⟩) with rfl | behind
      · simp [order.not_less]
      · exact later item behind
    simp only [List.head?_cons, Option.some.injEq]
    constructor
    · rintro rfl
      exact ⟨firstMember.1, firstMember.2, largest⟩
    · rintro ⟨inside, accepted, above⟩
      exact order.tie first top (above first firstMember.1 firstMember.2) (largest top inside accepted)

/-- An element splits a sorted list into what does not sort behind it and what does. -/
theorem split_last (order : Descending less key) {items : List α} {last : α}
    (ordered : items.Pairwise (fun a b => less b a = false)) (member : last ∈ items) :
    ∃ front back, items = front ++ last :: back ∧ (∀ item ∈ front, less last item = false) ∧
      ∀ item ∈ back, less last item = true := by
  obtain ⟨back, front, split, absent⟩ := List.eq_append_cons_of_mem (List.mem_reverse.mpr member)
  have split : items = front.reverse ++ last :: back.reverse := by
    rw [← List.reverse_reverse items, split]
    simp
  rw [split] at ordered
  obtain ⟨_, behind, before⟩ := List.pairwise_append.mp ordered
  refine ⟨_, _, split, fun item inside => before item inside last List.mem_cons_self, fun item inside => ?_⟩
  -- The split is at the last occurrence, so nothing after it ties with it.
  by_contra tied
  have first := (List.pairwise_cons.mp behind).1 item inside
  exact absent (List.mem_reverse.mp (order.tie last item (by simpa using tied) first ▸ inside))

/-- All selected elements are among the first of a sorted list exactly if there is room for
all that do not sort behind the last selected one. -/
theorem countP_take (order : Descending less key) {items : List α} {last : α} {select : α → Bool}
    (ordered : items.Pairwise (fun a b => less b a = false)) (member : last ∈ items) (chosen : select last = true)
    (ahead : ∀ item ∈ items, select item = true → less last item = false) (room : Nat) :
    (items.take room).countP select = items.countP select ↔ items.countP (fun item => !less last item) ≤ room := by
  obtain ⟨front, back, rfl, before, later⟩ := order.split_last ordered member
  have unselected : back.countP select = 0 := by
    rw [List.countP_eq_zero]
    intro item inside selected
    have contrary := ahead item (List.mem_append_right _ (List.mem_cons_of_mem _ inside)) selected
    rw [later item inside] at contrary
    cases contrary
  have place : (front ++ last :: back).countP (fun item => !less last item) = front.length + 1 := by
    have whole : front.countP (fun item => !less last item) = front.length :=
      List.countP_eq_length.mpr fun item inside => by simp [before item inside]
    have none : back.countP (fun item => !less last item) = 0 :=
      List.countP_eq_zero.mpr fun item inside => by simp [later item inside]
    have self : less last last = false := by simp [order.not_less]
    simp [whole, none, self]
  rw [place, List.countP_append, List.countP_cons_of_pos chosen, unselected]
  by_cases short : room ≤ front.length
  · have fewer : (front.take room).countP select ≤ front.countP select := (List.take_sublist room front).countP_le
    rw [List.take_append_of_le_length short]
    omega
  · obtain ⟨more, rfl⟩ : ∃ more, room = front.length + (more + 1) := ⟨room - front.length - 1, by omega⟩
    have rest : (back.take more).countP select = 0 :=
      Nat.le_zero.mp (unselected ▸ (List.take_sublist more back).countP_le)
    rw [List.take_length_add_append, List.take_succ_cons, List.countP_append, List.countP_cons_of_pos chosen, rest]
    omega

end Descending
end QubesIdd.Library.StableSort
