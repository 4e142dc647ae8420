import Mathlib.Data.List.Induction
import Mathlib.Data.List.TakeWhile

/-! Cutting a text into lines. The lines of a growing text only grow: complete lines
stay, and the unfinished one becomes the beginning of a line. -/

namespace QubesIdd.Library.Lines

variable {α : Type u}

/-- The complete lines of a text and what follows the last separator. -/
structure Splits (separator : α) (text : List α) (complete : List (List α)) (rest : List α) : Prop where
  joined : text = complete.flatMap (· ++ [separator]) ++ rest
  unbroken : ∀ line ∈ complete, separator ∉ line
  unfinished : separator ∉ rest

theorem Splits.mem {separator : α} {text rest line : List α} {complete : List (List α)} (splits : Splits separator text complete rest)
    (member : line ∈ complete) : line ⊆ text := by
  intro item inside
  rw [splits.joined, List.mem_append, List.mem_flatMap]
  exact .inl ⟨line, member, List.mem_append_left _ inside⟩

theorem Splits.count [DecidableEq α] {separator : α} {text rest : List α} {complete : List (List α)}
    (splits : Splits separator text complete rest) : text.count separator = complete.length := by
  have lines (lines : List (List α)) (unbroken : ∀ line ∈ lines, separator ∉ line) :
      (lines.flatMap (· ++ [separator])).count separator = lines.length := by
    induction lines with
    | nil => rfl
    | cons line lines ih =>
      rw [List.flatMap_cons, List.count_append, List.count_append, ih fun other member => unbroken other (List.mem_cons_of_mem line member),
        List.count_eq_zero_of_not_mem (unbroken line List.mem_cons_self), List.count_singleton_self, List.length_cons, Nat.zero_add,
        Nat.add_comm]
  rw [splits.joined, List.count_append, List.count_eq_zero_of_not_mem splits.unfinished, lines complete splits.unbroken, Nat.add_zero]

structure Cut (α : Type u) where
  complete : List (List α)
  rest : List α

variable [DecidableEq α] (separator : α)

def Cut.push (cut : Cut α) (item : α) : Cut α :=
  if item = separator then ⟨cut.complete ++ [cut.rest], []⟩ else ⟨cut.complete, cut.rest ++ [item]⟩

def cut (text : List α) : Cut α := text.foldl (Cut.push separator) ⟨[], []⟩

theorem cut_append (first last : List α) :
    cut separator (first ++ last) = last.foldl (Cut.push separator) (cut separator first) :=
  List.foldl_append

theorem cut_concat (text : List α) (item : α) :
    cut separator (text ++ [item]) = (cut separator text).push separator item :=
  cut_append separator text [item]

theorem cut_splits (text : List α) : Splits separator text (cut separator text).complete (cut separator text).rest := by
  induction text using List.reverseRecOn with
  | nil => exact ⟨rfl, by simp [cut], by simp [cut]⟩
  | append_singleton text item ih =>
    rw [cut_concat, Cut.push]
    split
    next same =>
      subst same
      refine ⟨?_, ?_, by simp⟩
      · conv => lhs; rw [ih.joined]
        simp
      · intro line member
        rcases List.mem_append.mp member with earlier | last
        · exact ih.unbroken line earlier
        · rw [List.mem_singleton.mp last]
          exact ih.unfinished
    next other =>
      refine ⟨?_, ih.unbroken, ?_⟩
      · conv => lhs; rw [ih.joined]
        simp
      · simp [ih.unfinished, Ne.symm other]

variable {separator}

private theorem foldl_unbroken (start : Cut α) (line : List α) (unbroken : separator ∉ line) :
    line.foldl (Cut.push separator) start = ⟨start.complete, start.rest ++ line⟩ := by
  induction line generalizing start with
  | nil => simp
  | cons item line ih =>
    rw [List.mem_cons, not_or] at unbroken
    rw [List.foldl_cons, ih _ unbroken.2, Cut.push, if_neg (Ne.symm unbroken.1)]
    simp

private theorem foldl_complete (done complete : List (List α)) (unbroken : ∀ line ∈ complete, separator ∉ line) :
    (complete.flatMap (· ++ [separator])).foldl (Cut.push separator) ⟨done, []⟩ = ⟨done ++ complete, []⟩ := by
  induction complete generalizing done with
  | nil => simp
  | cons line behind ih =>
    rw [List.flatMap_cons, List.foldl_append, List.foldl_append,
      foldl_unbroken _ line (unbroken line List.mem_cons_self), List.foldl_cons, List.foldl_nil, Cut.push, if_pos rfl,
      ih _ fun line member => unbroken line (List.mem_cons_of_mem _ member)]
    simp

theorem Splits.cut_eq {text rest : List α} {complete : List (List α)} (splits : Splits separator text complete rest) :
    cut separator text = ⟨complete, rest⟩ := by
  rw [cut, splits.joined, List.foldl_append, foldl_complete [] complete splits.unbroken,
    foldl_unbroken _ rest splits.unfinished]
  simp

/-- Whatever follows, complete lines stay and the unfinished one begins some line. -/
theorem foldl_push_grows (separator : α) (start : Cut α) (later : List α) :
    start.complete <+: (later.foldl (Cut.push separator) start).complete ∧
    ∃ line, (line ∈ (later.foldl (Cut.push separator) start).complete ∨
      line = (later.foldl (Cut.push separator) start).rest) ∧ start.rest <+: line := by
  induction later generalizing start with
  | nil => exact ⟨List.prefix_rfl, start.rest, .inr rfl, List.prefix_rfl⟩
  | cons item later ih =>
    obtain ⟨grown, line, place, begun⟩ := ih (start.push separator item)
    rw [List.foldl_cons]
    by_cases last : item = separator
    · have pushed : start.push separator item = ⟨start.complete ++ [start.rest], []⟩ := if_pos last
      rw [pushed] at grown ⊢
      have ended : start.rest ∈ start.complete ++ [start.rest] := by simp
      exact ⟨(List.prefix_append _ _).trans grown, start.rest, .inl (grown.subset ended), List.prefix_rfl⟩
    · have pushed : start.push separator item = ⟨start.complete, start.rest ++ [item]⟩ := if_neg last
      rw [pushed] at grown place begun ⊢
      exact ⟨grown, line, place, (List.prefix_append _ _).trans begun⟩

theorem not_mem_takeWhile (separator : α) (items : List α) : separator ∉ items.takeWhile (· ≠ separator) := by
  intro member
  simpa using List.mem_takeWhile_imp member

theorem takeWhile_ended {items : List α} (ended : separator ∈ items) :
    ∃ behind, items = items.takeWhile (· ≠ separator) ++ separator :: behind := by
  have whole : items.takeWhile (· ≠ separator) ++ items.dropWhile (· ≠ separator) = items := List.takeWhile_append_dropWhile
  cases found : items.dropWhile (· ≠ separator) with
  | nil =>
    have absent := List.dropWhile_eq_nil_iff.mp found separator ended
    simp at absent
  | cons item behind =>
    have stops := List.head?_dropWhile_not (· ≠ separator) items
    rw [found] at stops whole
    obtain rfl : item = separator := by simpa using stops
    exact ⟨behind, whole.symm⟩

/-- Whatever ends the unfinished line makes it a complete one. -/
theorem cut_line (first : List α) {last : List α} (ended : separator ∈ last) :
    (cut separator first).rest ++ last.takeWhile (· ≠ separator) ∈ (cut separator (first ++ last)).complete := by
  have plain := not_mem_takeWhile separator last
  obtain ⟨behind, split⟩ := takeWhile_ended ended
  generalize last.takeWhile (· ≠ separator) = line at plain split ⊢
  subst split
  have grown := (foldl_push_grows separator ⟨(cut separator first).complete ++ [(cut separator first).rest ++ line], []⟩ behind).1
  rw [cut_append, List.foldl_append, foldl_unbroken _ _ plain, List.foldl_cons, Cut.push, if_pos rfl]
  exact grown.subset (by simp)

end QubesIdd.Library.Lines
