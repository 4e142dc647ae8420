import Mathlib.Data.List.TakeWhile
import QubesIdd.Library.Lines

/-! A buffer in which the items of a line collect. A separator hands the line over, and so
does whatever follows a full buffer; one kind of item is skipped. Behind the first
separator it no longer matters what the buffer held before. -/

namespace QubesIdd.Library

structure LineBuffer (α : Type u) where
  separator : α
  skipped : α
  limit : Nat

/-- Where an item stands: the number of separators before it, and of items. -/
structure Place where
  number : Nat := 0
  offset : Nat := 0
  deriving DecidableEq, Repr

namespace LineBuffer
variable {α : Type u} [DecidableEq α] (buffer : LineBuffer α)

/-- The item hands the line over. -/
def Ends (line : List α) (item : α) : Prop := item = buffer.separator ∨ line.length ≥ buffer.limit

instance (line : List α) (item : α) : Decidable (buffer.Ends line item) := inferInstanceAs (Decidable (_ ∨ _))

def push (line : List α) (item : α) : List α :=
  if buffer.Ends line item then [] else if item ≠ buffer.skipped then line ++ [item] else line

def rest (line items : List α) : List α := items.foldl buffer.push line

/-- The lines that the items hand over, the first of them begun before. -/
def handedOver (line : List α) : List α → List (List α)
  | [] => []
  | item :: items => (if buffer.Ends line item then [line] else []) ++ handedOver (buffer.push line item) items

/-- The place behind these items. -/
def behind (place : Place) (items : List α) : Place :=
  ⟨place.number + items.count buffer.separator, place.offset + items.length⟩

/-- The same lines, each with the place of the item that hands it over. -/
def placed (place : Place) (line : List α) : List α → List (Place × List α)
  | [] => []
  | item :: items =>
    (if buffer.Ends line item then [(place, line)] else []) ++ placed (buffer.behind place [item]) (buffer.push line item) items

/-- The items up to the first separator, with it. -/
def firstLine (items : List α) : List α :=
  items.takeWhile (· ≠ buffer.separator) ++ (items.dropWhile (· ≠ buffer.separator)).take 1

theorem rest_append (line first last : List α) : buffer.rest line (first ++ last) = buffer.rest (buffer.rest line first) last :=
  List.foldl_append

theorem handedOver_append (line first last : List α) :
    buffer.handedOver line (first ++ last) = buffer.handedOver line first ++ buffer.handedOver (buffer.rest line first) last := by
  induction first generalizing line with
  | nil => rfl
  | cons item first ih => simp only [List.cons_append, handedOver, ih, List.append_assoc, rest, List.foldl_cons]

theorem mem_handedOver {line items found : List α} :
    found ∈ buffer.handedOver line items ↔ ∃ before item behind,
      items = before ++ item :: behind ∧ buffer.Ends (buffer.rest line before) item ∧ found = buffer.rest line before := by
  induction items generalizing line with
  | nil => simp [handedOver]
  | cons first items ih =>
    rw [handedOver, List.mem_append, ih]
    constructor
    · rintro (here | ⟨before, item, behind, rfl, ends, rfl⟩)
      · split at here
        next ends => exact ⟨[], first, items, rfl, ends, List.mem_singleton.mp here⟩
        next => cases here
      · exact ⟨first :: before, item, behind, rfl, ends, rfl⟩
    · rintro ⟨before, item, behind, split, ends, rfl⟩
      cases before with
      | nil =>
        obtain ⟨rfl, rfl⟩ := List.cons.inj split
        exact .inl (by rw [if_pos (show buffer.Ends line first from ends)]; exact List.mem_singleton_self _)
      | cons head before =>
        obtain ⟨rfl, rfl⟩ := List.cons.inj split
        exact .inr ⟨before, item, behind, rfl, ends, rfl⟩

/-- The buffer holds the end of the unfinished line. -/
theorem rest_suffix (items : List α) :
    buffer.rest [] items <:+ (Lines.cut buffer.separator items).rest.filter (· ≠ buffer.skipped) := by
  induction items using List.reverseRecOn with
  | nil => exact List.nil_suffix
  | append_singleton items item ih =>
    rw [rest_append, Lines.cut_concat, Lines.Cut.push]
    change buffer.push (buffer.rest [] items) item <:+ _
    by_cases ended : item = buffer.separator
    · rw [if_pos ended, push, if_pos (.inl ended)]
      exact List.nil_suffix
    · rw [if_neg ended, push]
      split
      next => exact List.nil_suffix
      next =>
        obtain ⟨earlier, whole⟩ := ih
        dsimp only
        rw [List.filter_append, ← whole]
        split
        next kept => exact ⟨earlier, by simp [kept]⟩
        next dropped => exact ⟨earlier, by simp [not_not.mp dropped]⟩

theorem rest_separator (line items : List α) : buffer.rest line (items ++ [buffer.separator]) = [] := by
  rw [rest_append]
  exact if_pos (.inl rfl)

theorem firstLine_ended {items : List α} (ended : buffer.separator ∈ items) :
    buffer.firstLine items = items.takeWhile (· ≠ buffer.separator) ++ [buffer.separator] := by
  obtain ⟨behind, split⟩ := Lines.takeWhile_ended ended
  have dropped : items.dropWhile (· ≠ buffer.separator) = buffer.separator :: behind := by
    have whole : items.takeWhile (· ≠ buffer.separator) ++ items.dropWhile (· ≠ buffer.separator) = items :=
      List.takeWhile_append_dropWhile
    exact List.append_cancel_left (whole.trans split)
  rw [firstLine, dropped]
  rfl

theorem firstLine_open {items : List α} (unfinished : buffer.separator ∉ items) :
    buffer.firstLine items = items.takeWhile (· ≠ buffer.separator) := by
  have nothing : items.dropWhile (· ≠ buffer.separator) = [] := by
    rw [List.dropWhile_eq_nil_iff]
    intro item member
    simpa using fun same : item = buffer.separator => unfinished (same ▸ member)
  rw [firstLine, nothing, List.take_nil, List.append_nil]

/-- The first line takes up whatever was there; the lines behind it are those of an empty
buffer. -/
theorem handedOver_split (items : List α) :
    ∃ behind, ∀ line, buffer.handedOver line items = buffer.handedOver line (buffer.firstLine items) ++ behind := by
  by_cases ended : buffer.separator ∈ items
  · refine ⟨buffer.handedOver [] (items.drop (buffer.firstLine items).length), fun line => ?_⟩
    have begins : buffer.firstLine items <+: items := by
      have whole : items.takeWhile (· ≠ buffer.separator) ++ items.dropWhile (· ≠ buffer.separator) = items :=
        List.takeWhile_append_dropWhile
      conv => rhs; rw [← whole]
      exact List.prefix_append_right_inj _ |>.mpr (List.take_prefix _ _)
    have split : buffer.firstLine items ++ items.drop (buffer.firstLine items).length = items :=
      List.prefix_iff_eq_append.mp begins
    conv => lhs; rw [← split]
    rw [handedOver_append, buffer.firstLine_ended ended, rest_separator]
  · have whole : buffer.firstLine items = items := by
      rw [buffer.firstLine_open ended, List.takeWhile_eq_self_iff]
      intro item member
      simpa using fun same : item = buffer.separator => ended (same ▸ member)
    exact ⟨[], fun line => by rw [whole, List.append_nil]⟩

/-- What is made of the lines depends on the earlier content through the first line alone. -/
theorem filterMap_handedOver_iff (ask : List α → Option β) (line other items : List α) :
    (buffer.handedOver line items).filterMap ask = (buffer.handedOver other items).filterMap ask ↔
      (buffer.handedOver line (buffer.firstLine items)).filterMap ask =
        (buffer.handedOver other (buffer.firstLine items)).filterMap ask := by
  obtain ⟨behind, split⟩ := buffer.handedOver_split items
  rw [split line, split other, List.filterMap_append, List.filterMap_append, List.append_left_inj]

section
variable {line items : List α} (plain : buffer.separator ∉ items)
  (room : line.length + (items.filter (· ≠ buffer.skipped)).length < buffer.limit)
include plain room

/-- Items that fit wait in the buffer. -/
theorem rest_fits : buffer.rest line items = line ++ items.filter (· ≠ buffer.skipped) ∧ buffer.handedOver line items = [] := by
  induction items generalizing line with
  | nil => simp [rest, handedOver]
  | cons item items ih =>
    simp only [List.mem_cons, not_or] at plain
    have open' : ¬ buffer.Ends line item := not_or_intro (Ne.symm plain.1) (by omega)
    by_cases kept : item ≠ buffer.skipped
    · have pushed : buffer.push line item = line ++ [item] := by simp [push, open', kept]
      rw [List.filter_cons_of_pos (by simpa using kept)] at room ⊢
      rw [List.length_cons] at room
      obtain ⟨waits, nothing⟩ := @ih (line ++ [item]) plain.2 (by rw [List.length_append, List.length_singleton]; omega)
      rw [List.append_assoc, List.singleton_append] at waits
      exact ⟨by rw [← waits, rest, rest, List.foldl_cons, pushed], by simp [handedOver, open', pushed, nothing]⟩
    · obtain rfl : item = buffer.skipped := not_not.mp kept
      have pushed : buffer.push line buffer.skipped = line := by simp [push, open']
      rw [List.filter_cons_of_neg (by simp)] at room ⊢
      obtain ⟨waits, nothing⟩ := ih plain.2 room
      exact ⟨by rw [← waits, rest, rest, List.foldl_cons, pushed], by simp [handedOver, open', pushed, nothing]⟩

theorem handedOver_fits :
    buffer.handedOver line (items ++ [buffer.separator]) = [line ++ items.filter (· ≠ buffer.skipped)] := by
  obtain ⟨waits, nothing⟩ := buffer.rest_fits plain room
  rw [handedOver_append, nothing, waits]
  simp [handedOver, Ends]

end

/-- Items may fill the buffer to the last one, if none of them is skipped. -/
theorem rest_full {line items : List α} (plain : buffer.separator ∉ items) (kept : buffer.skipped ∉ items)
    (room : items = [] ∨ line.length + items.length ≤ buffer.limit) :
    buffer.rest line items = line ++ items ∧ buffer.handedOver line items = [] := by
  rcases List.eq_nil_or_concat items with rfl | ⟨earlier, last, rfl⟩
  · simp [rest, handedOver]
  · simp only [List.concat_eq_append, List.mem_append, List.mem_singleton, not_or] at plain kept room ⊢
    have whole : earlier.filter (· ≠ buffer.skipped) = earlier :=
      List.filter_eq_self.mpr fun item member => by simpa using fun same : item = buffer.skipped => kept.1 (same ▸ member)
    have waits : line.length + (earlier.length + 1) ≤ buffer.limit := by simpa using room
    obtain ⟨collected, nothing⟩ := @rest_fits _ _ buffer line earlier plain.1 (by rw [whole]; omega)
    rw [whole] at collected
    have unended : ¬ buffer.Ends (line ++ earlier) last :=
      not_or_intro (Ne.symm plain.2) (by rw [List.length_append]; omega)
    have pushed : buffer.push (line ++ earlier) last = line ++ earlier ++ [last] := by simp [push, unended, Ne.symm kept.2]
    rw [rest_append, handedOver_append, collected, nothing]
    exact ⟨by rw [← List.append_assoc, ← pushed]; rfl, by simp [handedOver, unended]⟩

/-- What is in the buffer has been there or has come since. -/
theorem rest_suffix_append (line items : List α) : buffer.rest line items <:+ line ++ items.filter (· ≠ buffer.skipped) := by
  induction items using List.reverseRecOn with
  | nil => simp [rest]
  | append_singleton items item ih =>
    rw [rest_append, List.filter_append, ← List.append_assoc]
    change buffer.push (buffer.rest line items) item <:+ _
    unfold push
    split
    next => exact List.nil_suffix
    next =>
      obtain ⟨earlier, whole⟩ := ih
      split
      next other => exact ⟨earlier, by rw [← List.append_assoc, whole]; simp [other]⟩
      next same => exact ⟨earlier, by rw [whole]; simp [not_not.mp same]⟩

/-- A text whose lines fit is handed over line by line, and its end stays in the buffer. -/
theorem lines_fit {complete : List (List α)} {last : List α} (unbroken : ∀ line ∈ complete, buffer.separator ∉ line)
    (short : ∀ line ∈ complete, (line.filter (· ≠ buffer.skipped)).length < buffer.limit)
    (plain : buffer.separator ∉ last) (room : (last.filter (· ≠ buffer.skipped)).length < buffer.limit) :
    buffer.rest [] (complete.flatMap (· ++ [buffer.separator]) ++ last) = last.filter (· ≠ buffer.skipped) ∧
      buffer.handedOver [] (complete.flatMap (· ++ [buffer.separator]) ++ last) =
        complete.map (·.filter (· ≠ buffer.skipped)) := by
  induction complete with
  | nil => simpa using @rest_fits _ _ buffer [] last plain (by simpa using room)
  | cons line complete ih =>
    have first : buffer.handedOver [] (line ++ [buffer.separator]) = [[] ++ line.filter (· ≠ buffer.skipped)] :=
      buffer.handedOver_fits (unbroken line List.mem_cons_self) (by simpa using short line List.mem_cons_self)
    obtain ⟨waits, later⟩ := ih (fun other member => unbroken other (List.mem_cons_of_mem line member))
      fun other member => short other (List.mem_cons_of_mem line member)
    rw [List.flatMap_cons, List.append_assoc, rest_append, handedOver_append, rest_separator, first, waits, later]
    exact ⟨rfl, rfl⟩

theorem placed_lines (place : Place) (line items : List α) :
    (buffer.placed place line items).map Prod.snd = buffer.handedOver line items := by
  induction items generalizing place line with
  | nil => rfl
  | cons item items ih =>
    rw [placed, handedOver, List.map_append, ih]
    split <;> rfl

theorem behind_append (place : Place) (first last : List α) :
    buffer.behind place (first ++ last) = buffer.behind (buffer.behind place first) last := by
  simp only [behind, List.count_append, List.length_append, Nat.add_assoc]

theorem placed_append (place : Place) (line first last : List α) :
    buffer.placed place line (first ++ last) =
      buffer.placed place line first ++ buffer.placed (buffer.behind place first) (buffer.rest line first) last := by
  induction first generalizing place line with
  | nil => rfl
  | cons item first ih =>
    have split : buffer.behind place (item :: first) = buffer.behind (buffer.behind place [item]) first :=
      buffer.behind_append place [item] first
    simp only [List.cons_append, placed, ih, List.append_assoc, split, rest, List.foldl_cons]

/-- At every place one line is handed over at most. -/
theorem placed_offsets (place : Place) (line items : List α) :
    ((buffer.placed place line items).map (·.1.offset)).Sublist (List.range' place.offset items.length) := by
  induction items generalizing place line with
  | nil => exact .slnil
  | cons item items ih =>
    have later := ih (buffer.behind place [item]) (buffer.push line item)
    rw [placed, List.map_append, List.length_cons, List.range'_succ]
    split
    next => exact later.cons_cons place.offset
    next => exact later.cons place.offset

theorem placed_waits (place : Place) {line items : List α} (plain : buffer.separator ∉ items)
    (room : line.length + (items.filter (· ≠ buffer.skipped)).length < buffer.limit) : buffer.placed place line items = [] := by
  have nothing := (buffer.rest_fits plain room).2
  rw [← buffer.placed_lines place] at nothing
  exact List.map_eq_nil_iff.mp nothing

/-- Lines that fit are handed over each at its own separator. -/
theorem placed_fit {complete : List (List α)} {last : List α} (place : Place)
    (unbroken : ∀ line ∈ complete, buffer.separator ∉ line)
    (short : ∀ line ∈ complete, (line.filter (· ≠ buffer.skipped)).length < buffer.limit)
    (plain : buffer.separator ∉ last) (room : (last.filter (· ≠ buffer.skipped)).length < buffer.limit) :
    (buffer.placed place [] (complete.flatMap (· ++ [buffer.separator]) ++ last)).map (·.1.number) =
      List.range' place.number complete.length := by
  induction complete generalizing place with
  | nil =>
    rw [List.flatMap_nil, List.nil_append, buffer.placed_waits place plain (by simpa using room)]
    rfl
  | cons line complete ih =>
    have whole := unbroken line List.mem_cons_self
    have fits : ([] : List α).length + (line.filter (· ≠ buffer.skipped)).length < buffer.limit := by
      simpa using short line List.mem_cons_self
    have later := ih (buffer.behind place (line ++ [buffer.separator])) (fun other member => unbroken other (List.mem_cons_of_mem line member))
      fun other member => short other (List.mem_cons_of_mem line member)
    have counted : (buffer.behind place (line ++ [buffer.separator])).number = place.number + 1 := by
      simp [behind, List.count_eq_zero_of_not_mem whole]
    have first : (buffer.placed place [] (line ++ [buffer.separator])).map (·.1.number) = [place.number] := by
      rw [placed_append, buffer.placed_waits place whole fits, (buffer.rest_fits whole fits).1]
      simp [placed, Ends, behind, List.count_eq_zero_of_not_mem whole]
    rw [List.flatMap_cons, List.append_assoc, placed_append, List.map_append, rest_separator, first, later, counted,
      List.length_cons, List.range'_succ]
    rfl

end LineBuffer
end QubesIdd.Library
