import Mathlib.Data.List.Basic
import Mathlib.Logic.Function.Basic

/-! Numbered places that are vacated one after another, each into the next. A move into a
place that is taken fails, like one that is refused, so nothing is lost and nothing overtakes. -/

namespace QubesIdd.Library.Rotation

variable {α : Type u}

def move (granted : Bool) (number : Nat) (places : Nat → Option α) : Nat → Option α :=
  if granted && (places number).isSome && (places (number + 1)).isNone then
    Function.update (Function.update places (number + 1) (places number)) number none
  else places

/-- The places before `count` are vacated, the last of them first. -/
def shift (granted : Nat → Bool) : Nat → (Nat → Option α) → Nat → Option α
  | 0, places => places
  | count + 1, places => shift granted count (move (granted count) count places)

/-- What is in the places before `count`, in their order. -/
def contents (count : Nat) (places : Nat → Option α) : List α := (List.range count).filterMap places

theorem contents_succ (count : Nat) (places : Nat → Option α) :
    contents (count + 1) places = contents count places ++ (places count).toList := by
  rw [contents, List.range_succ, List.filterMap_append]
  cases held : places count <;> simp [contents, held]

theorem contents_congr {count : Nat} {places others : Nat → Option α} (same : ∀ number < count, places number = others number) :
    contents count places = contents count others :=
  List.filterMap_congr fun number member => same number (List.mem_range.mp member)

theorem contents_list (count : Nat) (items : List α) : contents count (fun number => items[number]?) = items.take count := by
  induction count with
  | zero => rfl
  | succ count ih => rw [contents_succ, ih, List.take_add_one]

theorem contents_cons (count : Nat) (places : Nat → Option α) :
    contents (count + 1) places = (places 0).toList ++ contents count fun number => places (number + 1) := by
  rw [contents, List.range_succ_eq_map, List.filterMap_cons, List.filterMap_map]
  cases places 0 <;> rfl

theorem mem_contents {count number : Nat} {places : Nat → Option α} {item : α} (inside : number < count)
    (held : places number = some item) : item ∈ contents count places :=
  List.mem_filterMap.mpr ⟨number, List.mem_range.mpr inside, held⟩

theorem move_other (granted : Bool) {number other : Nat} (places : Nat → Option α) (apart : other ≠ number)
    (behind : other ≠ number + 1) : move granted number places other = places other := by
  unfold move
  split
  · rw [Function.update_of_ne apart, Function.update_of_ne behind]
  · rfl

/-- A move inside the places loses nothing and keeps the order. -/
theorem move_contents (granted : Bool) {number count : Nat} (places : Nat → Option α) (inside : number + 1 < count) :
    contents count (move granted number places) = contents count places := by
  induction count with
  | zero => cases inside
  | succ count ih =>
    rcases Nat.lt_succ_iff_lt_or_eq.mp inside with before | rfl
    · rw [contents_succ, contents_succ, ih before, move_other granted places (by omega) (by omega)]
    · have earlier : contents number (move granted number places) = contents number places :=
        contents_congr fun other below => move_other granted places (by omega) (by omega)
      rw [contents_succ, contents_succ, contents_succ, contents_succ, earlier]
      unfold move
      split
      next moves =>
        have free : places (number + 1) = none := by simp_all
        rw [Function.update_self, Function.update_of_ne (by omega), Function.update_self, free]
        simp
      next => rfl

theorem shift_contents (granted : Nat → Bool) {count total : Nat} (places : Nat → Option α) (inside : count < total) :
    contents total (shift granted count places) = contents total places := by
  induction count generalizing places with
  | zero => rfl
  | succ count ih => rw [shift, ih _ (by omega), move_contents _ _ inside]

theorem shift_beyond (granted : Nat → Bool) {count number : Nat} (places : Nat → Option α) (beyond : count < number) :
    shift granted count places number = places number := by
  induction count generalizing places with
  | zero => rfl
  | succ count ih => rw [shift, ih _ (by omega), move_other _ _ (by omega) (by omega)]

/-- The first place is never moved into. -/
theorem shift_first (granted : Nat → Bool) (count : Nat) (places : Nat → Option α) :
    shift granted count places 0 = places 0 ∨ shift granted count places 0 = none := by
  induction count generalizing places with
  | zero => exact .inl rfl
  | succ count ih =>
    have moved : move (granted count) count places 0 = places 0 ∨ move (granted count) count places 0 = none := by
      unfold move
      split
      · by_cases first : count = 0
        · subst count
          exact .inr (Function.update_self ..)
        · rw [Function.update_of_ne (Ne.symm first), Function.update_of_ne (by omega)]
          exact .inl rfl
      · exact .inl rfl
    rcases ih (move (granted count) count places) with same | none
    · rw [shift, same]
      exact moved
    · exact .inr none

/-- What is behind the first place stays behind it. -/
theorem shift_behind (granted : Nat → Bool) {count total : Nat} (places : Nat → Option α) (inside : count ≤ total) :
    contents total (fun number => places (number + 1)) <:+
      contents total fun number => shift granted count places (number + 1) := by
  have whole := shift_contents granted places (Nat.lt_succ_of_le inside)
  rw [contents_cons, contents_cons] at whole
  rcases shift_first granted count places with same | none
  · rw [same] at whole
    exact List.append_cancel_left whole ▸ List.suffix_refl _
  · rw [none, Option.toList_none, List.nil_append] at whole
    exact whole ▸ List.suffix_append _ _

/-- With a free place at the end and nothing refused, everything moves on by one. -/
theorem shift_granted {granted : Nat → Bool} {count : Nat} {places : Nat → Option α} (every : ∀ number < count, granted number = true)
    (free : places count = none) {number : Nat} (inside : number ≤ count) :
    shift granted count places number = if number = 0 then none else places (number - 1) := by
  induction count generalizing places with
  | zero =>
    obtain rfl := Nat.le_zero.mp inside
    exact free
  | succ count ih =>
    have moved : move (granted count) count places =
        Function.update (Function.update places (count + 1) (places count)) count none := by
      unfold move
      cases held : places count with
      | some item => simp [every count (Nat.lt_succ_self count), free]
      | none =>
        have last : Function.update places (count + 1) none = places := free ▸ Function.update_eq_self (count + 1) places
        have here : Function.update places count none = places := held ▸ Function.update_eq_self count places
        simp [last, here]
    rw [shift, moved]
    rcases Nat.le_succ_iff.mp inside with before | rfl
    · rw [ih (fun other below => every other (by omega)) (Function.update_self ..) before]
      split
      · rfl
      next later => rw [Function.update_of_ne (by omega), Function.update_of_ne (by omega)]
    · rw [shift_beyond _ _ (Nat.lt_succ_self count), Function.update_of_ne (by omega), Function.update_self]
      rfl

end QubesIdd.Library.Rotation
