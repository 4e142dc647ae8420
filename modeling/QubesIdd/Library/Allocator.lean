import Mathlib.Data.List.Basic

/-! An allocator that may refuse any request, and the blocks it has handed out that are not
freed yet. What is allocated in a scope and freed at its end leaves no trace. -/

namespace QubesIdd.Library

/-- Requests are numbered, and a block goes by the number of its request. -/
structure Allocator where
  live : List Nat := []
  next : Nat := 0
  deriving DecidableEq, Repr

namespace Allocator

def malloc (granted : Nat → Bool) (allocator : Allocator) : Option Nat × Allocator :=
  if granted allocator.next then (some allocator.next, ⟨allocator.next :: allocator.live, allocator.next + 1⟩)
  else (none, ⟨allocator.live, allocator.next + 1⟩)

def free (block : Nat) (allocator : Allocator) : Allocator := { allocator with live := allocator.live.erase block }

variable {granted : Nat → Bool} {before held after : Allocator} {block : Nat}

theorem malloc_refused (refused : before.malloc granted = (none, after)) : after.live = before.live := by
  unfold malloc at refused
  split at refused
  · cases refused
  · cases refused
    rfl

theorem malloc_granted (taken : before.malloc granted = (some block, held)) : held.live = block :: before.live := by
  unfold malloc at taken
  split at taken
  · cases taken
    rfl
  · cases taken

theorem malloc_every (before : Allocator) (every : ∀ request, granted request = true) :
    ∃ block held, before.malloc granted = (some block, held) :=
  ⟨_, _, if_pos (every before.next)⟩

/-- A block is freed behind whatever its scope has left as it was. -/
theorem free_scope (taken : before.malloc granted = (some block, held)) (kept : after.live = held.live) :
    (after.free block).live = before.live := by
  rw [free, kept, malloc_granted taken, List.erase_cons_head]

end Allocator
end QubesIdd.Library
