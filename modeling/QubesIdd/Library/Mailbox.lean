import QubesIdd.Library.Runs

/-! A slot for the latest item: posting replaces what is in it, an item is delivered
when it is posted or kept for the next collection. -/

namespace QubesIdd.Library

structure Mailbox (α : Type u) where
  item : α
  pending : Bool
  delivered : List α

namespace Mailbox
open Runs

variable {α : Type u}

inductive Event (α : Type u) where
  | post (item : α) (now : Bool)
  | collect
  | idle

def Event.posts : Event α → Bool
  | .post _ _ => true
  | _ => false

def step (box : Mailbox α) : Event α → Mailbox α
  | .post item true => ⟨item, false, box.delivered ++ [item]⟩
  | .post item false => ⟨item, true, box.delivered⟩
  | .collect => if box.pending then ⟨box.item, false, box.delivered ++ [box.item]⟩ else box
  | .idle => box

/-- What has been delivered or still will be. -/
def owed (box : Mailbox α) : List α := box.delivered ++ if box.pending then [box.item] else []

/-- Only a post adds to what is owed. -/
theorem step_quiet (box : Mailbox α) {event : Event α} (quiet : event.posts = false) :
    (box.step event).item = box.item ∧ (box.step event).owed = box.owed := by
  cases event with
  | post => cases quiet
  | collect => cases waiting : box.pending <;> simp [step, owed, waiting]
  | idle => exact ⟨rfl, rfl⟩

theorem run_quiet (box : Mailbox α) (events : List (Event α)) (quiet : ∀ event ∈ events, event.posts = false) :
    (run step box events).item = box.item ∧ (run step box events).owed = box.owed := by
  induction events generalizing box with
  | nil => exact ⟨rfl, rfl⟩
  | cons event rest ih =>
    obtain ⟨item, owed⟩ := box.step_quiet (quiet event List.mem_cons_self)
    obtain ⟨lastItem, lastOwed⟩ := ih (box.step event) fun later member => quiet later (List.mem_cons_of_mem _ member)
    exact ⟨lastItem.trans item, lastOwed.trans owed⟩

theorem step_post (box : Mailbox α) (item : α) (now : Bool) :
    (box.step (.post item now)).item = item ∧ (box.step (.post item now)).owed = box.delivered ++ [item] := by
  cases now with
  | true => exact ⟨rfl, List.append_nil _⟩
  | false => exact ⟨rfl, rfl⟩

/-- Since a post, either it has been delivered or it is the item still waiting. -/
theorem run_post (box : Mailbox α) (item : α) (now : Bool) (events : List (Event α))
    (quiet : ∀ event ∈ events, event.posts = false) :
    let last := run step box (.post item now :: events)
    last.item = item ∧ last.delivered = box.delivered ++ if last.pending then [] else [item] := by
  intro last
  obtain ⟨posted, owing⟩ := box.step_post item now
  obtain ⟨kept, settled⟩ := run_quiet (box.step (.post item now)) events quiet
  have held : last.item = item := kept.trans posted
  have total : last.owed = box.delivered ++ [item] := settled.trans owing
  refine ⟨held, ?_⟩
  rw [owed, held] at total
  cases waiting : last.pending with
  | true =>
    rw [waiting, if_pos rfl] at total
    rw [if_pos rfl, List.append_nil]
    exact List.append_cancel_right total
  | false => simpa [waiting] using total

/-- Nothing is delivered that was not posted. -/
theorem run_empty (box : Mailbox α) (events : List (Event α)) (empty : box.pending = false)
    (quiet : ∀ event ∈ events, event.posts = false) :
    (run step box events).pending = false ∧ (run step box events).delivered = box.delivered := by
  induction events generalizing box with
  | nil => exact ⟨empty, rfl⟩
  | cons event rest ih =>
    have unmoved : box.step event = box := by
      cases event with
      | post => cases quiet _ List.mem_cons_self
      | collect => simp [step, empty]
      | idle => rfl
    rw [run_cons, unmoved]
    exact ih box empty fun later member => quiet later (List.mem_cons_of_mem _ member)

/-- The item that an event posts. -/
def Event.posted : Event α → Option α
  | .post item _ => some item
  | _ => none

/-- The last of what is owed is what was posted last. -/
theorem step_owed_last (box : Mailbox α) (event : Event α) :
    (box.step event).owed.getLast? = event.posted.or box.owed.getLast? := by
  cases event with
  | post item now =>
    rw [(box.step_post item now).2]
    simp [Event.posted]
  | collect => exact congrArg List.getLast? (box.step_quiet rfl).2
  | idle => rfl

end Mailbox
end QubesIdd.Library
