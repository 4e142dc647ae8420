import Mathlib.Algebra.BigOperators.Group.List.Basic
import Mathlib.Algebra.Order.Ring.Int

/-! Reference counting through smart pointers. An operation list records every
reference handed over, added or released; each pointer operation costs exactly what
the pointer holds more or less afterwards, except that attaching costs nothing. -/

namespace QubesIdd.Library.ComPtr

inductive Operation (α : Type u) where
  | handOver (object : α)
  | addRef (object : α)
  | release (object : α)
  deriving DecidableEq, Repr

section
variable {α : Type u}

def copy (held : Option α) : List (Operation α) := held.toList.map .addRef

def drop (held : Option α) : List (Operation α) := held.toList.map .release

/-- A pointer that takes over a reference it is given; the one it had is released. -/
def attach (held : Option α) : List (Operation α) := drop held

variable [DecidableEq α]

/-- Assigning a raw pointer: a new reference is added unless nothing changes. -/
def assign (held other : Option α) : List (Operation α) := if held = other then [] else copy other ++ drop held

def weight (object : α) : Operation α → Int
  | .handOver other => if other = object then 1 else 0
  | .addRef other => if other = object then 1 else 0
  | .release other => if other = object then -1 else 0

def net (object : α) (operations : List (Operation α)) : Int := (operations.map (weight object)).sum

def holds (object : α) (held : Option α) : Int := if held = some object then 1 else 0

@[simp] theorem net_nil (object : α) : net object [] = 0 := rfl

@[simp] theorem net_append (object : α) (first last : List (Operation α)) :
    net object (first ++ last) = net object first + net object last := by
  simp [net]

@[simp] theorem net_handOver (object : α) (given : Option α) :
    net object (given.toList.map .handOver) = holds object given := by
  cases given <;> simp [net, holds, weight]

@[simp] theorem net_copy (object : α) (held : Option α) : net object (copy held) = holds object held := by
  cases held <;> simp [net, copy, holds, weight]

@[simp] theorem net_drop (object : α) (held : Option α) : net object (drop held) = -holds object held := by
  cases held with
  | none => rfl
  | some other => by_cases same : other = object <;> simp [net, drop, holds, weight, same]

@[simp] theorem net_attach (object : α) (held : Option α) : net object (attach held) = -holds object held :=
  net_drop object held

@[simp] theorem net_assign (object : α) (held other : Option α) :
    net object (assign held other) = holds object other - holds object held := by
  unfold assign
  split
  next same => simp [same]
  next => simp [sub_eq_add_neg]

@[simp] theorem holds_none (object : α) : holds object none = 0 := rfl

end
end QubesIdd.Library.ComPtr
