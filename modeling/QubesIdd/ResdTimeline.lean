import Mathlib.Algebra.Order.Ring.Int
import QubesIdd.Resd

/-! The main loop of `qb-resd.c` one action at a time, each at a moment of its own, and
what someone beside it knows: when the last request was read and whether it has been
applied since. -/

namespace QubesIdd.Resd

/-- Milliseconds since the system started, as far as 32 bits hold them. -/
def getTickCount (time : Nat) : UInt32 := UInt32.ofNat time

/-- The difference of two counts is the time between them, up to a whole turn. -/
theorem getTickCount_sub {earlier later : Nat} (ordered : earlier ≤ later) (recent : later - earlier < 2 ^ 32) :
    (getTickCount later - getTickCount earlier).toNat = later - earlier := by
  simp only [getTickCount, UInt32.toNat_sub, UInt32.toNat_ofNat']
  omega

theorem getTickCount_exceeds {earlier later delay : Nat} (ordered : earlier ≤ later) (recent : later - earlier < 2 ^ 32)
    (small : delay < 2 ^ 32) : getTickCount later - getTickCount earlier > UInt32.ofNat delay ↔ earlier + delay < later := by
  rw [gt_iff_lt, UInt32.lt_iff_toNat_lt, getTickCount_sub ordered recent, UInt32.toNat_ofNat', Nat.mod_eq_of_lt small]
  omega

inductive Action where
  | followNewest (newest : Option String)
  | seek (pos : Nat)
  | readByte (c : UInt8)
  | debounce
  deriving DecidableEq, Repr

def act (time : Nat) (state : State) : Action → State
  | .followNewest newest => followNewest newest state
  | .seek pos => { state with pos }
  | .readByte c => readByte (getTickCount time) state c
  | .debounce => debounce (getTickCount time) state

/-- The request that a character completes. -/
def completes (state : State) : Action → Option (UInt32 × UInt32)
  | .readByte c => if c = char '\n' ∨ state.line.length ≥ LINE_LIMIT then pendingRequest state.line else none
  | _ => none

/-- An action, and the milliseconds since the one before it. -/
structure Moment where
  elapsed : Nat
  action : Action
  deriving DecidableEq, Repr

/-- `checked` is when the pause was last looked at, `latest` the request read last and
when, `handed` whether `SetExact` has been called since. -/
structure Observed where
  state : State := {}
  time : Nat
  checked : Nat
  latest : Option ((UInt32 × UInt32) × Nat) := none
  handed : Bool := false
  deriving DecidableEq, Repr

namespace Observed

/-- The process starts at some time, which counts as the first look. -/
def start (time : Nat) : Observed := { time, checked := time }

def step (observed : Observed) (moment : Moment) : Observed :=
  let time := observed.time + moment.elapsed
  let state := act time observed.state moment.action
  let checked := if moment.action = .debounce then time else observed.checked
  match completes observed.state moment.action with
  | some size => { state, time, checked, latest := some (size, time), handed := false }
  | none =>
    { observed with
      state, time, checked
      handed := observed.handed || decide (observed.state.applied.length < state.applied.length) }

end Observed
end QubesIdd.Resd
