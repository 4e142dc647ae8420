import QubesIdd.Library.Decimal

/-! `qb-resd.c`: the main loop, which follows the newest gui-agent log, takes
resolution requests out of its lines and applies the last one after a pause. Files are
byte lists; offsets are unbounded numbers for 64-bit ones. -/

namespace QubesIdd.Resd
open Library

abbrev Bytes := List UInt8

def char (c : Char) : UInt8 := c.toNat.toUInt8

def isspace (c : UInt8) : Bool := c == char ' ' || (0x09 ≤ c && c ≤ 0x0d)

def isdigit (c : UInt8) : Bool := Decimal.isDigit c.toNat

def cString (buffer : Bytes) : Bytes := buffer.takeWhile (· ≠ 0)

/-- The text from the first occurrence of `needle` on. -/
def strstr (needle : Bytes) : Bytes → Option Bytes
  | [] => if needle.isEmpty then some [] else none
  | c :: rest => if needle.isPrefixOf (c :: rest) then some (c :: rest) else strstr needle rest

def scanDigits (negative : Bool) (s : Bytes) : Option (Int × Bytes) :=
  let numeral := s.takeWhile isdigit
  if numeral = [] then none else
  let value : Int := Decimal.value (numeral.map UInt8.toNat)
  some (if negative then -value else value, s.dropWhile isdigit)

/-- `%d` of the `scanf` family: the numeral's value, and what follows it. -/
def scanInt (s : Bytes) : Option (Int × Bytes) :=
  match s.dropWhile isspace with
  | [] => none
  | c :: rest =>
    if c = char '-' then scanDigits true rest
    else if c = char '+' then scanDigits false rest
    else scanDigits false (c :: rest)

def scanSize (s : Bytes) : Option (Int × Int) :=
  match scanInt s with
  | none => none
  | some (w, rest) =>
    if rest.head? ≠ some (char 'x') then none else
    match scanInt rest.tail with
    | none => none
    | some (hh, _) => some (w, hh)

/-- What `%d` puts into an `int`. The numeral is read into 64 bits, where one that does not
fit becomes the largest or the smallest number, and the low 32 bits are stored. -/
def storedInt (value : Int) : Int32 := Int32.ofInt (max (-2 ^ 63) (min value (2 ^ 63 - 1)))

def marker : Bytes := "resolution change: ".toList.map char

/-- What a finished line asks for. -/
def pendingRequest (line : Bytes) : Option (UInt32 × UInt32) :=
  match strstr marker (cString line) with
  | none => none
  | some p =>
    match scanSize (p.drop 19) with
    | none => none
    | some (w, hh) =>
      let w := storedInt w
      let hh := storedInt hh
      if w > 0 ∧ hh > 0 then some (w.toUInt32, hh.toUInt32) else none

/-- The variables of `wmain`; `line` holds the first `linelen` characters. `updates`
records every assignment to the pending size, `applied` every call of `SetExact`. -/
structure State where
  curLog : Option String := none
  pos : Nat := 0
  line : Bytes := []
  pendW : UInt32 := 0
  pendH : UInt32 := 0
  pendTick : UInt32 := 0
  updates : List (UInt32 × UInt32) := []
  applied : List (UInt32 × UInt32) := []
  deriving DecidableEq, Repr

/-- What the system answers during one turn of the loop: the newest log, whether it
opens, its size, its content up to the end of the turn, how much each `ReadFile` hands
over before one fails, and the tick counts while reading and afterwards. -/
structure Poll where
  newest : Option String
  opened : Bool
  size : Nat
  content : Bytes
  reads : List Nat
  readTick : UInt32
  nowTick : UInt32
  deriving DecidableEq, Repr

def LINE_LIMIT : Nat := 1023

def BUFFER_SIZE : Nat := 8192

/-- The body of the loop over a chunk. A full buffer is flushed by whatever character
comes next, and that character is lost. -/
def readByte (tick : UInt32) (state : State) (c : UInt8) : State :=
  if c = char '\n' ∨ state.line.length ≥ LINE_LIMIT then
    match pendingRequest state.line with
    | some (w, hh) =>
      { state with pendW := w, pendH := hh, pendTick := tick, updates := state.updates ++ [(w, hh)], line := [] }
    | none => { state with line := [] }
  else if c ≠ char '\r' then { state with line := state.line ++ [c] }
  else state

def readChunks (tick : UInt32) (content : Bytes) : List Nat → State → State
  | [], state => state
  | size :: rest, state =>
    let buf := (content.drop state.pos).take (min size BUFFER_SIZE)
    if buf.isEmpty then state else
    let state := buf.foldl (readByte tick) state
    readChunks tick content rest { state with pos := state.pos + buf.length }

def followNewest (newest : Option String) (state : State) : State :=
  match newest with
  | none => state
  | some log => if state.curLog = some log then state else { state with curLog := some log, pos := 0, line := [] }

/-- Reading what is new in the followed log; a log shorter than the offset is read
from its start. -/
def readLog (input : Poll) (state : State) : State :=
  if state.curLog.isNone || !input.opened then state else
  let state := if input.size < state.pos then { state with pos := 0 } else state
  readChunks input.readTick input.content input.reads state

def debounce (now : UInt32) (state : State) : State :=
  if state.pendTick ≠ 0 ∧ now - state.pendTick > 400 then
    { state with applied := state.applied ++ [(state.pendW, state.pendH)], pendTick := 0 }
  else state

def poll (state : State) (input : Poll) : State :=
  debounce input.nowTick (readLog input (followNewest input.newest state))

end QubesIdd.Resd
