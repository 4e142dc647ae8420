import Mathlib.Data.List.Basic

/-! `SetExact` of `qb-resd.c`: a mode is first made the driver's preferred one through
an escape and then set as the display's. -/

namespace QubesIdd.Resd

abbrev Size := UInt32 × UInt32

def QB_ESCAPE_MAGIC : UInt32 := 0x51425344
def QB_ESCAPE_VERSION : UInt32 := 1
def QB_ESC_SET_PREFERRED_MODE : UInt32 := 1

/-- The input fields of `QB_SETPREFERREDMODE_ESCAPE`. -/
structure SetPreferredMode where
  magic : UInt32
  version : UInt32
  op : UInt32
  width : UInt32
  height : UInt32
  deriving DecidableEq, Repr

def DISP_CHANGE_SUCCESSFUL : Int32 := 0

/-- The calls that reach the driver and the display, with their results, and the line
logged after the latter. -/
inductive ExactCall where
  | escape (priv : SetPreferredMode) (st : Int32) (statusOut : UInt32)
  | closeAdapter
  | changeDisplaySettings (size : Size) (result : Int32)
  | logApplied (size : Size) (advertised : Bool) (result : Int32)
  deriving DecidableEq, Repr

/-- What the system answers in one call. `displaySettings` is the modes listed by each
attempt to find the new one among them. -/
structure ExactAnswers where
  enumDisplayDevices : Bool := true
  openAdapter : Int32 := 0
  escape : Int32 := 0
  statusOut : UInt32 := 0
  displaySettings : List (List Size) := []
  changeDisplaySettings : Int32 := DISP_CHANGE_SUCCESSFUL
  deriving DecidableEq, Repr

structure ExactState where
  lastW : Int32 := 0
  lastH : Int32 := 0
  calls : List ExactCall := []
  deriving DecidableEq, Repr

def ExactState.log (calls : List ExactCall) (state : ExactState) : ExactState := { state with calls := state.calls ++ calls }

def alreadyApplied (size : Size) (state : ExactState) : Bool :=
  size.1.toInt32 == state.lastW && size.2.toInt32 == state.lastH

def changeMode (size : Size) (answers : ExactAnswers) (state : ExactState) : Bool × ExactState :=
  let found := (answers.displaySettings.take 25).any (·.contains size)
  let r := answers.changeDisplaySettings
  let state := state.log [.changeDisplaySettings size r, .logApplied size found r]
  if r = DISP_CHANGE_SUCCESSFUL then (true, { state with lastW := size.1.toInt32, lastH := size.2.toInt32 })
  else (false, state)

def setExact (size : Size) (answers : ExactAnswers) (state : ExactState) : Bool × ExactState :=
  if alreadyApplied size state then (true, state) else
  if !answers.enumDisplayDevices then (false, state) else
  if answers.openAdapter ≠ 0 then (false, state) else
  let priv : SetPreferredMode :=
    { magic := QB_ESCAPE_MAGIC, version := QB_ESCAPE_VERSION, op := QB_ESC_SET_PREFERRED_MODE
      width := size.1, height := size.2 }
  let state := state.log [.escape priv answers.escape answers.statusOut, .closeAdapter]
  if answers.escape ≠ 0 ∨ answers.statusOut ≠ 0 then (false, state) else
  changeMode size answers state

end QubesIdd.Resd
