import QubesIdd.SetExact

/-! `set-res.c`, and the display it shares with `qb-resd.c` and others. It makes the calls of
`SetExact` once, remembers nothing, and goes on after an escape that was refused. -/

namespace QubesIdd.Resd

/-- What `set-res` prints. -/
inductive ResLine where
  | usage
  | enumDisplayDevicesFailed
  | adapter
  | entryPointsMissing
  | openAdapterFailed (st : Int32)
  | escape (st : Int32) (statusOut : UInt32)
  | advertised (size : Size) (found : Bool)
  | changed (size : Size) (result : Int32)
  deriving DecidableEq, Repr

structure ResRun where
  exitCode : Int32
  printed : List ResLine
  calls : List ExactCall := []
  deriving DecidableEq, Repr

/-- `wmain`. The size is what `_wtoi` makes of the two arguments, if there are two. -/
def setRes (arguments : Option Size) (entryPoints : Bool) (answers : ExactAnswers) : ResRun :=
  match arguments with
  | none => { exitCode := 1, printed := [.usage] }
  | some size =>
    if !answers.enumDisplayDevices then { exitCode := 1, printed := [.enumDisplayDevicesFailed] } else
    if !entryPoints then { exitCode := 1, printed := [.adapter, .entryPointsMissing] } else
    if answers.openAdapter ≠ 0 then { exitCode := 1, printed := [.adapter, .openAdapterFailed answers.openAdapter] } else
    let priv : SetPreferredMode :=
      { magic := QB_ESCAPE_MAGIC, version := QB_ESCAPE_VERSION, op := QB_ESC_SET_PREFERRED_MODE
        width := size.1, height := size.2 }
    let found := (answers.displaySettings.take 25).any (·.contains size)
    let r := answers.changeDisplaySettings
    { exitCode := 0
      printed := [.adapter, .escape answers.escape answers.statusOut, .advertised size found, .changed size r]
      calls := [.escape priv answers.escape answers.statusOut, .closeAdapter, .changeDisplaySettings size r] }

/-- `other` is a mode that some other program has set. -/
inductive DisplayEvent where
  | qbResd (size : Size) (answers : ExactAnswers)
  | setRes (arguments : Option Size) (entryPoints : Bool) (answers : ExactAnswers)
  | other (size : Size)
  deriving DecidableEq, Repr

/-- The calls of all programs, and what `qb-resd` remembers. -/
def displayStep (state : ExactState) : DisplayEvent → ExactState
  | .qbResd size answers => (setExact size answers state).2
  | .setRes arguments entryPoints answers => state.log (setRes arguments entryPoints answers).calls
  | .other size => state.log [.changeDisplaySettings size DISP_CHANGE_SUCCESSFUL]

end QubesIdd.Resd
