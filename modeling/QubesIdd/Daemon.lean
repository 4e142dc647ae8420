import QubesIdd.ResdLogs
import QubesIdd.ResdTimeline
import QubesIdd.SetExact

/-! `wmain` of `qb-resd.c` whole: the logs that are written beside it, the turns of its loop
against an unbounded clock, and what its calls of `SetExact` do to driver and display. -/

namespace QubesIdd.Resd

/-- One turn of the loop: the milliseconds from the last look at the pause to reading and from
there to the next look, what becomes of the followed log, and what the system answers if
`SetExact` is called. -/
structure DaemonTurn where
  slept : Nat := 100
  reading : Nat := 0
  opened : Bool := true
  reads : List Nat := [BUFFER_SIZE]
  answers : ExactAnswers := {}
  deriving DecidableEq, Repr

inductive DaemonEvent where
  | create (place : Nat) (cFileName : String) (written : Nat)
  | append (path : String) (bytes : Bytes) (written : Nat)
  | turn (turn : DaemonTurn)
  deriving DecidableEq, Repr

/-- `time` is when the pause was last looked at. -/
structure Daemon where
  logs : LogSystem := {}
  exact : ExactState := {}
  time : Nat
  deriving DecidableEq, Repr

namespace Daemon

def start (time : Nat) : Daemon := { time }

/-- When a turn reads. -/
def readTime (daemon : Daemon) (turn : DaemonTurn) : Nat := daemon.time + turn.slept

/-- When it looks at the pause. -/
def nowTime (daemon : Daemon) (turn : DaemonTurn) : Nat := daemon.readTime turn + turn.reading

def logTurn (daemon : Daemon) (turn : DaemonTurn) : LogTurn :=
  { opened := turn.opened
    reads := turn.reads
    readTick := getTickCount (daemon.readTime turn)
    nowTick := getTickCount (daemon.nowTime turn) }

/-- The body of the loop. The result of `SetExact` is not looked at. -/
def loop (daemon : Daemon) (turn : DaemonTurn) : Daemon :=
  let input := daemon.logs.input (daemon.logTurn turn)
  let reader := readLog input (followNewest input.newest daemon.logs.reader)
  let due := reader.pendTick ≠ 0 ∧ input.nowTick - reader.pendTick > 400
  { logs := { daemon.logs with reader := debounce input.nowTick reader }
    exact := if due then (setExact (reader.pendW, reader.pendH) turn.answers daemon.exact).2 else daemon.exact
    time := daemon.nowTime turn }

def step (daemon : Daemon) : DaemonEvent → Daemon
  | .create place cFileName written => { daemon with logs := daemon.logs.step (.create place cFileName written) }
  | .append path bytes written => { daemon with logs := daemon.logs.step (.append path bytes written) }
  | .turn turn => daemon.loop turn

end Daemon
end QubesIdd.Resd
