import QubesIdd.Resd

/-! `qb-resd.c` among the logs it may follow: `NewestLog`, and the steps by which logs are
created, grow and are polled. Nothing is truncated or deleted here. -/

namespace QubesIdd.Resd

/-- A log as `FindNextFileW` lists it, with what is in it. -/
structure LogFile where
  cFileName : String
  ftLastWriteTime : Nat
  content : Bytes := []
  deriving DecidableEq, Repr

def logPath (cFileName : String) : String := "Q:\\Qubes Logs\\" ++ cFileName

def LogFile.path (file : LogFile) : String := logPath file.cFileName

/-- The body of the loop of `NewestLog`, over `best` and `bestName`. -/
def newer (best : Nat × String) (fd : LogFile) : Nat × String :=
  if fd.ftLastWriteTime > best.1 then (fd.ftLastWriteTime, fd.cFileName) else best

/-- `NewestLog` over the matching files in the order of the directory. The first of the
newest wins, and a time of zero never does. -/
def newestLog (files : List LogFile) : Option String :=
  let (_, bestName) := files.foldl newer (0, "")
  if bestName = "" then none else some (logPath bestName)

/-- What one turn of the loop finds, apart from the logs: whether the followed one opens, how
much each `ReadFile` hands over, and the tick counts. What is appended to a log while it is
read counts as appended before, with the time that the directory shows. -/
structure LogTurn where
  opened : Bool := true
  reads : List Nat := [BUFFER_SIZE]
  readTick : UInt32 := 1
  nowTick : UInt32 := 1
  deriving DecidableEq, Repr

/-- A log is created at a place of the directory, written to, or the loop takes a turn. Any
step of a log may leave any time on it. -/
inductive LogEvent where
  | create (place : Nat) (cFileName : String) (time : Nat)
  | append (path : String) (bytes : Bytes) (time : Nat)
  | poll (turn : LogTurn)
  deriving DecidableEq, Repr

structure LogSystem where
  files : List LogFile := []
  reader : State := {}
  deriving DecidableEq, Repr

namespace LogSystem

/-- The answers that the logs give to the turn. -/
def input (system : LogSystem) (turn : LogTurn) : Poll :=
  let newest := newestLog system.files
  let curLog := (followNewest newest system.reader).curLog
  let file := system.files.find? fun file => curLog = some file.path
  let content := (file.map LogFile.content).getD []
  { newest
    opened := turn.opened && file.isSome
    size := content.length
    content
    reads := turn.reads
    readTick := turn.readTick
    nowTick := turn.nowTick }

def step (system : LogSystem) : LogEvent → LogSystem
  | .create place cFileName time =>
    if system.files.any (·.path = logPath cFileName) then system else
    { system with files := system.files.take place ++ ⟨cFileName, time, []⟩ :: system.files.drop place }
  | .append path bytes time =>
    { system with
      files := system.files.map fun file =>
        if file.path = path then { file with ftLastWriteTime := time, content := file.content ++ bytes } else file }
  | .poll turn => { system with reader := poll system.reader (system.input turn) }

end LogSystem
end QubesIdd.Resd
