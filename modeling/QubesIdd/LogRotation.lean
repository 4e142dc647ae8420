import QubesIdd.Library.Rotation

/-! The log files of `CDebug`: `Init` rotates the old ones out and opens a new one, `Write`
appends to it. File 0 is the log, file `i` its backup with `.i` in the name. -/

namespace QubesIdd.CDebug
open Library

abbrev Text := List String

/-- What the system answers to `Init`. A granted move can still fail, for want of a source or
because its target exists. -/
structure InitAnswers where
  isDebuggerPresent : Bool := false
  deleteFile : Bool := true
  moveFile : Nat → Bool := fun _ => true
  opened : Bool := true

/-- `isOpen` is whether `m_stream` of the running process is open. Processes follow one
another, and nothing else touches the files. -/
structure LogStore where
  files : Nat → Option Text := fun _ => none
  isOpen : Bool := false

def BACKUPS : Nat := 4

/-- A process starts with its stream closed. -/
def init (answers : InitAnswers) (store : LogStore) : LogStore :=
  if answers.isDebuggerPresent then { store with isOpen := false } else
  let files := if answers.deleteFile then Function.update store.files BACKUPS none else store.files
  let files := Rotation.shift answers.moveFile BACKUPS files
  if !answers.opened then { files, isOpen := false } else { files := Function.update files 0 (some []), isOpen := true }

/-- A line that cannot be converted for lack of memory leaves another in its place. -/
def write (allocated : Bool) (line : String) (store : LogStore) : LogStore :=
  if !store.isOpen then store else
  let line := if allocated then line else "Out of memory while logging\n"
  { store with files := Function.update store.files 0 ((store.files 0).map (· ++ [line])) }

inductive LogInput where
  | init (answers : InitAnswers)
  | write (allocated : Bool) (line : String)

def LogStore.step (store : LogStore) : LogInput → LogStore
  | .init answers => CDebug.init answers store
  | .write allocated line => CDebug.write allocated line store

end QubesIdd.CDebug
