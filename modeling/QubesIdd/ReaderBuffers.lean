import QubesIdd.Settings

/-! The registry readers of `CSettings.cpp` with their buffers: the data query may write as
many bytes as it is told, and every access checks that it stays inside. -/

namespace QubesIdd.CSettings.Bounded

inductive Fault where
  | query (told allocated : Nat)
  | index (index size : Nat)
  | scan
  deriving DecidableEq, Repr

/-- The call that fills the buffer, and the wide characters in it afterwards. -/
def fill (buf : List UInt8) (told : Nat) (data : List UInt8) : Except Fault WString :=
  if told ≤ buf.length then .ok (ofBytes (overwrite buf data)) else .error (.query told buf.length)

def write (buf : WString) (index : Nat) (c : WChar) : Except Fault WString :=
  if index < buf.length then .ok (buf.set index c) else .error (.index index buf.length)

/-- The string that starts where the buffer does. Every character up to the terminator is
looked at. -/
def cString : WString → Except Fault WString
  | [] => .error .scan
  | c :: rest => if c ≠ 0 then (cString rest).map (c :: ·) else .ok []

/-- The walk of `ReadModesValue`, with the characters of the current string seen so far. -/
def splitStrings (current : WString) : WString → Except Fault (List WString)
  | [] => .error .scan
  | c :: rest =>
    if c ≠ 0 then splitStrings (current ++ [c]) rest
    else if current.isEmpty then .ok [] else (splitStrings [] rest).map (current :: ·)

def readStringValue (api : RegApi) (name : ValueName) (defaultValue : WString) : Except Fault WString :=
  if !api.regOpenKeyExW then .ok defaultValue else
  let size := api.regQueryValueExW name none
  if !size.success || !isText size.type || size.cb == 0 || size.cb % 2 != 0 then .ok defaultValue else
  let buf := List.replicate (2 * (size.cb / 2 + 1)) (0 : UInt8)
  let reply := api.regQueryValueExW name (some size.cb)
  fill buf size.cb reply.data >>= fun buf =>
  if !reply.success || !isText reply.type || reply.cb == 0 || reply.cb % 2 != 0 || reply.cb > size.cb then
    .ok defaultValue
  else write buf (reply.cb / 2) 0 >>= cString

def readModesValue (api : RegApi) : Except Fault (Bool × List WString) :=
  if !api.regOpenKeyExW then .ok (false, []) else
  let size := api.regGetMultiSz .Modes none
  if !size.success || size.cb == 0 then .ok (false, []) else
  let buf := List.replicate (2 * (size.cb / 2)) (0 : UInt8)
  let reply := api.regGetMultiSz .Modes (some size.cb)
  fill buf size.cb reply.data >>= fun buf =>
  if !reply.success then .ok (false, []) else
  (splitStrings [] buf).map fun out => (!out.isEmpty, out)

end QubesIdd.CSettings.Bounded
