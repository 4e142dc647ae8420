import Mathlib.Data.List.Basic
import QubesIdd.Registry

/-! `CSettings.cpp`: the registry readers, the mode parser and the assembly of the
mode list. A reader that fills a caller's variable returns the variable's value
also when it fails. -/

namespace QubesIdd

/-- `CSettings::DisplayMode`: the unsigned fields are the 32-bit integers of the
Windows ABI. -/
structure DisplayMode where
  width : UInt32
  height : UInt32
  refresh : UInt32
  preferred : Bool
  deriving DecidableEq, Repr, Inhabited

abbrev DisplayModes := List DisplayMode

namespace DisplayMode

def size (mode : DisplayMode) : UInt32 × UInt32 × UInt32 := (mode.width, mode.height, mode.refresh)

/-- The bounds of the sanity check in `ParseModeString`. -/
structure InRange (mode : DisplayMode) : Prop where
  width : 640 ≤ mode.width.toNat ∧ mode.width.toNat ≤ 16384
  height : 480 ≤ mode.height.toNat ∧ mode.height.toNat ≤ 16384
  refresh : 30 ≤ mode.refresh.toNat ∧ mode.refresh.toNat ≤ 1000

end DisplayMode

namespace CSettings

def DefaultDisplayModes : List (UInt32 × UInt32) :=
  [(7680, 4800), (7680, 4320), (6016, 3384), (5760, 3600),
   (5760, 3240), (5120, 2800), (4096, 2560), (4096, 2304),
   (3840, 2400), (3840, 2160), (3200, 2400), (3200, 1800),
   (3008, 1692), (2880, 1800), (2880, 1620), (2560, 1600),
   (2560, 1440), (1920, 1440), (1920, 1200), (1920, 1080),
   (1600, 1200), (1600, 1024), (1600, 1050), (1600, 900),
   (1440, 900), (1400, 1050), (1366, 768), (1360, 768),
   (1280, 1024), (1280, 960), (1280, 800), (1280, 768),
   (1280, 720), (1280, 600), (1152, 864), (1024, 768),
   (800, 600), (640, 480)]

def DefaultPreferredDisplayMode : Nat := 19

/-- The converted value replaces `v` only on success. -/
def toUnsigned (t : WString) (v : UInt32) : Bool × UInt32 :=
  if t.isEmpty then (false, v) else
  let (tmp, rest) := wcstoul t
  if rest.headD 0 ≠ 0 then (false, v) else (true, tmp)

def insane (mode : DisplayMode) : Prop :=
  mode.width < 640 ∨ mode.height < 480 ∨ mode.width > 16384 ∨ mode.height > 16384 ∨
    mode.refresh < 30 ∨ mode.refresh > 1000

instance (mode : DisplayMode) : Decidable (insane mode) := by unfold insane; infer_instance

/-- The conversions and the check behind the position guards. A conversion that
fails leaves the fields before it assigned. -/
def parseFields (s : WString) (xPos atPos : Nat) (out : DisplayMode) : Bool × DisplayMode :=
  let (converted, width) := toUnsigned (substr s 0 xPos) out.width
  let out := { out with width }
  if !converted then (false, out) else
  let (converted, height) := toUnsigned (substr s (xPos + 1) (atPos - (xPos + 1))) out.height
  let out := { out with height }
  if !converted then (false, out) else
  let (converted, refresh) := toUnsigned (s.drop (atPos + 1)) out.refresh
  let out := { out with refresh }
  if !converted then (false, out) else
  if insane out then (false, out) else (true, out)

/-- `out` keeps what a failed parse had already assigned. -/
def parseModeString (input : WString) (out : DisplayMode) : Bool × DisplayMode :=
  let s := trim input
  if s.isEmpty then (false, out) else
  let out := { out with preferred := s.getLast? == some (wchar '*') }
  let s := if out.preferred then trim s.dropLast else s
  let xPos := find s (wchar 'x') 0
  let atPos := find s (wchar '@') ((xPos.map (· + 1)).getD 0)
  match xPos, atPos with
  | some xPos, some atPos =>
    if xPos = 0 ∨ atPos ≤ xPos + 1 ∨ atPos + 1 ≥ s.length then (false, out)
    else parseFields s xPos atPos out
  | _, _ => (false, out)

def overwrite (buffer data : List UInt8) : List UInt8 := data ++ buffer.drop data.length

def isText (type : RegType) : Bool := type == .REG_SZ || type == .REG_EXPAND_SZ

def readStringValue (api : RegApi) (name : ValueName) (defaultValue : WString) : WString :=
  if !api.regOpenKeyExW then defaultValue else
  let size := api.regQueryValueExW name none
  if !size.success || !isText size.type || size.cb == 0 || size.cb % 2 != 0 then defaultValue else
  let buf := List.replicate (2 * (size.cb / 2 + 1)) (0 : UInt8)
  let reply := api.regQueryValueExW name (some size.cb)
  let buf := ofBytes (overwrite buf reply.data)
  if !reply.success || !isText reply.type || reply.cb == 0 || reply.cb % 2 != 0 || reply.cb > size.cb then
    defaultValue
  else cString (buf.set (reply.cb / 2) 0)

/-- `GetExtraMode`: the mode is left alone when there is no text to parse. -/
def getExtraMode (api : RegApi) (mode : DisplayMode) : Bool × DisplayMode :=
  let extraMode := readStringValue api .ExtraMode []
  if extraMode.isEmpty then (false, mode) else parseModeString extraMode mode

def getDefaultRefresh (api : RegApi) : UInt32 :=
  match (if api.regOpenKeyExW then api.regGetDword .DefaultRefresh else none) with
  | none => 60
  | some refresh => if refresh < 30 ∨ refresh > 1000 then 60 else refresh

/-- The pointer walk over NUL-terminated strings up to the first empty one, with
the characters of the current string seen so far. -/
def splitStrings (current : WString) : WString → List WString
  | [] => []
  | c :: rest =>
    if c ≠ 0 then splitStrings (current ++ [c]) rest
    else if current.isEmpty then [] else current :: splitStrings [] rest

def readModesValue (api : RegApi) : Bool × List WString :=
  if !api.regOpenKeyExW then (false, []) else
  let size := api.regGetMultiSz .Modes none
  if !size.success || size.cb == 0 then (false, []) else
  let buf := List.replicate (2 * (size.cb / 2)) (0 : UInt8)
  let reply := api.regGetMultiSz .Modes (some size.cb)
  if !reply.success then (false, []) else
  let out := splitStrings [] (ofBytes (overwrite buf reply.data))
  (!out.isEmpty, out)

def defaultModes (defaultRefresh : UInt32) (hasPreferred : Bool) : DisplayModes :=
  DefaultDisplayModes.zipIdx.map fun ((width, height), i) =>
    { width, height, refresh := defaultRefresh, preferred := !hasPreferred && i == DefaultPreferredDisplayMode }

/-- The loop over the registry strings. One scratch mode serves every line. -/
def parseEntries (hasPreferred : Bool) (m : DisplayMode) : List WString → DisplayModes
  | [] => []
  | line :: rest =>
    let (parsed, m) := parseModeString line m
    if parsed then
      let m := if hasPreferred then { m with preferred := false } else m
      m :: parseEntries hasPreferred m rest
    else parseEntries hasPreferred m rest

/-- `LoadModes`: the new list, given what the uninitialised scratch mode held. -/
def loadModes (api : RegApi) (m : DisplayMode) : DisplayModes :=
  let defaultRefresh := getDefaultRefresh api
  let (found, m) := getExtraMode api m
  let displayModes := if found then [m] else []
  let hasPreferred := found && m.preferred
  match readModesValue api with
  | (false, _) => displayModes ++ defaultModes defaultRefresh hasPreferred
  | (true, entries) => displayModes ++ parseEntries hasPreferred m entries

def formatMode (mode : DisplayMode) : WString :=
  formatUnsigned mode.width ++ [wchar 'x'] ++ formatUnsigned mode.height ++ [wchar '@'] ++
    formatUnsigned mode.refresh ++ if mode.preferred then [wchar '*'] else []

/-- How `RegCreateKeyExW` and `RegSetValueExW` ended. -/
structure WriteOutcome where
  created : Bool
  stored : Bool
  deriving DecidableEq, Repr

/-- `SetExtraMode`. Creating the key brings it into existence; the result of the
write itself is not looked at. -/
def setExtraMode (mode : DisplayMode) (outcome : WriteOutcome) (reg : Registry) : Registry :=
  let buf := (formatMode mode).take 63
  if !outcome.created then reg else
  let key := reg.key.getD {}
  if outcome.stored then
    { reg with key := some { key with extraMode := some ⟨.REG_SZ, toBytes (buf ++ [0])⟩ } }
  else { reg with key := some key }

end CSettings
end QubesIdd
