import QubesIdd.Settings

/-! The mode enumeration callbacks of `CIndirectDeviceContext.cpp`. Each counts the
list and, when the caller's buffer has room, fills its first entries in place. A
list length stands for the `UINT` count: a list holds at most as many modes as one
registry value has characters. -/

namespace QubesIdd

inductive NTSTATUS where
  | STATUS_SUCCESS
  | STATUS_BUFFER_TOO_SMALL
  | STATUS_INVALID_PARAMETER
  deriving DecidableEq, Repr

/-- `DISPLAYCONFIG_VIDEO_SIGNAL_INFO`; frequencies are numerator and denominator. -/
structure VideoSignalInfo where
  pixelRate : UInt64
  hSyncFreq : UInt32 × UInt32
  vSyncFreq : UInt32 × UInt32
  activeSize : UInt32 × UInt32
  totalSize : UInt32 × UInt32
  videoStandard : UInt32
  vSyncFreqDivider : UInt32
  progressive : Bool
  deriving DecidableEq, Repr

def fillSignalInfo (width height vsync : UInt32) (monitorMode : Bool) : VideoSignalInfo where
  totalSize := (width, height)
  activeSize := (width, height)
  vSyncFreqDivider := if monitorMode then 0 else 1
  videoStandard := 255
  vSyncFreq := (vsync, 1)
  hSyncFreq := (vsync * height, 1)
  progressive := true
  pixelRate := vsync.toUInt64 * width.toUInt64 * height.toUInt64

inductive BitsPerComponent where
  | IDDCX_BITS_PER_COMPONENT_8
  | IDDCX_BITS_PER_COMPONENT_10
  deriving DecidableEq, Repr

/-- `IDDCX_WIRE_BITS_PER_COMPONENT`: the flags set in each field. -/
structure WireBitsPerComponent where
  rgb : List BitsPerComponent
  yCbCr444 : List BitsPerComponent
  yCbCr422 : List BitsPerComponent
  yCbCr420 : List BitsPerComponent
  deriving DecidableEq, Repr

def getWireBitsPerComponent (hdr : Bool) : WireBitsPerComponent where
  rgb := if hdr then [.IDDCX_BITS_PER_COMPONENT_8, .IDDCX_BITS_PER_COMPONENT_10] else [.IDDCX_BITS_PER_COMPONENT_8]
  yCbCr444 := []
  yCbCr422 := []
  yCbCr420 := []

inductive EntryType where
  | IDDCX_MONITOR_MODE
  | IDDCX_MONITOR_MODE2
  | IDDCX_TARGET_MODE
  | IDDCX_TARGET_MODE2
  deriving DecidableEq, Repr

inductive Origin where
  | IDDCX_MONITOR_MODE_ORIGIN_UNINITIALIZED
  | IDDCX_MONITOR_MODE_ORIGIN_MONITORDESCRIPTOR
  | IDDCX_MONITOR_MODE_ORIGIN_DRIVER
  deriving DecidableEq, Repr

/-- One buffer entry of any of the four mode structures; a field a structure does
not have stays as the caller left it. A cleared entry has every field empty. -/
structure ModeEntry where
  size : Option EntryType := none
  origin : Origin := .IDDCX_MONITOR_MODE_ORIGIN_UNINITIALIZED
  signalInfo : Option VideoSignalInfo := none
  requiredBandwidth : UInt64 := 0
  bitsPerComponent : Option WireBitsPerComponent := none
  deriving DecidableEq, Repr

structure ModeReport where
  status : NTSTATUS
  outputCount : Nat
  preferredIdx : Nat
  buffer : List ModeEntry
  deriving DecidableEq, Repr

/-- The loop over the modes with the entry pointer beside it. The preferred index
is assigned anew at every marked mode. -/
def fillModes (fill : DisplayMode → ModeEntry → ModeEntry) : DisplayModes → Nat → ModeReport → ModeReport
  | [], _, report => report
  | mode :: rest, index, report =>
    fillModes fill rest (index + 1)
      { report with
        buffer := report.buffer.modify index (fill mode)
        preferredIdx := if mode.preferred then index else report.preferredIdx }

/-- A buffer is null or has as many entries as its input count says. -/
def inputCount (buffer : Option (List ModeEntry)) : Nat := (buffer.getD []).length

/-- The body the callbacks share. Only the target side ignores `preferredIdx`. -/
def reportModes (fill : DisplayMode → ModeEntry → ModeEntry) (modes : DisplayModes)
    (buffer : Option (List ModeEntry)) : ModeReport :=
  let report : ModeReport := ⟨.STATUS_SUCCESS, modes.length, 0, buffer.getD []⟩
  if inputCount buffer < modes.length then
    { report with status := if inputCount buffer > 0 then .STATUS_BUFFER_TOO_SMALL else .STATUS_SUCCESS }
  else fillModes fill modes 0 report

def parseMonitorDescription : DisplayModes → Option (List ModeEntry) → ModeReport :=
  reportModes fun mode entry =>
    { entry with
      size := some .IDDCX_MONITOR_MODE
      origin := .IDDCX_MONITOR_MODE_ORIGIN_MONITORDESCRIPTOR
      signalInfo := some (fillSignalInfo mode.width mode.height mode.refresh true) }

def monitorGetDefaultModes : DisplayModes → Option (List ModeEntry) → ModeReport :=
  reportModes fun mode entry =>
    { entry with
      size := some .IDDCX_MONITOR_MODE
      origin := .IDDCX_MONITOR_MODE_ORIGIN_DRIVER
      signalInfo := some (fillSignalInfo mode.width mode.height mode.refresh true) }

def monitorQueryTargetModes : DisplayModes → Option (List ModeEntry) → ModeReport :=
  reportModes fun mode entry =>
    { entry with
      size := some .IDDCX_TARGET_MODE
      signalInfo := some (fillSignalInfo mode.width mode.height mode.refresh false) }

def parseMonitorDescription2 (canUseIddCx110DDIs : Bool) : DisplayModes → Option (List ModeEntry) → ModeReport :=
  reportModes fun mode _ =>
    { size := some .IDDCX_MONITOR_MODE2
      origin := .IDDCX_MONITOR_MODE_ORIGIN_MONITORDESCRIPTOR
      signalInfo := some (fillSignalInfo mode.width mode.height mode.refresh true)
      bitsPerComponent := some (getWireBitsPerComponent canUseIddCx110DDIs) }

/-- The one callback that answers a short buffer with success and looks at the
pointer itself. -/
def monitorQueryTargetModes2 (canUseIddCx110DDIs : Bool) (modes : DisplayModes)
    (buffer : Option (List ModeEntry)) : ModeReport :=
  let report : ModeReport := ⟨.STATUS_SUCCESS, modes.length, 0, buffer.getD []⟩
  if inputCount buffer < modes.length then report
  else if buffer.isNone then { report with status := .STATUS_INVALID_PARAMETER }
  else fillModes (fun mode _ =>
    { size := some .IDDCX_TARGET_MODE2
      signalInfo := some (fillSignalInfo mode.width mode.height mode.refresh false)
      bitsPerComponent := some (getWireBitsPerComponent canUseIddCx110DDIs) }) modes 0 report

/-- The entries `UpdateMonitorModes` hands over, in either branch: a freshly
cleared array of the list's length, filled in order. -/
def updateEntries (canUseIddCx110DDIs : Bool) (modes : DisplayModes) : List ModeEntry :=
  modes.map fun mode =>
    { size := some (if canUseIddCx110DDIs then .IDDCX_TARGET_MODE2 else .IDDCX_TARGET_MODE)
      requiredBandwidth := mode.width.toUInt64 * mode.height.toUInt64 * mode.refresh.toUInt64 * 32
      signalInfo := some (fillSignalInfo mode.width mode.height mode.refresh false)
      bitsPerComponent := if canUseIddCx110DDIs then some (getWireBitsPerComponent canUseIddCx110DDIs) else none }

/-- The last marked mode, or the first mode when none is marked. -/
def preferredIndex (modes : DisplayModes) : Nat :=
  ((modes.zipIdx.filter fun entry => entry.1.preferred).getLast?.map Prod.snd).getD 0

section
variable (fill : DisplayMode → ModeEntry → ModeEntry)

theorem fillModes_preferred (modes : DisplayModes) (index : Nat) (report : ModeReport) :
    (fillModes fill modes index report).preferredIdx =
      (((modes.zipIdx index).filter fun entry => entry.1.preferred).getLast?.map Prod.snd).getD report.preferredIdx := by
  induction modes generalizing index report with
  | nil => rfl
  | cons mode rest ih =>
    rw [fillModes, ih]
    cases marked : mode.preferred <;>
      cases behind : (rest.zipIdx (index + 1)).filter (fun entry => entry.1.preferred) <;>
        simp [marked, behind, List.getLast?_cons]

theorem reportModes_preferred (modes : DisplayModes) (buffer : Option (List ModeEntry)) :
    (reportModes fill modes buffer).preferredIdx =
      if inputCount buffer < modes.length then 0 else preferredIndex modes := by
  unfold reportModes
  dsimp only
  split
  · rfl
  · exact fillModes_preferred fill modes 0 _

end

theorem getElem?_preferredIndex (modes : DisplayModes) :
    modes[preferredIndex modes]? = ((modes.filter DisplayMode.preferred).getLast?).or modes.head? := by
  have marked : modes.filter DisplayMode.preferred =
      (modes.zipIdx.filter fun entry => entry.1.preferred).map Prod.fst := by
    conv => lhs; rw [← List.zipIdx_map_fst 0 modes, List.filter_map]
    rfl
  rw [marked, List.getLast?_map, preferredIndex]
  cases last : (modes.zipIdx.filter fun entry => entry.1.preferred).getLast? with
  | none => simp [List.head?_eq_getElem?]
  | some entry =>
    have member := (List.mem_filter.mp (List.mem_of_getLast? last)).1
    simpa using List.mem_zipIdx_iff_getElem?.mp member

end QubesIdd
