import QubesIdd.DetailedTiming
import QubesIdd.Library.StableSort

/-! The packed 128-byte base block of `CEdid.cpp` and `CEdid::Build`. The union of
descriptor views is its raw bytes; a list stands for the mode vector and its index,
since the vector never holds more entries than a registry value has characters. -/

namespace QubesIdd.CEdid
open Library.StableSort

def EDID_BLOCK_SIZE : Nat := 128
def EDID_STANDARD_TIMING_COUNT : Nat := 8
def EDID_BASE_DETAILED_TIMING_COUNT : Nat := 3
def EDID_BASE_MONITOR_NAME_DESCRIPTOR_INDEX : Nat := 3

def EDID_HEADER : Vector UInt8 8 := #v[0x00, 0xff, 0xff, 0xff, 0xff, 0xff, 0xff, 0x00]

def EDID_MANUFACTURER_ID_QBS : UInt32 := 0x5344
def EDID_PRODUCT_CODE : UInt32 := 0x1ddd
def EDID_SERIAL_NUMBER : Vector UInt8 4 := #v[0x01, 0x00, 0x00, 0x00]

def EDID_MANUFACTURE_WEEK : UInt8 := 1
def EDID_MANUFACTURE_YEAR_2026 : UInt8 := 36
def EDID_VERSION : UInt8 := 1
def EDID_REVISION : UInt8 := 4

def EDID_VIDEO_INPUT_DIGITAL_10BPC_HDMI_A : UInt8 := 0xb2
def EDID_HORIZONTAL_SIZE_CM : UInt8 := 52
def EDID_VERTICAL_SIZE_CM : UInt8 := 29
def EDID_DISPLAY_GAMMA_2_2 : UInt8 := 0x78
def EDID_FEATURES_PREFERRED_TIMING_RGB : UInt8 := 0x0a

def EDID_STANDARD_TIMING_UNUSED_X : UInt8 := 0x01
def EDID_STANDARD_TIMING_UNUSED_AR_REFRESH : UInt8 := 0x01

def EDID_DESCRIPTOR_MONITOR_NAME : UInt8 := 0xfc

structure EdidStandardTiming where
  horizontalActivePixels : UInt8
  aspectRatioAndRefreshRate : UInt8
  deriving DecidableEq, Repr

structure EdidMonitorNameDescriptor where
  pixelClock : EdidLe16
  reserved0 : UInt8
  descriptorTag : UInt8
  reserved1 : UInt8
  name : Vector UInt8 13
  deriving DecidableEq, Repr

def EdidMonitorNameDescriptor.raw (monitorName : EdidMonitorNameDescriptor) : EdidDescriptor :=
  #v[monitorName.pixelClock.lo, monitorName.pixelClock.hi, monitorName.reserved0,
    monitorName.descriptorTag, monitorName.reserved1] ++ monitorName.name

structure EdidBaseBlock where
  header : Vector UInt8 8
  manufacturerId : EdidLe16
  productCode : EdidLe16
  serialNumber : Vector UInt8 4
  manufactureWeek : UInt8
  manufactureYear : UInt8
  version : UInt8
  revision : UInt8
  videoInputDefinition : UInt8
  horizontalSizeCm : UInt8
  verticalSizeCm : UInt8
  displayGamma : UInt8
  supportedFeatures : UInt8
  chromaticityCoordinates : Vector UInt8 10
  establishedTimings : Vector UInt8 3
  standardTimings : Vector EdidStandardTiming 8
  descriptors : Vector EdidDescriptor 4
  extensionBlockCount : UInt8
  checksum : UInt8

namespace EdidBaseBlock

def zero : EdidBaseBlock where
  header := Vector.replicate 8 0
  manufacturerId := ⟨0, 0⟩
  productCode := ⟨0, 0⟩
  serialNumber := Vector.replicate 4 0
  manufactureWeek := 0
  manufactureYear := 0
  version := 0
  revision := 0
  videoInputDefinition := 0
  horizontalSizeCm := 0
  verticalSizeCm := 0
  displayGamma := 0
  supportedFeatures := 0
  chromaticityCoordinates := Vector.replicate 10 0
  establishedTimings := Vector.replicate 3 0
  standardTimings := Vector.replicate 8 ⟨0, 0⟩
  descriptors := Vector.replicate 4 EdidDescriptor.zero
  extensionBlockCount := 0
  checksum := 0

def leading (base : EdidBaseBlock) : List UInt8 :=
  base.header.toList ++
    [base.manufacturerId.lo, base.manufacturerId.hi, base.productCode.lo, base.productCode.hi] ++
    base.serialNumber.toList ++
    [base.manufactureWeek, base.manufactureYear, base.version, base.revision,
      base.videoInputDefinition, base.horizontalSizeCm, base.verticalSizeCm, base.displayGamma,
      base.supportedFeatures] ++
    base.chromaticityCoordinates.toList ++ base.establishedTimings.toList ++
    base.standardTimings.toList.flatMap fun timing =>
      [timing.horizontalActivePixels, timing.aspectRatioAndRefreshRate]

/-- `reinterpret_cast<BYTE*>(&baseBlock)` on the packed structure. -/
def bytes (base : EdidBaseBlock) : List UInt8 :=
  base.leading ++ (base.descriptors.toList.flatMap Vector.toList ++ [base.extensionBlockCount, base.checksum])

end EdidBaseBlock

def makeUnusedStandardTiming : EdidStandardTiming :=
  ⟨EDID_STANDARD_TIMING_UNUSED_X, EDID_STANDARD_TIMING_UNUSED_AR_REFRESH⟩

def initEdidBaseBlock (base : EdidBaseBlock) : EdidBaseBlock :=
  { base with
    header := EDID_HEADER
    manufacturerId := setLe16 EDID_MANUFACTURER_ID_QBS
    productCode := setLe16 EDID_PRODUCT_CODE
    serialNumber := EDID_SERIAL_NUMBER
    manufactureWeek := EDID_MANUFACTURE_WEEK
    manufactureYear := EDID_MANUFACTURE_YEAR_2026
    version := EDID_VERSION
    revision := EDID_REVISION
    videoInputDefinition := EDID_VIDEO_INPUT_DIGITAL_10BPC_HDMI_A
    horizontalSizeCm := EDID_HORIZONTAL_SIZE_CM
    verticalSizeCm := EDID_VERTICAL_SIZE_CM
    displayGamma := EDID_DISPLAY_GAMMA_2_2
    supportedFeatures := EDID_FEATURES_PREFERRED_TIMING_RGB
    standardTimings := Vector.replicate EDID_STANDARD_TIMING_COUNT makeUnusedStandardTiming
    extensionBlockCount := 0 }

/-- The characters of a C string without its terminator: at most 13 are copied,
a shorter name is closed by a line feed and padded with blanks. -/
def monitorNameText (name : List UInt8) : Vector UInt8 13 :=
  Vector.ofFn fun index =>
    if inside : index.val < name.length then name[index.val]
    else if index.val = name.length then 0x0a else 0x20

def makeMonitorName (name : List UInt8) : EdidMonitorNameDescriptor where
  pixelClock := ⟨0, 0⟩
  reserved0 := 0
  descriptorTag := EDID_DESCRIPTOR_MONITOR_NAME
  reserved1 := 0
  name := monitorNameText name

def QUBES : List UInt8 := [0x51, 0x75, 0x62, 0x65, 0x73]

def setChecksum (block : List UInt8) : List UInt8 :=
  let sum := (block.take (EDID_BLOCK_SIZE - 1)).foldl (fun sum byte => sum + byte) 0
  block.set (EDID_BLOCK_SIZE - 1) (0 - sum)

def less (a b : DisplayMode) : Bool :=
  if a.preferred ≠ b.preferred then a.preferred && !b.preferred
  else if a.width ≠ b.width then a.width > b.width
  else if a.height ≠ b.height then a.height > b.height
  else a.refresh > b.refresh

/-- The selection loop. A slot is written before its mode is known to be accepted;
only then does the slot index advance. -/
def selectTimings : DisplayModes → Nat → Vector EdidDescriptor 4 → Vector EdidDescriptor 4
  | [], _, descriptors => descriptors
  | mode :: rest, baseDtdIndex, descriptors =>
    if baseDtdIndex < EDID_BASE_DETAILED_TIMING_COUNT then
      let (accepted, timing) := makeDetailedTiming mode
      let descriptors := descriptors.setIfInBounds baseDtdIndex timing.raw
      selectTimings rest (if accepted then baseDtdIndex + 1 else baseDtdIndex) descriptors
    else descriptors

/-- `CEdid::Build`: the contents of `m_data` afterwards. -/
def build (modes : DisplayModes) : List UInt8 :=
  let baseBlock := initEdidBaseBlock EdidBaseBlock.zero
  let sorted := stableSort less modes
  let descriptors := selectTimings sorted 0 baseBlock.descriptors
  let descriptors := descriptors.setIfInBounds EDID_BASE_MONITOR_NAME_DESCRIPTOR_INDEX
    (makeMonitorName QUBES).raw
  setChecksum { baseBlock with descriptors }.bytes

end QubesIdd.CEdid
