import WiznetEaas.NorFlash
import WiznetEaas.ByteMemory

/-!
# Flash areas and the routines of flash_control.c

Offsets are measured from the start of the flash window, as the pico SDK takes
them; pointers into the window are absolute addresses. Each routine issues the
sector erases and page programs of its `flash_range_erase` and
`flash_range_program` calls in order. A program whose offset is not a multiple
of the page size is outside the SDK's contract and keeps its arbitrary effect.

Page and sector counts are the code's 16-bit variables. The size of the driver
library's network record and of an enumeration are not fixed by the repository;
they stay parameters, and with them every offset inside the stored record.
-/

namespace WiznetEaas.FlashControl

open NorFlash ByteMemory

@[simp] abbrev userFlashPageSize : Nat := 256
@[simp] abbrev userFlashSectorSize : Nat := 4096

@[simp] abbrev configAreaSize : Nat := 0x40000
@[simp] abbrev bootLoaderSize : Nat := 0x40000
@[simp] abbrev applicationSize : Nat := 0x80000

abbrev flashStartAddr : Nat := 0x10000000
abbrev flashBootStartAddr : Nat := flashStartAddr
abbrev flashAppStartAddr : Nat := flashBootStartAddr + bootLoaderSize
abbrev flashFactoryFwStartAddr : Nat := flashAppStartAddr + applicationSize
abbrev flashTempFwStartAddr : Nat := flashFactoryFwStartAddr + applicationSize
abbrev flashCommonConfigStartAddr : Nat := flashTempFwStartAddr + applicationSize
abbrev flashClaimCertInfoStartAddr : Nat := flashCommonConfigStartAddr + 0x2000
abbrev flashProvionedCertInfoStartAddr : Nat := flashClaimCertInfoStartAddr + 0x1000
abbrev flashProvionedOwnershipStartAddr : Nat := flashProvionedCertInfoStartAddr + 0x1000
abbrev flashProvionedCertIdStartAddr : Nat := flashProvionedOwnershipStartAddr + 0x0200

@[simp] theorem app_offset : flashAppStartAddr - flashStartAddr = 0x40000 := by decide
@[simp] theorem factory_offset : flashFactoryFwStartAddr - flashStartAddr = 0xC0000 := by decide
@[simp] theorem ota_offset : flashTempFwStartAddr - flashStartAddr = 0x140000 := by decide
@[simp] theorem config_offset : flashCommonConfigStartAddr - flashStartAddr = 0x1C0000 := by decide

@[simp]
theorem certInfo_offset : flashProvionedCertInfoStartAddr - flashStartAddr = 0x1C3000 := by decide

@[simp]
theorem ownership_offset : flashProvionedOwnershipStartAddr - flashStartAddr = 0x1C4000 := by
  decide

@[simp] theorem certId_offset : flashProvionedCertIdStartAddr - flashStartAddr = 0x1C4200 := by decide

/-- Programming can only clear bits, and an erased byte has them all set. -/
def flashMedium : Medium UInt8 where
  erased := 0xFF
  merge before new := before &&& new
  merge_erased := by
    intro new
    have allSet : (0xFF : UInt8) = -1 := by decide
    rw [allSet, UInt8.neg_one_and]

/-- The on-board flash, up to what it does with a misaligned program. -/
def picoFlash (misaligned : Misalignment UInt8 userFlashPageSize) : FlashPart UInt8 where
  medium := flashMedium
  pageSize := userFlashPageSize
  sectorSize := userFlashSectorSize
  misaligned := misaligned

section PicoFlash
variable (misaligned : Misalignment UInt8 userFlashPageSize)

/-- Consecutive sector erases at this part's sizes. -/
theorem pico_eraseSectors (offset count : Nat) (before : Contents UInt8) (address : Nat) :
    (picoFlash misaligned).applyAll ((picoFlash misaligned).eraseSectors offset count) before
        address =
      if offset ≤ address ∧ address < offset + count * 4096 then 0xFF else before address :=
  eraseSectors_apply (picoFlash misaligned) offset count before address

/-- Consecutive programs of erased pages at this part's sizes. -/
theorem pico_programPages (offset : Nat) (data : Pointer) (count : Nat)
    (aligned : offset % 256 = 0) (before : Contents UInt8)
    (blank : ∀ address, offset ≤ address → address < offset + count * 256 →
      before address = 0xFF) (address : Nat) :
    (picoFlash misaligned).applyAll ((picoFlash misaligned).programPages offset data count) before
        address =
      if offset ≤ address ∧ address < offset + count * 256 then data (address - offset)
      else before address :=
  programPages_erased (picoFlash misaligned) offset data count aligned before blank address

/-- Every prefix of an in-place replacement at this part's sizes. -/
theorem pico_replace_take (offset sectors : Nat) (data : Pointer) (pages issued : Nat)
    (aligned : offset % 256 = 0) (covered : pages * 256 ≤ sectors * 4096)
    (before : Contents UInt8) (address : Nat) :
    (picoFlash misaligned).applyAll
        (((picoFlash misaligned).replace offset sectors data pages).take issued) before address =
      if issued ≤ sectors then
        if offset ≤ address ∧ address < offset + issued * 4096 then 0xFF else before address
      else if offset ≤ address ∧ address < offset + min (issued - sectors) pages * 256 then
        data (address - offset)
      else if offset ≤ address ∧ address < offset + sectors * 4096 then 0xFF
      else before address :=
  replace_take (picoFlash misaligned) offset sectors data pages issued aligned covered before address

end PicoFlash

/-- The flash window read through an absolute address. -/
def flashPointer (contents : Contents UInt8) (address : Nat) : Pointer := fun position =>
  contents (address - flashStartAddr + position)

/-- Sizes the build takes from outside the repository. Enumerations occupy one
byte under the bare-metal ABI and four otherwise. -/
structure Abi where
  sizeofWizNetInfo : Nat
  sizeofEnum : Nat
  netInfo_bound : sizeofWizNetInfo ≤ 64
  enum_size : sizeofEnum = 1 ∨ sizeofEnum = 4

namespace Abi
variable (abi : Abi)

/-- `DEVICE_INFO_t`: the network record, four 64-byte names, the end point and
the ownership token. -/
def sizeofDeviceInfo : Nat := abi.sizeofWizNetInfo + 64 + 64 + 64 + 128 + 64 + 512

/-- `DEVICE_OTA_INFO` begins at the next multiple of four. -/
def otaInfoOffset : Nat := (abi.sizeofDeviceInfo + 3) / 4 * 4

def startFirmwareOtaStatusOffset : Nat := abi.otaInfoOffset
def firmwareSizeOffset : Nat := abi.otaInfoOffset + 4
def firmwareCrcOffset : Nat := abi.otaInfoOffset + 8

/-- The seven flags follow `AWS_IOT_JOBS_STATUS`; `enableReboot` is the last. -/
def enableRebootOffset : Nat := abi.otaInfoOffset + 12 + abi.sizeofEnum + 6

def sizeofAppCommon : Nat := (abi.enableRebootOffset + 1 + 3) / 4 * 4

/-- The whole record lies in the first sector of the configuration area. -/
theorem sizeofAppCommon_bound : abi.sizeofAppCommon ≤ 1024 := by
  have bound := abi.netInfo_bound
  have width := abi.enum_size
  simp only [sizeofAppCommon, enableRebootOffset, otaInfoOffset, sizeofDeviceInfo]
  omega

/-- The update fields lie inside the record. -/
theorem otaInfo_inside : abi.otaInfoOffset + 12 ≤ abi.sizeofAppCommon := by
  simp only [sizeofAppCommon, enableRebootOffset]
  omega

end Abi

@[simp] abbrev startFwOtaDisable : Nat := 0
@[simp] abbrev startFwOtaEnable : Nat := 1

/-- `START_FIRMWARE_OTA_STATUS` of the record at a pointer. -/
def startFirmwareOtaStatus (abi : Abi) (pAppCommon : Pointer) : Nat :=
  loadField pAppCommon abi.startFirmwareOtaStatusOffset abi.sizeofEnum

def firmwareSize (abi : Abi) (pAppCommon : Pointer) : Nat :=
  loadField pAppCommon abi.firmwareSizeOffset 4

def firmwareCrc (abi : Abi) (pAppCommon : Pointer) : Nat :=
  loadField pAppCommon abi.firmwareCrcOffset 2

def enableReboot (abi : Abi) (pAppCommon : Pointer) : Bool :=
  loadField pAppCommon abi.enableRebootOffset 1 != 0

def setStartFirmwareOtaStatus (abi : Abi) (pAppCommon : Pointer) (status : Nat) : Pointer :=
  storeField pAppCommon abi.startFirmwareOtaStatusOffset abi.sizeofEnum status

def setFirmwareSize (abi : Abi) (pAppCommon : Pointer) (size : Nat) : Pointer :=
  storeField pAppCommon abi.firmwareSizeOffset 4 size

def setFirmwareCrc (abi : Abi) (pAppCommon : Pointer) (crc : Nat) : Pointer :=
  storeField pAppCommon abi.firmwareCrcOffset 2 crc

def setEnableReboot (abi : Abi) (pAppCommon : Pointer) (enabled : Bool) : Pointer :=
  storeField pAppCommon abi.enableRebootOffset 1 enabled.toNat

/-- `sizeof(AWS_FP_DEVICE_CERT_INFO_t)`: certificate, private key, token, id. -/
@[simp] abbrev sizeofAwsFpDeviceCertInfo : Nat := 2048 + 2048 + 512 + 256

/-- The sector count of `erase_flash`, in its 16-bit variable. -/
def eraseSectorCount (dataSize : Nat) : Nat :=
  u16 (u16 (dataSize / userFlashSectorSize) +
    if dataSize % userFlashSectorSize > 0 then 1 else 0)

/-- The page count of `write_flash` and of the area copies, likewise 16-bit. -/
def writePageCount (dataSize : Nat) : Nat :=
  u16 (u16 (dataSize / userFlashPageSize) + if dataSize % userFlashPageSize > 0 then 1 else 0)

variable (misaligned : Misalignment UInt8 userFlashPageSize)

def eraseFlash (offset dataSize : Nat) : Routine UInt8 := fun _ =>
  (picoFlash misaligned).eraseSectors offset (eraseSectorCount dataSize)

/-- The source is read for the page-rounded length, whatever follows the data. -/
def writeFlash (offset : Nat) (pData : Pointer) (dataSize : Nat) : Routine UInt8 := fun _ =>
  (picoFlash misaligned).programPages offset pData (writePageCount dataSize)

def eraseFlashProvisionedCertInfo : Routine UInt8 :=
  eraseFlash misaligned (flashProvionedCertInfoStartAddr - flashStartAddr) sizeofAwsFpDeviceCertInfo

def eraseFlashCommonConfigInfo (abi : Abi) : Routine UInt8 :=
  eraseFlash misaligned (flashCommonConfigStartAddr - flashStartAddr) abi.sizeofAppCommon

def eraseFlashTotalConfigArea : Routine UInt8 :=
  eraseFlash misaligned (flashCommonConfigStartAddr - flashStartAddr) configAreaSize

def eraseFlashTotalAppArea : Routine UInt8 :=
  eraseFlash misaligned (flashAppStartAddr - flashStartAddr) applicationSize

def eraseFlashTotalFactoryArea : Routine UInt8 :=
  eraseFlash misaligned (flashFactoryFwStartAddr - flashStartAddr) applicationSize

def eraseFlashTotalOtaArea : Routine UInt8 :=
  eraseFlash misaligned (flashTempFwStartAddr - flashStartAddr) applicationSize

def saveFlashProvisionedCertInfo (pFpCertInfo : Pointer) : Routine UInt8 :=
  (picoFlash misaligned).andThen (eraseFlashProvisionedCertInfo misaligned)
    (writeFlash misaligned (flashProvionedCertInfoStartAddr - flashStartAddr) pFpCertInfo
      sizeofAwsFpDeviceCertInfo)

def saveFlashCommonConfigInfo (abi : Abi) (pAppCommonInfo : Pointer) : Routine UInt8 :=
  (picoFlash misaligned).andThen (eraseFlashCommonConfigInfo misaligned abi)
    (writeFlash misaligned (flashCommonConfigStartAddr - flashStartAddr) pAppCommonInfo
      abi.sizeofAppCommon)

/-- The offset is a 32-bit sum of the area's offset and the caller's. -/
def writeFlashOtaBinary (flashOffset : Nat) (pBinary : Pointer) (dataSize : Nat) : Routine UInt8 :=
  writeFlash misaligned (u32 (flashTempFwStartAddr - flashStartAddr + flashOffset)) pBinary dataSize

def loadFlashProvisionedCertInfo (contents : Contents UInt8) (pFpCertInfo : Pointer) : Pointer :=
  copyBytes pFpCertInfo (flashPointer contents flashProvionedCertInfoStartAddr)
    sizeofAwsFpDeviceCertInfo

def loadFlashCertificateOwnershipToken (contents : Contents UInt8) (pData : Pointer) (size : Nat) :
    Pointer :=
  copyBytes pData (flashPointer contents flashProvionedOwnershipStartAddr) size

def loadFlashCertificateCertId (contents : Contents UInt8) (pData : Pointer) (size : Nat) :
    Pointer :=
  copyBytes pData (flashPointer contents flashProvionedCertIdStartAddr) size

def loadFlashCommonConfigInfo (abi : Abi) (contents : Contents UInt8) (pAppCommonInfo : Pointer) :
    Pointer :=
  copyBytes pAppCommonInfo (flashPointer contents flashCommonConfigStartAddr) abi.sizeofAppCommon

/-- The copying loop of the three area copies: page `i` of the source is read
into `tempBuffer` and programmed at the running target offset. The source is
read again in every pass, from the contents the earlier passes left. -/
def copyPages (source : Nat) : Nat → Nat → Nat → Routine UInt8
  | 0, _, _, _ => []
  | remaining + 1, i, target, contents =>
    let tempBuffer : Pointer := fun position =>
      flashPointer contents source (i * userFlashPageSize + position)
    let operation := Operation.programPage target tempBuffer
    operation :: copyPages source remaining (i + 1) (target + userFlashPageSize)
      ((picoFlash misaligned).apply operation contents)

def copyOtaAreaDataToAppArea (dataSize : Nat) : Routine UInt8 :=
  (picoFlash misaligned).andThen (eraseFlashTotalAppArea misaligned)
    (copyPages misaligned flashTempFwStartAddr (writePageCount dataSize) 0
      (flashAppStartAddr - flashStartAddr))

def copyFactoryAreaDataToAppArea (dataSize : Nat) : Routine UInt8 :=
  (picoFlash misaligned).andThen (eraseFlashTotalAppArea misaligned)
    (copyPages misaligned flashFactoryFwStartAddr (writePageCount dataSize) 0
      (flashAppStartAddr - flashStartAddr))

def copyAppAreaDataToFactoryArea (dataSize : Nat) : Routine UInt8 :=
  (picoFlash misaligned).andThen (eraseFlashTotalFactoryArea misaligned)
    (copyPages misaligned flashAppStartAddr (writePageCount dataSize) 0
      (flashFactoryFwStartAddr - flashStartAddr))

end WiznetEaas.FlashControl
