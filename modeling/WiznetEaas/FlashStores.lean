import WiznetEaas.FlashAreas
import WiznetEaas.FleetProvisioning
import WiznetEaas.Runs
import Mathlib.Logic.Function.Basic

/-!
# The flash areas as independent stores

Each area is a store of its own: an operation replaces the stores it works on and
leaves every other one. Erases are rounded to sectors and programs to pages, so that
the flash behaves like this depends on the addresses of flash_control.h. The refinement
is proved for one operation and carried along a run.
-/

namespace WiznetEaas.FlashStores

open NorFlash ByteMemory FlashControl FlashRecords FlashAreas Runs
open FleetProvisioning (deviceCertOwnershipTokenOffset deviceCertIdOffset
  maxFpCertOwnershipTokenSize maxFpCertIdSize)

/-- The areas that the routines write or load. -/
inductive Area where
  | app
  | factory
  | ota
  | commonConfig
  | provisionedCert
  deriving DecidableEq

def Area.startAddr : Area → Nat
  | .app => flashAppStartAddr
  | .factory => flashFactoryFwStartAddr
  | .ota => flashTempFwStartAddr
  | .commonConfig => flashCommonConfigStartAddr
  | .provisionedCert => flashProvionedCertInfoStartAddr

/-- A firmware area holds an application, a configuration area holds its record. -/
def Area.size (abi : Abi) : Area → Nat
  | .app => applicationSize
  | .factory => applicationSize
  | .ota => applicationSize
  | .commonConfig => abi.sizeofAppCommon
  | .provisionedCert => sizeofAwsFpDeviceCertInfo

/-- The operations of flash_control.c that write. -/
inductive FlashOperation where
  | eraseProvisionedCertInfo
  | eraseCommonConfigInfo
  | eraseTotalConfigArea
  | eraseTotalAppArea
  | eraseTotalFactoryArea
  | eraseTotalOtaArea
  | saveProvisionedCertInfo (pFpCertInfo : Pointer)
  | saveCommonConfigInfo (pAppCommonInfo : Pointer)
  | writeOtaBinary (flashOffset : Nat) (pBinary : Pointer) (dataSize : Nat)
  | copyOtaAreaDataToAppArea (dataSize : Nat)
  | copyFactoryAreaDataToAppArea (dataSize : Nat)
  | copyAppAreaDataToFactoryArea (dataSize : Nat)

/-- Bytes of the pages that a program of the given length takes. -/
def pageRounded (dataSize : Nat) : Nat := (dataSize + 255) / 256 * 256

namespace FlashOperation

def routine (misaligned : Misalignment UInt8 userFlashPageSize) (abi : Abi) :
    FlashOperation → Routine UInt8
  | eraseProvisionedCertInfo => eraseFlashProvisionedCertInfo misaligned
  | eraseCommonConfigInfo => eraseFlashCommonConfigInfo misaligned abi
  | eraseTotalConfigArea => eraseFlashTotalConfigArea misaligned
  | eraseTotalAppArea => eraseFlashTotalAppArea misaligned
  | eraseTotalFactoryArea => eraseFlashTotalFactoryArea misaligned
  | eraseTotalOtaArea => eraseFlashTotalOtaArea misaligned
  | saveProvisionedCertInfo pFpCertInfo => saveFlashProvisionedCertInfo misaligned pFpCertInfo
  | saveCommonConfigInfo pAppCommonInfo => saveFlashCommonConfigInfo misaligned abi pAppCommonInfo
  | writeOtaBinary flashOffset pBinary dataSize =>
      writeFlashOtaBinary misaligned flashOffset pBinary dataSize
  | copyOtaAreaDataToAppArea dataSize =>
      FlashControl.copyOtaAreaDataToAppArea misaligned dataSize
  | copyFactoryAreaDataToAppArea dataSize =>
      FlashControl.copyFactoryAreaDataToAppArea misaligned dataSize
  | copyAppAreaDataToFactoryArea dataSize =>
      FlashControl.copyAppAreaDataToFactoryArea misaligned dataSize

/-- A write to the OTA area starts at a page and stays inside the area after rounding; a
copy is no longer than an area. -/
def Allowed : FlashOperation → Prop
  | writeOtaBinary flashOffset _ dataSize =>
      flashOffset % userFlashPageSize = 0 ∧ flashOffset + pageRounded dataSize ≤ applicationSize
  | copyOtaAreaDataToAppArea dataSize => dataSize ≤ applicationSize
  | copyFactoryAreaDataToAppArea dataSize => dataSize ≤ applicationSize
  | copyAppAreaDataToFactoryArea dataSize => dataSize ≤ applicationSize
  | _ => True

/-- The areas an operation works on. -/
def areas : FlashOperation → List Area
  | eraseProvisionedCertInfo => [.provisionedCert]
  | eraseCommonConfigInfo => [.commonConfig]
  | eraseTotalConfigArea => [.commonConfig, .provisionedCert]
  | eraseTotalAppArea => [.app]
  | eraseTotalFactoryArea => [.factory]
  | eraseTotalOtaArea => [.ota]
  | saveProvisionedCertInfo _ => [.provisionedCert]
  | saveCommonConfigInfo _ => [.commonConfig]
  | writeOtaBinary _ _ _ => [.ota]
  | copyOtaAreaDataToAppArea _ => [.app]
  | copyFactoryAreaDataToAppArea _ => [.app]
  | copyAppAreaDataToFactoryArea _ => [.factory]

/-- The sectors an operation may change: the first offset and the offset behind them. -/
def sectors : FlashOperation → Nat × Nat
  | eraseProvisionedCertInfo => (0x1C3000, 0x1C5000)
  | eraseCommonConfigInfo => (0x1C0000, 0x1C1000)
  | eraseTotalConfigArea => (0x1C0000, 0x200000)
  | eraseTotalAppArea => (0x40000, 0xC0000)
  | eraseTotalFactoryArea => (0xC0000, 0x140000)
  | eraseTotalOtaArea => (0x140000, 0x1C0000)
  | saveProvisionedCertInfo _ => (0x1C3000, 0x1C5000)
  | saveCommonConfigInfo _ => (0x1C0000, 0x1C1000)
  | writeOtaBinary _ _ _ => (0x140000, 0x1C0000)
  | copyOtaAreaDataToAppArea _ => (0x40000, 0xC0000)
  | copyFactoryAreaDataToAppArea _ => (0x40000, 0xC0000)
  | copyAppAreaDataToFactoryArea _ => (0xC0000, 0x140000)

/-- A range erased. -/
def erasedRange (contents : Contents UInt8) (first behind : Nat) : Contents UInt8 := fun address =>
  if first ≤ address ∧ address < behind then 0xFF else contents address

/-- Sectors rewritten: new bytes first, and blank behind them. -/
def rewrittenRange (contents : Contents UInt8) (first length behind : Nat) (new : Pointer) :
    Contents UInt8 := fun address =>
  if first ≤ address ∧ address < first + length then new (address - first)
  else erasedRange contents first behind address

/-- The bytes an operation leaves. -/
def effect (abi : Abi) (contents : Contents UInt8) : FlashOperation → Contents UInt8
  | eraseProvisionedCertInfo => erasedRange contents 0x1C3000 0x1C5000
  | eraseCommonConfigInfo => erasedRange contents 0x1C0000 0x1C1000
  | eraseTotalConfigArea => erasedRange contents 0x1C0000 0x200000
  | eraseTotalAppArea => erasedRange contents 0x40000 0xC0000
  | eraseTotalFactoryArea => erasedRange contents 0xC0000 0x140000
  | eraseTotalOtaArea => erasedRange contents 0x140000 0x1C0000
  | saveProvisionedCertInfo pFpCertInfo =>
      rewrittenRange contents 0x1C3000 (19 * 256) 0x1C5000 pFpCertInfo
  | saveCommonConfigInfo pAppCommonInfo =>
      rewrittenRange contents 0x1C0000 (writePageCount abi.sizeofAppCommon * 256) 0x1C1000
        pAppCommonInfo
  | writeOtaBinary flashOffset pBinary dataSize => fun address =>
      if 0x140000 + flashOffset ≤ address ∧
          address < 0x140000 + flashOffset + pageRounded dataSize then
        contents address &&& pBinary (address - (0x140000 + flashOffset))
      else contents address
  | copyOtaAreaDataToAppArea dataSize =>
      rewrittenRange contents 0x40000 (pageRounded dataSize) 0xC0000 fun position =>
        contents (0x140000 + position)
  | copyFactoryAreaDataToAppArea dataSize =>
      rewrittenRange contents 0x40000 (pageRounded dataSize) 0xC0000 fun position =>
        contents (0xC0000 + position)
  | copyAppAreaDataToFactoryArea dataSize =>
      rewrittenRange contents 0xC0000 (pageRounded dataSize) 0x140000 fun position =>
        contents (0x40000 + position)

end FlashOperation

/-- The value of each store. -/
abbrev Stores := Area → Pointer

/-- What an erase leaves in a store. -/
def blank : Pointer := fun _ => 0xFF

/-- The leading pages of another store, and blank behind them. -/
def copied (source : Pointer) (dataSize : Nat) : Pointer := fun position =>
  if position < pageRounded dataSize then source position else 0xFF

/-- Programming can only clear bits of the store. -/
def programmed (before : Pointer) (offset : Nat) (pData : Pointer) (dataSize : Nat) : Pointer :=
  fun position =>
    if offset ≤ position ∧ position < offset + pageRounded dataSize then
      before position &&& pData (position - offset)
    else before position

/-- What each operation means for the stores. -/
def storeStep (stores : Stores) : FlashOperation → Stores
  | .eraseProvisionedCertInfo => Function.update stores .provisionedCert blank
  | .eraseCommonConfigInfo => Function.update stores .commonConfig blank
  | .eraseTotalConfigArea =>
      Function.update (Function.update stores .commonConfig blank) .provisionedCert blank
  | .eraseTotalAppArea => Function.update stores .app blank
  | .eraseTotalFactoryArea => Function.update stores .factory blank
  | .eraseTotalOtaArea => Function.update stores .ota blank
  | .saveProvisionedCertInfo pFpCertInfo => Function.update stores .provisionedCert pFpCertInfo
  | .saveCommonConfigInfo pAppCommonInfo => Function.update stores .commonConfig pAppCommonInfo
  | .writeOtaBinary flashOffset pBinary dataSize =>
      Function.update stores .ota (programmed (stores .ota) flashOffset pBinary dataSize)
  | .copyOtaAreaDataToAppArea dataSize =>
      Function.update stores .app (copied (stores .ota) dataSize)
  | .copyFactoryAreaDataToAppArea dataSize =>
      Function.update stores .app (copied (stores .factory) dataSize)
  | .copyAppAreaDataToFactoryArea dataSize =>
      Function.update stores .factory (copied (stores .app) dataSize)

variable (misaligned : Misalignment UInt8 userFlashPageSize) (abi : Abi)

/-- What each operation does to the flash. -/
def step (contents : Contents UInt8) (operation : FlashOperation) : Contents UInt8 :=
  (picoFlash misaligned).run (operation.routine misaligned abi) contents

/-- An area as its bytes stand in the flash. -/
def Area.view (contents : Contents UInt8) (area : Area) : Pointer :=
  flashPointer contents area.startAddr

/-- The flash offset of an area. -/
def Area.offset (area : Area) : Nat := area.startAddr - flashStartAddr

/-- The offsets that the addresses of flash_control.h amount to. -/
theorem Area.offset_exact (area : Area) :
    area.offset = match area with
      | .app => 0x40000
      | .factory => 0xC0000
      | .ota => 0x140000
      | .commonConfig => 0x1C0000
      | .provisionedCert => 0x1C3000 := by
  cases area <;> rfl

/-- Every store holds what its area shows. -/
def Represents (contents : Contents UInt8) (stores : Stores) : Prop :=
  ∀ area : Area, SameObject (area.size abi) (area.view contents) (stores area)

/-- The loads of flash_control.c. -/
inductive Load where
  | provisionedCertInfo
  | certificateOwnershipToken (size : Nat)
  | certificateCertId (size : Nat)
  | commonConfigInfo

namespace Load

/-- The bytes at the destination of a load after it. -/
def routine (contents : Contents UInt8) (ram : Pointer) : Load → Pointer
  | provisionedCertInfo => loadFlashProvisionedCertInfo contents ram
  | certificateOwnershipToken size => loadFlashCertificateOwnershipToken contents ram size
  | certificateCertId size => loadFlashCertificateCertId contents ram size
  | commonConfigInfo => loadFlashCommonConfigInfo abi contents ram

/-- The size that the caller of a field's load gives is that of the field, or less. -/
def Fits : Load → Prop
  | certificateOwnershipToken size => size ≤ maxFpCertOwnershipTokenSize
  | certificateCertId size => size ≤ maxFpCertIdSize
  | _ => True

def area : Load → Area
  | commonConfigInfo => .commonConfig
  | _ => .provisionedCert

/-- Where the loaded field stands in its record. -/
def field : Load → Nat
  | certificateOwnershipToken _ => deviceCertOwnershipTokenOffset
  | certificateCertId _ => deviceCertIdOffset
  | _ => 0

def size : Load → Nat
  | provisionedCertInfo => sizeofAwsFpDeviceCertInfo
  | certificateOwnershipToken size => size
  | certificateCertId size => size
  | commonConfigInfo => abi.sizeofAppCommon

end Load

/-- A flash routine that erases a range of whole sectors. -/
theorem erase_apply (offset dataSize : Nat) (small : dataSize ≤ 0x1000000)
    (contents : Contents UInt8) (address : Nat) :
    (picoFlash misaligned).run (eraseFlash misaligned offset dataSize) contents address =
      if offset ≤ address ∧ address < offset + (dataSize + 4095) / 4096 * 4096 then 0xFF
      else contents address := by
  have erased := pico_eraseSectors misaligned offset (eraseSectorCount dataSize) contents address
  rw [eraseSectorCount_exact dataSize small] at erased
  simpa only [FlashPart.run, eraseFlash, eraseSectorCount_exact dataSize small] using erased

/-- A saved record stands at the start of its sectors, and the rest of them is blank. -/
theorem save_apply (offset sectors : Nat) (record : Pointer) (pages : Nat)
    (aligned : offset % 256 = 0) (positive : 0 < pages) (covered : pages * 256 ≤ sectors * 4096)
    (contents : Contents UInt8) (address : Nat) :
    (picoFlash misaligned).applyAll ((picoFlash misaligned).replace offset sectors record pages)
        contents address =
      if offset ≤ address ∧ address < offset + pages * 256 then record (address - offset)
      else if offset ≤ address ∧ address < offset + sectors * 4096 then 0xFF
      else contents address := by
  have taken := pico_replace_take misaligned offset sectors record pages (sectors + pages) aligned
    covered contents address
  have whole : ((picoFlash misaligned).replace offset sectors record pages).take (sectors + pages) =
      (picoFlash misaligned).replace offset sectors record pages := by
    apply List.take_of_length_le
    simp [FlashPart.replace]
  have complete : ¬ sectors + pages ≤ sectors := by omega
  rw [whole, if_neg complete, Nat.add_sub_cancel_left, Nat.min_self] at taken
  exact taken

/-- Pages written to the OTA area clear bits of the bytes that stood there. -/
theorem write_ota_apply (flashOffset : Nat) (pBinary : Pointer) (dataSize : Nat)
    (allowed : (FlashOperation.writeOtaBinary flashOffset pBinary dataSize).Allowed)
    (contents : Contents UInt8) (address : Nat) :
    (picoFlash misaligned).run (writeFlashOtaBinary misaligned flashOffset pBinary dataSize) contents
        address =
      if 0x140000 + flashOffset ≤ address ∧
          address < 0x140000 + flashOffset + pageRounded dataSize then
        contents address &&& pBinary (address - (0x140000 + flashOffset))
      else contents address := by
  obtain ⟨aligned, inside⟩ := allowed
  simp only [userFlashPageSize, applicationSize, pageRounded] at aligned inside
  have offset : u32 (flashTempFwStartAddr - flashStartAddr + flashOffset) =
      0x140000 + flashOffset := by
    rw [ota_offset]
    exact u32_of_lt _ (by omega)
  have pages : writePageCount dataSize = (dataSize + 255) / 256 :=
    writePageCount_exact dataSize (by omega)
  have boundary : (0x140000 + flashOffset) % (picoFlash misaligned).pageSize = 0 := by
    change (0x140000 + flashOffset) % 256 = 0
    omega
  have written := programPages_apply (picoFlash misaligned) (0x140000 + flashOffset) pBinary
    ((dataSize + 255) / 256) boundary contents address
  simp only [FlashPart.run, writeFlashOtaBinary, writeFlash, offset, pages, pageRounded]
  exact written

/-- The configuration record takes one sector and at least one page. -/
theorem config_pages : 0 < writePageCount abi.sizeofAppCommon ∧
    abi.sizeofAppCommon ≤ writePageCount abi.sizeofAppCommon * 256 ∧
      writePageCount abi.sizeofAppCommon * 256 ≤ 1 * 4096 := by
  have bound := abi.sizeofAppCommon_bound
  have fields := abi.otaInfo_inside
  rw [writePageCount_exact _ (by omega)]
  omega

/-- The factory area read through its start address. -/
theorem factory_pointer (contents : Contents UInt8) (position : Nat) :
    flashPointer contents flashFactoryFwStartAddr position = contents (0xC0000 + position) := by
  simp only [flashPointer, factory_offset]

/-- The app area read through its start address. -/
theorem app_pointer (contents : Contents UInt8) (position : Nat) :
    flashPointer contents flashAppStartAddr position = contents (0x40000 + position) := by
  simp only [flashPointer, app_offset]

theorem erasedRange_outside (contents : Contents UInt8) (first behind address : Nat)
    (outside : ¬ (first ≤ address ∧ address < behind)) :
    FlashOperation.erasedRange contents first behind address = contents address := by
  simp only [FlashOperation.erasedRange, if_neg outside]

theorem rewrittenRange_outside (contents : Contents UInt8) (first length behind : Nat)
    (new : Pointer) (address : Nat) (covered : first + length ≤ behind)
    (outside : ¬ (first ≤ address ∧ address < behind)) :
    FlashOperation.rewrittenRange contents first length behind new address = contents address := by
  have unwritten : ¬ (first ≤ address ∧ address < first + length) := by omega
  simp only [FlashOperation.rewrittenRange, if_neg unwritten, erasedRange_outside _ _ _ _ outside]

/-- What each operation does to every byte of the flash. -/
theorem step_apply (contents : Contents UInt8) (operation : FlashOperation)
    (allowed : operation.Allowed) (address : Nat) :
    step misaligned abi contents operation address = operation.effect abi contents address := by
  cases operation with
  | eraseProvisionedCertInfo => exact erase_apply misaligned 0x1C3000 _ (by decide) _ _
  | eraseCommonConfigInfo =>
    have bound := abi.sizeofAppCommon_bound
    have fields := abi.otaInfo_inside
    have sector : (abi.sizeofAppCommon + 4095) / 4096 = 1 := by omega
    have erased := erase_apply misaligned 0x1C0000 abi.sizeofAppCommon (by omega) contents address
    rw [sector] at erased
    exact erased
  | eraseTotalConfigArea => exact erase_apply misaligned 0x1C0000 _ (by decide) _ _
  | eraseTotalAppArea => exact erase_apply misaligned 0x40000 _ (by decide) _ _
  | eraseTotalFactoryArea => exact erase_apply misaligned 0xC0000 _ (by decide) _ _
  | eraseTotalOtaArea => exact erase_apply misaligned 0x140000 _ (by decide) _ _
  | saveProvisionedCertInfo pFpCertInfo =>
    have saved := save_apply misaligned 0x1C3000 2 pFpCertInfo 19 rfl (by decide) (by decide)
      contents address
    simp only [step, FlashOperation.routine, FlashPart.run, save_cert_replaces]
    exact saved
  | saveCommonConfigInfo pAppCommonInfo =>
    obtain ⟨positive, _, covered⟩ := config_pages abi
    have saved := save_apply misaligned 0x1C0000 1 pAppCommonInfo _ rfl positive covered contents
      address
    simp only [step, FlashOperation.routine, FlashPart.run, save_config_replaces]
    exact saved
  | writeOtaBinary flashOffset pBinary dataSize =>
    exact write_ota_apply misaligned flashOffset pBinary dataSize allowed contents address
  | copyOtaAreaDataToAppArea dataSize =>
    exact copy_area_apply misaligned _ 0x140000 0x40000 dataSize contents allowed ota_pointer rfl
      (by omega) address
  | copyFactoryAreaDataToAppArea dataSize =>
    exact copy_area_apply misaligned _ 0xC0000 0x40000 dataSize contents allowed factory_pointer rfl
      (by omega) address
  | copyAppAreaDataToFactoryArea dataSize =>
    exact copy_area_apply misaligned _ 0x40000 0xC0000 dataSize contents allowed app_pointer rfl
      (by omega) address

/-- A copy of at most an area's size ends inside the area. -/
theorem pageRounded_behind (start dataSize : Nat) (fits : dataSize ≤ applicationSize) :
    start + pageRounded dataSize ≤ start + 0x80000 := by
  have bound : dataSize ≤ 0x80000 := fits
  simp only [pageRounded]
  omega

/-- Outside the sectors of the operation nothing changes. -/
theorem effect_frame (contents : Contents UInt8) (operation : FlashOperation)
    (allowed : operation.Allowed) (address : Nat)
    (outside : ¬ (operation.sectors.1 ≤ address ∧ address < operation.sectors.2)) :
    operation.effect abi contents address = contents address := by
  obtain ⟨positive, _, covered⟩ := config_pages abi
  cases operation with
  | eraseProvisionedCertInfo | eraseCommonConfigInfo | eraseTotalConfigArea | eraseTotalAppArea
  | eraseTotalFactoryArea | eraseTotalOtaArea => exact erasedRange_outside _ _ _ _ outside
  | saveProvisionedCertInfo pFpCertInfo =>
    exact rewrittenRange_outside _ _ _ _ _ _ (by decide) outside
  | saveCommonConfigInfo pAppCommonInfo =>
    exact rewrittenRange_outside _ _ _ _ _ _ (by omega) outside
  | writeOtaBinary flashOffset pBinary dataSize =>
    obtain ⟨_, inside⟩ := allowed
    simp only [applicationSize] at inside
    simp only [FlashOperation.sectors] at outside
    have unwritten : ¬ (0x140000 + flashOffset ≤ address ∧
        address < 0x140000 + flashOffset + pageRounded dataSize) := by omega
    simp only [FlashOperation.effect, if_neg unwritten]
  | copyOtaAreaDataToAppArea dataSize | copyFactoryAreaDataToAppArea dataSize =>
    simp only [FlashOperation.effect, FlashOperation.sectors] at outside ⊢
    rw [rewrittenRange_outside _ _ _ _ _ _ (pageRounded_behind 0x40000 dataSize allowed) outside]
  | copyAppAreaDataToFactoryArea dataSize =>
    simp only [FlashOperation.effect, FlashOperation.sectors] at outside ⊢
    rw [rewrittenRange_outside _ _ _ _ _ _ (pageRounded_behind 0xC0000 dataSize allowed) outside]

/-- The sectors of an operation meet no area it does not work on. -/
theorem sectors_apart (operation : FlashOperation) (area : Area) (other : area ∉ operation.areas)
    (position : Nat) (inside : position < area.size abi) :
    ¬ (operation.sectors.1 ≤ area.offset + position ∧
      area.offset + position < operation.sectors.2) := by
  have bound := abi.sizeofAppCommon_bound
  have place := area.offset_exact
  generalize area.offset = offset at place ⊢
  cases operation <;> cases area <;>
    first
    | (simp only [Area.size, applicationSize, sizeofAwsFpDeviceCertInfo, FlashOperation.sectors]
        at inside place ⊢
       omega)
    | simp [FlashOperation.areas] at other

/-- An operation leaves every area it does not work on. -/
theorem step_other (contents : Contents UInt8) (operation : FlashOperation)
    (allowed : operation.Allowed) (area : Area) (other : area ∉ operation.areas) :
    SameObject (area.size abi) (area.view (step misaligned abi contents operation))
      (area.view contents) := by
  intro position inside
  have outside := sectors_apart abi operation area other position inside
  exact (step_apply misaligned abi contents operation allowed _).trans
    (effect_frame abi contents operation allowed _ outside)

/-- The stores of other areas keep their value. -/
theorem storeStep_other (stores : Stores) (operation : FlashOperation) (area : Area)
    (other : area ∉ operation.areas) : storeStep stores operation area = stores area := by
  cases operation <;> cases area <;>
    first | rfl | simp [FlashOperation.areas] at other

theorem erasedRange_inside (contents : Contents UInt8) (first behind position : Nat)
    (inside : first + position < behind) :
    FlashOperation.erasedRange contents first behind (first + position) = 0xFF :=
  if_pos ⟨Nat.le_add_right first position, inside⟩

theorem rewrittenRange_inside (contents : Contents UInt8) (first length behind : Nat)
    (new : Pointer) (position : Nat) (inside : first + position < behind) :
    FlashOperation.rewrittenRange contents first length behind new (first + position) =
      if position < length then new position else 0xFF := by
  by_cases written : position < length
  · have range : first ≤ first + position ∧ first + position < first + length := by omega
    rw [FlashOperation.rewrittenRange, if_pos range, if_pos written, Nat.add_sub_cancel_left]
  · have unwritten : ¬ (first ≤ first + position ∧ first + position < first + length) := by omega
    rw [FlashOperation.rewrittenRange, if_neg unwritten, if_neg written,
      erasedRange_inside _ _ _ _ inside]

/-- Written firmware clears the same bits of the OTA area and of its store. -/
theorem write_ota_store (contents : Contents UInt8) (stores : Stores)
    (represented : Represents abi contents stores) (flashOffset : Nat) (pBinary : Pointer)
    (dataSize position : Nat) (inside : position < applicationSize) :
    (FlashOperation.writeOtaBinary flashOffset pBinary dataSize).effect abi contents
        (0x140000 + position) =
      programmed (stores .ota) flashOffset pBinary dataSize position := by
  have before : contents (0x140000 + position) = stores .ota position := represented .ota position inside
  by_cases written : flashOffset ≤ position ∧ position < flashOffset + pageRounded dataSize
  · have range : 0x140000 + flashOffset ≤ 0x140000 + position ∧
        0x140000 + position < 0x140000 + flashOffset + pageRounded dataSize := by omega
    simp only [FlashOperation.effect, programmed]
    rw [if_pos range, if_pos written, before, Nat.add_sub_add_left]
  · have range : ¬ (0x140000 + flashOffset ≤ 0x140000 + position ∧
        0x140000 + position < 0x140000 + flashOffset + pageRounded dataSize) := by omega
    simp only [FlashOperation.effect, programmed]
    rw [if_neg range, if_neg written, before]

/-- A copied area and its store take the same pages of the source. -/
theorem copy_store (contents : Contents UInt8) (stores : Stores)
    (represented : Represents abi contents stores) (source : Area) (start target : Nat)
    (size : source.size abi = applicationSize) (place : source.offset = start)
    (dataSize position : Nat) (inside : position < applicationSize) :
    FlashOperation.rewrittenRange contents target (pageRounded dataSize) (target + 0x80000)
        (fun position => contents (start + position)) (target + position) =
      copied (stores source) dataSize position := by
  have bound : position < 0x80000 := inside
  rw [rewrittenRange_inside _ _ _ _ _ _ (by omega), copied]
  by_cases written : position < pageRounded dataSize
  · rw [if_pos written, if_pos written, ← place]
    exact represented source position (size ▸ inside)
  · rw [if_neg written, if_neg written]

/-- The areas an operation works on show the new values of their stores. -/
theorem step_own (contents : Contents UInt8) (stores : Stores)
    (represented : Represents abi contents stores) (operation : FlashOperation)
    (allowed : operation.Allowed) (area : Area) (own : area ∈ operation.areas) (position : Nat)
    (inside : position < area.size abi) :
    operation.effect abi contents (area.offset + position) =
      storeStep stores operation area position := by
  obtain ⟨_, whole, _⟩ := config_pages abi
  have bound := abi.sizeofAppCommon_bound
  cases operation with
  | eraseProvisionedCertInfo =>
    obtain rfl := List.mem_singleton.mp own
    have record : position < 4864 := inside
    exact erasedRange_inside _ _ _ _ (by omega)
  | eraseCommonConfigInfo =>
    obtain rfl := List.mem_singleton.mp own
    have record : position < abi.sizeofAppCommon := inside
    exact erasedRange_inside _ _ _ _ (by omega)
  | eraseTotalConfigArea =>
    simp only [FlashOperation.areas, List.mem_cons, List.not_mem_nil, or_false] at own
    rcases own with rfl | rfl
    · have record : position < abi.sizeofAppCommon := inside
      exact erasedRange_inside _ _ _ _ (by omega)
    · have record : position < 4864 := inside
      have range : 0x1C0000 ≤ 0x1C3000 + position ∧ 0x1C3000 + position < 0x200000 := by omega
      exact if_pos range
  | eraseTotalAppArea | eraseTotalFactoryArea | eraseTotalOtaArea =>
    obtain rfl := List.mem_singleton.mp own
    have area : position < 0x80000 := inside
    exact erasedRange_inside _ _ _ _ (by omega)
  | saveProvisionedCertInfo pFpCertInfo =>
    obtain rfl := List.mem_singleton.mp own
    have record : position < 19 * 256 := inside
    exact (rewrittenRange_inside _ _ _ _ _ _ (by omega)).trans (if_pos record)
  | saveCommonConfigInfo pAppCommonInfo =>
    obtain rfl := List.mem_singleton.mp own
    have record : position < abi.sizeofAppCommon := inside
    exact (rewrittenRange_inside _ _ _ _ _ _ (by omega)).trans (if_pos (by omega))
  | writeOtaBinary flashOffset pBinary dataSize =>
    obtain rfl := List.mem_singleton.mp own
    exact write_ota_store abi contents stores represented flashOffset pBinary dataSize position inside
  | copyOtaAreaDataToAppArea dataSize =>
    obtain rfl := List.mem_singleton.mp own
    exact copy_store abi contents stores represented .ota 0x140000 0x40000 rfl rfl dataSize
      position inside
  | copyFactoryAreaDataToAppArea dataSize =>
    obtain rfl := List.mem_singleton.mp own
    exact copy_store abi contents stores represented .factory 0xC0000 0x40000 rfl rfl dataSize
      position inside
  | copyAppAreaDataToFactoryArea dataSize =>
    obtain rfl := List.mem_singleton.mp own
    exact copy_store abi contents stores represented .app 0x40000 0xC0000 rfl rfl dataSize
      position inside

/-- One operation on the flash is the operation on the stores. -/
theorem step_represents (contents : Contents UInt8) (stores : Stores)
    (represented : Represents abi contents stores) (operation : FlashOperation)
    (allowed : operation.Allowed) :
    Represents abi (step misaligned abi contents operation) (storeStep stores operation) := by
  intro area position inside
  by_cases own : area ∈ operation.areas
  · exact (step_apply misaligned abi contents operation allowed _).trans
      (step_own abi contents stores represented operation allowed area own position inside)
  · rw [storeStep_other stores operation area own]
    exact (step_other misaligned abi contents operation allowed area own position inside).trans
      (represented area position inside)

/-- A sequence of operations on the flash is the sequence on the stores. -/
theorem execute_represents (contents : Contents UInt8) (stores : Stores)
    (represented : Represents abi contents stores) (operations : List FlashOperation)
    (every : ∀ operation ∈ operations, operation.Allowed) :
    Represents abi (execute (step misaligned abi) contents operations)
      (execute storeStep stores operations) := by
  induction operations generalizing contents stores with
  | nil => exact represented
  | cons operation rest inductionHypothesis =>
    obtain ⟨allowed, later⟩ := List.forall_mem_cons.mp every
    exact inductionHypothesis (step misaligned abi contents operation) (storeStep stores operation)
      (step_represents misaligned abi contents stores represented operation allowed) later

/-- A load reads its field of its area and nothing else. -/
theorem load_byte (load : Load) (fits : load.Fits) (contents : Contents UInt8) (ram : Pointer)
    (position : Nat) (inside : position < load.size abi) :
    load.routine abi contents ram position = load.area.view contents (load.field + position) ∧
      load.field + position < load.area.size abi := by
  cases load with
  | provisionedCertInfo | commonConfigInfo =>
    refine ⟨?_, ?_⟩
    · simp only [Load.field, Nat.zero_add]
      exact copyBytes_same _ _ _ position inside
    · simp only [Load.field, Nat.zero_add]
      exact inside
  | certificateOwnershipToken size =>
    have bound : size ≤ 512 := fits
    have short : position < size := inside
    refine ⟨?_, ?_⟩
    · refine (copyBytes_same _ _ _ position inside).trans ?_
      simp only [Load.area, Load.field, Area.view, Area.startAddr, flashPointer, ownership_offset,
        certInfo_offset, deviceCertOwnershipTokenOffset, ← Nat.add_assoc, Nat.reduceAdd]
    · have place : 0x1000 + position < 4864 := by omega
      exact place
  | certificateCertId size =>
    have bound : size ≤ 256 := fits
    have short : position < size := inside
    refine ⟨?_, ?_⟩
    · refine (copyBytes_same _ _ _ position inside).trans ?_
      simp only [Load.area, Load.field, Area.view, Area.startAddr, flashPointer, certId_offset,
        certInfo_offset, deviceCertIdOffset, ← Nat.add_assoc, Nat.reduceAdd]
    · have place : 0x1200 + position < 4864 := by omega
      exact place

/-- A load depends only on the bytes of its area. -/
theorem load_same (load : Load) (fits : load.Fits) (before after : Contents UInt8) (ram : Pointer)
    (same : SameObject (load.area.size abi) (load.area.view after) (load.area.view before)) :
    SameObject (load.size abi) (load.routine abi after ram) (load.routine abi before ram) := by
  intro position inside
  obtain ⟨read, place⟩ := load_byte abi load fits after ram position inside
  rw [read, (load_byte abi load fits before ram position inside).1]
  exact same _ place

/-- The stores as they are found in the flash. -/
def storesOf (contents : Contents UInt8) : Stores := fun area => area.view contents

/-- After every allowed sequence of operations each load returns its field of the record
that its store holds, and on the way no operation changes what a load of an area it does
not work on returns. -/
theorem areas_independent (contents : Contents UInt8) (operations : List FlashOperation)
    (every : ∀ operation ∈ operations, operation.Allowed) (ram : Pointer) :
    (∀ load : Load, load.Fits →
      SameObject (load.size abi)
        (load.routine abi (execute (step misaligned abi) contents operations) ram)
        (fun position =>
          execute storeStep (storesOf contents) operations load.area (load.field + position))) ∧
    ∀ earlier operation later, operations = earlier ++ operation :: later →
      ∀ load : Load, load.Fits → load.area ∉ operation.areas →
        SameObject (load.size abi)
          (load.routine abi
            (execute (step misaligned abi) contents (earlier ++ [operation])) ram)
          (load.routine abi (execute (step misaligned abi) contents earlier) ram) := by
  constructor
  · intro load fits position inside
    have represented := execute_represents misaligned abi contents (storesOf contents)
      (fun _ _ _ => rfl) operations every
    obtain ⟨read, place⟩ := load_byte abi load fits
      (execute (step misaligned abi) contents operations) ram position inside
    rw [read]
    exact represented load.area _ place
  · rintro earlier operation later rfl load fits other
    have allowed := every operation (List.mem_append_right earlier List.mem_cons_self)
    rw [execute_append]
    exact load_same abi load fits _ _ ram (step_other misaligned abi _ operation allowed _ other)

/-- A saved certificate record, a write to the OTA area, its installation and an erase of
the other record: the token is still the one saved. -/
theorem saved_token_stays :
    SameObject 512
      (loadFlashCertificateOwnershipToken
        (execute (step (.ignored UInt8 256) shortEnumAbi) (fun _ => 0)
          [.saveProvisionedCertInfo UInt8.ofNat, .writeOtaBinary 256 (fun _ => 7) 300,
            .copyOtaAreaDataToAppArea 812, .eraseCommonConfigInfo])
        (fun _ => 0) 512)
      (fun position => UInt8.ofNat (0x1000 + position)) := by
  have every : ∀ operation ∈ [FlashOperation.saveProvisionedCertInfo UInt8.ofNat,
      .writeOtaBinary 256 (fun _ => 7) 300, .copyOtaAreaDataToAppArea 812, .eraseCommonConfigInfo],
      operation.Allowed := by
    simp [FlashOperation.Allowed, pageRounded]
  have loaded := (areas_independent (.ignored UInt8 256) shortEnumAbi (fun _ => 0) _ every
    (fun _ => 0)).1 (.certificateOwnershipToken 512) (Nat.le_refl 512)
  exact loaded

end WiznetEaas.FlashStores
