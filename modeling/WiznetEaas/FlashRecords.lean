import WiznetEaas.FlashControl

/-!
# Stored records and interrupted saves

Both records are saved in place: the sectors holding the record are erased and
its pages are programmed again. These laws give the record a later load returns
after any number of the save's elementary operations. The configuration record
fits one sector; the certificate record spans two, so an erase that reached only
the first of them still shows the old second half.
-/

namespace WiznetEaas.FlashRecords

open NorFlash ByteMemory FlashControl

variable (misaligned : Misalignment UInt8 userFlashPageSize) (abi : Abi)

/-- The status is decided by the record's bytes. -/
theorem status_same (left right : Pointer) (same : SameObject abi.sizeofAppCommon left right) :
    startFirmwareOtaStatus abi left = startFirmwareOtaStatus abi right := by
  have inside := abi.otaInfo_inside
  apply loadField_same abi.sizeofAppCommon left right _ _ same
  rcases abi.enum_size with width | width
  · simp only [Abi.startFirmwareOtaStatusOffset, width]
    omega
  · simp only [Abi.startFirmwareOtaStatusOffset, width]
    omega

/-- The size is decided by the record's bytes. -/
theorem size_same (left right : Pointer) (same : SameObject abi.sizeofAppCommon left right) :
    firmwareSize abi left = firmwareSize abi right := by
  have inside := abi.otaInfo_inside
  apply loadField_same abi.sizeofAppCommon left right _ _ same
  simp only [Abi.firmwareSizeOffset]
  omega

/-- The checksum is decided by the record's bytes. -/
theorem crc_same (left right : Pointer) (same : SameObject abi.sizeofAppCommon left right) :
    firmwareCrc abi left = firmwareCrc abi right := by
  have inside := abi.otaInfo_inside
  apply loadField_same abi.sizeofAppCommon left right _ _ same
  simp only [Abi.firmwareCrcOffset]
  omega

/-- Up to the range of the 16-bit counter, sectors are counted exactly. -/
theorem eraseSectorCount_exact (dataSize : Nat) (small : dataSize ≤ 0x1000000) :
    eraseSectorCount dataSize = (dataSize + 4095) / 4096 := by
  simp only [eraseSectorCount, u16, userFlashSectorSize]
  by_cases fraction : dataSize % 4096 > 0
  · rw [if_pos fraction]
    omega
  · rw [if_neg fraction]
    omega

/-- Up to the range of the 16-bit counter, pages are counted exactly. -/
theorem writePageCount_exact (dataSize : Nat) (small : dataSize ≤ 0xFFFF00) :
    writePageCount dataSize = (dataSize + 255) / 256 := by
  simp only [writePageCount, u16, userFlashPageSize]
  by_cases fraction : dataSize % 256 > 0
  · rw [if_pos fraction]
    omega
  · rw [if_neg fraction]
    omega

/-- Saving the configuration erases one sector and programs the record's pages. -/
theorem save_config_replaces (new : Pointer) (before : Contents UInt8) :
    saveFlashCommonConfigInfo misaligned abi new before =
      (picoFlash misaligned).replace 0x1C0000 1 new (writePageCount abi.sizeofAppCommon) := by
  have bound := abi.sizeofAppCommon_bound
  have fields := abi.otaInfo_inside
  have oneSector : eraseSectorCount abi.sizeofAppCommon = 1 := by
    rw [eraseSectorCount_exact _ (by omega)]
    omega
  simp only [saveFlashCommonConfigInfo, eraseFlashCommonConfigInfo, FlashPart.andThen, eraseFlash,
    writeFlash, config_offset, oneSector, FlashPart.replace]

/-- Saving the certificate record erases two sectors and programs nineteen pages. -/
theorem save_cert_replaces (new : Pointer) (before : Contents UInt8) :
    saveFlashProvisionedCertInfo misaligned new before =
      (picoFlash misaligned).replace 0x1C3000 2 new 19 := by
  have twoSectors : eraseSectorCount sizeofAwsFpDeviceCertInfo = 2 := by decide
  have nineteenPages : writePageCount sizeofAwsFpDeviceCertInfo = 19 := by decide
  simp only [saveFlashProvisionedCertInfo, eraseFlashProvisionedCertInfo, FlashPart.andThen, eraseFlash,
    writeFlash, certInfo_offset, twoSectors, nineteenPages, FlashPart.replace]

/-- A loaded configuration byte is the byte of the first configuration sector. -/
theorem load_config_byte (contents : Contents UInt8) (ram : Pointer) (position : Nat)
    (inside : position < abi.sizeofAppCommon) :
    loadFlashCommonConfigInfo abi contents ram position = contents (0x1C0000 + position) := by
  simp only [loadFlashCommonConfigInfo, copyBytes, if_pos inside, flashPointer, config_offset]

/-- A loaded certificate byte is the byte of the certificate sectors. -/
theorem load_cert_byte (contents : Contents UInt8) (ram : Pointer) (position : Nat)
    (inside : position < sizeofAwsFpDeviceCertInfo) :
    loadFlashProvisionedCertInfo contents ram position = contents (0x1C3000 + position) := by
  simp only [loadFlashProvisionedCertInfo, copyBytes, if_pos inside, flashPointer, certInfo_offset]

/-- A save of a record of the given size survives every loss of power: the next
load returns the old record or the new one, whole. -/
def SurvivesPowerLoss (size : Nat) (save : Pointer → Routine UInt8)
    (load : Contents UInt8 → Pointer → Pointer) : Prop :=
  ∀ before new after ram, (picoFlash misaligned).Cut (save new) before after →
    SameObject size (load after ram) (load before ram) ∨ SameObject size (load after ram) new

/-- The configuration record after a given number of operations of its save. -/
theorem config_after (before : Contents UInt8) (new ram : Pointer) (issued position : Nat)
    (inside : position < abi.sizeofAppCommon) :
    loadFlashCommonConfigInfo abi
        ((picoFlash misaligned).applyAll
          ((saveFlashCommonConfigInfo misaligned abi new before).take issued) before) ram position =
      if issued = 0 then loadFlashCommonConfigInfo abi before ram position
      else if position < (issued - 1) * 256 then new position
      else 0xFF := by
  have bound := abi.sizeofAppCommon_bound
  have pages : writePageCount abi.sizeofAppCommon = (abi.sizeofAppCommon + 255) / 256 :=
    writePageCount_exact _ (by omega)
  rw [load_config_byte abi _ _ _ inside, load_config_byte abi _ _ _ inside, save_config_replaces,
    pico_replace_take _ _ _ _ _ _ rfl (by rw [pages]; omega), pages, Nat.add_sub_cancel_left]
  by_cases untouched : issued = 0
  · have first : issued ≤ 1 := by omega
    have nothing : ¬ (0x1C0000 ≤ 0x1C0000 + position ∧
        0x1C0000 + position < 0x1C0000 + issued * 4096) := by omega
    rw [if_pos untouched, if_pos first, if_neg nothing]
  · rw [if_neg untouched]
    by_cases erasing : issued ≤ 1
    · have erased : 0x1C0000 ≤ 0x1C0000 + position ∧
          0x1C0000 + position < 0x1C0000 + issued * 4096 := by omega
      have unprogrammed : ¬ position < (issued - 1) * 256 := by omega
      rw [if_pos erasing, if_pos erased, if_neg unprogrammed]
    · rw [if_neg erasing]
      by_cases programmed : position < (issued - 1) * 256
      · rw [if_pos programmed, if_pos (by omega)]
      · rw [if_neg programmed, if_neg (by omega), if_pos (by omega)]

/-- The certificate record after a given number of operations of its save. -/
theorem cert_after (before : Contents UInt8) (new ram : Pointer) (issued position : Nat)
    (inside : position < sizeofAwsFpDeviceCertInfo) :
    loadFlashProvisionedCertInfo
        ((picoFlash misaligned).applyAll
          ((saveFlashProvisionedCertInfo misaligned new before).take issued) before) ram position =
      if issued ≤ 2 then
        if position < issued * 4096 then 0xFF
        else loadFlashProvisionedCertInfo before ram position
      else if position < (issued - 2) * 256 then new position
      else 0xFF := by
  have size : position < 4864 := inside
  rw [load_cert_byte _ _ _ inside, load_cert_byte _ _ _ inside, save_cert_replaces,
    pico_replace_take _ _ _ _ _ _ rfl (by decide), Nat.add_sub_cancel_left]
  by_cases erasing : issued ≤ 2
  · rw [if_pos erasing, if_pos erasing]
    by_cases erased : position < issued * 4096
    · rw [if_pos erased, if_pos (by omega)]
    · rw [if_neg erased, if_neg (by omega)]
  · rw [if_neg erasing, if_neg erasing]
    by_cases programmed : position < (issued - 2) * 256
    · rw [if_pos programmed, if_pos (by omega)]
    · rw [if_neg programmed, if_neg (by omega), if_pos (by omega)]

/-- What a load returns after power failed between any two operations of a save:
the old record with its leading erased sectors blank, or the leading programmed
pages of the new record with the rest blank. The configuration record is whole
only before the first operation or once all its pages are programmed; old and
new bytes never mix. -/
theorem interrupted_saves (before : Contents UInt8) (new ram : Pointer) (issued : Nat) :
    SameObject abi.sizeofAppCommon
      (loadFlashCommonConfigInfo abi
        ((picoFlash misaligned).applyAll
          ((saveFlashCommonConfigInfo misaligned abi new before).take issued) before) ram)
      (fun position =>
        if issued = 0 then loadFlashCommonConfigInfo abi before ram position
        else if position < (issued - 1) * 256 then new position
        else 0xFF) ∧
    SameObject sizeofAwsFpDeviceCertInfo
      (loadFlashProvisionedCertInfo
        ((picoFlash misaligned).applyAll
          ((saveFlashProvisionedCertInfo misaligned new before).take issued) before) ram)
      (fun position =>
        if issued ≤ 2 then
          if position < issued * 4096 then 0xFF
          else loadFlashProvisionedCertInfo before ram position
        else if position < (issued - 2) * 256 then new position
        else 0xFF) :=
  ⟨config_after misaligned abi before new ram issued, cert_after misaligned before new ram issued⟩

/-- The layout under the bare-metal ABI with one-byte enumerations. -/
def shortEnumAbi : Abi where
  sizeofWizNetInfo := 23
  sizeofEnum := 1
  netInfo_bound := by decide
  enum_size := Or.inl rfl

/-- Power failing after the first erase: a stored record of zeros is to be
replaced by one of ones, and the next load returns a blank first byte. -/
theorem erased_record_is_loaded :
    ¬ (SurvivesPowerLoss (.ignored UInt8 256) shortEnumAbi.sizeofAppCommon
        (saveFlashCommonConfigInfo (.ignored UInt8 256) shortEnumAbi)
        (loadFlashCommonConfigInfo shortEnumAbi)) ∧
    ¬ (SurvivesPowerLoss (.ignored UInt8 256) sizeofAwsFpDeviceCertInfo
        (saveFlashProvisionedCertInfo (.ignored UInt8 256)) loadFlashProvisionedCertInfo) := by
  constructor
  · intro survives
    rcases survives (fun _ => 0) (fun _ => 1) _ (fun _ => 0) ⟨1, rfl⟩ with old | new
    · exact absurd (old 0 (by decide)) (by decide)
    · exact absurd (new 0 (by decide)) (by decide)
  · intro survives
    rcases survives (fun _ => 0) (fun _ => 1) _ (fun _ => 0) ⟨1, rfl⟩ with old | new
    · exact absurd (old 0 (by decide)) (by decide)
    · exact absurd (new 0 (by decide)) (by decide)

end WiznetEaas.FlashRecords
