import WiznetEaas.BootLoader
import WiznetEaas.FlashAreas

/-!
# Installing an update across power failures

A boot with no key pressed either issues nothing or installs the stored image
and withdraws the request. Power may fail after any operation and the loader
starts again. The invariant that carries the result: the OTA area is as stored,
and the configuration record either is the original one, so the next boot
installs again, or no longer requests an update, and then the app area already
holds the image.
-/

namespace WiznetEaas.FirmwareInstall

open NorFlash ByteMemory FlashControl FlashRecords FlashAreas BootLoader

variable (misaligned : Misalignment UInt8 userFlashPageSize) (abi : Abi)

/-- The configuration record in flash. -/
abbrev storedConfig (contents : Contents UInt8) : Pointer :=
  flashPointer contents flashCommonConfigStartAddr

/-- No key is pressed, and the first pass comes within the jump timeout. -/
def Quiet (boot : Boot) : Prop :=
  (∀ pass ∈ boot.passes, pass.ch = none) ∧
    ∀ pass ∈ boot.passes.head?, elapsedMs pass.currentTimeoutMs boot.startTimeoutMs ≤ jumpAppTimeoutMs

/-- The leading bytes of the app area equal those of the OTA area. -/
def Installed (size : Nat) (contents : Contents UInt8) : Prop :=
  ∀ position, position < size → contents (0x40000 + position) = contents (0x140000 + position)

/-- The OTA area holds the bytes it held originally. -/
def OtaUnchanged (stored contents : Contents UInt8) : Prop :=
  ∀ position, position < applicationSize →
    contents (0x140000 + position) = stored (0x140000 + position)

/-- What holds between any two operations of an interrupted install. -/
structure Installing (stored contents : Contents UInt8) : Prop where
  otaUnchanged : OtaUnchanged stored contents
  requested_or_installed :
    SameObject abi.sizeofAppCommon (storedConfig contents) (storedConfig stored) ∨
    startFirmwareOtaStatus abi (storedConfig contents) ≠ startFwOtaEnable ∧
      Installed (firmwareSize abi (storedConfig stored)) contents

/-- A status whose first byte is not the enable value is not the enable value. -/
theorem not_enabled (record : Pointer)
    (first : record abi.startFirmwareOtaStatusOffset ≠ 1) :
    startFirmwareOtaStatus abi record ≠ startFwOtaEnable := by
  intro enabled
  have head : startFirmwareOtaStatus abi record % 256 =
      (record abi.startFirmwareOtaStatusOffset).toNat := by
    rcases abi.enum_size with width | width
    · simp only [startFirmwareOtaStatus, width]
      exact loadField_head record _ 0
    · simp only [startFirmwareOtaStatus, width]
      exact loadField_head record _ 3
  rw [enabled] at head
  exact first (UInt8.toNat_inj.mp head.symm)

/-- Withdrawing the request clears the first status byte. -/
theorem withdrawn_status_byte (record : Pointer) :
    setStartFirmwareOtaStatus abi record startFwOtaDisable abi.startFirmwareOtaStatusOffset = 0 := by
  have width : 0 < abi.sizeofEnum := by
    rcases abi.enum_size with width | width
    · omega
    · omega
  have inside : abi.startFirmwareOtaStatusOffset ≤ abi.startFirmwareOtaStatusOffset ∧
      abi.startFirmwareOtaStatusOffset < abi.startFirmwareOtaStatusOffset + abi.sizeofEnum :=
    ⟨Nat.le_refl _, by omega⟩
  simp only [setStartFirmwareOtaStatus, storeField, if_pos inside]
  simp

theorem withdrawn_not_enabled (record : Pointer) :
    startFirmwareOtaStatus abi (setStartFirmwareOtaStatus abi record startFwOtaDisable) ≠
      startFwOtaEnable := by
  apply not_enabled
  rw [withdrawn_status_byte]
  decide

/-- A quiet loop without a request issues nothing. -/
theorem quiet_loop_disabled (passes : List Pass) (startTimeoutMs : Nat) (appCommon : Pointer)
    (contents : Contents UInt8) (silent : ∀ pass ∈ passes, pass.ch = none)
    (disabled : startFirmwareOtaStatus abi appCommon ≠ startFwOtaEnable) :
    (mainLoop misaligned abi passes startTimeoutMs appCommon contents).1 = [] := by
  induction passes generalizing contents with
  | nil => rfl
  | cons pass rest inductionHypothesis =>
    have noKey : pass.ch = none := silent pass List.mem_cons_self
    have restSilent : ∀ later ∈ rest, later.ch = none := fun later member =>
      silent later (List.mem_cons_of_mem pass member)
    simp only [mainLoop]
    by_cases expired : elapsedMs pass.currentTimeoutMs startTimeoutMs > jumpAppTimeoutMs
    · rw [if_pos expired]
    · rw [if_neg expired]
      simp only [if_neg disabled, noKey, resumeAfter, idle, List.nil_append]
      exact inductionHypothesis _ restSilent

/-- The record a boot works on is the stored one. -/
theorem boot_record (boot : Boot) (contents : Contents UInt8) :
    SameObject abi.sizeofAppCommon
      (loadFlashCommonConfigInfo abi contents
        (copyBytes boot.memory (fun _ => 0) abi.sizeofAppCommon))
      (storedConfig contents) :=
  copyBytes_same _ _ _

/-- A quiet boot without a stored request leaves the flash alone. -/
theorem quiet_boot_disabled (boot : Boot) (contents : Contents UInt8) (quiet : Quiet boot)
    (disabled : startFirmwareOtaStatus abi (storedConfig contents) ≠ startFwOtaEnable) :
    (bootMain misaligned abi boot contents).1 = [] := by
  apply quiet_loop_disabled misaligned abi _ _ _ _ quiet.1
  rw [status_same abi _ _ (boot_record abi boot contents)]
  exact disabled

/-- A quiet boot with a stored request issues the install and the save, or has
not entered its loop. -/
theorem quiet_boot_enabled (boot : Boot) (contents : Contents UInt8) (quiet : Quiet boot)
    (enabled : startFirmwareOtaStatus abi (storedConfig contents) = startFwOtaEnable) :
    bootMain misaligned abi boot contents = ([], false) ∨
    ∃ record, SameObject abi.sizeofAppCommon record (storedConfig contents) ∧
      (bootMain misaligned abi boot contents).1 = startOta misaligned abi record contents := by
  have same := boot_record abi boot contents
  obtain ⟨silent, prompt⟩ := quiet
  simp only [bootMain]
  generalize loadFlashCommonConfigInfo abi contents
    (copyBytes boot.memory (fun _ => 0) abi.sizeofAppCommon) = record at same
  rw [← status_same abi _ _ same] at enabled
  cases passes : boot.passes with
  | nil => exact Or.inl rfl
  | cons pass rest =>
    right
    refine ⟨record, same, ?_⟩
    rw [passes] at silent prompt
    have noKey : pass.ch = none := silent pass List.mem_cons_self
    have restSilent : ∀ later ∈ rest, later.ch = none := fun later member =>
      silent later (List.mem_cons_of_mem pass member)
    have inTime : ¬ elapsedMs pass.currentTimeoutMs boot.startTimeoutMs > jumpAppTimeoutMs := by
      have bound := prompt pass (by rw [List.head?_cons]; rfl)
      omega
    simp only [mainLoop, if_neg inTime, if_pos enabled, noKey, resumeAfter]
    rw [quiet_loop_disabled misaligned abi rest _ _ _ restSilent (withdrawn_not_enabled abi record),
      List.append_nil]

/-- Saving the configuration changes no address below its sector, at whatever
point it is interrupted. -/
theorem save_config_frame (record : Pointer) (before after : Contents UInt8) (address : Nat)
    (cut : (picoFlash misaligned).Cut (saveFlashCommonConfigInfo misaligned abi record) before after)
    (below : address < 0x1C0000) : after address = before address := by
  obtain ⟨issued, rfl⟩ := cut
  have bound := abi.sizeofAppCommon_bound
  have pages : writePageCount abi.sizeofAppCommon = (abi.sizeofAppCommon + 255) / 256 :=
    writePageCount_exact _ (by omega)
  rw [save_config_replaces, pico_replace_take _ _ _ _ _ _ rfl (by rw [pages]; omega)]
  have outside (size : Nat) : ¬ (0x1C0000 ≤ address ∧ address < 0x1C0000 + size) := by omega
  simp only [if_neg (outside _), ite_self]

/-- An interrupted save of a record without a request leaves the stored record
unchanged or without a request. -/
theorem save_config_cut (record : Pointer) (before after : Contents UInt8)
    (disabled : record abi.startFirmwareOtaStatusOffset = 0)
    (cut : (picoFlash misaligned).Cut (saveFlashCommonConfigInfo misaligned abi record)
      before after) :
    SameObject abi.sizeofAppCommon (storedConfig after) (storedConfig before) ∨
    startFirmwareOtaStatus abi (storedConfig after) ≠ startFwOtaEnable := by
  obtain ⟨issued, rfl⟩ := cut
  have fields := abi.otaInfo_inside
  have loaded (contents : Contents UInt8) (position : Nat)
      (inside : position < abi.sizeofAppCommon) :
      storedConfig contents position = loadFlashCommonConfigInfo abi contents (fun _ => 0) position :=
    (copyBytes_same _ _ _ position inside).symm
  by_cases untouched : issued = 0
  · left
    intro position inside
    rw [loaded _ _ inside, loaded _ _ inside, config_after misaligned abi before record _ _ _ inside,
      if_pos untouched]
  · right
    apply not_enabled
    have inside : abi.startFirmwareOtaStatusOffset < abi.sizeofAppCommon := by
      simp only [Abi.startFirmwareOtaStatusOffset]
      omega
    rw [loaded _ _ inside, config_after misaligned abi before record _ _ _ inside,
      if_neg untouched, disabled]
    by_cases programmed : abi.startFirmwareOtaStatusOffset < (issued - 1) * 256
    · rw [if_pos programmed]
      decide
    · rw [if_neg programmed]
      decide

/-- A completed save stores the record. -/
theorem save_config_run (record : Pointer) (before : Contents UInt8) :
    SameObject abi.sizeofAppCommon
      (storedConfig ((picoFlash misaligned).run (saveFlashCommonConfigInfo misaligned abi record)
        before)) record := by
  intro position inside
  have bound := abi.sizeofAppCommon_bound
  have pages : writePageCount abi.sizeofAppCommon = (abi.sizeofAppCommon + 255) / 256 :=
    writePageCount_exact _ (by omega)
  have length : (saveFlashCommonConfigInfo misaligned abi record before).length =
      1 + writePageCount abi.sizeofAppCommon := by
    rw [save_config_replaces, FlashPart.replace, List.length_append, eraseSectors_length,
      programPages_length]
  have whole := config_after misaligned abi before record (fun _ => 0)
    (saveFlashCommonConfigInfo misaligned abi record before).length position inside
  rw [List.take_length, if_neg (by omega), if_pos (by omega)] at whole
  rw [← whole]
  exact (copyBytes_same _ _ _ position inside).symm

/-- Saving the configuration keeps the OTA area and an installed image. -/
theorem save_config_keeps (record : Pointer) (stored before after : Contents UInt8)
    (fits : firmwareSize abi (storedConfig stored) ≤ applicationSize)
    (cut : (picoFlash misaligned).Cut (saveFlashCommonConfigInfo misaligned abi record) before after)
    (unchanged : OtaUnchanged stored before)
    (installed : Installed (firmwareSize abi (storedConfig stored)) before) :
    OtaUnchanged stored after ∧ Installed (firmwareSize abi (storedConfig stored)) after := by
  have size : firmwareSize abi (storedConfig stored) ≤ 0x80000 := fits
  have frame := save_config_frame misaligned abi record before after
  constructor
  · intro position inside
    have area : position < 0x80000 := inside
    rw [frame _ cut (by omega)]
    exact unchanged position inside
  · intro position inside
    rw [frame _ cut (by omega), frame _ cut (by omega)]
    exact installed position inside

/-- Copying the image keeps the OTA area and the configuration record. -/
theorem copy_ota_keeps (dataSize : Nat) (stored before after : Contents UInt8)
    (fits : dataSize ≤ applicationSize)
    (cut : (picoFlash misaligned).Cut (copyOtaAreaDataToAppArea misaligned dataSize) before after)
    (unchanged : OtaUnchanged stored before)
    (original : SameObject abi.sizeofAppCommon (storedConfig before) (storedConfig stored)) :
    OtaUnchanged stored after ∧
      SameObject abi.sizeofAppCommon (storedConfig after) (storedConfig stored) := by
  have frame := copy_ota_frame misaligned dataSize before after
  constructor
  · intro position inside
    rw [frame _ fits cut (Or.inr (by omega))]
    exact unchanged position inside
  · intro position inside
    have same : storedConfig after position = storedConfig before position := by
      simp only [storedConfig, flashPointer, config_offset]
      exact frame _ fits cut (Or.inr (by omega))
    rw [same]
    exact original position inside

/-- A completed copy installs the image. -/
theorem copy_ota_run (dataSize : Nat) (before : Contents UInt8) (fits : dataSize ≤ applicationSize) :
    Installed dataSize
      ((picoFlash misaligned).run (copyOtaAreaDataToAppArea misaligned dataSize) before) := by
  intro position inside
  have bound : dataSize ≤ 0x80000 := fits
  rw [copy_ota_installs misaligned dataSize before position fits inside]
  exact (copy_ota_frame misaligned dataSize before _ _ fits
    (cut_run (picoFlash misaligned) _ before) (Or.inr (by omega))).symm

/-- Every cut of the install branch keeps the invariant, and its end withdraws
the request. The cut falls inside the copy, or inside the save after the copy
completed. -/
theorem start_ota_cut (record : Pointer) (stored before after : Contents UInt8)
    (fits : firmwareSize abi (storedConfig stored) ≤ applicationSize)
    (unchanged : OtaUnchanged stored before)
    (original : SameObject abi.sizeofAppCommon (storedConfig before) (storedConfig stored))
    (same : SameObject abi.sizeofAppCommon record (storedConfig before))
    (cut : (picoFlash misaligned).Cut (startOta misaligned abi record) before after) :
    Installing abi stored after := by
  have size : firmwareSize abi record = firmwareSize abi (storedConfig stored) :=
    (size_same abi _ _ same).trans (size_same abi _ _ original)
  rw [startOta, size, cut_andThen] at cut
  rcases cut with copying | saving
  · obtain ⟨ota, config⟩ := copy_ota_keeps misaligned abi _ stored before after fits copying
      unchanged original
    exact ⟨ota, Or.inl config⟩
  · obtain ⟨otaCopied, configCopied⟩ := copy_ota_keeps misaligned abi _ stored before _ fits
      (cut_run (picoFlash misaligned) _ before) unchanged original
    obtain ⟨ota, installed⟩ := save_config_keeps misaligned abi _ stored _ after fits saving
      otaCopied (copy_ota_run misaligned _ before fits)
    refine ⟨ota, ?_⟩
    rcases save_config_cut misaligned abi _ _ after (withdrawn_status_byte abi record) saving with
      config | disabled
    · exact Or.inl fun position inside =>
        (config position inside).trans (configCopied position inside)
    · exact Or.inr ⟨disabled, installed⟩

/-- The completed install branch leaves the image installed. -/
theorem start_ota_run (record : Pointer) (stored before : Contents UInt8)
    (fits : firmwareSize abi (storedConfig stored) ≤ applicationSize)
    (unchanged : OtaUnchanged stored before)
    (original : SameObject abi.sizeofAppCommon (storedConfig before) (storedConfig stored))
    (same : SameObject abi.sizeofAppCommon record (storedConfig before)) :
    Installed (firmwareSize abi (storedConfig stored))
      ((picoFlash misaligned).run (startOta misaligned abi record) before) := by
  have size : firmwareSize abi record = firmwareSize abi (storedConfig stored) :=
    (size_same abi _ _ same).trans (size_same abi _ _ original)
  obtain ⟨otaCopied, _⟩ := copy_ota_keeps misaligned abi _ stored before _ fits
    (cut_run (picoFlash misaligned) _ before) unchanged original
  have copied := copy_ota_run misaligned _ before fits
  rw [startOta, size, run_andThen]
  exact (save_config_keeps misaligned abi _ stored _ _ fits
    (cut_run (picoFlash misaligned) _ _) otaCopied copied).2

/-- A boot whose power fails keeps the invariant. -/
theorem boot_cut (boot : Boot) (stored before after : Contents UInt8) (quiet : Quiet boot)
    (enabled : startFirmwareOtaStatus abi (storedConfig stored) = startFwOtaEnable)
    (fits : firmwareSize abi (storedConfig stored) ≤ applicationSize)
    (installing : Installing abi stored before)
    (cut : (picoFlash misaligned).Cut
      (fun contents => (bootMain misaligned abi boot contents).1) before after) :
    Installing abi stored after := by
  obtain ⟨unchanged, original | ⟨disabled, installed⟩⟩ := installing
  · have request : startFirmwareOtaStatus abi (storedConfig before) = startFwOtaEnable := by
      rw [status_same abi _ _ original]
      exact enabled
    obtain ⟨issued, rfl⟩ := cut
    rcases quiet_boot_enabled misaligned abi boot before quiet request with
      waiting | ⟨record, same, operations⟩
    · simp only [waiting, List.take_nil, applyAll_nil]
      exact ⟨unchanged, Or.inl original⟩
    · simp only [operations]
      exact start_ota_cut misaligned abi record stored before _ fits unchanged original same
        ⟨issued, rfl⟩
  · obtain ⟨issued, rfl⟩ := cut
    simp only [quiet_boot_disabled misaligned abi boot before quiet disabled, List.take_nil,
      applyAll_nil]
    exact ⟨unchanged, Or.inr ⟨disabled, installed⟩⟩

/-- A boot that reaches the jump leaves the image installed. -/
theorem boot_done (boot : Boot) (stored before : Contents UInt8) (quiet : Quiet boot)
    (enabled : startFirmwareOtaStatus abi (storedConfig stored) = startFwOtaEnable)
    (fits : firmwareSize abi (storedConfig stored) ≤ applicationSize)
    (installing : Installing abi stored before)
    (done : (bootMain misaligned abi boot before).2 = true) :
    Installed (firmwareSize abi (storedConfig stored))
      ((picoFlash misaligned).run
        (fun contents => (bootMain misaligned abi boot contents).1) before) := by
  obtain ⟨unchanged, original | ⟨disabled, installed⟩⟩ := installing
  · have request : startFirmwareOtaStatus abi (storedConfig before) = startFwOtaEnable := by
      rw [status_same abi _ _ original]
      exact enabled
    rcases quiet_boot_enabled misaligned abi boot before quiet request with
      waiting | ⟨record, same, operations⟩
    · rw [waiting] at done
      cases done
    · simp only [FlashPart.run, operations]
      exact start_ota_run misaligned abi record stored before fits unchanged original same
  · simp only [FlashPart.run, quiet_boot_disabled misaligned abi boot before quiet disabled,
      applyAll_nil]
    exact installed

/-- Power-fail-safe install: from every flash content with a stored request and
a size that fits, however often power fails between two operations of quiet
boots, once the jump is reached the app area holds the image and the OTA area
is unchanged. -/
theorem jump_finds_installed_image (stored final : Contents UInt8)
    (enabled : startFirmwareOtaStatus abi (storedConfig stored) = startFwOtaEnable)
    (fits : firmwareSize abi (storedConfig stored) ≤ applicationSize)
    (run : (picoFlash misaligned).Recovery (bootMain misaligned abi) Quiet stored final) :
    Installed (firmwareSize abi (storedConfig stored)) final ∧ OtaUnchanged stored final := by
  apply recovery_goal (picoFlash misaligned) (bootMain misaligned abi) Quiet
    (Installing abi stored) (fun final =>
      Installed (firmwareSize abi (storedConfig stored)) final ∧ OtaUnchanged stored final)
    ?_ ?_ stored final ?_ run
  · intro boot before cut quiet installing lost
    exact boot_cut misaligned abi boot stored before cut quiet enabled fits installing lost
  · intro boot before quiet installing done
    have kept := boot_cut misaligned abi boot stored before _ quiet enabled fits installing
      (cut_run (picoFlash misaligned) _ before)
    exact ⟨boot_done misaligned abi boot stored before quiet enabled fits installing done,
      kept.otaUnchanged⟩
  · exact ⟨fun _ _ => rfl, Or.inl fun _ _ => rfl⟩

/-- A stored request for a 300-byte image, over flash that is zero elsewhere. -/
def requestedUpdate : Contents UInt8 := fun address =>
  if address = 0x1C0000 + shortEnumAbi.startFirmwareOtaStatusOffset then 1
  else if address = 0x1C0000 + shortEnumAbi.firmwareSizeOffset then 44
  else if address = 0x1C0000 + shortEnumAbi.firmwareSizeOffset + 1 then 1
  else 0

/-- A boot whose second pass comes after the timeout. -/
def silentBoot : Boot where
  memory := fun _ => 0
  startTimeoutMs := 10
  passes := [⟨10, none, [], 0⟩, ⟨2011, none, [], 0⟩]

theorem silentBoot_quiet : Quiet silentBoot := by
  constructor
  · decide
  · decide

/-- Power fails after 129 operations of the first boot, in the middle of the
copy, and the second boot reaches the jump. -/
theorem jump_after_interrupted_copy :
    let part := picoFlash (.ignored UInt8 256)
    let boot := fun contents => (bootMain (.ignored UInt8 256) shortEnumAbi silentBoot contents).1
    let cut := part.applyAll ((boot requestedUpdate).take 129) requestedUpdate
    (boot requestedUpdate).length > 129 ∧ Installed 300 (part.run boot cut) ∧
      OtaUnchanged requestedUpdate (part.run boot cut) := by
  intro part boot cut
  have run : part.Recovery (bootMain (.ignored UInt8 256) shortEnumAbi) Quiet requestedUpdate
      (part.run boot cut) :=
    .powerLost silentBoot _ _ _ silentBoot_quiet ⟨129, rfl⟩
      (.completed silentBoot _ silentBoot_quiet rfl)
  have size : firmwareSize shortEnumAbi (storedConfig requestedUpdate) = 300 := by decide
  have installed := jump_finds_installed_image (.ignored UInt8 256) shortEnumAbi requestedUpdate _
    (by decide) (by decide) run
  rw [size] at installed
  exact ⟨by decide +kernel, installed⟩

end WiznetEaas.FirmwareInstall
