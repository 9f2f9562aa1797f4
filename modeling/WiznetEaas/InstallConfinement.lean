import WiznetEaas.AreaCopies
import WiznetEaas.FirmwareInstall
import WiznetEaas.FlashRounding

/-!
# Where an install reads and writes

The boot loader takes the image size from the configuration record as it stands.
Only the page counter bounds it, so the copy runs from the OTA area on into the
configuration area, and from the app area on into the factory image, as soon as
the counter exceeds the pages of an area. The source stays a whole mebibyte ahead
of the target, so the effect of every count is known: a page of the app area takes
the page read for it, and a page behind that area is merged with it.
-/

namespace WiznetEaas.InstallConfinement

open NorFlash ByteMemory FlashControl FlashRecords FlashAreas FlashStores AreaCopies FlashRounding
  BootLoader FirmwareInstall

variable (misaligned : Misalignment UInt8 userFlashPageSize) (abi : Abi)

/-- The flash offsets the copying loop reads: a page in each pass. -/
def copyPagesReads (source : Nat) : Nat → Nat → List Nat
  | 0, _ => []
  | remaining + 1, i =>
    (List.range userFlashPageSize).map
        (fun position => source - flashStartAddr + (i * userFlashPageSize + position)) ++
      copyPagesReads source remaining (i + 1)

/-- The loop reads consecutive pages. -/
theorem mem_copyPagesReads (source remaining i address : Nat) :
    address ∈ copyPagesReads source remaining i ↔
      source - flashStartAddr + i * 256 ≤ address ∧
        address < source - flashStartAddr + (i + remaining) * 256 := by
  induction remaining generalizing i with
  | zero =>
    simp only [copyPagesReads, List.not_mem_nil, false_iff]
    omega
  | succ remaining inductionHypothesis =>
    have page : address ∈ (List.range userFlashPageSize).map
          (fun position => source - flashStartAddr + (i * userFlashPageSize + position)) ↔
        source - flashStartAddr + i * 256 ≤ address ∧
          address < source - flashStartAddr + i * 256 + 256 := by
      simp only [List.mem_map, List.mem_range, userFlashPageSize]
      constructor
      · rintro ⟨position, inside, rfl⟩
        omega
      · rintro ⟨low, high⟩
        exact ⟨address - (source - flashStartAddr + i * 256), by omega, by omega⟩
    rw [copyPagesReads, List.mem_append, page, inductionHypothesis]
    omega

/-- A copy whose source stays ahead of its target merges the source, as it stood at
the start, into the pages of the target. No blank target is needed. -/
theorem copyPages_ahead (source start remaining i target : Nat) (contents : Contents UInt8)
    (located : ∀ current position, flashPointer current source position = current (start + position))
    (aligned : target % 256 = 0) (ahead : target + 256 ≤ start + i * 256) (address : Nat) :
    (picoFlash misaligned).applyAll (copyPages misaligned source remaining i target contents)
        contents address =
      if target ≤ address ∧ address < target + remaining * 256 then
        contents address &&& contents (start + i * 256 + (address - target))
      else contents address := by
  induction remaining generalizing i target contents with
  | zero =>
    have nothing : ¬ (target ≤ address ∧ address < target + 0 * 256) := by omega
    rw [if_neg nothing, copyPages, applyAll_nil]
  | succ remaining inductionHypothesis =>
    simp only [copyPages, located, userFlashPageSize, applyAll_cons]
    have step (position : Nat) := programPages_apply (picoFlash misaligned) target
      (fun position => contents (start + (i * 256 + position))) 1 aligned contents position
    have page : (picoFlash misaligned).pageSize = 256 := rfl
    simp only [FlashPart.programPages, List.range_one, List.map_cons, List.map_nil, applyAll_cons,
      applyAll_nil, page, Nat.zero_mul, Nat.add_zero, Nat.one_mul, Nat.zero_add] at step
    rw [inductionHypothesis (i + 1) (target + 256) _ (by omega) (by omega)]
    by_cases later : target + 256 ≤ address ∧ address < target + 256 + remaining * 256
    · have before : ¬ (target ≤ address ∧ address < target + 256) := by omega
      have read : ¬ (target ≤ start + (i + 1) * 256 + (address - (target + 256)) ∧
          start + (i + 1) * 256 + (address - (target + 256)) < target + 256) := by omega
      have position : start + (i + 1) * 256 + (address - (target + 256)) =
          start + i * 256 + (address - target) := by omega
      rw [if_pos later, step, step, if_neg before, if_neg read, if_pos (by omega), position]
    · rw [if_neg later, step]
      by_cases first : target ≤ address ∧ address < target + 256
      · have position : start + (i * 256 + (address - target)) =
            start + i * 256 + (address - target) := by omega
        rw [if_pos first, if_pos (by omega), position]
        rfl
      · rw [if_neg first, if_neg (by omega)]

/-- What an install of any size leaves. Pages beyond the app area, which no erase
prepared, are merged with what lies behind the OTA area. -/
theorem install_apply (dataSize : Nat) (before : Contents UInt8) (address : Nat) :
    (picoFlash misaligned).run (copyOtaAreaDataToAppArea misaligned dataSize) before address =
      if 0x40000 ≤ address ∧ address < 0x40000 + writePageCount dataSize * 256 then
        if address < 0xC0000 then before (address + 0x100000)
        else before address &&& before (address + 0x100000)
      else if 0x40000 ≤ address ∧ address < 0xC0000 then 0xFF
      else before address := by
  have erased (position : Nat) :
      (picoFlash misaligned).run (eraseFlashTotalAppArea misaligned) before position =
        if 0x40000 ≤ position ∧ position < 0x40000 + 128 * 4096 then 0xFF else before position := by
    simp only [FlashPart.run, eraseFlashTotalAppArea, eraseFlash_application, app_offset]
    exact pico_eraseSectors misaligned 0x40000 128 before position
  have copied := copyPages_ahead misaligned flashTempFwStartAddr 0x140000 (writePageCount dataSize) 0
    0x40000 ((picoFlash misaligned).run (eraseFlashTotalAppArea misaligned) before) ota_pointer
    (by decide) (by decide) address
  simp only [copyOtaAreaDataToAppArea, run_andThen, app_offset]
  rw [FlashPart.run, copied]
  by_cases written : 0x40000 ≤ address ∧ address < 0x40000 + writePageCount dataSize * 256
  · have source : 0x140000 + 0 * 256 + (address - 0x40000) = address + 0x100000 := by omega
    have behind : ¬ (0x40000 ≤ address + 0x100000 ∧ address + 0x100000 < 0x40000 + 128 * 4096) := by
      omega
    rw [if_pos written, if_pos written, source, erased, erased, if_neg behind]
    by_cases app : address < 0xC0000
    · have inApp : 0x40000 ≤ address ∧ address < 0x40000 + 128 * 4096 := ⟨written.1, app⟩
      rw [if_pos inApp, if_pos app]
      exact flashMedium.merge_erased _
    · have beyond : ¬ (0x40000 ≤ address ∧ address < 0x40000 + 128 * 4096) := by omega
      rw [if_neg beyond, if_neg app]
  · rw [if_neg written, if_neg written, erased]

/-- The OTA branch of the boot loader's loop. -/
def otaBranch (appCommon : Pointer) : Routine UInt8 :=
  if startFirmwareOtaStatus abi appCommon = startFwOtaEnable then startOta misaligned abi appCommon
  else idle

/-- The flash offsets the branch reads for its copy. -/
def otaBranchReads (appCommon : Pointer) : List Nat :=
  if startFirmwareOtaStatus abi appCommon = startFwOtaEnable then
    copyPagesReads flashTempFwStartAddr (writePageCount (firmwareSize abi appCommon)) 0
  else []

/-- A pass of the main loop that gets no key issues the branch's operations and goes on. -/
theorem mainLoop_branch (pass : Pass) (rest : List Pass) (startTimeoutMs : Nat)
    (appCommon : Pointer) (contents : Contents UInt8)
    (inTime : ¬ elapsedMs pass.currentTimeoutMs startTimeoutMs > jumpAppTimeoutMs)
    (noKey : pass.ch = none) :
    ∃ later, (mainLoop misaligned abi (pass :: rest) startTimeoutMs appCommon contents).1 =
      otaBranch misaligned abi appCommon contents ++ later := by
  simp only [mainLoop, if_neg inTime, noKey, resumeAfter]
  exact ⟨_, rfl⟩

/-- The common configuration sector. -/
def InConfigSector (address : Nat) : Prop := 0x1C0000 ≤ address ∧ address < 0x1C1000

/-- The install step keeps to its areas: whenever it stops, only the app area and the
configuration sector have changed, and it has read its source in the OTA area. -/
structure InstallConfined (appCommon : Pointer) (before : Contents UInt8) : Prop where
  kept : ∀ after, (picoFlash misaligned).Cut (otaBranch misaligned abi appCommon) before after →
    ∀ address, ¬ InArea .app address → ¬ InConfigSector address → after address = before address
  source : ∀ address ∈ otaBranchReads abi appCommon, InArea .ota address

/-- Saving the configuration changes its own sector only, wherever it stops. -/
theorem save_config_sector (record : Pointer) (before after : Contents UInt8) (address : Nat)
    (cut : (picoFlash misaligned).Cut (saveFlashCommonConfigInfo misaligned abi record) before after)
    (outside : ¬ InConfigSector address) : after address = before address := by
  obtain ⟨issued, rfl⟩ := cut
  have bound := abi.sizeofAppCommon_bound
  have pages : writePageCount abi.sizeofAppCommon = (abi.sizeofAppCommon + 255) / 256 :=
    writePageCount_exact _ (by omega)
  unfold InConfigSector at outside
  rw [save_config_replaces, pico_replace_take _ _ _ _ _ _ rfl (by rw [pages]; omega), pages]
  by_cases erasing : issued ≤ 1
  · rw [if_pos erasing, if_neg (by omega)]
  · rw [if_neg erasing, if_neg (by omega), if_neg (by omega)]

/-- A copy of no more pages than an area holds changes the app area only. -/
theorem copy_pages_frame (dataSize : Nat) (before after : Contents UInt8) (address : Nat)
    (fits : writePageCount dataSize ≤ 2048)
    (cut : (picoFlash misaligned).Cut (copyOtaAreaDataToAppArea misaligned dataSize) before after)
    (outside : ¬ InArea .app address) : after address = before address := by
  have area : address < 0x40000 ∨ 0xC0000 ≤ address := by
    unfold InArea at outside
    rw [Area.offset_exact] at outside
    simp only [applicationSize] at outside
    omega
  refine cut_frame _ _ _ _ _ cut ?_
  intro operation issued touched
  rcases List.mem_append.mp issued with erasing | copying
  · exact outside (eraseApp_confined misaligned before operation erasing address touched)
  · have range := copyPages_touches misaligned _ _ _ _ _ (by rw [app_offset]) operation address
      copying touched
    rw [app_offset] at range
    omega

/-- A copy reads inside the OTA area exactly when it takes no more pages than that holds. -/
theorem copy_reads_iff (count : Nat) :
    (∀ address ∈ copyPagesReads flashTempFwStartAddr count 0, InArea .ota address) ↔
      count ≤ 2048 := by
  have area (address : Nat) : InArea .ota address ↔ 0x140000 ≤ address ∧ address < 0x1C0000 := by
    unfold InArea
    rw [Area.offset_exact]
    simp only [applicationSize]
  simp only [mem_copyPagesReads, ota_offset, area]
  constructor
  · intro inside
    rcases Nat.lt_or_ge 2048 count with beyond | fits
    · have behind := inside 0x1C0000 (by omega)
      omega
    · exact fits
  · intro fits address read
    omega

/-- The install step of a stored request is confined exactly when the rounded page
count of the stored size, as the 16-bit counter holds it, does not exceed the 2048
pages of an area. -/
theorem install_confined_iff (ram : Pointer) (before : Contents UInt8)
    (enabled : startFirmwareOtaStatus abi (storedConfig before) = startFwOtaEnable) :
    InstallConfined misaligned abi (loadFlashCommonConfigInfo abi before ram) before ↔
      (firmwareSize abi (storedConfig before) + 255) / 256 % 65536 ≤ 2048 := by
  have same : SameObject abi.sizeofAppCommon (loadFlashCommonConfigInfo abi before ram)
      (storedConfig before) := copyBytes_same _ _ _
  have request : startFirmwareOtaStatus abi (loadFlashCommonConfigInfo abi before ram) =
      startFwOtaEnable := (status_same abi _ _ same).trans enabled
  have size := size_same abi _ _ same
  rw [← writePageCount_rounded, ← size]
  constructor
  · intro confined
    have reads := confined.source
    simp only [otaBranchReads, if_pos request] at reads
    exact (copy_reads_iff _).mp reads
  · intro fits
    constructor
    · intro after cut address notApp notConfig
      simp only [otaBranch, if_pos request, startOta, cut_andThen] at cut
      rcases cut with copying | saving
      · exact copy_pages_frame misaligned _ before after address fits copying notApp
      · rw [save_config_sector misaligned abi _ _ after address saving notConfig]
        exact copy_pages_frame misaligned _ before _ address fits
          (cut_run (picoFlash misaligned) _ before) notApp
    · simp only [otaBranchReads, if_pos request]
      exact (copy_reads_iff _).mpr fits

/-- The stored request for a 300-byte image is installed within its areas. -/
theorem requested_update_confined :
    InstallConfined (.ignored UInt8 userFlashPageSize) shortEnumAbi
      (loadFlashCommonConfigInfo shortEnumAbi requestedUpdate (fun _ => 0)) requestedUpdate :=
  (install_confined_iff (.ignored UInt8 userFlashPageSize) shortEnumAbi (fun _ => 0) requestedUpdate
    (by decide)).mpr (by decide)

/-- A copy that overruns the app area clears, in the factory image behind it, the bits
that are clear in the configuration area. -/
theorem overrun_merges_factory (dataSize position : Nat) (before : Contents UInt8)
    (overrun : 2048 * 256 + position < writePageCount dataSize * 256) :
    (picoFlash misaligned).run (copyOtaAreaDataToAppArea misaligned dataSize) before
        (0xC0000 + position) = before (0xC0000 + position) &&& before (0x1C0000 + position) := by
  have beyond : ¬ 0xC0000 + position < 0xC0000 := by omega
  have source : 0xC0000 + position + 0x100000 = 0x1C0000 + position := by omega
  rw [install_apply, if_pos (by omega), if_neg beyond, source]

/-- A stored request for an image of one byte more than an area holds, over a flash whose
factory image begins with 0x5A. -/
def oversizedRequest : Contents UInt8 := fun address =>
  if address = 0x1C0000 + shortEnumAbi.startFirmwareOtaStatusOffset then 1
  else if address = 0x1C0000 + shortEnumAbi.firmwareSizeOffset then 1
  else if address = 0x1C0000 + shortEnumAbi.firmwareSizeOffset + 2 then 8
  else if address = 0xC0000 then 0x5A
  else 0

/-- The request is enabled, its copy reads the configuration sector, and the completed
branch has cleared the first byte of the factory image. -/
theorem oversized_request_escapes :
    let part := Misalignment.ignored UInt8 userFlashPageSize
    let appCommon := loadFlashCommonConfigInfo shortEnumAbi oversizedRequest (fun _ => 0)
    startFirmwareOtaStatus shortEnumAbi (storedConfig oversizedRequest) = startFwOtaEnable ∧
    firmwareSize shortEnumAbi (storedConfig oversizedRequest) = 0x80001 ∧
    ¬ InstallConfined part shortEnumAbi appCommon oversizedRequest ∧
    0x1C0000 ∈ otaBranchReads shortEnumAbi appCommon ∧
    oversizedRequest 0xC0000 = 0x5A ∧
    (picoFlash part).run (otaBranch part shortEnumAbi appCommon) oversizedRequest 0xC0000 = 0 := by
  intro part appCommon
  have same : SameObject shortEnumAbi.sizeofAppCommon appCommon (storedConfig oversizedRequest) :=
    copyBytes_same _ _ _
  have enabled : startFirmwareOtaStatus shortEnumAbi (storedConfig oversizedRequest) =
      startFwOtaEnable := by decide
  have size : firmwareSize shortEnumAbi (storedConfig oversizedRequest) = 0x80001 := by decide
  have request : startFirmwareOtaStatus shortEnumAbi appCommon = startFwOtaEnable :=
    (status_same shortEnumAbi _ _ same).trans enabled
  have stored : firmwareSize shortEnumAbi appCommon = 0x80001 :=
    (size_same shortEnumAbi _ _ same).trans size
  have pages : writePageCount 0x80001 = 2049 := by decide
  have read : 0x1C0000 ∈ otaBranchReads shortEnumAbi appCommon := by
    simp only [otaBranchReads, if_pos request, stored, pages, mem_copyPagesReads, ota_offset]
    omega
  refine ⟨enabled, size, ?_, read, by decide, ?_⟩
  · intro confined
    exact absurd (confined.source _ read) (by decide)
  · simp only [otaBranch, if_pos request, startOta, run_andThen]
    rw [save_config_sector part shortEnumAbi _ _ _ 0xC0000 (cut_run (picoFlash part) _ _)
      (by unfold InConfigSector; omega), stored]
    have merged := overrun_merges_factory part 0x80001 0 oversizedRequest (by rw [pages]; omega)
    rw [merged]
    decide

end WiznetEaas.InstallConfinement
