import WiznetEaas.FirmwareArming
import WiznetEaas.FirmwareInstall
import WiznetEaas.OtaConfinement
import WiznetEaas.PowerLoss

/-!
# An update is applied whole or not at all

The image is downloaded beside the running firmware, the request for it is saved, and
the boot loader installs it. The request, the size and the checksum of the image stand
in one page of the configuration record, so that a save which is cut short either shows
no request or shows it with its size and checksum. Whatever a job document has issued
when power fails, the device therefore comes back with the firmware it had or with the
image that passed the check.
-/

namespace WiznetEaas.UpdateAtomicity

open NorFlash ByteMemory CStrings FlashControl FlashRecords FlashAreas FlashStores AreaCopies
  Crc16 DeviceCommon HttpInterface OtaDownload OtaConfinement JobDocument FirmwareArming BootLoader
  FirmwareInstall Restarts PowerLoss

variable (misaligned : Misalignment UInt8 userFlashPageSize) (abi : Abi)

/-- The app area keeps the firmware it holds. -/
def AppUnchanged (before after : Contents UInt8) : Prop :=
  ∀ address, InArea .app address → after address = before address

/-- The app area begins with the image of the OTA area, and the checksum over it is the
announced one. -/
structure HoldsImage (size crc : Nat) (contents : Contents UInt8) : Prop where
  installed : Installed size contents
  checksum : (crc16Ccitt (flashPointer contents flashAppStartAddr) size).toNat = crc

/-- The app area begins with the image that a download left in the OTA area, and the checksum
over it is the announced one. -/
structure Brought (size crc : Nat) (downloaded final : Contents UInt8) : Prop where
  image : HoldsImage size crc final
  unchanged : OtaUnchanged downloaded final

/-- The areas that an update may write: the app area, the OTA area, and the sector of the
configuration. -/
def InUpdate (address : Nat) : Prop :=
  InArea .app address ∨ InArea .ota address ∨ (0x1C0000 ≤ address ∧ address < 0x1C1000)

/-- The checksum depends on the bytes it covers. -/
theorem crc16Loop_same (left right : Pointer) (remaining counter : Nat) (crc : UInt16)
    (same : ∀ position, counter ≤ position → position < counter + remaining →
      left position = right position) :
    crc16Loop left remaining counter crc = crc16Loop right remaining counter crc := by
  induction remaining generalizing counter crc with
  | zero => rfl
  | succ remaining inductionHypothesis =>
    rw [crc16Loop, crc16Loop, same counter (Nat.le_refl _) (by omega)]
    exact inductionHypothesis (counter + 1) _ fun position low high =>
      same position (by omega) (by omega)

/-- An installed image has the checksum that its OTA area had. -/
theorem installed_checksum (size : Nat) (fits : size ≤ applicationSize)
    (stored contents : Contents UInt8) (installed : Installed size contents)
    (unchanged : OtaUnchanged stored contents) :
    crc16Ccitt (flashPointer contents flashAppStartAddr) size =
      crc16Ccitt (flashPointer stored flashTempFwStartAddr) size := by
  apply crc16Loop_same
  intro position _ inside
  rw [app_pointer, ota_pointer]
  exact (installed position (by omega)).trans (unchanged position (by omega))

section Boots
variable (stored final : Contents UInt8)

/-- Without a request quiet boots leave the flash as they find it. -/
theorem disabled_boots (disabled : startFirmwareOtaStatus abi (storedConfig stored) ≠ startFwOtaEnable)
    (boots : (picoFlash misaligned).Recovery (bootMain misaligned abi) Quiet stored final) :
    final = stored := by
  apply recovery_goal (picoFlash misaligned) (bootMain misaligned abi) Quiet
    (fun contents => contents = stored) (fun contents => contents = stored) ?_ ?_ stored final rfl
    boots
  · rintro boot before cut quiet rfl ⟨issued, rfl⟩
    simp only [quiet_boot_disabled misaligned abi boot before quiet disabled, List.take_nil,
      applyAll_nil]
  · rintro boot before quiet rfl _
    simp only [FlashPart.run, quiet_boot_disabled misaligned abi boot before quiet disabled,
      applyAll_nil]

/-- With a request that fits, quiet boots bring the image to the app area. -/
theorem enabled_boots (enabled : startFirmwareOtaStatus abi (storedConfig stored) = startFwOtaEnable)
    (fits : firmwareSize abi (storedConfig stored) ≤ applicationSize)
    (boots : (picoFlash misaligned).Recovery (bootMain misaligned abi) Quiet stored final) :
    Installed (firmwareSize abi (storedConfig stored)) final ∧ OtaUnchanged stored final := by
  apply recovery_goal (picoFlash misaligned) (bootMain misaligned abi) Quiet
    (Installing abi stored) _ ?_ ?_ stored final ?_ boots
  · intro boot before cut quiet installing lost
    exact boot_cut misaligned abi boot stored before cut quiet enabled fits installing lost
  · intro boot before quiet installing done
    have kept := boot_cut misaligned abi boot stored before _ quiet enabled fits installing
      (cut_run (picoFlash misaligned) _ before)
    exact ⟨boot_done misaligned abi boot stored before quiet enabled fits installing done,
      kept.otaUnchanged⟩
  · exact ⟨fun _ _ => rfl, Or.inl fun _ _ => rfl⟩

/-- The install branch stays in the app area and the sector of the configuration. -/
theorem start_ota_within (record : Pointer) (fits : firmwareSize abi record ≤ applicationSize) :
    Within (picoFlash misaligned) InUpdate (startOta misaligned abi record) := by
  have copying := operation_within misaligned abi
    (.copyOtaAreaDataToAppArea (firmwareSize abi record)) fits
  have saving := operation_within misaligned abi
    (.saveCommonConfigInfo (setStartFirmwareOtaStatus abi record startFwOtaDisable)) True.intro
  exact (copying.mono fun _ inside => Or.inl inside).andThen
    (saving.mono fun _ inside => Or.inr (Or.inr inside))

/-- So do all operations of a quiet boot. -/
theorem quiet_boot_touched (boot : Boot) (quiet : Quiet boot)
    (fits : startFirmwareOtaStatus abi (storedConfig stored) = startFwOtaEnable →
      firmwareSize abi (storedConfig stored) ≤ applicationSize)
    (operation : Operation UInt8) (address : Nat)
    (issued : operation ∈ (bootMain misaligned abi boot stored).1)
    (touched : (picoFlash misaligned).Touches operation address) : InUpdate address := by
  by_cases enabled : startFirmwareOtaStatus abi (storedConfig stored) = startFwOtaEnable
  · rcases quiet_boot_enabled misaligned abi boot stored quiet enabled with
      waiting | ⟨record, same, operations⟩
    · rw [waiting] at issued
      cases issued
    · rw [operations] at issued
      have size : firmwareSize abi record ≤ applicationSize := by
        rw [size_same abi _ _ same]
        exact fits enabled
      exact start_ota_within misaligned abi record size stored operation issued address touched
  · rw [quiet_boot_disabled misaligned abi boot stored quiet enabled] at issued
    cases issued

/-- Interrupted quiet boots write the areas of the update only. -/
theorem boots_frame (enabled : startFirmwareOtaStatus abi (storedConfig stored) = startFwOtaEnable)
    (fits : firmwareSize abi (storedConfig stored) ≤ applicationSize)
    (boots : (picoFlash misaligned).Recovery (bootMain misaligned abi) Quiet stored final) :
    AgreeOutside InUpdate final stored := by
  have size (contents : Contents UInt8) (installing : Installing abi stored contents)
      (request : startFirmwareOtaStatus abi (storedConfig contents) = startFwOtaEnable) :
      firmwareSize abi (storedConfig contents) ≤ applicationSize := by
    rcases installing.requested_or_installed with same | ⟨withdrawn, _⟩
    · rw [size_same abi _ _ same]
      exact fits
    · exact absurd request withdrawn
  have frame (boot : Boot) (before after : Contents UInt8) (quiet : Quiet boot)
      (installing : Installing abi stored before)
      (cut : (picoFlash misaligned).Cut
        (fun contents => (bootMain misaligned abi boot contents).1) before after) :
      AgreeOutside InUpdate after before := fun address outside =>
    cut_frame _ _ _ _ _ cut fun operation issued touched =>
      outside (quiet_boot_touched misaligned abi before boot quiet (size before installing)
        operation address issued touched)
  apply recovery_goal (picoFlash misaligned) (bootMain misaligned abi) Quiet
    (fun contents => Installing abi stored contents ∧ AgreeOutside InUpdate contents stored)
    (fun contents => AgreeOutside InUpdate contents stored) ?_ ?_ stored final ?_ boots
  · rintro boot before cut quiet ⟨installing, agree⟩ lost
    refine ⟨boot_cut misaligned abi boot stored before cut quiet enabled fits installing lost, ?_⟩
    intro address outside
    exact (frame boot before cut quiet installing lost address outside).trans (agree address outside)
  · rintro boot before quiet ⟨installing, agree⟩ _ address outside
    exact (frame boot before _ quiet installing (cut_run _ _ before) address outside).trans
      (agree address outside)
  · exact ⟨⟨fun _ _ => rfl, Or.inl fun _ _ => rfl⟩, fun _ _ => rfl⟩

end Boots

/-- A field of one page of the record is loaded as it was saved once that page is programmed. -/
theorem field_after (before : Contents UInt8) (record : Pointer) (issued start width : Nat)
    (inside : start + width ≤ abi.sizeofAppCommon) (programmed : start + width ≤ (issued - 1) * 256) :
    loadField (storedConfig ((picoFlash misaligned).applyAll
        ((saveFlashCommonConfigInfo misaligned abi record before).take issued) before)) start width =
      loadField record start width := by
  apply loadField_congr
  intro position low high
  have loaded := config_after misaligned abi before record (fun _ => 0) issued position (by omega)
  rw [loadFlashCommonConfigInfo, copyBytes_same _ _ _ position (by omega)] at loaded
  rw [storedConfig, loaded, if_neg (by omega), if_pos (by omega)]

/-- The request of an interrupted save is the old one, or absent, or the new one with its
size and checksum: the three fields stand in the same page. -/
theorem request_together (record : Pointer) (before after : Contents UInt8)
    (cut : (picoFlash misaligned).Cut (saveFlashCommonConfigInfo misaligned abi record)
      before after) :
    SameObject abi.sizeofAppCommon (storedConfig after) (storedConfig before) ∨
    startFirmwareOtaStatus abi (storedConfig after) ≠ startFwOtaEnable ∨
    (startFirmwareOtaStatus abi (storedConfig after) = startFirmwareOtaStatus abi record ∧
      firmwareSize abi (storedConfig after) = firmwareSize abi record ∧
      firmwareCrc abi (storedConfig after) = firmwareCrc abi record) := by
  obtain ⟨issued, rfl⟩ := cut
  have fields := abi.otaInfo_inside
  have bound := abi.sizeofAppCommon_bound
  have width := abi.enum_size
  have page : 768 ≤ abi.otaInfoOffset := by
    simp only [Abi.otaInfoOffset, Abi.sizeofDeviceInfo]
    omega
  have loaded (position : Nat) (inside : position < abi.sizeofAppCommon) :=
    config_after misaligned abi before record (fun _ => 0) issued position inside
  by_cases untouched : issued = 0
  · left
    intro position inside
    have byte := loaded position inside
    rw [if_pos untouched, loadFlashCommonConfigInfo, loadFlashCommonConfigInfo,
      copyBytes_same _ _ _ position inside, copyBytes_same _ _ _ position inside] at byte
    exact byte
  · right
    by_cases programmed : 1024 ≤ (issued - 1) * 256
    · right
      refine ⟨?_, ?_, ?_⟩
      · apply field_after misaligned abi before record issued
        · simp only [Abi.startFirmwareOtaStatusOffset]
          omega
        · simp only [Abi.startFirmwareOtaStatusOffset]
          omega
      · apply field_after misaligned abi before record issued
        · simp only [Abi.firmwareSizeOffset]
          omega
        · simp only [Abi.firmwareSizeOffset]
          omega
      · apply field_after misaligned abi before record issued
        · simp only [Abi.firmwareCrcOffset]
          omega
        · simp only [Abi.firmwareCrcOffset]
          omega
    · left
      apply not_enabled
      have inside : abi.startFirmwareOtaStatusOffset < abi.sizeofAppCommon := by
        simp only [Abi.startFirmwareOtaStatusOffset]
        omega
      have byte := loaded _ inside
      have blank : ¬ abi.startFirmwareOtaStatusOffset < (issued - 1) * 256 := by
        simp only [Abi.startFirmwareOtaStatusOffset]
        omega
      rw [if_neg untouched, if_neg blank, loadFlashCommonConfigInfo,
        copyBytes_same _ _ _ _ inside] at byte
      rw [storedConfig, byte]
      decide

section Documents
variable (coreHttp : CoreHttp) (json : Json) (current : Version) (world : DownloadWorld)

/-- The counts of the download's passes fit the OTA area. -/
def DownloadFits : Prop :=
  world.exchange.httpStatus = .insufficientMemory →
    CountsFit world.exchange.delivered.contentLength 0
      (receivedCounts world.stack world.exchange.delivered.pBody world.incoming world.first
        world.passes)

/-- A callback whose counts fit stays in the OTA area. -/
theorem callback_calls (downloadFits : DownloadFits world) (contents : Contents UInt8)
    (operation : Operation UInt8)
    (issued : operation ∈ (otaHttpSendRequestCallback misaligned world.stack world.exchange
      world.incoming world.first world.passes).flash contents) : InOtaArea operation := by
  simp only [otaHttpSendRequestCallback] at issued
  by_cases oversized : world.exchange.httpStatus = .insufficientMemory
  · rw [if_pos oversized] at issued
    have confined := (loop_confined_iff misaligned world.stack world.exchange.delivered
      world.incoming world.first world.passes 0).mpr (downloadFits oversized)
    exact confined.calls contents operation issued
  · rw [if_neg oversized] at issued
    cases issued

/-- A download whose counts fit stays in the OTA area. -/
theorem download_within (downloadFits : DownloadFits world) (url : List UInt8) (download : Download)
    (located : httpDownload misaligned coreHttp world url = some download) :
    Within (picoFlash misaligned) (InArea .ota) download.flash := by
  simp only [httpDownload] at located
  cases returned : httpGet coreHttp world.globals url true true world.network
      (otaHttpSendRequestCallback misaligned world.stack world.exchange world.incoming world.first
        world.passes).returnStatus with
  | none => simp [returned] at located
  | some http =>
    simp only [returned, Option.bind_eq_bind, Option.bind_some] at located
    cases located
    by_cases requested : http.requested = true
    · simp only [if_pos requested]
      intro contents operation issued address touched
      have inArea : ¬ OutsideOta address := fun outside =>
        inOtaArea_untouched misaligned operation address
          (callback_calls misaligned world downloadFits contents operation issued) outside touched
      unfold OutsideOta at inArea
      refine ⟨show 0x140000 ≤ address from ?_, show address < 0x140000 + 0x80000 from ?_⟩
      · omega
      · omega
    · simp only [if_neg requested]
      rintro contents operation ⟨⟩

/-- The download of an attempt is the one `http_get` ran, whatever the verdict. -/
theorem attempt_download (url : List UInt8) (fwSize fwCrc : Nat) (contents : Contents UInt8)
    (result : DownloadResult)
    (returned : otaDownloadFirmware misaligned coreHttp world url fwSize fwCrc contents =
      some result) :
    httpDownload misaligned coreHttp world url = some result.download := by
  simp only [otaDownloadFirmware] at returned
  cases located : httpDownload misaligned coreHttp world url with
  | none => simp [located] at returned
  | some download =>
    simp only [located, Option.bind_eq_bind, Option.bind_some] at returned
    by_cases failed : download.httpResult = -1
    · rw [if_pos failed] at returned
      cases returned
      rfl
    · rw [if_neg failed] at returned
      by_cases empty : download.httpResult = -2
      · rw [if_pos empty] at returned
        cases returned
        rfl
      · rw [if_neg empty] at returned
        by_cases mismatch : (crc16Ccitt (flashPointer ((picoFlash misaligned).run download.flash
            contents) flashTempFwStartAddr) fwSize).toNat ≠ fwCrc
        · rw [if_pos mismatch] at returned
          cases returned
          rfl
        · rw [if_neg mismatch] at returned
          cases returned
          rfl

/-- What a document writes: the OTA area alone when it saves no request, and otherwise the
download first and then the armed record. -/
theorem document_flash (downloadFits : DownloadFits world) (pAppCommon : Pointer)
    (execution : JobExecution) (contents : Contents UInt8) (result : DocumentResult)
    (returned : startJobDocument misaligned coreHttp abi json current world pAppCommon execution
      contents = some result) :
    (result.saved = none ∧ Within (picoFlash misaligned) (InArea .ota) result.flash) ∨
    ∃ download record,
      Accepted misaligned coreHttp json current world execution contents download ∧
      Within (picoFlash misaligned) (InArea .ota) download.flash ∧
      result.saved = some record ∧
      firmwareSize abi record = jobOtaSize (parsedParams json execution).2 ∧
      firmwareCrc abi record = jobOtaCrc (parsedParams json execution).2 ∧
      startFirmwareOtaStatus abi record = startFwOtaEnable ∧
      result.flash = (picoFlash misaligned).andThen download.flash
        (saveFlashCommonConfigInfo misaligned abi record) := by
  have nothing : Within (picoFlash misaligned) (InArea .ota) idle := by
    rintro contents operation ⟨⟩
  simp only [startJobDocument] at returned
  by_cases ota : strncmpEqual 4 execution.jobType awsJobTypeOta = true
  · rw [if_pos ota] at returned
    by_cases unparsed : (parsedParams json execution).1 = false
    · rw [if_pos unparsed] at returned
      cases returned
      exact Or.inl ⟨rfl, nothing⟩
    · rw [if_neg unparsed] at returned
      by_cases old : isUpperVersionFw current
          (jobOtaText (parsedParams json execution).2 firmwareVersionOffset) = false
      · rw [if_pos old] at returned
        cases returned
        exact Or.inl ⟨rfl, nothing⟩
      · rw [if_neg old] at returned
        cases downloaded : otaDownloadFirmware misaligned coreHttp world
            (jobOtaText (parsedParams json execution).2 firmwareUrlOffset)
            (jobOtaSize (parsedParams json execution).2)
            (jobOtaCrc (parsedParams json execution).2) contents with
        | none => simp [downloaded] at returned
        | some attempt =>
          have located := attempt_download misaligned coreHttp world _ _ _ contents attempt downloaded
          have within := download_within misaligned coreHttp world downloadFits _ _ located
          simp only [downloaded, Option.bind_eq_bind, Option.bind_some] at returned
          by_cases refused : attempt.ret = false
          · rw [if_pos refused] at returned
            cases returned
            exact Or.inl ⟨rfl, within⟩
          · rw [if_neg refused] at returned
            have accepted : attempt.ret = true := eq_true_of_ne_false refused
            obtain ⟨_, answered, checksum⟩ :=
              download_accepted misaligned coreHttp world _ _ _ contents attempt downloaded accepted
            cases returned
            obtain ⟨status, size, crc⟩ := savedRecord_fields abi world.stack
              (setStartFirmwareOtaStatus abi pAppCommon startFwOtaDisable)
              (parsedParams json execution).2
            exact Or.inr ⟨attempt.download, _, ⟨ota, eq_true_of_ne_false unparsed,
              eq_true_of_ne_false old, located, answered, checksum⟩, within, rfl, size, crc, status,
              rfl⟩
  · rw [if_neg ota] at returned
    left
    by_cases test : strncmpEqual 5 execution.jobType awsJobTypeTest = true
    · rw [if_pos test] at returned
      cases returned
      exact ⟨rfl, nothing⟩
    · rw [if_neg test] at returned
      cases returned
      exact ⟨rfl, nothing⟩

end Documents

/-- What the OTA area is written to leaves the stored configuration. -/
theorem config_kept (before after : Contents UInt8)
    (agree : AgreeOutside (InArea .ota) after before) :
    SameObject abi.sizeofAppCommon (storedConfig after) (storedConfig before) := by
  intro position inside
  have outside : ¬ InArea .ota (0x1C0000 + position) := by
    unfold InArea
    rw [Area.offset_exact]
    simp only [applicationSize]
    omega
  simp only [storedConfig, flashPointer, config_offset]
  exact agree _ outside

theorem app_outside_ota (address : Nat) (inside : InArea .app address) : ¬ InArea .ota address := by
  unfold InArea at inside ⊢
  rw [Area.offset_exact] at inside ⊢
  simp only [applicationSize] at inside ⊢
  omega

theorem app_outside_config (address : Nat) (inside : InArea .app address) :
    ¬ (0x1C0000 ≤ address ∧ address < 0x1C1000) := by
  unfold InArea at inside
  rw [Area.offset_exact] at inside
  simp only [applicationSize] at inside
  omega

/-- Without a request the device comes back with what the interruption left. -/
theorem calm_boots (before cut final : Contents UInt8)
    (agree : AgreeOutside (fun address => InArea .ota address ∨
      (0x1C0000 ≤ address ∧ address < 0x1C1000)) cut before)
    (disabled : startFirmwareOtaStatus abi (storedConfig cut) ≠ startFwOtaEnable)
    (boots : (picoFlash misaligned).Recovery (bootMain misaligned abi) Quiet cut final) :
    AppUnchanged before final ∧ AgreeOutside InUpdate final before := by
  rw [disabled_boots misaligned abi cut final disabled boots]
  constructor
  · intro address inside
    apply agree address
    rintro (ota | config)
    · exact app_outside_ota address inside ota
    · exact app_outside_config address inside config
  · intro address outside
    apply agree address
    rintro (ota | config)
    · exact outside (Or.inr (Or.inl ota))
    · exact outside (Or.inr (Or.inr config))

/-- With the request of a checked image the device comes back with that image. -/
theorem armed_boots (downloaded cut final : Contents UInt8) (size crc : Nat)
    (fits : size ≤ applicationSize)
    (checked : (crc16Ccitt (flashPointer downloaded flashTempFwStartAddr) size).toNat = crc)
    (agree : AgreeOutside (fun address => 0x1C0000 ≤ address ∧ address < 0x1C1000) cut downloaded)
    (enabled : startFirmwareOtaStatus abi (storedConfig cut) = startFwOtaEnable)
    (requested : firmwareSize abi (storedConfig cut) = size)
    (boots : (picoFlash misaligned).Recovery (bootMain misaligned abi) Quiet cut final) :
    Brought size crc downloaded final := by
  obtain ⟨installed, unchanged⟩ := enabled_boots misaligned abi cut final enabled
    (by rw [requested]; exact fits) boots
  rw [requested] at installed
  have kept : OtaUnchanged downloaded final := by
    intro position inside
    have bound : position < 0x80000 := inside
    exact (unchanged position inside).trans (agree _ (by omega))
  refine ⟨⟨installed, ?_⟩, kept⟩
  rw [installed_checksum size fits downloaded final installed kept, checked]

section Updates
variable (coreHttp : CoreHttp) (json : Json) (current : Version) (world : DownloadWorld)

/-- The app area holds the image that the job document announces. -/
abbrev HoldsAnnounced (execution : JobExecution) (contents : Contents UInt8) : Prop :=
  HoldsImage (jobOtaSize (parsedParams json execution).2) (jobOtaCrc (parsedParams json execution).2)
    contents

/-- A save of the armed record, cut short or completed, brings back the old firmware or the
downloaded image. -/
theorem save_boots (before downloaded cut final : Contents UInt8) (record : Pointer) (size crc : Nat)
    (kept : AgreeOutside (InArea .ota) downloaded before)
    (calm : startFirmwareOtaStatus abi (storedConfig before) ≠ startFwOtaEnable)
    (fits : size ≤ applicationSize)
    (checked : (crc16Ccitt (flashPointer downloaded flashTempFwStartAddr) size).toNat = crc)
    (requested : firmwareSize abi record = size)
    (lost : (picoFlash misaligned).Cut (saveFlashCommonConfigInfo misaligned abi record)
      downloaded cut)
    (boots : (picoFlash misaligned).Recovery (bootMain misaligned abi) Quiet cut final) :
    (AppUnchanged before final ∨ Brought size crc downloaded final) ∧
      AgreeOutside InUpdate final before := by
  have sector : AgreeOutside (fun address => 0x1C0000 ≤ address ∧ address < 0x1C1000) cut downloaded :=
    Within.cut (operation_within misaligned abi (.saveCommonConfigInfo record) True.intro)
      downloaded cut lost
  have agree : AgreeOutside (fun address => InArea .ota address ∨
      (0x1C0000 ≤ address ∧ address < 0x1C1000)) cut before := by
    intro address outside
    exact (sector address fun config => outside (Or.inr config)).trans
      (kept address fun ota => outside (Or.inl ota))
  have disabled : startFirmwareOtaStatus abi (storedConfig downloaded) ≠ startFwOtaEnable := by
    rw [status_same abi _ _ (config_kept abi before downloaded kept)]
    exact calm
  by_cases enabled : startFirmwareOtaStatus abi (storedConfig cut) = startFwOtaEnable
  · rcases request_together misaligned abi record downloaded cut lost with old | absent | new
    · rw [status_same abi _ _ old] at enabled
      exact absurd enabled disabled
    · exact absurd enabled absent
    · have image := armed_boots misaligned abi downloaded cut final size crc fits checked sector
        enabled (new.2.1.trans requested) boots
      have frame := boots_frame misaligned abi cut final enabled
        (by rw [new.2.1, requested]; exact fits) boots
      refine ⟨Or.inr image, ?_⟩
      intro address outside
      exact (frame address outside).trans (agree address fun inside =>
        outside (inside.elim (fun ota => Or.inr (Or.inl ota)) fun config => Or.inr (Or.inr config)))
  · obtain ⟨unchanged, frame⟩ := calm_boots misaligned abi before cut final agree enabled boots
    exact ⟨Or.inl unchanged, frame⟩

/-- A completed save of the armed record brings back the downloaded image. -/
theorem saved_boots (downloaded final : Contents UInt8) (record : Pointer) (size crc : Nat)
    (fits : size ≤ applicationSize)
    (checked : (crc16Ccitt (flashPointer downloaded flashTempFwStartAddr) size).toNat = crc)
    (requested : firmwareSize abi record = size)
    (enabled : startFirmwareOtaStatus abi record = startFwOtaEnable)
    (boots : (picoFlash misaligned).Recovery (bootMain misaligned abi) Quiet
      ((picoFlash misaligned).run (saveFlashCommonConfigInfo misaligned abi record) downloaded)
      final) : Brought size crc downloaded final := by
  have stored := save_config_run misaligned abi record downloaded
  have sector := Within.cut (operation_within misaligned abi (.saveCommonConfigInfo record)
    True.intro) downloaded _ (cut_run _ _ downloaded)
  exact armed_boots misaligned abi downloaded _ final size crc fits checked sector
    ((status_same abi _ _ stored).trans enabled) ((size_same abi _ _ stored).trans requested) boots

/-- The image of a download was brought to the app area, as the job document announces it. -/
abbrev BroughtAnnounced (execution : JobExecution) (before : Contents UInt8) (download : Download)
    (final : Contents UInt8) : Prop :=
  Brought (jobOtaSize (parsedParams json execution).2) (jobOtaCrc (parsedParams json execution).2)
    ((picoFlash misaligned).run download.flash before) final

section Attempt
variable (downloadFits : DownloadFits world) (pAppCommon : Pointer)
  (execution : JobExecution) (before cut final : Contents UInt8) (result : DocumentResult)
  (calm : startFirmwareOtaStatus abi (storedConfig before) ≠ startFwOtaEnable)
  (fits : jobOtaSize (parsedParams json execution).2 ≤ applicationSize)
  (returned : startJobDocument misaligned coreHttp abi json current world pAppCommon execution
    before = some result)

include downloadFits calm fits returned in
/-- A document that is cut short brings back the old firmware, or its checked image if it saved
the request. -/
theorem interrupted_document (lost : (picoFlash misaligned).Cut result.flash before cut)
    (boots : (picoFlash misaligned).Recovery (bootMain misaligned abi) Quiet cut final) :
    (AppUnchanged before final ∨ (result.saved.isSome = true ∧ ∃ download,
      Accepted misaligned coreHttp json current world execution before download ∧
      BroughtAnnounced misaligned json execution before download final)) ∧
    AgreeOutside InUpdate final before := by
  have onlyOta (routine : Routine UInt8) (within : Within (picoFlash misaligned) (InArea .ota) routine)
      (interrupted : (picoFlash misaligned).Cut routine before cut) :
      AppUnchanged before final ∧ AgreeOutside InUpdate final before := by
    have agree := within.cut before cut interrupted
    apply calm_boots misaligned abi before cut final
      (fun address outside => agree address fun ota => outside (Or.inl ota)) _ boots
    rw [status_same abi _ _ (config_kept abi before cut agree)]
    exact calm
  rcases document_flash misaligned abi coreHttp json current world downloadFits pAppCommon execution
    before result returned with ⟨_, within⟩ |
      ⟨download, record, accepted, within, saved, size, _, _, flash⟩
  · exact (onlyOta result.flash within lost).imp Or.inl id
  · have kept := within.cut before _ (cut_run (picoFlash misaligned) _ before)
    rw [flash, cut_andThen] at lost
    rcases lost with downloading | saving
    · exact (onlyOta download.flash within downloading).imp Or.inl id
    · obtain ⟨outcome, frame⟩ := save_boots misaligned abi before _ cut final record _ _ kept calm
        fits accepted.checksum size saving boots
      refine ⟨outcome.imp id fun image => ⟨?_, download, accepted, image⟩, frame⟩
      rw [saved]
      rfl

include downloadFits fits returned in
/-- A document that saved the request and was not cut short brings its checked image. -/
theorem completed_document (armed : result.saved.isSome = true)
    (boots : (picoFlash misaligned).Recovery (bootMain misaligned abi) Quiet
      ((picoFlash misaligned).run result.flash before) final) :
    ∃ download, Accepted misaligned coreHttp json current world execution before download ∧
      BroughtAnnounced misaligned json execution before download final := by
  rcases document_flash misaligned abi coreHttp json current world downloadFits pAppCommon execution
    before result returned with ⟨nothing, _⟩ |
      ⟨download, record, accepted, _, _, size, _, enabled, flash⟩
  · rw [nothing] at armed
    cases armed
  · rw [flash, run_andThen] at boots
    exact ⟨download, accepted,
      saved_boots misaligned abi _ final record _ _ fits accepted.checksum size enabled boots⟩

end Attempt

/-- An update is applied whole or not at all. Let a job document be started on a flash that
holds no request, with an announced size and a download that fit the OTA area, let power fail
at any point of what it writes or not at all, and let quiet boots follow, however often they
lose power in turn. When the jump is reached, the app area is byte for byte as it was, or it
holds the image of the OTA area with the announced checksum; it holds the image if nothing was
lost of a document that armed the update. All else, the factory image and the certificates
among it, is unchanged. -/
theorem update_all_or_nothing (downloadFits : DownloadFits world) (pAppCommon : Pointer)
    (execution : JobExecution) (before cut final : Contents UInt8) (result : DocumentResult)
    (calm : startFirmwareOtaStatus abi (storedConfig before) ≠ startFwOtaEnable)
    (fits : jobOtaSize (parsedParams json execution).2 ≤ applicationSize)
    (returned : startJobDocument misaligned coreHttp abi json current world pAppCommon execution
      before = some result)
    (lost : (picoFlash misaligned).Cut result.flash before cut)
    (boots : (picoFlash misaligned).Recovery (bootMain misaligned abi) Quiet cut final) :
    (AppUnchanged before final ∨ (result.saved.isSome = true ∧ HoldsAnnounced json execution final)) ∧
    (result.saved.isSome = true → cut = (picoFlash misaligned).run result.flash before →
      HoldsAnnounced json execution final) ∧
    AgreeOutside InUpdate final before := by
  obtain ⟨outcome, frame⟩ := interrupted_document misaligned abi coreHttp json current world
    downloadFits pAppCommon execution before cut final result calm fits returned lost boots
  refine ⟨?_, ?_, frame⟩
  · rcases outcome with unchanged | ⟨armed, _, _, brought⟩
    · exact Or.inl unchanged
    · exact Or.inr ⟨armed, brought.image⟩
  · rintro armed rfl
    obtain ⟨_, _, brought⟩ := completed_document misaligned abi coreHttp json current world
      downloadFits pAppCommon execution before final result fits returned armed boots
    exact brought.image

end Updates

/-- A job downloads its sixteen bytes. Power fails when the sector of the configuration has
been erased for the request, or not at all, and the next boot reaches the jump. -/
theorem interrupted_update :
    let part := picoFlash (.ignored UInt8 256)
    let boot := fun contents => (bootMain (.ignored UInt8 256) shortEnumAbi silentBoot contents).1
    ∃ result, startJobDocument (.ignored UInt8 256) exampleCoreHttp shortEnumAbi flatJson
        applicationVersion sendingZeros (fun _ => 0) staleJob (fun _ => 0) = some result ∧
      130 < (result.flash fun _ => 0).length ∧
      (let final := part.run boot (part.applyAll ((result.flash fun _ => 0).take 130) fun _ => 0)
      (AppUnchanged (fun _ => 0) final ∨
        result.saved.isSome = true ∧ HoldsAnnounced flatJson staleJob final) ∧
        AgreeOutside InUpdate final fun _ => 0) ∧
      HoldsAnnounced flatJson staleJob (part.run boot (part.run result.flash fun _ => 0)) := by
  intro part boot
  have carried : (startJobDocument (.ignored UInt8 256) exampleCoreHttp shortEnumAbi flatJson
      applicationVersion sendingZeros (fun _ => 0) staleJob (fun _ => 0)).map (fun result =>
        (result.saved.isSome, decide (130 < (result.flash fun _ => 0).length))) =
      some (true, true) := by decide +kernel
  obtain ⟨result, returned, values⟩ := Option.map_eq_some_iff.mp carried
  obtain ⟨armed, long⟩ := Prod.mk.inj values
  have fits : DownloadFits sendingZeros := by
    intro _
    decide +kernel
  have jumps (contents : Contents UInt8) : part.Recovery
      (bootMain (.ignored UInt8 256) shortEnumAbi) Quiet contents (part.run boot contents) :=
    .completed silentBoot contents silentBoot_quiet rfl
  have update (cut : Contents UInt8) (lost : part.Cut result.flash (fun _ => 0) cut) :=
    update_all_or_nothing (.ignored UInt8 256) shortEnumAbi exampleCoreHttp flatJson
      applicationVersion sendingZeros fits (fun _ => 0) staleJob (fun _ => 0) cut _ result
      (by decide) (by decide +kernel) returned lost (jumps cut)
  obtain ⟨outcome, _, frame⟩ := update _ ⟨130, rfl⟩
  exact ⟨result, returned, of_decide_eq_true long, ⟨outcome, frame⟩,
    (update _ (cut_run _ _ _)).2.1 armed rfl⟩

section LaterBoots
variable (stored final : Contents UInt8)

/-- A boot that reaches the jump leaves no request. -/
theorem jump_withdraws (boot : Boot) (quiet : Quiet boot)
    (done : (bootMain misaligned abi boot stored).2 = true) :
    startFirmwareOtaStatus abi (storedConfig ((picoFlash misaligned).run
      (fun contents => (bootMain misaligned abi boot contents).1) stored)) ≠ startFwOtaEnable := by
  by_cases enabled : startFirmwareOtaStatus abi (storedConfig stored) = startFwOtaEnable
  · rcases quiet_boot_enabled misaligned abi boot stored quiet enabled with
      waiting | ⟨record, _, operations⟩
    · rw [waiting] at done
      cases done
    · have saved := save_config_run misaligned abi
        (setStartFirmwareOtaStatus abi record startFwOtaDisable)
        ((picoFlash misaligned).run
          (copyOtaAreaDataToAppArea misaligned (firmwareSize abi record)) stored)
      have run : (picoFlash misaligned).run
          (fun contents => (bootMain misaligned abi boot contents).1) stored =
          (picoFlash misaligned).run (startOta misaligned abi record) stored := by
        simp only [FlashPart.run, operations]
      rw [run, startOta, run_andThen, status_same abi _ _ saved]
      exact withdrawn_not_enabled abi record
  · simp only [FlashPart.run, quiet_boot_disabled misaligned abi boot stored quiet enabled,
      applyAll_nil]
    exact enabled

/-- Nor do quiet boots that are interrupted and reach the jump in the end. -/
theorem recovered_calm
    (boots : (picoFlash misaligned).Recovery (bootMain misaligned abi) Quiet stored final) :
    startFirmwareOtaStatus abi (storedConfig final) ≠ startFwOtaEnable :=
  recovery_goal (picoFlash misaligned) (bootMain misaligned abi) Quiet (fun _ => True)
    (fun contents => startFirmwareOtaStatus abi (storedConfig contents) ≠ startFwOtaEnable)
    (fun _ _ _ _ _ _ => True.intro)
    (fun boot before quiet _ done => jump_withdraws misaligned abi before boot quiet done)
    stored final True.intro boots

/-- An update is installed once: after quiet boots, interrupted however often, have reached
the jump, a further quiet boot issues no flash operation. So whether they are interrupted or
not, further boots leave the whole flash as it is. -/
theorem installed_once
    (boots : (picoFlash misaligned).Recovery (bootMain misaligned abi) Quiet stored final) :
    (∀ boot, Quiet boot → (bootMain misaligned abi boot final).1 = [] ∧
      ∀ cut, (picoFlash misaligned).Cut
        (fun contents => (bootMain misaligned abi boot contents).1) final cut → cut = final) ∧
    ∀ again, (picoFlash misaligned).Recovery (bootMain misaligned abi) Quiet final again →
      again = final := by
  have calm := recovered_calm misaligned abi stored final boots
  refine ⟨fun boot quiet => ?_, fun again => disabled_boots misaligned abi final again calm⟩
  have idle := quiet_boot_disabled misaligned abi boot final quiet calm
  refine ⟨idle, ?_⟩
  rintro cut ⟨issued, rfl⟩
  simp only [idle, List.take_nil, applyAll_nil]

end LaterBoots

/-- The first boot installs the requested update, and the second leaves it. -/
theorem second_boot_idle :
    let booted := (picoFlash (.ignored UInt8 256)).run fun contents =>
      (bootMain (.ignored UInt8 256) shortEnumAbi silentBoot contents).1
    (bootMain (.ignored UInt8 256) shortEnumAbi silentBoot (booted requestedUpdate)).1 = [] ∧
      booted (booted requestedUpdate) = booted requestedUpdate := by
  intro booted
  have jumps (contents : Contents UInt8) : (picoFlash (.ignored UInt8 256)).Recovery
      (bootMain (.ignored UInt8 256) shortEnumAbi) Quiet contents (booted contents) :=
    .completed silentBoot contents silentBoot_quiet rfl
  obtain ⟨idle, again⟩ := installed_once (.ignored UInt8 256) shortEnumAbi requestedUpdate _
    (jumps requestedUpdate)
  exact ⟨(idle silentBoot silentBoot_quiet).1, again _ (jumps _)⟩

end WiznetEaas.UpdateAtomicity
