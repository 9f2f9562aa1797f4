import WiznetEaas.FirmwareVersion
import WiznetEaas.ReleasedImage

/-!
# The firmware over the life of a device

A device is given one job document after the other, power fails while it carries them out or
boots, and what runs in between is the firmware that stands in its application area, with the
version it was built as. Over such a life the firmware in place is the first one or one of the
images that were announced and checked, in the order they were announced in, and no component
of its version ever gets smaller.
-/

namespace WiznetEaas.UpdateHistory

open NorFlash ByteMemory CStrings FlashControl FlashRecords FlashAreas FlashStores AreaCopies Crc16
  DeviceCommon HttpInterface OtaDownload JobDocument FirmwareArming FirmwareVersion FirmwareInstall
  BootLoader Restarts UpdateAtomicity OtaParams ReleasedImage

/-- No component is smaller. -/
structure NotOlder (older newer : Version) : Prop where
  major : older.major ≤ newer.major
  minor : older.minor ≤ newer.minor
  patch : older.patch ≤ newer.patch

theorem NotOlder.refl (version : Version) : NotOlder version version :=
  ⟨Nat.le_refl _, Nat.le_refl _, Nat.le_refl _⟩

theorem NotOlder.trans {older version newer : Version} (first : NotOlder older version)
    (second : NotOlder version newer) : NotOlder older newer :=
  ⟨Nat.le_trans first.major second.major, Nat.le_trans first.minor second.minor,
    Nat.le_trans first.patch second.patch⟩

/-- The version that a firmware in the application area was built as. -/
structure Firmware where
  version : Contents UInt8 → Version
  inApp : ∀ before after, AppUnchanged before after → version after = version before

/-- What a document is started with. -/
structure UpdateAttempt where
  world : DownloadWorld
  pAppCommon : Pointer
  execution : JobExecution

variable (misaligned : Misalignment UInt8 userFlashPageSize) (abi : Abi) (coreHttp : CoreHttp)
  (json : Json) (firmware : Firmware)

section Announced
variable (attempt : UpdateAttempt)

def UpdateAttempt.size : Nat := jobOtaSize (parsedParams json attempt.execution).2

def UpdateAttempt.checksum : Nat := jobOtaCrc (parsedParams json attempt.execution).2

/-- The numbers of the announced version. -/
def UpdateAttempt.numbers : Int × Int × Int :=
  scanTriple (jobOtaText (parsedParams json attempt.execution).2 firmwareVersionOffset)

/-- A version has these numbers. -/
def Numbered (version : Version) (numbers : Int × Int × Int) : Prop :=
  numbers = (↑version.major, ↑version.minor, ↑version.patch)

/-- The bytes of the announced size in the OTA area. -/
def UpdateAttempt.otaImage (contents : Contents UInt8) : List UInt8 :=
  (List.range (attempt.size json)).map fun position => contents (0x140000 + position)

theorem UpdateAttempt.otaImage_length (contents : Contents UInt8) :
    (attempt.otaImage json contents).length = attempt.size json := by
  rw [otaImage, List.length_map, List.length_range]

theorem UpdateAttempt.otaImage_getD (contents : Contents UInt8) (position : Nat)
    (inside : position < attempt.size json) :
    (attempt.otaImage json contents).getD position 0 = contents (0x140000 + position) := by
  rw [List.getD_eq_getElem _ _ (by rw [otaImage_length]; exact inside)]
  simp only [otaImage, List.getElem_map, List.getElem_range]

end Announced

/-- A document is started by the firmware in place, power fails at some operation of it or not
at all, and boots that may lose power in turn reach the jump. The announced size fits the area
and so does the download; and an image that passes the checks was built as the version it is
announced as. -/
structure Episode (before : Contents UInt8) (attempt : UpdateAttempt) (after : Contents UInt8) :
    Prop where
  downloadFits : DownloadFits attempt.world
  fits : attempt.size json ≤ applicationSize
  genuine : ∀ download, Accepted misaligned coreHttp json (firmware.version before) attempt.world
      attempt.execution before download →
    ∀ final, BeginsWith (attempt.otaImage json ((picoFlash misaligned).run download.flash before))
        final →
      Numbered (firmware.version final) (attempt.numbers json)
  carried : ∃ result cut, startJobDocument misaligned coreHttp abi json (firmware.version before)
      attempt.world attempt.pAppCommon attempt.execution before = some result ∧
    (picoFlash misaligned).Cut result.flash before cut ∧
    (picoFlash misaligned).Recovery (bootMain misaligned abi) Quiet cut after

/-- One episode after the other. -/
inductive Life (first : Contents UInt8) : List UpdateAttempt → Contents UInt8 → Prop where
  | delivered : Life first [] first
  | next (attempts : List UpdateAttempt) (attempt : UpdateAttempt) (before after : Contents UInt8)
      (earlier : Life first attempts before)
      (episode : Episode misaligned abi coreHttp json firmware before attempt after) :
      Life first (attempts ++ [attempt]) after

/-- An image that was taken over, with the attempt that announced it and the version it was built
as. -/
structure Taken where
  attempt : UpdateAttempt
  image : List UInt8
  version : Version

/-- The image is the announced one. -/
structure Taken.Checked (taken : Taken) : Prop where
  size : taken.image.length = taken.attempt.size json
  fits : taken.image.length ≤ applicationSize
  checksum : (deviceCrc taken.image).toNat = taken.attempt.checksum json
  numbers : Numbered taken.version (taken.attempt.numbers json)

/-- What is in place after the images of a history. -/
def InPlace (first after : Contents UInt8) (history : List Taken) : Prop :=
  match history.getLast? with
  | none => AppUnchanged first after
  | some taken => BeginsWith taken.image after ∧ taken.version = firmware.version after

/-- The images that were taken over in a life: some of the announced ones, in their order, each
checked, the last one in place, and none newer than it. -/
structure Lineage (first : Contents UInt8) (attempts : List UpdateAttempt)
    (after : Contents UInt8) (history : List Taken) : Prop where
  announced : (history.map Taken.attempt).Sublist attempts
  checked : ∀ taken ∈ history, taken.Checked json
  inPlace : InPlace firmware first after history
  newest : NotOlder (firmware.version first) (firmware.version after) ∧
    ∀ taken ∈ history, NotOlder taken.version (firmware.version after)

/-- A firmware stays in place while the application area is unchanged. -/
theorem beginsWith_kept (image : List UInt8) (before after : Contents UInt8)
    (fits : image.length ≤ applicationSize) (begins : BeginsWith image before)
    (unchanged : AppUnchanged before after) : BeginsWith image after := by
  intro position inside
  have bound : image.length ≤ 0x80000 := fits
  have inArea : InArea .app (0x40000 + position) := by
    unfold InArea
    rw [Area.offset_exact]
    show 0x40000 ≤ 0x40000 + position ∧ 0x40000 + position < 0x40000 + 0x80000
    omega
  rw [unchanged _ inArea]
  exact begins position inside

/-- The gate lets no smaller number pass. -/
theorem gate_notOlder (current version : Version) (text : List UInt8)
    (accepted : isUpperVersionFw current text = true) (numbered : Numbered version (scanTriple text)) :
    NotOlder current version := by
  obtain ⟨_, major, minor, patch⟩ := (isUpperVersionFw_iff current text).mp accepted
  rw [numbered] at major minor patch
  exact ⟨Int.ofNat_le.mp major, Int.ofNat_le.mp minor, Int.ofNat_le.mp patch⟩

section Episodes
variable {misaligned abi coreHttp json firmware}
  {first before after : Contents UInt8} {attempts : List UpdateAttempt} {attempt : UpdateAttempt}
  {history : List Taken}

/-- An episode that leaves the application area leaves the lineage. -/
theorem lineage_kept (lineage : Lineage json firmware first attempts before history)
    (unchanged : AppUnchanged before after) :
    Lineage json firmware first (attempts ++ [attempt]) after history := by
  have same := firmware.inApp before after unchanged
  constructor
  · exact lineage.announced.trans (List.sublist_append_left _ _)
  · exact lineage.checked
  · have inPlace := lineage.inPlace
    simp only [InPlace] at inPlace ⊢
    cases latest : history.getLast? with
    | none =>
      rw [latest] at inPlace
      exact fun address inside => (unchanged address inside).trans (inPlace address inside)
    | some taken =>
      rw [latest] at inPlace
      have fits := (lineage.checked taken (List.mem_of_getLast? latest)).fits
      exact ⟨beginsWith_kept taken.image before after fits inPlace.1 unchanged, by rw [same]; exact inPlace.2⟩
  · rw [same]
    exact lineage.newest

/-- An image that was brought to the application area extends the lineage. -/
theorem lineage_extended (lineage : Lineage json firmware first attempts before history)
    (fits : attempt.size json ≤ applicationSize) (download : Download)
    (accepted : Accepted misaligned coreHttp json (firmware.version before) attempt.world
      attempt.execution before download)
    (genuine : ∀ final, BeginsWith
        (attempt.otaImage json ((picoFlash misaligned).run download.flash before)) final →
      Numbered (firmware.version final) (attempt.numbers json))
    (brought : BroughtAnnounced misaligned json attempt.execution before download after) :
    Lineage json firmware first (attempts ++ [attempt]) after (history ++ [⟨attempt,
      attempt.otaImage json ((picoFlash misaligned).run download.flash before),
      firmware.version after⟩]) := by
  let downloaded := (picoFlash misaligned).run download.flash before
  have length := attempt.otaImage_length json downloaded
  have stored : ∀ position, position < (attempt.otaImage json downloaded).length →
      downloaded (0x140000 + position) = (attempt.otaImage json downloaded).getD position 0 := by
    intro position inside
    rw [length] at inside
    exact (attempt.otaImage_getD json downloaded position inside).symm
  have inArea : (attempt.otaImage json downloaded).length ≤ applicationSize := by
    rw [length]
    exact fits
  have begins : BeginsWith (attempt.otaImage json downloaded) after :=
    brought_begins _ _ downloaded after inArea stored (by rw [length]; exact brought)
  have numbered := genuine after begins
  have newer := gate_notOlder _ _ _ accepted.version numbered
  constructor
  · rw [List.map_append]
    exact lineage.announced.append (List.Sublist.refl _)
  · refine List.forall_mem_append.mpr ⟨lineage.checked, List.forall_mem_singleton.mpr ?_⟩
    refine ⟨length, inArea, ?_, numbered⟩
    rw [← stored_checksum _ downloaded stored, length]
    exact accepted.checksum
  · simp only [InPlace, List.getLast?_append, List.getLast?_singleton]
    exact ⟨begins, rfl⟩
  · refine ⟨lineage.newest.1.trans newer, List.forall_mem_append.mpr ⟨?_, ?_⟩⟩
    · exact fun taken member => (lineage.newest.2 taken member).trans newer
    · exact List.forall_mem_singleton.mpr (NotOlder.refl _)

/-- What one episode does to the lineage. -/
theorem episode_lineage
    (episode : Episode misaligned abi coreHttp json firmware before attempt after)
    (calm : startFirmwareOtaStatus abi (storedConfig before) ≠ startFwOtaEnable)
    (lineage : Lineage json firmware first attempts before history) :
    startFirmwareOtaStatus abi (storedConfig after) ≠ startFwOtaEnable ∧
    AgreeOutside InUpdate after before ∧
    ∃ history, Lineage json firmware first (attempts ++ [attempt]) after history := by
  obtain ⟨result, cut, returned, lost, boots⟩ := episode.carried
  obtain ⟨outcome, frame⟩ := interrupted_document misaligned abi coreHttp json _ attempt.world
    episode.downloadFits attempt.pAppCommon attempt.execution before cut after result calm
    episode.fits returned lost boots
  refine ⟨recovered_calm misaligned abi cut after boots, frame, ?_⟩
  rcases outcome with unchanged | ⟨_, download, accepted, brought⟩
  · exact ⟨history, lineage_kept lineage unchanged⟩
  · exact ⟨_, lineage_extended lineage episode.fits download accepted
      (episode.genuine download accepted) brought⟩

end Episodes

/-- Over any life that starts without a request for an update, the firmware in place is the first
one or the last of the images taken over. These are announced ones, in the order of their
announcements, each of the announced size and checksum, and none is newer than the one in place:
no component of the running version ever gets smaller. No jump leaves a request behind, and all
but the areas of an update is as it was. -/
theorem firmware_lineage (first after : Contents UInt8) (attempts : List UpdateAttempt)
    (calm : startFirmwareOtaStatus abi (storedConfig first) ≠ startFwOtaEnable)
    (life : Life misaligned abi coreHttp json firmware first attempts after) :
    startFirmwareOtaStatus abi (storedConfig after) ≠ startFwOtaEnable ∧
    AgreeOutside InUpdate after first ∧
    ∃ history, Lineage json firmware first attempts after history := by
  induction life with
  | delivered =>
    refine ⟨calm, fun _ _ => rfl, [], ?_⟩
    exact ⟨List.Sublist.refl _, by simp, fun _ _ => rfl, NotOlder.refl _, by simp⟩
  | next attempts attempt before after _ episode inductionHypothesis =>
    obtain ⟨stillCalm, frame, history, lineage⟩ := inductionHypothesis
    obtain ⟨calmAfter, newFrame, extended⟩ := episode_lineage episode stillCalm lineage
    exact ⟨calmAfter, fun address outside => (newFrame address outside).trans (frame address outside),
      extended⟩

/-- The version of the small image, and of anything else. -/
def smallFirmware : Firmware where
  version contents := if contents 0x41000 = 0x31 then ⟨1, 0, 1⟩ else applicationVersion
  inApp := by
    intro before after unchanged
    have inArea : InArea .app 0x41000 := by decide
    rw [unchanged _ inArea]

/-- The document that announces it. -/
def smallAttempt : UpdateAttempt where
  world := smallTransfer.world ⟨false, false⟩ ⟨1, true⟩ fun _ => 0
  pAppCommon := fun _ => 0
  execution := smallExecution

/-- What its download leaves has the version of the small image. -/
theorem small_genuine (download : Download)
    (accepted : Accepted (.ignored UInt8 256) exampleCoreHttp stringsJson applicationVersion
      smallAttempt.world smallExecution (fun _ => 0) download) (final : Contents UInt8)
    (begins : BeginsWith (smallAttempt.otaImage stringsJson
      ((picoFlash (.ignored UInt8 256)).run download.flash fun _ => 0)) final) :
    Numbered (smallFirmware.version final) (smallAttempt.numbers stringsJson) := by
  obtain ⟨_, size, _, url, version⟩ := announced_params stringsJson_exact small_announced
  obtain ⟨ran, located, _, stored⟩ := transfer_downloaded (.ignored UInt8 256) exampleCoreHttp
    smallTransfer ⟨false, false⟩ ⟨1, true⟩ (fun _ => 0) smallJob.fwUrl small_reachable
    small_announced.nonempty small_announced.fits
  have downloaded := accepted.downloaded
  rw [url] at downloaded
  cases located.symm.trans downloaded
  have whole : smallAttempt.size stringsJson = 4099 := size.trans smallImage_length
  have inSize : 4096 < smallAttempt.size stringsJson := by
    rw [whole]
    decide
  have sent : smallImage.getD 4096 0 = 0x31 := by
    rw [smallImage, List.getD_append_right _ _ _ _ (Nat.le_of_eq List.length_replicate),
      List.length_replicate]
    rfl
  have head : final 0x41000 = 0x31 := by
    have byte := begins 4096 (by rw [UpdateAttempt.otaImage_length]; exact inSize)
    rw [UpdateAttempt.otaImage_getD _ _ _ _ inSize] at byte
    exact byte.trans ((stored (fun _ => 0) 4096 (size ▸ inSize)).trans sent)
  have built : smallFirmware.version final = ⟨1, 0, 1⟩ := if_pos head
  have numbers : smallAttempt.numbers stringsJson = scanTriple smallJob.fwVersion :=
    congrArg scanTriple version
  rw [built, numbers]
  have scanned : scanTriple smallJob.fwVersion = (1, 0, 1) := by decide +kernel
  exact scanned

/-- The life of a device that is given the small image, and loses power in its install. -/
theorem small_life : ∃ after history,
    Life (.ignored UInt8 256) shortEnumAbi exampleCoreHttp stringsJson smallFirmware (fun _ => 0)
      [smallAttempt] after ∧
    Lineage stringsJson smallFirmware (fun _ => 0) [smallAttempt] after history := by
  obtain ⟨_, size, _, _, _⟩ := announced_params stringsJson_exact small_announced
  obtain ⟨download, located, _⟩ := transfer_downloaded (.ignored UInt8 256) exampleCoreHttp
    smallTransfer ⟨false, false⟩ ⟨1, true⟩ (fun _ => 0) smallJob.fwUrl small_reachable
    small_announced.nonempty small_announced.fits
  obtain ⟨result, returned⟩ := document_returns (.ignored UInt8 256) shortEnumAbi exampleCoreHttp
    stringsJson_exact small_announced (fun _ => 0) (fun _ => 0) _ download located
  have boots : (picoFlash (.ignored UInt8 256)).Recovery
      (bootMain (.ignored UInt8 256) shortEnumAbi) Quiet
      ((picoFlash (.ignored UInt8 256)).run result.flash fun _ => 0) _ :=
    .powerLost silentBoot _ _ _ silentBoot_quiet ⟨129, rfl⟩
      (.completed silentBoot _ silentBoot_quiet rfl)
  have episode : Episode (.ignored UInt8 256) shortEnumAbi exampleCoreHttp stringsJson smallFirmware
      (fun _ => 0) smallAttempt _ := {
    downloadFits := smallTransfer.fits (fun _ => 0) ⟨false, false⟩ ⟨1, true⟩ small_announced.fits
    fits := Nat.le_trans (Nat.le_of_eq size) small_announced.fits
    genuine := small_genuine
    carried := ⟨result, _, returned, cut_run _ _ _, boots⟩ }
  have life := Life.next [] smallAttempt _ _ .delivered episode
  obtain ⟨_, _, history, lineage⟩ := firmware_lineage (.ignored UInt8 256) shortEnumAbi
    exampleCoreHttp stringsJson smallFirmware _ _ _ (by decide) life
  exact ⟨_, history, life, lineage⟩

end WiznetEaas.UpdateHistory
