import WiznetEaas.JobDocument
import WiznetEaas.FlashRecords
import WiznetEaas.OtaArrivals

/-!
# Which job documents arm an update safely

A request for an update is stored when the document is accepted and the checksum
over the OTA area matches. The download itself is only tested for two of the
results of `http_get`, and the announced size is not tested at all. The stored
request is backed by the image of this download when the server is connected and
sends as many bytes as announced, in results of `recv` without an error.
-/

namespace WiznetEaas.FirmwareArming

open NorFlash ByteMemory CStrings FlashControl FlashRecords Crc16 DeviceCommon HttpInterface
  OtaDownload OtaArrivals JobDocument

/-- A stored request is backed by this call's download, and a refused document
stores nothing and does not ask for a reboot. -/
structure ArmsSafely (misaligned : Misalignment UInt8 userFlashPageSize) (abi : Abi)
    (pAppCommon : Pointer) (contents : Contents UInt8) (result : DocumentResult) : Prop where
  backed : ∀ record, result.saved = some record →
    startFirmwareOtaStatus abi record = startFwOtaEnable →
    ∃ download, result.download = some download ∧ download.requested = true ∧
      download.callbackStatus = 0 ∧ download.body.length = firmwareSize abi record ∧
      0 < firmwareSize abi record ∧ firmwareSize abi record ≤ applicationSize ∧
      (crc16Ccitt (flashPointer ((picoFlash misaligned).run download.flash contents)
        flashTempFwStartAddr) (firmwareSize abi record)).toNat = firmwareCrc abi record
  refused : result.ret = false → result.saved = none ∧
    (enableReboot abi pAppCommon = false → enableReboot abi result.appCommon = false)

variable (misaligned : Misalignment UInt8 userFlashPageSize) (coreHttp : CoreHttp) (abi : Abi)
  (json : Json) (current : Version) (world : DownloadWorld)

/-- The parameters `parsing_ota_job_params` finds in the document. -/
abbrev parsedParams (execution : JobExecution) : Bool × Pointer :=
  parsingOtaJobParams json execution.jobDocument
    (copyBytes execution.jobOta (fun _ => 0) sizeofAwsOtaParams)

/-- The tests of the code pass: the document is an OTA document with parameters
and an accepted version, `http_get` returned neither -1 nor -2, and the checksum
over the OTA area matches. -/
structure Accepted (execution : JobExecution) (contents : Contents UInt8) (download : Download) :
    Prop where
  ota : strncmpEqual 4 execution.jobType awsJobTypeOta = true
  parsed : (parsedParams json execution).1 = true
  version : isUpperVersionFw current
    (jobOtaText (parsedParams json execution).2 firmwareVersionOffset) = true
  downloaded : httpDownload misaligned coreHttp world
    (jobOtaText (parsedParams json execution).2 firmwareUrlOffset) = some download
  answered : download.httpResult ≠ -1 ∧ download.httpResult ≠ -2
  checksum : (crc16Ccitt (flashPointer ((picoFlash misaligned).run download.flash contents)
      flashTempFwStartAddr) (jobOtaSize (parsedParams json execution).2)).toNat =
    jobOtaCrc (parsedParams json execution).2

/-- The server was connected, and it sent exactly the announced number of bytes,
which fits the area and is not zero. -/
def SizeVerified (execution : JobExecution) (download : Download) : Prop :=
  world.network.connected = true ∧
    download.body.length = jobOtaSize (parsedParams json execution).2 ∧
    0 < jobOtaSize (parsedParams json execution).2 ∧
    jobOtaSize (parsedParams json execution).2 ≤ applicationSize

/-- `http_get` comes to its connection: no other request runs, and the URL has a known
scheme and an address. -/
def ComesToConnect (globals : HttpGlobals) (network : HttpNetwork) (url : List UInt8) : Prop :=
  globals.httpRunning = false ∧
    ∃ info, parseUrlInfo url httpDomainMaxSize httpPathMaxSize = some info ∧
      (info.port = 443 ∨ info.port = 80) ∧
      (isIpaddr info.address = true ∨ network.dns = dnsRetSuccess)

/-- The document comes to its download: it is an OTA document with parameters and an
accepted version, and its request comes to the connection. -/
structure ComesToDownload (execution : JobExecution) : Prop where
  ota : strncmpEqual 4 execution.jobType awsJobTypeOta = true
  parsed : (parsedParams json execution).1 = true
  version : isUpperVersionFw current
    (jobOtaText (parsedParams json execution).2 firmwareVersionOffset) = true
  request : ComesToConnect world.globals world.network
    (jobOtaText (parsedParams json execution).2 firmwareUrlOffset)

/-- The passes of the receive loop. -/
abbrev worldArrivals : List Arrival :=
  downloadArrivals world.exchange world.incoming world.first world.passes

/-- No call of `recv` fails, if the loop runs. -/
def SteadyWorld : Prop :=
  world.exchange.httpStatus = .insufficientMemory → Steady (worldArrivals world)

/-- The server is connected and, if it completes an oversized response, sends so many bytes
without an error, and they fit the area. -/
structure SendsImage (size : Nat) : Prop where
  connected : world.network.connected = true
  steady : SteadyWorld world
  exact : world.exchange.httpStatus = .insufficientMemory →
    0 < totalBytes (worldArrivals world) →
    world.exchange.delivered.contentLength ≤ totalBytes (worldArrivals world) →
    totalBytes (worldArrivals world) = size ∧ size ≤ applicationSize

/-- The callback returns nothing but 0, -1 and -2. -/
theorem callbackStatus_values (status : HttpStatus) (count : Nat) :
    callbackStatus status count = 0 ∨ callbackStatus status count = -1 ∨
      callbackStatus status count = -2 := by
  simp only [callbackStatus]
  by_cases nothing : count = 0
  · rw [if_pos nothing]
    exact Or.inr (Or.inr rfl)
  · rw [if_neg nothing]
    by_cases failed : status ≠ .success
    · rw [if_pos failed]
      exact Or.inr (Or.inl rfl)
    · rw [if_neg failed]
      exact Or.inl rfl

theorem callback_values (memory : Pointer) (exchange : HttpExchange) (incoming : List UInt8)
    (first : RecvResult) (passes : List Pass) :
    let result := otaHttpSendRequestCallback misaligned memory exchange incoming first passes
    result.returnStatus = 0 ∨ result.returnStatus = -1 ∨ result.returnStatus = -2 := by
  simp only [otaHttpSendRequestCallback]
  by_cases oversized : exchange.httpStatus = .insufficientMemory
  · simp only [if_pos oversized]
    exact callbackStatus_values _ _
  · simp only [if_neg oversized]
    exact callbackStatus_values _ _

/-- A plain HTTP request that is not refused with -1 comes to its connection. It runs the
callback exactly when the socket connects; otherwise it returns the library's network
error. -/
theorem httpGet_answered (globals : HttpGlobals) (url : List UInt8) (callbackRet : Int)
    (result : HttpGetResult)
    (returned : httpGet coreHttp globals url true true world.network callbackRet = some result)
    (answered : result.ret ≠ -1) :
    ComesToConnect globals world.network url ∧ result.requested = world.network.connected ∧
      result.ret = if world.network.connected then callbackRet else coreHttp.networkError := by
  simp only [httpGet] at returned
  by_cases busy : globals.httpRunning = true
  · rw [if_pos busy] at returned
    cases returned
    exact absurd rfl answered
  · rw [if_neg busy] at returned
    cases located : parseUrlInfo url httpDomainMaxSize httpPathMaxSize with
    | none => simp [located] at returned
    | some info =>
      simp only [located, Option.bind_eq_bind, Option.bind_some, httpClose] at returned
      by_cases badPort : info.port ≠ 443 ∧ info.port ≠ 80
      · rw [if_pos badPort] at returned
        cases returned
        exact absurd rfl answered
      · rw [if_neg badPort] at returned
        by_cases unresolved : ¬ isIpaddr info.address = true ∧ world.network.dns ≠ dnsRetSuccess
        · simp only [if_pos unresolved] at returned
          simp at returned
          rw [← returned] at answered
          exact absurd rfl answered
        · simp only [if_neg unresolved] at returned
          have reached : ComesToConnect globals world.network url := by
            refine ⟨eq_false_of_ne_true busy, info, located, ?_, ?_⟩
            · omega
            · rcases Decidable.em (isIpaddr info.address = true) with address | name
              · exact .inl address
              · exact .inr (Decidable.not_not.mp fun other => unresolved ⟨name, other⟩)
          cases connected : world.network.connected with
          | false =>
            simp [connected] at returned
            rw [← returned]
            exact ⟨reached, rfl, rfl⟩
          | true =>
            simp [connected] at returned
            rw [← returned]
            exact ⟨reached, rfl, rfl⟩

/-- The armed record requests an update with the document's parameters. -/
theorem armedRecord_fields (appCommon jobOta : Pointer) :
    startFirmwareOtaStatus abi (armedRecord abi appCommon jobOta) = startFwOtaEnable ∧
      firmwareSize abi (armedRecord abi appCommon jobOta) = jobOtaSize jobOta ∧
      firmwareCrc abi (armedRecord abi appCommon jobOta) = jobOtaCrc jobOta := by
  have width := abi.enum_size
  have statusBeforeCrc : abi.startFirmwareOtaStatusOffset + abi.sizeofEnum ≤ abi.firmwareCrcOffset := by
    simp only [Abi.startFirmwareOtaStatusOffset, Abi.firmwareCrcOffset]
    omega
  have statusBeforeSize :
      abi.startFirmwareOtaStatusOffset + abi.sizeofEnum ≤ abi.firmwareSizeOffset := by
    simp only [Abi.startFirmwareOtaStatusOffset, Abi.firmwareSizeOffset]
    omega
  have sizeBeforeCrc : abi.firmwareSizeOffset + 4 ≤ abi.firmwareCrcOffset := by
    simp only [Abi.firmwareSizeOffset, Abi.firmwareCrcOffset]
    omega
  refine ⟨?_, ?_, ?_⟩
  · simp only [startFirmwareOtaStatus, armedRecord, setFirmwareCrc, setFirmwareSize,
      setStartFirmwareOtaStatus]
    rw [loadField_storeField_disjoint _ _ _ _ _ _ (Or.inl statusBeforeCrc),
      loadField_storeField_disjoint _ _ _ _ _ _ (Or.inl statusBeforeSize), loadField_storeField]
    rcases width with one | four
    · rw [one]
      decide
    · rw [four]
      decide
  · simp only [firmwareSize, armedRecord, setFirmwareCrc, setFirmwareSize]
    rw [loadField_storeField_disjoint _ _ _ _ _ _ (Or.inl sizeBeforeCrc), loadField_storeField]
    exact Nat.mod_eq_of_lt (loadField_lt _ _ _)
  · simp only [firmwareCrc, armedRecord, setFirmwareCrc]
    rw [loadField_storeField]
    exact Nat.mod_eq_of_lt (loadField_lt _ _ _)

/-- The saved copy of the armed record has its fields. -/
theorem savedRecord_fields (stack appCommon jobOta : Pointer) :
    let saved := copyBytes stack (armedRecord abi appCommon jobOta) abi.sizeofAppCommon
    startFirmwareOtaStatus abi saved = startFwOtaEnable ∧
      firmwareSize abi saved = jobOtaSize jobOta ∧ firmwareCrc abi saved = jobOtaCrc jobOta := by
  have same := copyBytes_same stack (armedRecord abi appCommon jobOta) abi.sizeofAppCommon
  obtain ⟨status, size, crc⟩ := armedRecord_fields abi appCommon jobOta
  exact ⟨(status_same abi _ _ same).trans status, (size_same abi _ _ same).trans size,
    (crc_same abi _ _ same).trans crc⟩

/-- Withdrawing the request leaves the reboot flag alone. -/
theorem enableReboot_withdrawn (appCommon : Pointer) :
    enableReboot abi (setStartFirmwareOtaStatus abi appCommon startFwOtaDisable) =
      enableReboot abi appCommon := by
  have width := abi.enum_size
  have behind : abi.startFirmwareOtaStatusOffset + abi.sizeofEnum ≤ abi.enableRebootOffset := by
    simp only [Abi.startFirmwareOtaStatusOffset, Abi.enableRebootOffset]
    omega
  simp only [enableReboot, setStartFirmwareOtaStatus]
  rw [loadField_storeField_disjoint _ _ _ _ _ _ (Or.inr behind)]

/-- A download that succeeds got neither -1 nor -2, and its checksum matches. -/
theorem download_accepted (url : List UInt8) (fwSize fwCrc : Nat) (contents : Contents UInt8)
    (result : DownloadResult)
    (returned : otaDownloadFirmware misaligned coreHttp world url fwSize fwCrc contents =
      some result) (accepted : result.ret = true) :
    httpDownload misaligned coreHttp world url = some result.download ∧
      (result.download.httpResult ≠ -1 ∧ result.download.httpResult ≠ -2) ∧
      (crc16Ccitt (flashPointer ((picoFlash misaligned).run result.download.flash contents)
        flashTempFwStartAddr) fwSize).toNat = fwCrc := by
  simp only [otaDownloadFirmware] at returned
  cases located : httpDownload misaligned coreHttp world url with
  | none => simp [located] at returned
  | some download =>
    simp only [located, Option.bind_eq_bind, Option.bind_some] at returned
    by_cases failed : download.httpResult = -1
    · rw [if_pos failed] at returned
      cases returned
      cases accepted
    · rw [if_neg failed] at returned
      by_cases empty : download.httpResult = -2
      · rw [if_pos empty] at returned
        cases returned
        cases accepted
      · rw [if_neg empty] at returned
        by_cases mismatch : (crc16Ccitt (flashPointer ((picoFlash misaligned).run download.flash
            contents) flashTempFwStartAddr) fwSize).toNat ≠ fwCrc
        · rw [if_pos mismatch] at returned
          cases returned
          cases accepted
        · rw [if_neg mismatch] at returned
          cases returned
          exact ⟨rfl, ⟨failed, empty⟩, Decidable.not_not.mp mismatch⟩

/-- A document that does not pass the tests stores nothing and leaves the reboot
flag alone, and only an OTA document is refused; one that passes them stores the
armed record. -/
theorem document_cases (pAppCommon : Pointer) (execution : JobExecution)
    (contents : Contents UInt8) (result : DocumentResult)
    (returned : startJobDocument misaligned coreHttp abi json current world pAppCommon execution
      contents = some result) :
    (result.saved = none ∧ enableReboot abi result.appCommon = enableReboot abi pAppCommon ∧
      result.ret = !strncmpEqual 4 execution.jobType awsJobTypeOta) ∨
    ∃ download, Accepted misaligned coreHttp json current world execution contents download ∧
      result.ret = true ∧ result.download = some download ∧
      result.saved = some (copyBytes world.stack
        (armedRecord abi (setStartFirmwareOtaStatus abi pAppCommon startFwOtaDisable)
          (parsedParams json execution).2) abi.sizeofAppCommon) := by
  simp only [startJobDocument] at returned
  by_cases ota : strncmpEqual 4 execution.jobType awsJobTypeOta = true
  · rw [if_pos ota] at returned
    have withdrawn := enableReboot_withdrawn abi pAppCommon
    by_cases unparsed : (parsedParams json execution).1 = false
    · rw [if_pos unparsed] at returned
      cases returned
      exact Or.inl ⟨rfl, withdrawn, by rw [ota]; rfl⟩
    · rw [if_neg unparsed] at returned
      by_cases old : isUpperVersionFw current
          (jobOtaText (parsedParams json execution).2 firmwareVersionOffset) = false
      · rw [if_pos old] at returned
        cases returned
        exact Or.inl ⟨rfl, withdrawn, by rw [ota]; rfl⟩
      · rw [if_neg old] at returned
        cases downloaded : otaDownloadFirmware misaligned coreHttp world
            (jobOtaText (parsedParams json execution).2 firmwareUrlOffset)
            (jobOtaSize (parsedParams json execution).2)
            (jobOtaCrc (parsedParams json execution).2) contents with
        | none => simp [downloaded] at returned
        | some attempt =>
          simp only [downloaded, Option.bind_eq_bind, Option.bind_some] at returned
          by_cases refused : attempt.ret = false
          · rw [if_pos refused] at returned
            cases returned
            exact Or.inl ⟨rfl, withdrawn, by rw [ota]; rfl⟩
          · rw [if_neg refused] at returned
            have accepted : attempt.ret = true := eq_true_of_ne_false refused
            obtain ⟨located, answered, checksum⟩ :=
              download_accepted misaligned coreHttp world _ _ _ contents attempt downloaded accepted
            cases returned
            right
            exact ⟨attempt.download, ⟨ota, eq_true_of_ne_false unparsed,
              eq_true_of_ne_false old, located, answered, checksum⟩, rfl, rfl, rfl⟩
  · rw [if_neg ota] at returned
    have other : true = !strncmpEqual 4 execution.jobType awsJobTypeOta := by
      rw [Bool.eq_false_iff.mpr ota]
      rfl
    left
    by_cases test : strncmpEqual 5 execution.jobType awsJobTypeTest = true
    · rw [if_pos test] at returned
      cases returned
      exact ⟨rfl, rfl, other⟩
    · rw [if_neg test] at returned
      cases returned
      exact ⟨rfl, rfl, other⟩

/-- A document that passes the tests is carried out. -/
theorem accepted_document (pAppCommon : Pointer) (execution : JobExecution)
    (contents : Contents UInt8) (download : Download)
    (accepted : Accepted misaligned coreHttp json current world execution contents download) :
    ∃ result, startJobDocument misaligned coreHttp abi json current world pAppCommon execution
        contents = some result ∧ result.download = some download ∧
      result.saved = some (copyBytes world.stack
        (armedRecord abi (setStartFirmwareOtaStatus abi pAppCommon startFwOtaDisable)
          (parsedParams json execution).2) abi.sizeofAppCommon) := by
  have matching := accepted.checksum
  have returned : otaDownloadFirmware misaligned coreHttp world
      (jobOtaText (parsedParams json execution).2 firmwareUrlOffset)
      (jobOtaSize (parsedParams json execution).2)
      (jobOtaCrc (parsedParams json execution).2) contents =
      some ⟨true, ascii "Success to download firmware", download⟩ := by
    simp only [otaDownloadFirmware]
    simp only [accepted.downloaded, Option.bind_eq_bind, Option.bind_some,
      if_neg accepted.answered.1, if_neg accepted.answered.2]
    rw [if_neg (not_not.mpr matching)]
  simp only [startJobDocument]
  have parsed : ¬ (parsedParams json execution).1 = false := by
    rw [accepted.parsed]
    decide
  have upper : ¬ isUpperVersionFw current
      (jobOtaText (parsedParams json execution).2 firmwareVersionOffset) = false := by
    rw [accepted.version]
    decide
  rw [if_pos accepted.ota, if_neg parsed, if_neg upper, returned]
  exact ⟨_, rfl, rfl, rfl⟩

/-- What is known of a download that `http_get` did not refuse. -/
theorem answered_download (url : List UInt8) (download : Download)
    (located : httpDownload misaligned coreHttp world url = some download)
    (answered : download.httpResult ≠ -1 ∧ download.httpResult ≠ -2) :
    ComesToConnect world.globals world.network url ∧
      download.requested = world.network.connected ∧
      (world.network.connected = true → download.callbackStatus = 0) := by
  simp only [httpDownload] at located
  cases returned : httpGet coreHttp world.globals url true true world.network
      (otaHttpSendRequestCallback misaligned world.stack world.exchange world.incoming world.first
        world.passes).returnStatus with
  | none => simp [returned] at located
  | some http =>
    simp only [returned, Option.bind_eq_bind, Option.bind_some] at located
    cases located
    obtain ⟨reached, requested, ret⟩ :=
      httpGet_answered coreHttp world _ url _ http returned answered.1
    refine ⟨reached, requested, ?_⟩
    intro connected
    rw [if_pos connected] at ret
    rcases callback_values misaligned world.stack world.exchange world.incoming world.first
      world.passes with zero | minusOne | minusTwo
    · exact zero
    · exact absurd (ret.trans minusOne) answered.1
    · exact absurd (ret.trans minusTwo) answered.2

/-- A document whose size is right whenever the tests pass arms safely. -/
theorem armsSafely_of_verified (pAppCommon : Pointer) (execution : JobExecution)
    (contents : Contents UInt8) (result : DocumentResult)
    (returned : startJobDocument misaligned coreHttp abi json current world pAppCommon execution
      contents = some result)
    (verified : ∀ download, Accepted misaligned coreHttp json current world execution contents
      download → SizeVerified json world execution download) :
    ArmsSafely misaligned abi pAppCommon contents result := by
  have fields := savedRecord_fields abi world.stack
    (setStartFirmwareOtaStatus abi pAppCommon startFwOtaDisable) (parsedParams json execution).2
  rcases document_cases misaligned coreHttp abi json current world pAppCommon execution contents
    result returned with ⟨nothing, kept, _⟩ | ⟨download, accepted, success, downloaded, saved⟩
  · constructor
    · intro record stored
      rw [nothing] at stored
      cases stored
    · intro _
      exact ⟨nothing, fun calm => kept.trans calm⟩
  · obtain ⟨connected, received, positive, fits⟩ := verified download accepted
    obtain ⟨_, requested, completed⟩ := answered_download misaligned coreHttp world _ download
      accepted.downloaded accepted.answered
    constructor
    · intro record stored _
      rw [saved] at stored
      cases stored
      refine ⟨download, downloaded, requested.trans connected, completed connected, ?_⟩
      rw [fields.2.1, fields.2.2]
      exact ⟨received, positive, fits, accepted.checksum⟩
    · intro refused
      rw [success] at refused
      cases refused

/-- A document that passes the tests has come to its download. -/
theorem accepted_comes (execution : JobExecution) (contents : Contents UInt8)
    (download : Download)
    (accepted : Accepted misaligned coreHttp json current world execution contents download) :
    ComesToDownload json current world execution :=
  ⟨accepted.ota, accepted.parsed, accepted.version,
    (answered_download misaligned coreHttp world _ download accepted.downloaded
      accepted.answered).1⟩

/-- An accepted download without errors from a connected server ran the loop, completed the
announced length and, up to 32 bits, obtained the bytes of its passes. -/
theorem accepted_told (execution : JobExecution) (contents : Contents UInt8)
    (download : Download)
    (accepted : Accepted misaligned coreHttp json current world execution contents download)
    (connected : world.network.connected = true) (steady : SteadyWorld world) :
    world.exchange.httpStatus = .insufficientMemory ∧
      (0 < totalBytes (worldArrivals world) ∧
        world.exchange.delivered.contentLength ≤ totalBytes (worldArrivals world)) ∧
      (download.body.length = totalBytes (worldArrivals world) ∨
        4294967296 ≤ totalBytes (worldArrivals world) ∧ 4294967296 ≤ download.body.length) := by
  have completed := (answered_download misaligned coreHttp world _ download accepted.downloaded
    accepted.answered).2.2 connected
  have located := accepted.downloaded
  simp only [httpDownload] at located
  obtain ⟨http, _, same⟩ := Option.bind_eq_some_iff.mp located
  cases same
  exact callback_told world.stack misaligned world.exchange world.incoming world.first world.passes
    steady completed

/-- An accepted download of a server that sends the announced image has its size. -/
theorem verified_of_sends (execution : JobExecution) (contents : Contents UInt8)
    (download : Download)
    (accepted : Accepted misaligned coreHttp json current world execution contents download)
    (sends : SendsImage world (jobOtaSize (parsedParams json execution).2)) :
    SizeVerified json world execution download := by
  obtain ⟨oversized, ⟨some, complete⟩, obtained⟩ := accepted_told misaligned coreHttp json current
    world execution contents download accepted sends.connected sends.steady
  obtain ⟨size, fits⟩ := sends.exact oversized some complete
  have bound : jobOtaSize (parsedParams json execution).2 ≤ 0x80000 := fits
  exact ⟨sends.connected, by omega, by omega, fits⟩

/-- A document that is sent its image, if it comes to its download, arms safely. -/
theorem armsSafely_of_sends (pAppCommon : Pointer) (execution : JobExecution)
    (contents : Contents UInt8) (result : DocumentResult)
    (returned : startJobDocument misaligned coreHttp abi json current world pAppCommon execution
      contents = some result)
    (sends : ComesToDownload json current world execution →
      SendsImage world (jobOtaSize (parsedParams json execution).2)) :
    ArmsSafely misaligned abi pAppCommon contents result := by
  apply armsSafely_of_verified misaligned coreHttp abi json current world pAppCommon execution
    contents result returned
  intro download accepted
  exact verified_of_sends misaligned coreHttp json current world execution contents download
    accepted (sends (accepted_comes misaligned coreHttp json current world execution contents
      download accepted))

/-- If no `recv` fails, a document that is accepted and armed safely was sent its image. -/
theorem sends_of_armsSafely (pAppCommon : Pointer) (execution : JobExecution)
    (contents : Contents UInt8) (result : DocumentResult)
    (returned : startJobDocument misaligned coreHttp abi json current world pAppCommon execution
      contents = some result)
    (ota : strncmpEqual 4 execution.jobType awsJobTypeOta = true) (steady : SteadyWorld world)
    (success : result.ret = true)
    (safe : ArmsSafely misaligned abi pAppCommon contents result) :
    SendsImage world (jobOtaSize (parsedParams json execution).2) := by
  have fields := savedRecord_fields abi world.stack
    (setStartFirmwareOtaStatus abi pAppCommon startFwOtaDisable) (parsedParams json execution).2
  rcases document_cases misaligned coreHttp abi json current world pAppCommon execution contents
    result returned with ⟨_, _, failed⟩ | ⟨download, accepted, _, downloaded, saved⟩
  · rw [success, ota] at failed
    cases failed
  · obtain ⟨other, sameDownload, requested, _, received, _, fits, _⟩ :=
      safe.backed _ saved fields.1
    rw [downloaded] at sameDownload
    cases sameDownload
    rw [fields.2.1] at received fits
    have bound : jobOtaSize (parsedParams json execution).2 ≤ 0x80000 := fits
    have connected : world.network.connected = true :=
      (answered_download misaligned coreHttp world _ download accepted.downloaded
        accepted.answered).2.1.symm.trans requested
    obtain ⟨_, _, obtained⟩ := accepted_told misaligned coreHttp json current world execution
      contents download accepted connected steady
    exact ⟨connected, steady, fun _ _ _ => ⟨by omega, fits⟩⟩

/-- An update is armed safely when a document that comes to its download is sent its image:
the server is connected and, if it completes an oversized response, sends exactly the
announced number of bytes, which fits the area, without an error. If no `recv` fails, an
update that is accepted is armed safely only then. -/
theorem arms_safely_when (pAppCommon : Pointer) (execution : JobExecution)
    (contents : Contents UInt8) :
    ((ComesToDownload json current world execution →
        SendsImage world (jobOtaSize (parsedParams json execution).2)) →
      ∀ result, startJobDocument misaligned coreHttp abi json current world pAppCommon execution
        contents = some result → ArmsSafely misaligned abi pAppCommon contents result) ∧
    (SteadyWorld world →
      ∀ result, startJobDocument misaligned coreHttp abi json current world pAppCommon execution
          contents = some result → result.ret = true →
        ArmsSafely misaligned abi pAppCommon contents result →
        ComesToDownload json current world execution →
        SendsImage world (jobOtaSize (parsedParams json execution).2)) := by
  constructor
  · intro sends result returned
    exact armsSafely_of_sends misaligned coreHttp abi json current world pAppCommon execution
      contents result returned sends
  · intro steady result returned success safe comes
    exact sends_of_armsSafely misaligned coreHttp abi json current world pAppCommon execution
      contents result returned comes.ota steady success safe

/-- A job that announces sixteen bytes with checksum zero. -/
def staleJob : JobExecution where
  jobType := ascii "OTA"
  jobDocument := ascii
    "\x7b\"jobType\":\"OTA\",\"fwUrl\":\"http://host/fw\",\"fwVersion\":\"1.0.1\",\"fwSize\":\"16\",\"fwCrc\":\"0\"\x7d"
  jobOta := fun _ => 0

/-- The JSON library on flat objects whose values are plain strings. -/
def flatJson : Json where
  validate text := text.head? == some 123 && text.getLast? == some 125
  search text key :=
    let mark := ascii "\"" ++ key ++ ascii "\":\""
    let spans := ((List.range text.length).filter fun index => mark.isPrefixOf (text.drop index)).map
      fun index => (index + mark.length,
        ((text.drop (index + mark.length)).takeWhile fun byte => byte != 34).length)
    spans.find? fun span => decide (span.1 + span.2 ≤ text.length)
  search_inside := by
    intro text key start length found
    simpa using List.find?_some found

/-- A server that cannot be reached, after its name was resolved. -/
def unreachable : DownloadWorld where
  globals := ⟨false, false⟩
  network := ⟨1, false⟩
  exchange := ⟨.success, .success, .cleared⟩
  incoming := []
  first := .received 0
  passes := []
  stack := fun _ => 0

/-- The HTTP client library's value of the network error. -/
def exampleCoreHttp : CoreHttp := ⟨2, by decide⟩

/-- A server that sends sixteen zero bytes, whose checksum is zero, in one piece. -/
def sendingZeros : DownloadWorld where
  globals := ⟨false, false⟩
  network := ⟨1, true⟩
  exchange := ⟨.success, .insufficientMemory, ⟨[], 16, Nat.zero_le _⟩⟩
  incoming := List.replicate 16 0
  first := .received 16
  passes := []
  stack := fun _ => 0

/-- The same job is armed safely when its sixteen bytes are sent. -/
theorem sent_image_is_armed :
    ∃ result, startJobDocument (.ignored UInt8 256) exampleCoreHttp shortEnumAbi flatJson
        applicationVersion sendingZeros (fun _ => 0) staleJob (fun _ => 0) = some result ∧
      result.ret = true ∧
      ArmsSafely (.ignored UInt8 256) shortEnumAbi (fun _ => 0) (fun _ => 0) result := by
  have sends : SendsImage sendingZeros (jobOtaSize (parsedParams flatJson staleJob).2) := by
    have size : jobOtaSize (parsedParams flatJson staleJob).2 = 16 := by decide +kernel
    rw [size]
    exact ⟨rfl, fun _ => by decide, fun _ _ _ => by decide⟩
  have returned : (startJobDocument (.ignored UInt8 256) exampleCoreHttp shortEnumAbi flatJson
      applicationVersion sendingZeros (fun _ => 0) staleJob (fun _ => 0)).map DocumentResult.ret =
      some true := by decide +kernel
  obtain ⟨result, carried, success⟩ := Option.map_eq_some_iff.mp returned
  exact ⟨result, carried, success, (arms_safely_when (.ignored UInt8 256) exampleCoreHttp
    shortEnumAbi flatJson applicationVersion sendingZeros (fun _ => 0) staleJob
    (fun _ => 0)).1 (fun _ => sends) result carried⟩

theorem stale_accepted :
    Accepted (.ignored UInt8 256) exampleCoreHttp flatJson applicationVersion unreachable staleJob
      (fun _ => 0) ⟨2, false, -2, [], idle⟩ := by
  have refused : httpGet exampleCoreHttp unreachable.globals
      (jobOtaText (parsedParams flatJson staleJob).2 firmwareUrlOffset) true true
      unreachable.network (-2) = some ⟨2, ⟨false, false⟩, false⟩ := by decide +kernel
  refine ⟨by decide +kernel, by decide +kernel, by decide +kernel, ?_, by decide, by decide +kernel⟩
  simp only [httpDownload]
  have status : (otaHttpSendRequestCallback (.ignored UInt8 256) unreachable.stack
      unreachable.exchange unreachable.incoming unreachable.first unreachable.passes).returnStatus =
      -2 := rfl
  simp only [status, refused]
  rfl

/-- The connection fails and nothing is received. The old OTA area has checksum
zero, so an update of sixteen stale bytes is requested. -/
theorem stale_image_is_armed :
    ¬ ∀ (misaligned : Misalignment UInt8 userFlashPageSize) (coreHttp : CoreHttp) (abi : Abi)
      (json : Json) (current : Version) (world : DownloadWorld) (pAppCommon : Pointer)
      (execution : JobExecution) (contents : Contents UInt8) (result : DocumentResult),
      startJobDocument misaligned coreHttp abi json current world pAppCommon execution contents =
        some result → ArmsSafely misaligned abi pAppCommon contents result := by
  intro safe
  obtain ⟨result, returned, downloaded, saved⟩ := accepted_document (.ignored UInt8 256)
    exampleCoreHttp shortEnumAbi flatJson applicationVersion unreachable (fun _ => 0) staleJob
    (fun _ => 0) _ stale_accepted
  have fields := savedRecord_fields shortEnumAbi unreachable.stack
    (setStartFirmwareOtaStatus shortEnumAbi (fun _ => 0) startFwOtaDisable)
    (parsedParams flatJson staleJob).2
  obtain ⟨download, same, requested, _⟩ :=
    (safe _ _ _ _ _ _ _ _ _ _ returned).backed _ saved fields.1
  rw [downloaded] at same
  cases same
  cases requested

end WiznetEaas.FirmwareArming
