import WiznetEaas.Crc16
import WiznetEaas.HttpInterface
import WiznetEaas.OtaDownload

/-!
# Carrying out a job document

`start_job_document` with what it calls: the parameter parser, the version gate,
and the download with its CRC check. The JSON library is a parameter that
locates values inside the text it is given. The parameters are kept in the bytes
of `AWS_OTA_PARAMS_t`, so a terminator written just behind a full array lands
where it does in memory.

A call that stops in a null dereference has no result (`none`). The record of
what was downloaded and saved is kept beside the results of the code.
-/

namespace WiznetEaas.JobDocument

open NorFlash ByteMemory CStrings FlashControl Crc16 DeviceCommon HttpInterface OtaDownload

/-- The JSON library: validation, and the span of the value of a key. -/
structure Json where
  validate : List UInt8 → Bool
  search : List UInt8 → List UInt8 → Option (Nat × Nat)
  search_inside : ∀ text key start length, search text key = some (start, length) →
    start + length ≤ text.length

@[simp] abbrev maxAwsOtaUrlSize : Nat := 2176
@[simp] abbrev maxAwsJobFirmwareVersionSize : Nat := 64

/-- Offsets in `AWS_OTA_PARAMS_t`. -/
abbrev firmwareUrlOffset : Nat := 0
abbrev firmwareCrcOffset : Nat := 2176
abbrev firmwareVersionOffset : Nat := 2178
abbrev firmwareSizeOffset : Nat := 2244
abbrev sizeofAwsOtaParams : Nat := 2248

/-- The string at an offset of the parameters. Its terminator lies inside them. -/
def jobOtaText (jobOta : Pointer) (offset : Nat) : List UInt8 :=
  cText ((List.range (sizeofAwsOtaParams - offset)).map fun position => jobOta (offset + position))

def jobOtaSize (jobOta : Pointer) : Nat := loadField jobOta firmwareSizeOffset 4

def jobOtaCrc (jobOta : Pointer) : Nat := loadField jobOta firmwareCrcOffset 2

/-- Copy a value and its terminator. -/
def storeText (target : Pointer) (offset : Nat) (text : List UInt8) : Pointer :=
  storeBytes (storeBytes target offset text) (offset + text.length) [0]

/-- `parsing_ota_job_params`. Both numbers are read from the document's text on,
past the located value. The parameters are written only if all are found. -/
def parsingOtaJobParams (json : Json) (pPayload : List UInt8) (jobOta : Pointer) : Bool × Pointer :=
  if json.validate pPayload then
    match json.search pPayload (ascii "fwUrl") with
    | none => (false, jobOta)
    | some (urlStart, urlLength) =>
      if urlLength > maxAwsOtaUrlSize then (false, jobOta)
      else match json.search pPayload (ascii "fwVersion") with
      | none => (false, jobOta)
      | some (versionStart, versionLength) =>
        if versionLength > maxAwsJobFirmwareVersionSize then (false, jobOta)
        else match json.search pPayload (ascii "fwSize") with
        | none => (false, jobOta)
        | some (sizeStart, _) =>
          match json.search pPayload (ascii "fwCrc") with
          | none => (false, jobOta)
          | some (crcStart, _) =>
            let url := (pPayload.drop urlStart).take urlLength
            let version := (pPayload.drop versionStart).take versionLength
            let texts := storeText (storeText jobOta firmwareUrlOffset url) firmwareVersionOffset
              version
            let size := storeField texts firmwareSizeOffset 4
              (stringToInt (pPayload.drop sizeStart))
            (true, storeField size firmwareCrcOffset 2 (hexStringToInt (pPayload.drop crcStart)))
  else (false, jobOta)

/-- What the outside world does during a download: the globals of the HTTP code,
the network's answers, the exchange of the request, and the transport. -/
structure DownloadWorld where
  globals : HttpGlobals
  network : HttpNetwork
  exchange : HttpExchange
  incoming : List UInt8
  first : RecvResult
  passes : List Pass
  stack : Pointer

/-- A download that ran: the result of `http_get`, whether the callback ran, its
return value, the body bytes received, and the flash it left. -/
structure Download where
  httpResult : Int
  requested : Bool
  callbackStatus : Int
  body : List UInt8
  flash : Routine UInt8

/-- The result of `ota_download_firmware`: verdict, log message, and the download. -/
structure DownloadResult where
  ret : Bool
  log : List UInt8
  download : Download

variable (misaligned : Misalignment UInt8 userFlashPageSize) (coreHttp : CoreHttp)

/-- `http_get` with the download callback installed. -/
def httpDownload (world : DownloadWorld) (pUrl : List UInt8) : Option Download := do
  let callback := otaHttpSendRequestCallback misaligned world.stack world.exchange world.incoming
    world.first world.passes
  let http ← httpGet coreHttp world.globals pUrl true true world.network callback.returnStatus
  some ⟨http.ret, http.requested, callback.returnStatus, callback.body,
    if http.requested then callback.flash else idle⟩

def otaDownloadFirmware (world : DownloadWorld) (pUrl : List UInt8) (fwSize fwCrc : Nat)
    (contents : Contents UInt8) : Option DownloadResult := do
  let download ← httpDownload misaligned coreHttp world pUrl
  if download.httpResult = -1 then some ⟨false, ascii "Fail to http get", download⟩
  else if download.httpResult = -2 then some ⟨false, ascii "There is no binary data", download⟩
  else
    let after := (picoFlash misaligned).run download.flash contents
    let calcedCrc := crc16Ccitt (flashPointer after flashTempFwStartAddr) fwSize
    if calcedCrc.toNat ≠ fwCrc then some ⟨false, ascii "Invalid CRC", download⟩
    else some ⟨true, ascii "Success to download firmware", download⟩

/-- The part of `AWS_JOBS_EXECUTION_PARAMS_t` the document's execution reads and
writes. -/
structure JobExecution where
  jobType : List UInt8
  jobDocument : List UInt8
  jobOta : Pointer

@[simp] abbrev awsJobTypeOta : List UInt8 := [79, 84, 65]
@[simp] abbrev awsJobTypeTest : List UInt8 := [84, 69, 83, 84]

/-- The result of `start_job_document`: verdict, records, log, the flash
operations, the download it ran and the record it saved. -/
structure DocumentResult where
  ret : Bool
  appCommon : Pointer
  jobOta : Pointer
  log : List UInt8
  flash : Routine UInt8
  download : Option Download
  saved : Option Pointer

/-- The log of a version that is not accepted. -/
def versionLog (current : Version) (version : List UInt8) : List UInt8 :=
  ascii s!"Invalid Firmware Version. Current Version : {current.major}.{current.minor}.{current.patch}, Update Version : " ++
    version

/-- The record with the request for an update of the given parameters. -/
def armedRecord (abi : Abi) (appCommon jobOta : Pointer) : Pointer :=
  setFirmwareCrc abi
    (setFirmwareSize abi (setStartFirmwareOtaStatus abi appCommon startFwOtaEnable)
      (jobOtaSize jobOta))
    (jobOtaCrc jobOta)

/-- `start_job_document`. The saved record is copied into a local of its size
first, so what follows it in memory is the stack's. -/
def startJobDocument (abi : Abi) (json : Json) (current : Version) (world : DownloadWorld)
    (pAppCommon : Pointer) (execution : JobExecution) (contents : Contents UInt8) :
    Option DocumentResult :=
  if strncmpEqual 4 execution.jobType awsJobTypeOta then
    let appCommon := setStartFirmwareOtaStatus abi pAppCommon startFwOtaDisable
    let cleared := copyBytes execution.jobOta (fun _ => 0) sizeofAwsOtaParams
    let parsed := parsingOtaJobParams json execution.jobDocument cleared
    let jobOta := parsed.2
    let version := jobOtaText jobOta firmwareVersionOffset
    if parsed.1 = false then
      some ⟨false, appCommon, jobOta, ascii "Fail to parsing ota job params", idle, none, none⟩
    else if isUpperVersionFw current version = false then
      some ⟨false, appCommon, jobOta, versionLog current version, idle, none, none⟩
    else do
      let result ← otaDownloadFirmware misaligned coreHttp world
        (jobOtaText jobOta firmwareUrlOffset) (jobOtaSize jobOta) (jobOtaCrc jobOta) contents
      if result.ret = false then
        some ⟨false, appCommon, jobOta, result.log, result.download.flash, some result.download, none⟩
      else
        let armed := armedRecord abi appCommon jobOta
        let tempAppCommonInfo := copyBytes world.stack armed abi.sizeofAppCommon
        some ⟨true, setEnableReboot abi armed true, jobOta, result.log,
          (picoFlash misaligned).andThen result.download.flash
            (saveFlashCommonConfigInfo misaligned abi tempAppCommonInfo),
          some result.download, some tempAppCommonInfo⟩
  else if strncmpEqual 5 execution.jobType awsJobTypeTest then
    some ⟨true, pAppCommon, execution.jobOta, [], idle, none, none⟩
  else some ⟨true, pAppCommon, execution.jobOta, [], idle, none, none⟩

end WiznetEaas.JobDocument
