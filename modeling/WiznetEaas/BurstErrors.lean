import WiznetEaas.Crc16CcitMaker
import WiznetEaas.JobDocument

/-!
# Corrupted images that the checksum detects

Polynomial 0x1021 has a constant term and, with the leading one, four terms. Two byte
strings of one length whose bits differ inside 16 consecutive positions, or at an odd
number of positions, therefore have different checksums, whatever their length. A
download of such an image is refused when the job names the checksum of the published
one.
-/

namespace WiznetEaas.BurstErrors

open NorFlash ByteMemory CStrings FlashControl Crc Crc16 JobDocument HttpInterface OtaDownload
open Crc16CcitMaker (messageBits bitwiseCrc16 objectBytes crc16Ccitt_bitwise crc16Ccitt_tool
  objectBytes_stored)

/-- Two byte strings differ in a short burst, or at an odd number of bit positions. -/
def ShortCorruption (published corrupted : List UInt8) : Prop :=
  published ≠ corrupted ∧
    ((∃ start, ∀ position, DiffersAt (messageBits published) (messageBits corrupted) position →
        start ≤ position ∧ position < start + 16) ∨
      differences (messageBits published) (messageBits corrupted) % 2 = 1)

/-- Eight bits for each byte. -/
theorem messageBits_length (bytes : List UInt8) : (messageBits bytes).length = 8 * bytes.length := by
  induction bytes with
  | nil => rfl
  | cons byte bytes inductionHypothesis =>
    rw [messageBits, List.flatMap_cons, List.length_append, leading_length, List.length_cons]
    rw [messageBits] at inductionHypothesis
    omega

/-- The bits of a byte determine it. -/
theorem leading_injective (left right : BitVec 8) (same : leading left 8 = leading right 8) :
    left = right := by
  apply BitVec.eq_of_getMsbD_eq
  intro position inside
  have bit := congrArg (fun bits => bits[position]?) same
  simpa [leading, inside] using bit

/-- The bits of some bytes determine them. -/
theorem messageBits_injective (left right : List UInt8)
    (same : messageBits left = messageBits right) : left = right := by
  induction left generalizing right with
  | nil =>
    have lengths := congrArg List.length same
    rw [messageBits_length, messageBits_length, List.length_nil] at lengths
    exact (List.eq_nil_of_length_eq_zero (by omega)).symm
  | cons first left inductionHypothesis =>
    cases right with
    | nil =>
      have lengths := congrArg List.length same
      simp [messageBits_length] at lengths
    | cons second right =>
      simp only [messageBits, List.flatMap_cons] at same
      obtain ⟨head, tail⟩ := List.append_inj same (by rw [leading_length, leading_length])
      rw [inductionHypothesis right tail, UInt8.toBitVec_inj.mp (leading_injective _ _ head)]

/-- Different byte strings differ at some bit. -/
theorem differing_position (left right : List UInt8) (differ : left ≠ right) :
    ∃ position, DiffersAt (messageBits left) (messageBits right) position := by
  have bits : messageBits left ≠ messageBits right := fun same =>
    differ (messageBits_injective left right same)
  apply Classical.byContradiction
  intro none
  apply bits
  apply List.ext_getElem?
  intro position
  exact Decidable.byContradiction fun found => none ⟨position, found⟩

/-- The bitwise checksum tells the two strings of a short corruption apart. -/
theorem bitwiseCrc16_detects (published corrupted : List UInt8)
    (same : published.length = corrupted.length) (corruption : ShortCorruption published corrupted) :
    bitwiseCrc16 published ≠ bitwiseCrc16 corrupted := by
  have bits : (messageBits published).length = (messageBits corrupted).length := by
    rw [messageBits_length, messageBits_length, same]
  obtain ⟨differ, ⟨start, window⟩ | odd⟩ := corruption
  · obtain ⟨position, found⟩ := differing_position published corrupted differ
    exact checksum_window 0x1021#16 (by decide) _ _ bits start window position found
  · exact checksum_odd 0x1021#16 (by decide) _ _ bits odd

/-- Objects whose bytes are a short corruption apart have different checksums. -/
theorem crc16Ccitt_detects (left right : Pointer) (len : Nat)
    (corruption : ShortCorruption (objectBytes left 0 len) (objectBytes right 0 len)) :
    crc16Ccitt left len ≠ crc16Ccitt right len := by
  intro equal
  have bits := congrArg UInt16.toBitVec equal
  rw [crc16Ccitt_bitwise, crc16Ccitt_bitwise] at bits
  exact bitwiseCrc16_detects _ _ (by simp [objectBytes]) corruption bits

/-- A download succeeds only if the OTA area has the checksum that the job names. -/
theorem otaDownloadFirmware_crc (misaligned : Misalignment UInt8 userFlashPageSize)
    (coreHttp : CoreHttp) (world : DownloadWorld) (pUrl : List UInt8) (fwSize fwCrc : Nat)
    (contents : Contents UInt8) (result : DownloadResult)
    (returned : otaDownloadFirmware misaligned coreHttp world pUrl fwSize fwCrc contents = some result)
    (success : result.ret = true) :
    (crc16Ccitt (flashPointer ((picoFlash misaligned).run result.download.flash contents)
      flashTempFwStartAddr) fwSize).toNat = fwCrc := by
  simp only [otaDownloadFirmware] at returned
  cases downloaded : httpDownload misaligned coreHttp world pUrl with
  | none => simp [downloaded] at returned
  | some download =>
    simp only [downloaded, Option.bind_eq_bind, Option.bind_some] at returned
    split at returned
    · cases returned
      cases success
    · split at returned
      · cases returned
        cases success
      · split at returned
        · cases returned
          cases success
        · next matching =>
          cases returned
          exact Decidable.byContradiction matching

/-- A short corruption changes the checksum, and a download whose OTA area holds the
corrupted image is refused when the job names the published checksum. -/
theorem short_corruption_detected (published corrupted : List UInt8)
    (same : published.length = corrupted.length) (corruption : ShortCorruption published corrupted) :
    (∀ publishedMemory corruptedMemory,
      crc16Ccitt (storeBytes publishedMemory 0 published) published.length ≠
        crc16Ccitt (storeBytes corruptedMemory 0 corrupted) corrupted.length) ∧
      ∀ (misaligned : Misalignment UInt8 userFlashPageSize) (coreHttp : CoreHttp)
        (world : DownloadWorld) (pUrl : List UInt8) (fwCrc : Nat) (contents : Contents UInt8)
        (result : DownloadResult),
        Crc16CcitMaker.crc16Ccitt 0 published published.length = some fwCrc →
        otaDownloadFirmware misaligned coreHttp world pUrl published.length fwCrc contents =
          some result →
        objectBytes (flashPointer ((picoFlash misaligned).run result.download.flash contents)
          flashTempFwStartAddr) 0 published.length = corrupted →
        result.ret = false := by
  constructor
  · intro publishedMemory corruptedMemory
    rw [← same]
    apply crc16Ccitt_detects
    have stored := objectBytes_stored corruptedMemory corrupted
    rw [← same] at stored
    rwa [objectBytes_stored, stored]
  · intro misaligned coreHttp world pUrl fwCrc contents result named returned received
    cases success : result.ret with
    | false => rfl
    | true =>
      have checked := otaDownloadFirmware_crc misaligned coreHttp world pUrl published.length fwCrc
        contents result returned success
      let memory : Pointer := fun _ => 0
      have tool := crc16Ccitt_tool memory published
      rw [named, Option.some.injEq] at tool
      have equal := UInt16.toNat_inj.mp (checked.trans tool)
      have apart : ShortCorruption (objectBytes (storeBytes memory 0 published) 0 published.length)
          (objectBytes (flashPointer ((picoFlash misaligned).run result.download.flash contents)
            flashTempFwStartAddr) 0 published.length) := by
        rw [objectBytes_stored, received]
        exact corruption
      exact absurd equal.symm (crc16Ccitt_detects _ _ published.length apart)

/-- A server that answers with nothing new, so the OTA area keeps what it holds. -/
def silentServer : DownloadWorld where
  globals := ⟨false, false⟩
  network := ⟨1, false⟩
  exchange := ⟨.success, .success, .cleared⟩
  incoming := []
  first := .received 0
  passes := []
  stack := fun _ => 0

/-- What the OTA area holds after a transfer that flipped a bit. -/
def flippedArea : Contents UInt8 := fun address => [0x31, 0x72, 0x33].getD (address - 0x140000) 0

/-- The connection is refused, so the flash is as it was. -/
theorem silent_download :
    httpDownload (.ignored UInt8 256) ⟨2, by decide⟩ silentServer (ascii "http://host/fw") =
      some ⟨2, false, -2, [], idle⟩ := by
  have refused : httpGet ⟨2, by decide⟩ silentServer.globals (ascii "http://host/fw") true true
      silentServer.network (-2) = some ⟨2, ⟨false, false⟩, false⟩ := by decide +kernel
  have status : (otaHttpSendRequestCallback (.ignored UInt8 256) silentServer.stack
      silentServer.exchange silentServer.incoming silentServer.first
      silentServer.passes).returnStatus = -2 := rfl
  simp only [httpDownload, status, refused]
  rfl

/-- One flipped bit in an image of three bytes is found, and the image is refused. -/
theorem flipped_bit_detected :
    (∀ memory, crc16Ccitt (storeBytes memory 0 [0x31, 0x32, 0x33]) 3 ≠
      crc16Ccitt (storeBytes memory 0 [0x31, 0x72, 0x33]) 3) ∧
    ∃ result, otaDownloadFirmware (.ignored UInt8 256) ⟨2, by decide⟩ silentServer
        (ascii "http://host/fw") 3 0x9752 flippedArea = some result ∧ result.ret = false := by
  have corruption : ShortCorruption [0x31, 0x32, 0x33] [0x31, 0x72, 0x33] :=
    ⟨by decide, Or.inr (by decide +kernel)⟩
  obtain ⟨checksums, refused⟩ :=
    short_corruption_detected [0x31, 0x32, 0x33] [0x31, 0x72, 0x33] rfl corruption
  refine ⟨fun memory => checksums memory memory, ?_⟩
  have returned : otaDownloadFirmware (.ignored UInt8 256) ⟨2, by decide⟩ silentServer
      (ascii "http://host/fw") 3 0x9752 flippedArea =
      some ⟨false, ascii "Invalid CRC", ⟨2, false, -2, [], idle⟩⟩ := by
    have mismatch : (crc16Ccitt (flashPointer flippedArea flashTempFwStartAddr) 3).toNat ≠
        0x9752 := by decide +kernel
    simp only [otaDownloadFirmware, silent_download, Option.bind_eq_bind, Option.bind_some]
    rw [if_neg (by decide), if_neg (by decide)]
    exact if_pos mismatch
  exact ⟨_, returned, refused _ _ _ _ _ _ _ (by decide +kernel) returned rfl⟩

end WiznetEaas.BurstErrors
