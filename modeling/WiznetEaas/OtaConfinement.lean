import WiznetEaas.OtaArrivals
import WiznetEaas.FlashRecords

/-!
# Where the download writes

The loop has no check of its running total against the area. Each pass programs
its count rounded up to whole pages, in a 16-bit page count, at the running
total. These laws state exactly which sequences of counts keep every operation
inside the OTA area; the ranges handed to `recv` lie inside the buffer for all.
As long as no `recv` fails, the counts are the bytes it delivers, and it is their
whole pages that must fit.
-/

namespace WiznetEaas.OtaConfinement

open NorFlash ByteMemory FlashControl FlashRecords OtaDownload OtaArrivals

/-- The counts of the later passes, each in the code's 32-bit variable. -/
def laterCounts (memory : Pointer) : List UInt8 → List Pass → List Nat
  | _, [] => []
  | incoming, pass :: rest =>
    let chunk := laterChunk memory incoming pass
    chunk.currentReceived :: laterCounts memory chunk.incoming rest

/-- The counts of all passes the transport offers. -/
def receivedCounts (memory : Pointer) (pBody incoming : List UInt8) (first : RecvResult)
    (passes : List Pass) : List Nat :=
  let chunk := firstChunk memory pBody incoming first
  chunk.currentReceived :: laterCounts memory chunk.incoming passes

/-- Until a count is zero or the running 32-bit total reaches the content length,
each count either has a 16-bit page count of zero or, rounded up to pages, still
fits the area behind the running total. -/
def CountsFit (contentLength : Nat) : Nat → List Nat → Prop
  | _, [] => True
  | total, count :: rest =>
    count = 0 ∨
      (writePageCount count = 0 ∨ total + writePageCount count * 256 ≤ applicationSize) ∧
      (u32 (total + count) < contentLength → CountsFit contentLength (u32 (total + count)) rest)

instance instDecidableCountsFit (contentLength : Nat) :
    (total : Nat) → (counts : List Nat) → Decidable (CountsFit contentLength total counts)
  | _, [] => inferInstanceAs (Decidable True)
  | total, count :: rest =>
    have := instDecidableCountsFit contentLength (u32 (total + count)) rest
    inferInstanceAs (Decidable (count = 0 ∨
      (writePageCount count = 0 ∨ total + writePageCount count * 256 ≤ applicationSize) ∧
      (u32 (total + count) < contentLength → CountsFit contentLength (u32 (total + count)) rest)))

/-- The range of the operation's flash call lies in the OTA area. -/
def InOtaArea : Operation UInt8 → Prop
  | .eraseSector offset => 0x140000 ≤ offset ∧ offset + 4096 ≤ 0x1C0000
  | .programPage offset _ => 0x140000 ≤ offset ∧ offset + 256 ≤ 0x1C0000

/-- An address of the configuration, certificate, factory or application areas,
or any other outside the OTA area. -/
def OutsideOta (address : Nat) : Prop := address < 0x140000 ∨ 0x1C0000 ≤ address

/-- What confinement of a callback's run means: every flash call lies in the OTA
area, every other address keeps its byte, and every `recv` stays in the buffer. -/
structure Confined (misaligned : Misalignment UInt8 userFlashPageSize)
    (result : CallbackResult) : Prop where
  calls : ∀ before, ∀ operation ∈ result.flash before, InOtaArea operation
  otherAreas : ∀ before address, OutsideOta address →
    (picoFlash misaligned).run result.flash before address = before address
  destinations : ∀ range ∈ result.destinations, range.1 + range.2 ≤ httpBufMaxSize

variable (misaligned : Misalignment UInt8 userFlashPageSize) (memory : Pointer)

/-- A property of every operation of a sequence is one of both parts, when the
second part does not read the flash. -/
theorem issued_andThen (first second : Routine UInt8) (property : Operation UInt8 → Prop)
    (blind : ∀ left right, second left = second right) :
    (∀ before, ∀ operation ∈ (picoFlash misaligned).andThen first second before,
      property operation) ↔
    (∀ before, ∀ operation ∈ first before, property operation) ∧
      ∀ before, ∀ operation ∈ second before, property operation := by
  constructor
  · intro all
    constructor
    · intro before operation issued
      exact all before operation (List.mem_append_left _ issued)
    · intro before operation issued
      rw [blind before ((picoFlash misaligned).run first before)] at issued
      exact all before operation (List.mem_append_right _ issued)
  · rintro ⟨firstAll, secondAll⟩ before operation issued
    rcases List.mem_append.mp issued with early | late
    · exact firstAll before operation early
    · exact secondAll _ operation late

/-- The loop writes what it received, whatever the flash holds. -/
theorem receiveLoop_blind (contentLength : Nat) (passes : List Pass) (chunk : Chunk) (total : Nat)
    (left right : Contents UInt8) :
    (receiveLoop misaligned memory contentLength passes chunk total).flash left =
      (receiveLoop misaligned memory contentLength passes chunk total).flash right := by
  induction passes, chunk, total using receiveLoop_induction memory contentLength
    generalizing left right with
  | empty passes chunk total nothing =>
    rw [receiveLoop_empty misaligned memory contentLength passes chunk total nothing]
    rfl
  | complete passes chunk total some reached =>
    rw [receiveLoop_complete misaligned memory contentLength passes chunk total some reached]
    rfl
  | exhausted chunk total some less =>
    rw [receiveLoop_incomplete misaligned memory contentLength [] chunk total some less]
    rfl
  | next pass rest chunk total some less inductionHypothesis =>
    rw [receiveLoop_incomplete misaligned memory contentLength _ chunk total some less]
    simp only [laterReception, FlashPart.andThen]
    rw [inductionHypothesis _ ((picoFlash misaligned).run _ right)]
    rfl

/-- The write of one pass stays in the area exactly when its page count is zero
or its pages fit behind the running total. -/
theorem write_inside_iff (total count : Nat) (buffer : Pointer) (bounded : total < 4294967296) :
    (∀ before, ∀ operation ∈ writeFlashOtaBinary misaligned total buffer count before,
      InOtaArea operation) ↔
    writePageCount count = 0 ∨ total + writePageCount count * 256 ≤ applicationSize := by
  simp only [writeFlashOtaBinary, writeFlash, ota_offset, FlashPart.programPages, List.mem_map,
    List.mem_range]
  generalize writePageCount count = pages
  constructor
  · intro inside
    rcases Nat.eq_zero_or_pos pages with none | some
    · exact Or.inl none
    · right
      have firstPage : InOtaArea (.programPage (u32 (0x140000 + total) + 0 * 256) _) :=
        inside (fun _ => 0) _ ⟨0, some, rfl⟩
      have lastPage : InOtaArea (.programPage (u32 (0x140000 + total) + (pages - 1) * 256) _) :=
        inside (fun _ => 0) _ ⟨pages - 1, by omega, rfl⟩
      simp only [InOtaArea, u32] at firstPage lastPage
      have bound : total + pages * 256 ≤ 0x80000 := by omega
      exact bound
  · rintro (none | fits) before operation ⟨index, issued, rfl⟩
    · omega
    · have bound : total + pages * 256 ≤ 0x80000 := fits
      have exact : u32 (0x140000 + total) = 0x140000 + total := u32_of_lt _ (by omega)
      simp only [InOtaArea, exact, picoFlash]
      constructor
      · omega
      · lia

/-- The loop stays in the area exactly when the counts of its passes fit. -/
theorem receiveLoop_inside_iff (contentLength : Nat) (passes : List Pass) (chunk : Chunk)
    (total : Nat) (bounded : total < 4294967296) :
    (∀ before, ∀ operation ∈
      (receiveLoop misaligned memory contentLength passes chunk total).flash before,
      InOtaArea operation) ↔
    CountsFit contentLength total
      (chunk.currentReceived :: laterCounts memory chunk.incoming passes) := by
  induction passes, chunk, total using receiveLoop_induction memory contentLength with
  | empty passes chunk total nothing =>
    rw [receiveLoop_empty misaligned memory contentLength passes chunk total nothing]
    constructor
    · intro _
      exact Or.inl nothing
    · rintro _ before operation ⟨⟩
  | complete passes chunk total some reached =>
    have positive : chunk.currentReceived ≠ 0 := by omega
    have finished : ¬ u32 (total + chunk.currentReceived) < contentLength := by omega
    rw [receiveLoop_complete misaligned memory contentLength passes chunk total some reached,
      write_inside_iff misaligned total _ _ bounded]
    simp only [CountsFit, positive, finished, false_or, false_implies, and_true]
  | exhausted chunk total some less =>
    have positive : chunk.currentReceived ≠ 0 := by omega
    rw [receiveLoop_incomplete misaligned memory contentLength [] chunk total some less]
    simp only [laterReception]
    rw [issued_andThen misaligned _ _ _ (fun _ _ => rfl), write_inside_iff misaligned total _ _ bounded]
    simp [CountsFit, laterCounts, positive, idle]
  | next pass rest chunk total some less inductionHypothesis =>
    have positive : chunk.currentReceived ≠ 0 := by omega
    have nextBounded : u32 (total + chunk.currentReceived) < 4294967296 :=
      Nat.mod_lt _ (by decide)
    rw [receiveLoop_incomplete misaligned memory contentLength _ chunk total some less]
    simp only [laterReception]
    rw [issued_andThen misaligned _ _ _ (receiveLoop_blind misaligned memory contentLength _ _ _),
      write_inside_iff misaligned total _ _ bounded,
      inductionHypothesis nextBounded]
    simp only [CountsFit, laterCounts, positive, less, false_or, forall_const]

/-- The ranges a later pass hands to `recv` lie in the buffer. -/
theorem laterChunk_destinations (incoming : List UInt8) (pass : Pass) (range : Nat × Nat)
    (handed : range ∈ (laterChunk memory incoming pass).destinations) :
    range.1 + range.2 ≤ httpBufMaxSize := by
  simp only [laterChunk] at handed
  by_cases room : pass.1.returned incoming httpBufMaxSize < httpBufMaxSize
  · simp only [if_pos room, List.mem_cons, List.not_mem_nil, or_false] at handed
    rcases handed with rfl | rfl
    · exact Nat.le_refl 2048
    · have bound : pass.1.returned incoming httpBufMaxSize < 2048 := room
      exact Nat.le_of_eq (Nat.add_sub_of_le (Nat.le_of_lt bound))
  · simp only [if_neg room, List.mem_singleton] at handed
    rw [handed]
    exact Nat.le_refl 2048

/-- The ranges the whole loop hands to `recv` lie in the buffer. -/
theorem receiveLoop_destinations (contentLength : Nat) (passes : List Pass) (chunk : Chunk)
    (total : Nat) (inBuffer : ∀ range ∈ chunk.destinations, range.1 + range.2 ≤ httpBufMaxSize)
    (range : Nat × Nat)
    (handed : range ∈
      (receiveLoop misaligned memory contentLength passes chunk total).destinations) :
    range.1 + range.2 ≤ httpBufMaxSize := by
  induction passes, chunk, total using receiveLoop_induction memory contentLength with
  | empty passes chunk total nothing =>
    rw [receiveLoop_empty misaligned memory contentLength passes chunk total nothing] at handed
    exact inBuffer range handed
  | complete passes chunk total some reached =>
    rw [receiveLoop_complete misaligned memory contentLength passes chunk total some reached]
      at handed
    exact inBuffer range handed
  | exhausted chunk total some less =>
    rw [receiveLoop_incomplete misaligned memory contentLength [] chunk total some less] at handed
    rcases List.mem_append.mp handed with early | late
    · exact inBuffer range early
    · exact laterChunk_destinations memory _ _ range late
  | next pass rest chunk total some less inductionHypothesis =>
    rw [receiveLoop_incomplete misaligned memory contentLength _ chunk total some less] at handed
    rcases List.mem_append.mp handed with early | late
    · exact inBuffer range early
    · exact inductionHypothesis (laterChunk_destinations memory _ _) late

/-- An operation in the OTA area, misaligned or not, changes no byte outside it. -/
theorem inOtaArea_untouched (operation : Operation UInt8) (address : Nat)
    (inside : InOtaArea operation) (outside : OutsideOta address) :
    ¬ (picoFlash misaligned).Touches operation address := by
  intro touched
  cases operation with
  | eraseSector offset =>
    have range : offset ≤ address ∧ address < offset + 4096 := touched
    simp only [InOtaArea] at inside
    rcases outside with below | above
    · omega
    · omega
  | programPage offset data =>
    have range : if offset % 256 = 0 then offset ≤ address ∧ address < offset + 256
        else offset / 256 * 256 ≤ address ∧ address < offset / 256 * 256 + 2 * 256 := touched
    simp only [InOtaArea] at inside
    by_cases aligned : offset % 256 = 0
    · rw [if_pos aligned] at range
      rcases outside with below | above
      · omega
      · omega
    · rw [if_neg aligned] at range
      rcases outside with below | above
      · omega
      · omega

/-- Erasing the OTA area stays in it. -/
theorem erase_ota_inside (before : Contents UInt8) (operation : Operation UInt8)
    (issued : operation ∈ eraseFlashTotalOtaArea misaligned before) : InOtaArea operation := by
  have sectors : eraseSectorCount applicationSize = 128 := by decide
  simp only [eraseFlashTotalOtaArea, eraseFlash, sectors, ota_offset, FlashPart.eraseSectors,
    List.mem_map, List.mem_range] at issued
  obtain ⟨index, inside, rfl⟩ := issued
  simp only [InOtaArea, picoFlash, userFlashSectorSize]
  omega

/-- A callback whose flash calls lie in the area leaves the other areas alone. -/
theorem calls_frame (routine : Routine UInt8)
    (calls : ∀ before, ∀ operation ∈ routine before, InOtaArea operation)
    (before : Contents UInt8) (address : Nat) (outside : OutsideOta address) :
    (picoFlash misaligned).run routine before address = before address :=
  applyAll_frame _ _ before address fun operation issued =>
    inOtaArea_untouched misaligned operation address (calls before operation issued) outside

/-- Confinement of the receive loop and the erase before it. -/
theorem loop_confined_iff (response : Response) (incoming : List UInt8) (first : RecvResult)
    (passes : List Pass) (returnStatus : Int) :
    let loop := receiveLoop misaligned memory response.contentLength passes
      (firstChunk memory response.pBody incoming first) 0
    Confined misaligned ⟨returnStatus,
      (picoFlash misaligned).andThen (eraseFlashTotalOtaArea misaligned) loop.flash,
      loop.destinations, loop.body⟩ ↔
    CountsFit response.contentLength 0
      (receivedCounts memory response.pBody incoming first passes) := by
  have loopInside := receiveLoop_inside_iff misaligned memory response.contentLength passes
    (firstChunk memory response.pBody incoming first) 0 (by decide)
  have sequence := issued_andThen misaligned (eraseFlashTotalOtaArea misaligned) _ InOtaArea
    (receiveLoop_blind misaligned memory response.contentLength passes
      (firstChunk memory response.pBody incoming first) 0)
  constructor
  · intro confined
    exact loopInside.mp (sequence.mp confined.calls).2
  · intro fits
    have calls := sequence.mpr ⟨erase_ota_inside misaligned, loopInside.mpr fits⟩
    refine ⟨calls, calls_frame misaligned _ calls, ?_⟩
    apply receiveLoop_destinations misaligned memory
    intro range handed
    have inBuffer : response.pBody.length ≤ 2048 := response.inBuffer
    rw [firstChunk, List.mem_singleton] at handed
    rw [handed]
    exact Nat.le_of_eq (Nat.add_sub_of_le inBuffer)

/-- The callback is confined to the OTA area and to its buffer exactly when, if
its receive loop runs, the counts of the passes fit. -/
theorem confined_iff_counts (exchange : HttpExchange) (incoming : List UInt8)
    (first : RecvResult) (passes : List Pass) :
    Confined misaligned
      (otaHttpSendRequestCallback misaligned memory exchange incoming first passes) ↔
    (exchange.httpStatus = .insufficientMemory →
      CountsFit exchange.delivered.contentLength 0
        (receivedCounts memory exchange.delivered.pBody incoming first passes)) := by
  simp only [otaHttpSendRequestCallback]
  by_cases oversized : exchange.httpStatus = .insufficientMemory
  · simp only [oversized, forall_const]
    exact loop_confined_iff misaligned memory exchange.delivered incoming first passes _
  · simp only [if_neg oversized]
    constructor
    · intro _ status
      exact absurd status oversized
    · intro _
      refine ⟨?_, ?_, ?_⟩
      · rintro before operation ⟨⟩
      · intro before address outside
        rfl
      · rintro range ⟨⟩

/-- Behind the bytes delivered before, the whole pages of each pass lie inside the area. -/
def PagesFit : Nat → List Arrival → Prop
  | _, [] => True
  | delivered, arrival :: rest =>
    delivered + (arrival.bytes + 255) / 256 * 256 ≤ applicationSize ∧
      PagesFit (delivered + arrival.bytes) rest

/-- A count of one buffer at most fits exactly when its whole pages do. -/
theorem count_fits_iff (delivered bytes : Nat) (some : 0 < bytes)
    (small : bytes ≤ httpBufMaxSize) :
    (writePageCount bytes = 0 ∨ delivered + writePageCount bytes * 256 ≤ applicationSize) ↔
      delivered + (bytes + 255) / 256 * 256 ≤ applicationSize := by
  have bound : bytes ≤ 2048 := small
  have pages := writePageCount_exact bytes (by omega)
  have positive : writePageCount bytes ≠ 0 := by omega
  rw [or_iff_right positive, pages]

/-- Without an error the counts fit exactly when the whole pages of the passes do. -/
theorem countsFit_iff (contentLength : Nat) (passes : List Pass) (chunk : Chunk)
    (arrival : Arrival) (delivered waiting : Nat) (counts : Counts chunk arrival waiting)
    (within : delivered ≤ applicationSize)
    (steady : Steady (arrivalsFrom contentLength passes arrival delivered waiting)) :
    CountsFit contentLength delivered
        (chunk.currentReceived :: laterCounts memory chunk.incoming passes) ↔
      PagesFit delivered (arrivalsFrom contentLength passes arrival delivered waiting) := by
  induction passes generalizing chunk arrival delivered waiting with
  | nil =>
    rw [arrivalsFrom_exhausted, laterCounts, CountsFit, PagesFit, PagesFit, counts.count]
    rcases Nat.eq_zero_or_pos arrival.bytes with nothing | some
    · simp only [nothing, true_or, true_iff, and_true]
      exact within
    · rw [or_iff_right (Nat.ne_of_gt some), count_fits_iff delivered _ some counts.small]
      simp only [CountsFit, implies_true]
  | cons pass rest inductionHypothesis =>
    rw [laterCounts, CountsFit, counts.count]
    rcases Nat.eq_zero_or_pos arrival.bytes with nothing | some
    · rw [arrivalsFrom_ended _ _ _ _ _ (.inl nothing), PagesFit, PagesFit]
      simp only [nothing, true_or, true_iff, and_true]
      exact within
    · rw [or_iff_right (Nat.ne_of_gt some), count_fits_iff delivered _ some counts.small]
      rcases Nat.lt_or_ge (delivered + arrival.bytes) contentLength with incomplete | complete
      · rw [arrivalsFrom_ongoing _ _ _ _ _ _ some incomplete, PagesFit]
        refine and_congr_right fun fits => ?_
        have fitting : delivered + (arrival.bytes + 255) / 256 * 256 ≤ 0x80000 := fits
        have inside : delivered + arrival.bytes ≤ 0x80000 := by omega
        have sum : u32 (delivered + arrival.bytes) = delivered + arrival.bytes :=
          u32_of_lt _ (by omega)
        obtain ⟨nextCounts, nextSteady⟩ :=
          next_counts memory _ _ _ pass rest chunk arrival counts some incomplete steady
        rw [sum, forall_prop_of_true incomplete]
        exact inductionHypothesis _ _ _ _ nextCounts inside nextSteady
      · rw [arrivalsFrom_ended _ _ _ _ _ (.inr complete), PagesFit, PagesFit]
        refine and_congr_right fun fits => ?_
        have fitting : delivered + (arrival.bytes + 255) / 256 * 256 ≤ 0x80000 := fits
        have sum : u32 (delivered + arrival.bytes) = delivered + arrival.bytes :=
          u32_of_lt _ (by omega)
        rw [sum]
        simp only [Nat.not_lt_of_le complete, false_implies]

/-- The callback is confined to the OTA area and to its buffer when, if its receive loop
runs, no `recv` fails and the whole pages of the passes fit behind the bytes delivered
before. If no `recv` fails it is confined only then. -/
theorem download_confined_when (exchange : HttpExchange) (incoming : List UInt8)
    (first : RecvResult) (passes : List Pass) :
    ((exchange.httpStatus = .insufficientMemory →
        Steady (downloadArrivals exchange incoming first passes) ∧
          PagesFit 0 (downloadArrivals exchange incoming first passes)) →
      Confined misaligned
        (otaHttpSendRequestCallback misaligned memory exchange incoming first passes)) ∧
    (exchange.httpStatus = .insufficientMemory →
      Steady (downloadArrivals exchange incoming first passes) →
      Confined misaligned
        (otaHttpSendRequestCallback misaligned memory exchange incoming first passes) →
      PagesFit 0 (downloadArrivals exchange incoming first passes)) := by
  have fit (steady : Steady (downloadArrivals exchange incoming first passes)) :
      CountsFit exchange.delivered.contentLength 0
          (receivedCounts memory exchange.delivered.pBody incoming first passes) ↔
        PagesFit 0 (downloadArrivals exchange incoming first passes) :=
    countsFit_iff memory _ passes _ _ 0 _
      (download_counts memory exchange incoming first passes steady) (Nat.zero_le _) steady
  have exact := confined_iff_counts misaligned memory exchange incoming first passes
  constructor
  · intro condition
    refine exact.mpr fun oversized => ?_
    obtain ⟨steady, pages⟩ := condition oversized
    exact (fit steady).mpr pages
  · intro oversized steady confined
    exact (fit steady).mp (exact.mp confined oversized)

/-- A response of 5000 bytes of which 1500 came with the headers. -/
def fittingResponse : Response where
  pBody := List.replicate 1500 0xAA
  contentLength := 5000
  inBuffer := by
    rw [List.length_replicate]
    decide

/-- It arrives in two full buffers and a part of a third. -/
theorem fitting_response_confined :
    Confined (.ignored UInt8 256) (otaHttpSendRequestCallback (.ignored UInt8 256) (fun _ => 0)
      ⟨.success, .insufficientMemory, fittingResponse⟩ (List.replicate 3500 0xAA) (.received 548)
      [(.received 1000, .received 1048), (.received 904, .received 0)]) := by
  have passes : downloadArrivals ⟨.success, .insufficientMemory, fittingResponse⟩
      (List.replicate 3500 0xAA) (.received 548)
      [(.received 1000, .received 1048), (.received 904, .received 0)] =
      [⟨2048, false⟩, ⟨2048, false⟩, ⟨904, false⟩] := by
    simp only [downloadArrivals, arrivals, HttpExchange.delivered, fittingResponse, if_true,
      List.length_replicate]
    decide
  apply (download_confined_when _ _ _ _ _ _).1
  intro _
  rw [passes]
  exact ⟨by decide, by simp only [PagesFit]; decide⟩

/-- Passes that each find a full buffer waiting. -/
theorem full_passes (incoming : List UInt8) (second : RecvResult) (count : Nat)
    (waiting : count * 2048 ≤ incoming.length) :
    laterCounts memory incoming (List.replicate count (.received 2048, second)) =
      List.replicate count 2048 := by
  induction count generalizing incoming with
  | zero => rfl
  | succ count inductionHypothesis =>
    have full : min (min 2048 2048) incoming.length = 2048 := by lia
    have rest : count * 2048 ≤ (incoming.drop 2048).length := by
      rw [List.length_drop]
      lia
    have tail := inductionHypothesis (incoming.drop 2048) rest
    simp only [List.replicate_succ, laterCounts, laterChunk, RecvResult.returned,
      RecvResult.stored, httpBufMaxSize, List.length_take, full, Nat.lt_irrefl, if_false]
    rw [tail]

/-- A response that announces 2 KiB more than the area holds, with 1500 body
bytes already in the buffer. -/
def oversizedResponse : Response where
  pBody := List.replicate 1500 0xAA
  contentLength := 0x80800
  inBuffer := by
    rw [List.length_replicate]
    decide

/-- Delivered in full buffers, it takes 257 passes. -/
theorem oversized_counts :
    receivedCounts (fun _ => 0) oversizedResponse.pBody (List.replicate 524836 0xAA)
      (.received 548) (List.replicate 256 (.received 2048, .received 0)) =
    2048 :: List.replicate 256 2048 := by
  have later := full_passes (fun _ => 0) (List.replicate 524288 0xAA) (.received 0) 256
    (Nat.le_of_eq List.length_replicate.symm)
  simp only [receivedCounts, oversizedResponse, firstChunk, RecvResult.returned,
    RecvResult.stored, httpBufMaxSize, List.take_replicate, List.drop_replicate,
    List.length_replicate]
  exact congrArg (2048 :: ·) later

/-- The last of those writes lands in the configuration area. -/
theorem oversized_response_escapes :
    ¬ ∀ (misaligned : Misalignment UInt8 userFlashPageSize) (memory : Pointer)
      (exchange : HttpExchange) (incoming : List UInt8) (first : RecvResult) (passes : List Pass),
      Confined misaligned
        (otaHttpSendRequestCallback misaligned memory exchange incoming first passes) := by
  intro confined
  have escaped := confined (.ignored UInt8 256) (fun _ => 0)
    ⟨.success, .insufficientMemory, oversizedResponse⟩ (List.replicate 524836 0xAA)
    (.received 548) (List.replicate 256 (.received 2048, .received 0))
  have fits := (loop_confined_iff (.ignored UInt8 256) (fun _ => 0) oversizedResponse
    (List.replicate 524836 0xAA) (.received 548)
    (List.replicate 256 (.received 2048, .received 0)) _).mp escaped
  rw [oversized_counts] at fits
  have escapes : ¬ CountsFit 0x80800 0 (2048 :: List.replicate 256 2048) := by decide +kernel
  exact escapes fits

end WiznetEaas.OtaConfinement
