import WiznetEaas.OtaDownload
import WiznetEaas.FlashRecords
import Mathlib.Data.List.GetD

/-!
# Which segmentations of a download are stored faithfully

Each pass stores its chunk from the running total on, rounded up to whole pages.
The next chunk starts at the unrounded total. When every chunk but the last is a
whole number of pages, all programs are aligned and disjoint and the body is
stored exactly. Otherwise some program starts inside a page that is already
programmed, which the part does not promise to handle.
-/

namespace WiznetEaas.OtaFidelity

open NorFlash ByteMemory FlashControl FlashRecords OtaDownload

/-- A pass whose calls of `recv` find these numbers of bytes available. -/
def receivedPass (sizes : Nat × Nat) : Pass := (.received sizes.1, .received sizes.2)

/-- The length of the first chunk: the held part of the body and one `recv`. -/
def firstLength (held remaining first : Nat) : Nat :=
  held + min (min first (httpBufMaxSize - held)) remaining

/-- The length of a later chunk: one `recv`, and another if the buffer has room. -/
def laterLength (remaining : Nat) (sizes : Nat × Nat) : Nat :=
  let one := min (min sizes.1 httpBufMaxSize) remaining
  if one < httpBufMaxSize then one + min (min sizes.2 (httpBufMaxSize - one)) (remaining - one)
  else one

/-- The lengths of the later chunks until the body is complete. -/
def laterLengths : Nat → List (Nat × Nat) → List Nat
  | _, [] => []
  | remaining, sizes :: rest =>
    if remaining = 0 then []
    else laterLength remaining sizes :: laterLengths (remaining - laterLength remaining sizes) rest

/-- The lengths of all chunks of a body of which `held` bytes are in the response
buffer and `remaining` are still to be received. -/
def chunkLengths (held remaining first : Nat) (later : List (Nat × Nat)) : List Nat :=
  firstLength held remaining first ::
    laterLengths (remaining - (firstLength held remaining first - held)) later

/-- Every chunk but the last is a whole number of pages. -/
def WholePages (lengths : List Nat) : Prop :=
  ∀ length ∈ lengths.dropLast, length % userFlashPageSize = 0

/-- A chunk holds the leading bytes of the data that was still to come. -/
structure Carries (chunk : Chunk) (data : List UInt8) (length : Nat) : Prop where
  count : chunk.currentReceived = length
  rest : chunk.incoming = data.drop length
  small : length ≤ httpBufMaxSize
  available : length ≤ data.length
  bytes : ∀ position, position < length →
    chunk.tempOtaBinaryBuffer position = data.getD position 0

/-- Reading inside the taken part of the second piece. -/
theorem append_take_getD (left right : List UInt8) (count position : Nat)
    (inside : position < left.length + count) :
    (left ++ right.take count).getD position 0 = (left ++ right).getD position 0 := by
  rcases Nat.lt_or_ge position left.length with early | late
  · rw [List.getD_append _ _ _ _ early, List.getD_append _ _ _ _ early]
  · have taken : position - left.length < count := by omega
    rw [List.getD_append_right _ _ _ _ late, List.getD_append_right _ _ _ _ late,
      List.getD_eq_getElem?_getD, List.getD_eq_getElem?_getD, List.getElem?_take_of_lt taken]

/-- The first pass carries the leading bytes of the whole body. -/
theorem firstChunk_carries (memory : Pointer) (pBody incoming : List UInt8) (first : Nat)
    (inBuffer : pBody.length ≤ httpBufMaxSize) :
    Carries (firstChunk memory pBody incoming (.received first)) (pBody ++ incoming)
      (firstLength pBody.length incoming.length first) := by
  have bound : pBody.length ≤ 2048 := inBuffer
  have size : (incoming.take (min first (2048 - pBody.length))).length =
      min (min first (2048 - pBody.length)) incoming.length := List.length_take
  constructor
  · simp only [firstChunk, RecvResult.returned, firstLength, httpBufMaxSize, size]
    rw [u32_of_lt _ (by omega), Nat.add_comm]
  · simp only [firstChunk, RecvResult.stored, firstLength, httpBufMaxSize, size]
    rw [List.drop_append]
    have all : pBody.drop (pBody.length +
        min (min first (2048 - pBody.length)) incoming.length) = [] :=
      List.drop_of_length_le (Nat.le_add_right _ _)
    rw [all, List.nil_append, Nat.add_sub_cancel_left]
  · simp only [firstLength, httpBufMaxSize]
    omega
  · simp only [firstLength, httpBufMaxSize, List.length_append]
    omega
  · intro position inside
    simp only [firstLength, httpBufMaxSize] at inside
    simp only [firstChunk, RecvResult.stored, httpBufMaxSize]
    rw [storeBytes_append _ _ _ _ (by rw [size]; exact inside)]
    exact append_take_getD pBody incoming _ position (by omega)

/-- A later pass carries the leading bytes of what was still to come. -/
theorem laterChunk_carries (memory : Pointer) (incoming : List UInt8) (sizes : Nat × Nat) :
    Carries (laterChunk memory incoming (receivedPass sizes)) incoming
      (laterLength incoming.length sizes) := by
  have size : (incoming.take (min sizes.1 2048)).length =
      min (min sizes.1 2048) incoming.length := List.length_take
  by_cases room : min (min sizes.1 2048) incoming.length < 2048
  · have size2nd (count : Nat) :
        ((incoming.drop (min (min sizes.1 2048) incoming.length)).take count).length =
          min count (incoming.length - min (min sizes.1 2048) incoming.length) := by
      rw [List.length_take, List.length_drop]
    simp only [laterLength, laterChunk, receivedPass, RecvResult.returned, RecvResult.stored,
      httpBufMaxSize, size, size2nd, if_pos room]
    constructor
    · exact u32_of_lt _ (by omega)
    · rw [List.drop_drop]
    · simp only [httpBufMaxSize]
      omega
    · omega
    · intro position inside
      have stored := storeBytes_append (clearedBuffer memory) (incoming.take (min sizes.1 2048))
        ((incoming.drop (min (min sizes.1 2048) incoming.length)).take
          (min sizes.2 (2048 - min (min sizes.1 2048) incoming.length))) position
        (by rw [size, size2nd]; exact inside)
      rw [size] at stored
      refine stored.trans ?_
      rw [append_take_getD _ _ _ _ (by rw [size]; omega)]
      have whole : incoming.take (min sizes.1 2048) =
          incoming.take (min (min sizes.1 2048) incoming.length) := List.take_eq_take_min
      rw [whole, List.take_append_drop]
  · simp only [laterLength, laterChunk, receivedPass, RecvResult.returned, RecvResult.stored,
      httpBufMaxSize, size, if_neg room]
    constructor
    · rfl
    · rfl
    · simp only [httpBufMaxSize]
      omega
    · omega
    · intro position inside
      have stored := storeBytes_inside (clearedBuffer memory) 0 (incoming.take (min sizes.1 2048))
        position (by rw [size]; exact inside)
      rw [Nat.zero_add] at stored
      have taken : position < min sizes.1 2048 := by omega
      refine stored.trans ?_
      rw [List.getD_eq_getElem?_getD, List.getD_eq_getElem?_getD, List.getElem?_take_of_lt taken]

/-- A pass of the loop that holds its chunk: the bytes of the body from the
running total on, in a body that fits the area. -/
structure AtChunk (body : List UInt8) (chunk : Chunk) (total length : Nat) : Prop where
  carries : Carries chunk (body.drop total) length
  inBody : total + length ≤ body.length
  fits : body.length ≤ 0x80000

/-- The buffer holds the body's bytes from the running total on. -/
theorem AtChunk.byte (body : List UInt8) (chunk : Chunk) (total length position : Nat)
    (atChunk : AtChunk body chunk total length) (inside : position < length) :
    chunk.tempOtaBinaryBuffer position = body.getD (total + position) 0 := by
  rw [atChunk.carries.bytes position inside, List.getD_eq_getElem?_getD,
    List.getD_eq_getElem?_getD, List.getElem?_drop]

/-- The 32-bit sum of the loop is exact. -/
theorem AtChunk.sum (body : List UInt8) (chunk : Chunk) (total length : Nat)
    (atChunk : AtChunk body chunk total length) :
    u32 (total + chunk.currentReceived) = total + length := by
  have inBody := atChunk.inBody
  have fits := atChunk.fits
  rw [atChunk.carries.count, u32_of_lt _ (by omega)]

/-- The next pass holds the next chunk. -/
theorem AtChunk.next (memory : Pointer) (body : List UInt8) (chunk : Chunk) (total length : Nat)
    (sizes : Nat × Nat) (atChunk : AtChunk body chunk total length) :
    AtChunk body (laterChunk memory chunk.incoming (receivedPass sizes)) (total + length)
      (laterLength (body.length - (total + length)) sizes) := by
  have inBody := atChunk.inBody
  have rest : chunk.incoming = body.drop (total + length) := by
    rw [atChunk.carries.rest, List.drop_drop]
  have carried := laterChunk_carries memory chunk.incoming sizes
  rw [rest, List.length_drop] at carried
  have available := carried.available
  rw [List.length_drop] at available
  rw [rest]
  exact ⟨carried, by omega, atChunk.fits⟩

variable (misaligned : Misalignment UInt8 userFlashPageSize) (memory : Pointer)

/-- The loop is left with success and a nonempty last pass: the callback returns 0. -/
def Succeeded (reception : Reception) : Prop :=
  reception.httpStatus = .success ∧ reception.currentReceived ≠ 0

/-- A loop that is complete after its first chunk succeeds and writes that chunk. -/
theorem loop_stops (body : List UInt8) (passes : List Pass) (chunk : Chunk) (total length : Nat)
    (atChunk : AtChunk body chunk total length) (some : 0 < length)
    (complete : body.length ≤ total + length) :
    Succeeded (receiveLoop misaligned memory body.length passes chunk total) ∧
    (receiveLoop misaligned memory body.length passes chunk total).flash =
      writeFlashOtaBinary misaligned total chunk.tempOtaBinaryBuffer length := by
  have count := atChunk.carries.count
  rw [receiveLoop_complete misaligned memory body.length passes chunk total
    (by rw [count]; exact some) (by rw [atChunk.sum]; exact complete), count]
  exact ⟨⟨rfl, Nat.ne_of_gt some⟩, rfl⟩

/-- A loop that is not complete writes its chunk and goes on with the next one. -/
theorem loop_continues (body : List UInt8) (sizes : Nat × Nat) (rest : List (Nat × Nat))
    (chunk : Chunk) (total length : Nat) (atChunk : AtChunk body chunk total length)
    (some : 0 < length) (incomplete : total + length < body.length) :
    let loop := receiveLoop misaligned memory body.length ((sizes :: rest).map receivedPass) chunk
      total
    let next := receiveLoop misaligned memory body.length (rest.map receivedPass)
      (laterChunk memory chunk.incoming (receivedPass sizes)) (total + length)
    (Succeeded loop ↔ Succeeded next) ∧
    ∀ before, (picoFlash misaligned).run loop.flash before =
      (picoFlash misaligned).run next.flash ((picoFlash misaligned).run
        (writeFlashOtaBinary misaligned total chunk.tempOtaBinaryBuffer length) before) := by
  have count := atChunk.carries.count
  have sum := atChunk.sum
  rw [receiveLoop_incomplete misaligned memory body.length _ chunk total
    (by rw [count]; exact some) (by rw [sum]; exact incomplete)]
  simp only [List.map_cons, laterReception, sum]
  rw [count]
  exact ⟨Iff.rfl, run_andThen (picoFlash misaligned) _ _⟩

/-- A loop with an empty chunk, or one that is incomplete when no pass is left,
does not succeed. -/
theorem loop_fails (body : List UInt8) (passes : List Pass) (chunk : Chunk) (total length : Nat)
    (atChunk : AtChunk body chunk total length)
    (stuck : length = 0 ∨ passes = [] ∧ total + length < body.length) :
    ¬ Succeeded (receiveLoop misaligned memory body.length passes chunk total) := by
  have count := atChunk.carries.count
  intro succeeded
  rcases Nat.eq_zero_or_pos length with nothing | some
  · rw [receiveLoop_empty misaligned memory body.length passes chunk total (count.trans nothing)]
      at succeeded
    exact succeeded.2 rfl
  · obtain zero | ⟨rfl, incomplete⟩ := stuck
    · omega
    · rw [receiveLoop_incomplete misaligned memory body.length [] chunk total
        (by rw [count]; exact some) (by rw [atChunk.sum]; exact incomplete)] at succeeded
      exact succeeded.2 rfl

/-- A succeeding loop either completes the body with its first chunk or goes on. -/
theorem loop_cases (body : List UInt8) (later : List (Nat × Nat)) (chunk : Chunk)
    (total length : Nat) (atChunk : AtChunk body chunk total length)
    (succeeded : Succeeded (receiveLoop misaligned memory body.length
      (later.map receivedPass) chunk total)) :
    0 < length ∧ (body.length ≤ total + length ∨
      ∃ sizes rest, later = sizes :: rest ∧ total + length < body.length) := by
  have some : 0 < length := by
    rcases Nat.eq_zero_or_pos length with nothing | some
    · exact absurd succeeded
        (loop_fails misaligned memory body _ chunk total length atChunk (Or.inl nothing))
    · exact some
  refine ⟨some, ?_⟩
  rcases Nat.lt_or_ge (total + length) body.length with incomplete | complete
  · right
    cases later with
    | nil =>
      exact absurd succeeded
        (loop_fails misaligned memory body _ chunk total length atChunk (Or.inr ⟨rfl, incomplete⟩))
    | cons sizes rest => exact ⟨sizes, rest, rfl, incomplete⟩
  · exact Or.inl complete

/-- An aligned write over erased pages stores the buffer for whole pages. -/
theorem aligned_write (total length : Nat) (buffer : Pointer) (before : Contents UInt8)
    (aligned : total % 256 = 0) (fits : total + length ≤ 0x80000)
    (blank : ∀ position, total ≤ position → position < 0x80000 →
      before (0x140000 + position) = 0xFF) (position : Nat) :
    (picoFlash misaligned).run (writeFlashOtaBinary misaligned total buffer length) before
        (0x140000 + position) =
      if total ≤ position ∧ position < total + (length + 255) / 256 * 256 then
        buffer (position - total)
      else before (0x140000 + position) := by
  have pages : writePageCount length = (length + 255) / 256 := writePageCount_exact length (by omega)
  have start : u32 (0x140000 + total) = 0x140000 + total := u32_of_lt _ (by omega)
  have boundary : (0x140000 + total) % 256 = 0 := by omega
  have erased : ∀ address, 0x140000 + total ≤ address →
      address < 0x140000 + total + (length + 255) / 256 * 256 → before address = 0xFF := by
    intro address low high
    have area := blank (address - 0x140000) (by omega) (by omega)
    rw [Nat.add_sub_of_le (by omega)] at area
    exact area
  have stored := pico_programPages misaligned (0x140000 + total) buffer ((length + 255) / 256)
    boundary before erased (0x140000 + position)
  simp only [FlashPart.run, writeFlashOtaBinary, writeFlash, ota_offset, start, pages]
  rw [stored]
  by_cases inside : total ≤ position ∧ position < total + (length + 255) / 256 * 256
  · rw [if_pos inside, if_pos (by omega)]
    congr 1
    omega
  · rw [if_neg inside, if_neg (by omega)]

/-- The OTA area holds the leading bytes of the body and is erased behind them. -/
structure StoredUpTo (body : List UInt8) (total : Nat) (contents : Contents UInt8) : Prop where
  written : ∀ position, position < total → contents (0x140000 + position) = body.getD position 0
  blank : ∀ position, total ≤ position → position < 0x80000 → contents (0x140000 + position) = 0xFF

/-- The write of a chunk stores its bytes and keeps the earlier ones. -/
theorem chunk_written (body : List UInt8) (chunk : Chunk) (total length : Nat)
    (before : Contents UInt8) (atChunk : AtChunk body chunk total length)
    (stored : StoredUpTo body total before) (aligned : total % 256 = 0) (position : Nat)
    (inside : position < total + length) :
    (picoFlash misaligned).run
        (writeFlashOtaBinary misaligned total chunk.tempOtaBinaryBuffer length) before
        (0x140000 + position) = body.getD position 0 := by
  have inBody := atChunk.inBody
  have fits := atChunk.fits
  rw [aligned_write misaligned total length _ before aligned (by omega) stored.blank]
  rcases Nat.lt_or_ge position total with early | late
  · have outside : ¬ (total ≤ position ∧ position < total + (length + 255) / 256 * 256) := by omega
    rw [if_neg outside]
    exact stored.written position early
  · have range : total ≤ position ∧ position < total + (length + 255) / 256 * 256 := by omega
    rw [if_pos range, atChunk.byte body chunk total length (position - total) (by omega),
      Nat.add_sub_of_le late]

/-- The write of whole pages extends the stored part of the body. -/
theorem whole_pages_written (body : List UInt8) (chunk : Chunk) (total length : Nat)
    (before : Contents UInt8) (atChunk : AtChunk body chunk total length)
    (stored : StoredUpTo body total before) (aligned : total % 256 = 0) (whole : length % 256 = 0) :
    StoredUpTo body (total + length) ((picoFlash misaligned).run
      (writeFlashOtaBinary misaligned total chunk.tempOtaBinaryBuffer length) before) := by
  have inBody := atChunk.inBody
  have fits := atChunk.fits
  constructor
  · exact chunk_written misaligned body chunk total length before atChunk stored aligned
  · intro position low high
    have outside : ¬ (total ≤ position ∧ position < total + (length + 255) / 256 * 256) := by omega
    rw [aligned_write misaligned total length _ before aligned (by omega) stored.blank,
      if_neg outside]
    exact stored.blank position (by omega) high

theorem wholePages_cons (length next : Nat) (rest : List Nat) :
    WholePages (length :: next :: rest) ↔ length % 256 = 0 ∧ WholePages (next :: rest) := by
  simp only [WholePages, List.dropLast_cons_cons, List.mem_cons, forall_eq_or_imp]

theorem wholePages_single (length : Nat) : WholePages [length] := by
  rintro other ⟨⟩

/-- The lengths of the chunks that follow an incomplete one. -/
theorem laterLengths_cons (remaining : Nat) (sizes : Nat × Nat) (rest : List (Nat × Nat))
    (more : 0 < remaining) :
    laterLengths remaining (sizes :: rest) =
      laterLength remaining sizes :: laterLengths (remaining - laterLength remaining sizes) rest := by
  rw [laterLengths, if_neg (Nat.ne_of_gt more)]

/-- A loop whose chunks are whole pages, the last excepted, and that succeeds has
stored the body. -/
theorem aligned_loop (body : List UInt8) (later : List (Nat × Nat)) (chunk : Chunk)
    (total length : Nat) (before : Contents UInt8) (atChunk : AtChunk body chunk total length)
    (stored : StoredUpTo body total before) (aligned : total % 256 = 0)
    (whole : WholePages (length :: laterLengths (body.length - (total + length)) later))
    (succeeded : Succeeded (receiveLoop misaligned memory body.length
      (later.map receivedPass) chunk total)) (position : Nat) (inside : position < body.length) :
    (picoFlash misaligned).run (receiveLoop misaligned memory body.length (later.map receivedPass)
      chunk total).flash before (0x140000 + position) = body.getD position 0 := by
  induction later generalizing chunk total length before with
  | nil =>
    obtain ⟨some, complete | ⟨_, _, impossible, _⟩⟩ :=
      loop_cases misaligned memory body [] chunk total length atChunk succeeded
    · rw [(loop_stops misaligned memory body _ chunk total length atChunk some complete).2]
      exact chunk_written misaligned body chunk total length before atChunk stored aligned
        position (by omega)
    · cases impossible
  | cons sizes rest inductionHypothesis =>
    obtain ⟨some, complete | ⟨_, _, _, incomplete⟩⟩ :=
      loop_cases misaligned memory body _ chunk total length atChunk succeeded
    · rw [(loop_stops misaligned memory body _ chunk total length atChunk some complete).2]
      exact chunk_written misaligned body chunk total length before atChunk stored aligned
        position (by omega)
    · obtain ⟨sameSuccess, run⟩ :=
        loop_continues misaligned memory body sizes rest chunk total length atChunk some incomplete
      rw [laterLengths_cons _ sizes rest (by omega)] at whole
      obtain ⟨page, restWhole⟩ := (wholePages_cons _ _ _).mp whole
      rw [Nat.sub_sub] at restWhole
      rw [run]
      exact inductionHypothesis _ (total + length) _ _
        (atChunk.next memory body chunk total length sizes)
        (whole_pages_written misaligned body chunk total length before atChunk stored aligned page)
        (by omega) restWhole (sameSuccess.mp succeeded)

/-- The calls of `recv` deliver something until the body is complete. -/
theorem laterLength_positive (remaining : Nat) (sizes : Nat × Nat) (more : 0 < remaining)
    (positive : 1 ≤ sizes.1) : 0 < laterLength remaining sizes := by
  by_cases room : min (min sizes.1 2048) remaining < 2048
  · simp only [laterLength, httpBufMaxSize, if_pos room]
    omega
  · simp only [laterLength, httpBufMaxSize, if_neg room]
    omega

/-- Chunks that deliver the whole body make the loop succeed. -/
theorem delivered_loop (body : List UInt8) (later : List (Nat × Nat)) (chunk : Chunk)
    (total length : Nat) (atChunk : AtChunk body chunk total length) (some : 0 < length)
    (positive : ∀ sizes ∈ later, 1 ≤ sizes.1)
    (complete : (length :: laterLengths (body.length - (total + length)) later).sum =
      body.length - total) :
    Succeeded (receiveLoop misaligned memory body.length (later.map receivedPass) chunk
      total) := by
  induction later generalizing chunk total length with
  | nil =>
    simp only [laterLengths, List.sum_cons, List.sum_nil] at complete
    exact (loop_stops misaligned memory body _ chunk total length atChunk some (by omega)).1
  | cons sizes rest inductionHypothesis =>
    rcases Nat.lt_or_ge (total + length) body.length with incomplete | reached
    · have more : 0 < body.length - (total + length) := by omega
      have nextSome := laterLength_positive _ sizes more (positive sizes List.mem_cons_self)
      have sameSuccess :=
        (loop_continues misaligned memory body sizes rest chunk total length atChunk some
          incomplete).1
      rw [laterLengths_cons _ sizes rest more, Nat.sub_sub, List.sum_cons] at complete
      exact sameSuccess.mpr (inductionHypothesis _ (total + length) _
        (atChunk.next memory body chunk total length sizes) nextSome
        (fun other member => positive other (List.mem_cons_of_mem sizes member)) (by omega))
    · exact (loop_stops misaligned memory body _ chunk total length atChunk some reached).1

/-- A part on which a misaligned program spoils the byte it starts at. -/
def spoiling : Misalignment UInt8 userFlashPageSize where
  effect offset data before := fun address =>
    if address = offset then data 0 + 1 else before address
  frame := by
    intro offset data before address outside
    have other : address ≠ offset := by
      simp only [userFlashPageSize] at outside
      omega
    rw [if_neg other]

theorem spoiling_apply (offset : Nat) (data : Pointer) (before : Contents UInt8) (address : Nat)
    (misplaced : offset % 256 ≠ 0) :
    (picoFlash spoiling).apply (.programPage offset data) before address =
      if address = offset then data 0 + 1 else before address := by
  have boundary : ¬ offset % (picoFlash spoiling).pageSize = 0 := misplaced
  simp only [FlashPart.apply, if_neg boundary]
  rfl

/-- On that part programs beyond an address keep its byte. -/
theorem spoiling_keeps (operations : List (Operation UInt8)) (before : Contents UInt8)
    (address : Nat)
    (beyond : ∀ operation ∈ operations, ∃ offset data,
      operation = .programPage offset data ∧ address < offset) :
    (picoFlash spoiling).applyAll operations before address = before address := by
  induction operations generalizing before with
  | nil => rfl
  | cons operation rest inductionHypothesis =>
    obtain ⟨offset, data, rfl, later⟩ := beyond operation List.mem_cons_self
    rw [applyAll_cons, inductionHypothesis _ fun other member =>
      beyond other (List.mem_cons_of_mem _ member)]
    by_cases aligned : offset % (picoFlash spoiling).pageSize = 0
    · have below : ¬ (offset ≤ address ∧ address < offset + (picoFlash spoiling).pageSize) := by
        omega
      simp only [FlashPart.apply, if_pos aligned, if_neg below]
    · have other : address ≠ offset := Nat.ne_of_lt later
      rw [spoiling_apply offset data before address aligned, if_neg other]

/-- The pages of a write start at or behind the running total. -/
theorem write_pages (total length : Nat) (buffer : Pointer) (before : Contents UInt8)
    (bounded : total < 0x80000) (operation : Operation UInt8)
    (issued : operation ∈ writeFlashOtaBinary spoiling total buffer length before) :
    ∃ index data, operation = .programPage (0x140000 + total + index * 256) data := by
  have start : u32 (0x140000 + total) = 0x140000 + total := u32_of_lt _ (by omega)
  simp only [writeFlashOtaBinary, writeFlash, ota_offset, start, FlashPart.programPages, List.mem_map]
    at issued
  obtain ⟨index, _, rfl⟩ := issued
  exact ⟨index, _, rfl⟩

/-- A write keeps every byte before the running total. -/
theorem write_keeps (total length : Nat) (buffer : Pointer) (before : Contents UInt8)
    (bounded : total < 0x80000) (position : Nat) (earlier : position < total) :
    (picoFlash spoiling).run (writeFlashOtaBinary spoiling total buffer length) before
      (0x140000 + position) = before (0x140000 + position) := by
  apply spoiling_keeps
  intro operation issued
  obtain ⟨index, data, rfl⟩ := write_pages total length buffer before bounded operation issued
  exact ⟨_, data, rfl, by omega⟩

/-- A write from inside a page spoils its first byte. -/
theorem write_spoils (total length : Nat) (buffer : Pointer) (before : Contents UInt8)
    (bounded : total + length ≤ 0x80000) (some : 0 < length) (unaligned : total % 256 ≠ 0) :
    (picoFlash spoiling).run (writeFlashOtaBinary spoiling total buffer length) before
      (0x140000 + total) = buffer 0 + 1 := by
  have pages : writePageCount length = (length - 1) / 256 + 1 := by
    rw [writePageCount_exact length (by omega)]
    omega
  have start : u32 (0x140000 + total) = 0x140000 + total := u32_of_lt _ (by omega)
  have misplaced : (0x140000 + total + 0 * 256) % 256 ≠ 0 := by omega
  have first := spoiling_apply (0x140000 + total + 0 * 256) (fun position => buffer (0 * 256 + position))
    before (0x140000 + total) misplaced
  rw [if_pos (by omega)] at first
  simp only [FlashPart.run, writeFlashOtaBinary, writeFlash, ota_offset, start, pages,
    FlashPart.programPages, List.range_succ_eq_map, List.map_cons, List.map_map, applyAll_cons]
  rw [spoiling_keeps]
  · exact first
  · intro operation issued
    obtain ⟨index, _, rfl⟩ := List.mem_map.mp issued
    refine ⟨_, _, rfl, ?_⟩
    simp only [picoFlash, userFlashPageSize]
    omega

/-- The loop keeps every byte before the running total. -/
theorem loop_keeps (body : List UInt8) (later : List (Nat × Nat)) (chunk : Chunk)
    (total length : Nat) (before : Contents UInt8) (atChunk : AtChunk body chunk total length)
    (succeeded : Succeeded (receiveLoop spoiling memory body.length (later.map receivedPass) chunk
      total)) (position : Nat) (earlier : position < total) :
    (picoFlash spoiling).run (receiveLoop spoiling memory body.length (later.map receivedPass)
      chunk total).flash before (0x140000 + position) = before (0x140000 + position) := by
  have inBody := atChunk.inBody
  have fits := atChunk.fits
  induction later generalizing chunk total length before with
  | nil =>
    obtain ⟨some, complete | ⟨_, _, impossible, _⟩⟩ :=
      loop_cases spoiling memory body [] chunk total length atChunk succeeded
    · rw [(loop_stops spoiling memory body _ chunk total length atChunk some complete).2]
      exact write_keeps total length _ before (by omega) position earlier
    · cases impossible
  | cons sizes rest inductionHypothesis =>
    obtain ⟨some, complete | ⟨_, _, _, incomplete⟩⟩ :=
      loop_cases spoiling memory body _ chunk total length atChunk succeeded
    · rw [(loop_stops spoiling memory body _ chunk total length atChunk some complete).2]
      exact write_keeps total length _ before (by omega) position earlier
    · obtain ⟨sameSuccess, run⟩ :=
        loop_continues spoiling memory body sizes rest chunk total length atChunk some incomplete
      have next := atChunk.next memory body chunk total length sizes
      rw [run, inductionHypothesis _ (total + length) _ _ next (sameSuccess.mp succeeded)
        (by omega) next.inBody]
      exact write_keeps total length _ before (by omega) position earlier

/-- A loop that starts inside a page leaves a spoiled byte there. -/
theorem spoiled_loop (body : List UInt8) (later : List (Nat × Nat)) (chunk : Chunk)
    (total length : Nat) (before : Contents UInt8) (atChunk : AtChunk body chunk total length)
    (unaligned : total % 256 ≠ 0)
    (succeeded : Succeeded (receiveLoop spoiling memory body.length (later.map receivedPass) chunk
      total)) :
    (picoFlash spoiling).run (receiveLoop spoiling memory body.length (later.map receivedPass)
      chunk total).flash before (0x140000 + total) = body.getD total 0 + 1 := by
  have inBody := atChunk.inBody
  have fits := atChunk.fits
  obtain ⟨some, ending⟩ := loop_cases spoiling memory body later chunk total length atChunk succeeded
  have first : chunk.tempOtaBinaryBuffer 0 = body.getD total 0 :=
    atChunk.byte body chunk total length 0 some
  have written := write_spoils total length chunk.tempOtaBinaryBuffer before (by omega) some unaligned
  rw [first] at written
  rcases ending with complete | ⟨sizes, rest, rfl, incomplete⟩
  · rw [(loop_stops spoiling memory body _ chunk total length atChunk some complete).2]
    exact written
  · obtain ⟨sameSuccess, run⟩ :=
      loop_continues spoiling memory body sizes rest chunk total length atChunk some incomplete
    rw [run, loop_keeps memory body rest _ (total + length) _ _
      (atChunk.next memory body chunk total length sizes) (sameSuccess.mp succeeded) total (by omega)]
    exact written

/-- No byte is its own successor. -/
theorem spoiled_differs (byte : UInt8) : byte + 1 ≠ byte := by
  intro same
  simp at same

/-- A chunk that ends inside a page and is not the last one leaves a wrong byte
on that part: the first byte of the next chunk is spoiled. -/
theorem unaligned_loop (body : List UInt8) (later : List (Nat × Nat)) (chunk : Chunk)
    (total length : Nat) (before : Contents UInt8) (atChunk : AtChunk body chunk total length)
    (aligned : total % 256 = 0)
    (broken : ¬ WholePages (length :: laterLengths (body.length - (total + length)) later))
    (succeeded : Succeeded (receiveLoop spoiling memory body.length (later.map receivedPass) chunk
      total)) :
    ∃ position, position < body.length ∧
      (picoFlash spoiling).run (receiveLoop spoiling memory body.length (later.map receivedPass)
        chunk total).flash before (0x140000 + position) ≠ body.getD position 0 := by
  induction later generalizing chunk total length before with
  | nil => exact absurd (wholePages_single length) broken
  | cons sizes rest inductionHypothesis =>
    have fits := atChunk.fits
    obtain ⟨some, complete | ⟨_, _, _, incomplete⟩⟩ :=
      loop_cases spoiling memory body _ chunk total length atChunk succeeded
    · have nothing : body.length - (total + length) = 0 := by omega
      rw [nothing, laterLengths, if_pos rfl] at broken
      exact absurd (wholePages_single length) broken
    · obtain ⟨sameSuccess, run⟩ :=
        loop_continues spoiling memory body sizes rest chunk total length atChunk some incomplete
      have next := atChunk.next memory body chunk total length sizes
      have nextSucceeded := sameSuccess.mp succeeded
      rw [laterLengths_cons _ sizes rest (by omega), Nat.sub_sub, wholePages_cons] at broken
      rw [run]
      by_cases page : length % 256 = 0
      · exact inductionHypothesis _ (total + length) _ _ next (by omega)
          (fun whole => broken ⟨page, whole⟩) nextSucceeded
      · refine ⟨total + length, incomplete, ?_⟩
        rw [spoiled_loop memory body rest _ (total + length) _ _ next (by omega) nextSucceeded]
        exact spoiled_differs _

/-- Fidelity of a download: whatever the part does with misaligned programs and
whatever flash and memory held before, if the callback returns 0 then the OTA
area begins with the body. -/
def Faithful (response : Response) (incoming : List UInt8) (first : Nat)
    (later : List (Nat × Nat)) : Prop :=
  ∀ (misaligned : Misalignment UInt8 userFlashPageSize) (memory : Pointer)
    (before : Contents UInt8),
    let result := otaHttpSendRequestCallback misaligned memory
      ⟨.success, .insufficientMemory, response⟩ incoming (.received first) (later.map receivedPass)
    result.returnStatus = 0 → ∀ position, position < response.contentLength →
      (picoFlash misaligned).run result.flash before (0x140000 + position) =
        (response.pBody ++ incoming).getD position 0

/-- The callback returns 0 exactly when its loop succeeds. -/
theorem callbackStatus_zero (reception : Reception) :
    callbackStatus reception.httpStatus reception.currentReceived = 0 ↔ Succeeded reception := by
  simp only [callbackStatus, Succeeded]
  by_cases nothing : reception.currentReceived = 0
  · simp [nothing]
  · by_cases success : reception.httpStatus = .success
    · simp [nothing, success]
    · simp [nothing, success]

/-- The first pass holds the first chunk of the whole body. -/
theorem first_atChunk (response : Response) (incoming : List UInt8) (first : Nat)
    (fits : (response.pBody ++ incoming).length ≤ 0x80000) :
    AtChunk (response.pBody ++ incoming)
      (firstChunk memory response.pBody incoming (.received first)) 0
      (firstLength response.pBody.length incoming.length first) := by
  have carries := firstChunk_carries memory response.pBody incoming first response.inBuffer
  have available := carries.available
  exact ⟨carries, by omega, fits⟩

/-- After the erase the OTA area is blank. -/
theorem erased_area (body : List UInt8) (before : Contents UInt8) :
    StoredUpTo body 0 ((picoFlash misaligned).run (eraseFlashTotalOtaArea misaligned) before) := by
  have sectors : eraseSectorCount applicationSize = 128 := by decide
  constructor
  · intro position impossible
    exact absurd impossible (Nat.not_lt_zero position)
  · intro position _ high
    simp only [FlashPart.run, eraseFlashTotalOtaArea, eraseFlash, sectors, ota_offset]
    rw [pico_eraseSectors, if_pos (by omega)]

/-- The receive loop of an oversized response. -/
def receptionOf (response : Response) (incoming : List UInt8) (first : Nat)
    (later : List (Nat × Nat)) : Reception :=
  receiveLoop misaligned memory response.contentLength (later.map receivedPass)
    (firstChunk memory response.pBody incoming (.received first)) 0

/-- The callback's status, and the flash it leaves: erased, then written. -/
theorem callback_oversized (response : Response) (incoming : List UInt8) (first : Nat)
    (later : List (Nat × Nat)) (before : Contents UInt8) :
    let result := otaHttpSendRequestCallback misaligned memory
      ⟨.success, .insufficientMemory, response⟩ incoming (.received first) (later.map receivedPass)
    let reception := receptionOf misaligned memory response incoming first later
    (result.returnStatus = 0 ↔ Succeeded reception) ∧
    (picoFlash misaligned).run result.flash before = (picoFlash misaligned).run reception.flash
      ((picoFlash misaligned).run (eraseFlashTotalOtaArea misaligned) before) :=
  ⟨callbackStatus_zero _, run_andThen (picoFlash misaligned) _ _ before⟩

/-- The bytes still to come after the first chunk. -/
theorem remaining_after_first (held remaining first : Nat) :
    remaining - (firstLength held remaining first - held) =
      held + remaining - (0 + firstLength held remaining first) := by
  have larger : held ≤ firstLength held remaining first := Nat.le_add_right _ _
  omega

/-- Chunks of whole pages are stored faithfully. -/
theorem whole_pages_faithful (response : Response) (incoming : List UInt8) (first : Nat)
    (later : List (Nat × Nat))
    (announced : response.contentLength = (response.pBody ++ incoming).length)
    (fits : response.contentLength ≤ applicationSize)
    (whole : WholePages (chunkLengths response.pBody.length incoming.length first later)) :
    Faithful response incoming first later := by
  intro misaligned memory before result returned position inside
  have bound : (response.pBody ++ incoming).length ≤ 0x80000 := announced ▸ fits
  obtain ⟨success, run⟩ := callback_oversized misaligned memory response incoming first later before
  have succeeded := success.mp returned
  rw [chunkLengths, remaining_after_first, ← List.length_append] at whole
  rw [run]
  simp only [receptionOf, announced] at succeeded ⊢
  exact aligned_loop misaligned memory (response.pBody ++ incoming) later _ 0 _ _
    (first_atChunk memory response incoming first bound)
    (erased_area misaligned (response.pBody ++ incoming) before) rfl whole succeeded position
    (announced ▸ inside)

/-- A body with a chunk after the first one has a nonempty first chunk. -/
theorem firstLength_positive (held remaining first : Nat) (positive : 1 ≤ first)
    (inBuffer : held ≤ httpBufMaxSize) (more : 0 < held + remaining) :
    0 < firstLength held remaining first := by
  have bound : held ≤ 2048 := inBuffer
  simp only [firstLength, httpBufMaxSize]
  omega

/-- A chunk that ends inside a page is not stored faithfully on every part. -/
theorem partial_page_unfaithful (response : Response) (incoming : List UInt8) (first : Nat)
    (later : List (Nat × Nat))
    (announced : response.contentLength = (response.pBody ++ incoming).length)
    (fits : response.contentLength ≤ applicationSize)
    (firstPositive : 1 ≤ first) (laterPositive : ∀ sizes ∈ later, 1 ≤ sizes.1)
    (complete : (chunkLengths response.pBody.length incoming.length first later).sum =
      response.contentLength)
    (broken : ¬ WholePages (chunkLengths response.pBody.length incoming.length first later)) :
    ¬ Faithful response incoming first later := by
  intro faithful
  have bound : (response.pBody ++ incoming).length ≤ 0x80000 := announced ▸ fits
  rw [chunkLengths, remaining_after_first, ← List.length_append] at complete broken
  have nonempty : 0 < response.pBody.length + incoming.length := by
    rw [← List.length_append]
    refine Nat.pos_of_ne_zero fun empty => broken ?_
    cases later with
    | nil => exact wholePages_single _
    | cons sizes rest =>
      rw [empty, Nat.zero_sub, laterLengths, if_pos rfl]
      exact wholePages_single _
  have some := firstLength_positive response.pBody.length incoming.length first firstPositive
    response.inBuffer nonempty
  have start := first_atChunk (fun _ => 0) response incoming first bound
  have succeeded := delivered_loop spoiling (fun _ => 0) (response.pBody ++ incoming) later _ 0 _
    start some laterPositive (by rw [complete, announced, Nat.sub_zero])
  obtain ⟨position, inside, wrong⟩ := unaligned_loop (fun _ => 0) (response.pBody ++ incoming)
    later _ 0 _ ((picoFlash spoiling).run (eraseFlashTotalOtaArea spoiling) fun _ => 0) start rfl
    broken succeeded
  obtain ⟨success, run⟩ :=
    callback_oversized spoiling (fun _ => 0) response incoming first later fun _ => 0
  have right := faithful spoiling (fun _ => 0) (fun _ => 0)
    (success.mpr (by simpa only [receptionOf, announced] using succeeded)) position
    (announced ▸ inside)
  rw [run] at right
  simp only [receptionOf, announced] at right
  exact wrong right

/-- A download that delivers its body is stored faithfully on every part exactly
when every chunk but the last is a whole number of pages. -/
theorem download_faithful_iff (response : Response) (incoming : List UInt8) (first : Nat)
    (later : List (Nat × Nat))
    (announced : response.contentLength = (response.pBody ++ incoming).length)
    (fits : response.contentLength ≤ applicationSize)
    (firstPositive : 1 ≤ first) (laterPositive : ∀ sizes ∈ later, 1 ≤ sizes.1)
    (complete : (chunkLengths response.pBody.length incoming.length first later).sum =
      response.contentLength) :
    Faithful response incoming first later ↔
      WholePages (chunkLengths response.pBody.length incoming.length first later) := by
  constructor
  · intro faithful
    apply Classical.byContradiction
    intro broken
    exact partial_page_unfaithful response incoming first later announced fits firstPositive
      laterPositive complete broken faithful
  · exact whole_pages_faithful response incoming first later announced fits

/-- A body of 3000 bytes of which 1748 came with the headers. -/
def heldResponse : Response where
  pBody := List.replicate 1748 1
  contentLength := 3000
  inBuffer := by
    rw [List.length_replicate]
    decide

/-- The first `recv` fills the buffer, and the rest arrives in two pieces. -/
theorem full_first_chunk_faithful :
    Faithful heldResponse (List.replicate 1252 1) 300 [(700, 252)] := by
  have total : heldResponse.contentLength =
      (heldResponse.pBody ++ List.replicate 1252 1).length := by
    rw [heldResponse, List.length_append, List.length_replicate, List.length_replicate]
  have exact := download_faithful_iff heldResponse (List.replicate 1252 1) 300 [(700, 252)] total
    (by decide) (by decide) (by decide)
  rw [heldResponse, List.length_replicate, List.length_replicate] at exact
  have whole : WholePages (chunkLengths 1748 1252 300 [(700, 252)]) := by
    simp only [WholePages]
    decide
  exact (exact (by decide)).mpr whole

/-- A part that treats a misaligned program like an aligned one: it clears the
bits of 256 bytes from the given offset on. -/
def clearing : Misalignment UInt8 userFlashPageSize where
  effect offset data before := fun address =>
    if offset ≤ address ∧ address < offset + 256 then before address &&& data (address - offset)
    else before address
  frame := by
    intro offset data before address outside
    have other : ¬ (offset ≤ address ∧ address < offset + 256) := by
      simp only [userFlashPageSize] at outside
      omega
    rw [if_neg other]

/-- The first `recv` returns 200 bytes only. The callback returns 0, and even on
that part the first byte of the second chunk stays zero: it was programmed with
the padding of the first. -/
theorem short_first_chunk_corrupted :
    let result := otaHttpSendRequestCallback clearing (fun _ => 0)
      ⟨.success, .insufficientMemory, heldResponse⟩ (List.replicate 1252 1) (.received 200)
      [(.received 1052, .received 0)]
    result.returnStatus = 0 ∧
      (picoFlash clearing).run result.flash (fun _ => 0) (0x140000 + 1948) ≠
        (heldResponse.pBody ++ List.replicate 1252 1).getD 1948 0 := by
  decide +kernel

end WiznetEaas.OtaFidelity
