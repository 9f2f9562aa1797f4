import WiznetEaas.FlashControl

/-!
# The firmware download of ota_http_send_request_callback

The transport is the bytes the peer still has to send and, for each pass of the
receive loop, the results of its one or two calls of `recv`: a number of bytes
that became available, or an error. When no further pass is listed, `recv`
returns zero. The sum of unsigned totals and signed results is the code's 32-bit
sum, so an error result enters it as a large number.

The HTTP client library is represented by the statuses and the response it
hands back. What lies in memory behind the 2048-byte buffer is a parameter: a
program rounded up to pages may read it.
-/

namespace WiznetEaas.OtaDownload

open NorFlash ByteMemory FlashControl

@[simp] abbrev httpBufMaxSize : Nat := 2048

/-- The values of `HTTPStatus_t` the callback tells apart. -/
inductive HttpStatus where
  | success
  | insufficientMemory
  | other (code : Nat)
  deriving DecidableEq

/-- The fields of `HTTPResponse_t` the callback reads; `bodyLen` is the length of
`pBody`, which lies in the response buffer. -/
structure Response where
  pBody : List UInt8
  contentLength : Nat
  inBuffer : pBody.length ≤ httpBufMaxSize

/-- The response as `memset` leaves it. -/
def Response.cleared : Response := ⟨[], 0, Nat.zero_le _⟩

/-- What the HTTP client library returns: the status of the last header call,
which overwrites the earlier ones, and the status and response of the request. -/
structure HttpExchange where
  addHeader : HttpStatus
  send : HttpStatus
  response : Response

/-- The callback's `httpStatus` after the request: without a complete header the
request is not sent. -/
def HttpExchange.httpStatus (exchange : HttpExchange) : HttpStatus :=
  if exchange.addHeader = .success then exchange.send else exchange.addHeader

/-- The callback's `response` after the request. -/
def HttpExchange.delivered (exchange : HttpExchange) : Response :=
  if exchange.addHeader = .success then exchange.response else .cleared

/-- The result of one call of `recv`: bytes became available, or an error, which
is returned as the negative of its magnitude. -/
inductive RecvResult where
  | received (available : Nat)
  | failed (magnitude : Nat)

/-- The results of the calls one pass of the loop can make. The second is not
used when the first call fills the buffer. -/
abbrev Pass := RecvResult × RecvResult

/-- The bytes a call stores: at most the requested number of the next ones. -/
def RecvResult.stored (incoming : List UInt8) (requested : Nat) : RecvResult → List UInt8
  | .received available => incoming.take (min available requested)
  | .failed _ => []

/-- The returned value in the code's unsigned 32-bit variable. -/
def RecvResult.returned (incoming : List UInt8) (requested : Nat) : RecvResult → Nat
  | .received available => (incoming.take (min available requested)).length
  | .failed magnitude => u32 (4294967296 - magnitude)

/-- A pass after its calls of `recv`: the count, the buffer, the bytes still to
come, the ranges of the buffer handed to `recv`, and the body bytes obtained. -/
structure Chunk where
  currentReceived : Nat
  tempOtaBinaryBuffer : Pointer
  incoming : List UInt8
  destinations : List (Nat × Nat)
  body : List UInt8

/-- `memset` of the buffer; the memory behind it keeps its contents. -/
def clearedBuffer (memory : Pointer) : Pointer := copyBytes memory (fun _ => 0) httpBufMaxSize

/-- The pass with `isFirstRecv`: the held part of the body, then one `recv` for
the rest of the buffer. -/
def firstChunk (memory : Pointer) (pBody incoming : List UInt8) (first : RecvResult) : Chunk :=
  let requested := httpBufMaxSize - pBody.length
  let bytes := first.stored incoming requested
  { currentReceived := u32 (first.returned incoming requested + pBody.length)
    tempOtaBinaryBuffer :=
      storeBytes (storeBytes (clearedBuffer memory) 0 pBody) pBody.length bytes
    incoming := incoming.drop bytes.length
    destinations := [(pBody.length, requested)]
    body := pBody ++ bytes }

/-- A later pass: one `recv` for the whole buffer, and a second one for the rest
if the first count is below the buffer size. -/
def laterChunk (memory : Pointer) (incoming : List UInt8) (pass : Pass) : Chunk :=
  let bytes := pass.1.stored incoming httpBufMaxSize
  let buffer := storeBytes (clearedBuffer memory) 0 bytes
  let currentReceived := pass.1.returned incoming httpBufMaxSize
  let rest := incoming.drop bytes.length
  if currentReceived < httpBufMaxSize then
    let requested := httpBufMaxSize - currentReceived
    let bytes2nd := pass.2.stored rest requested
    { currentReceived := u32 (currentReceived + pass.2.returned rest requested)
      tempOtaBinaryBuffer := storeBytes buffer currentReceived bytes2nd
      incoming := rest.drop bytes2nd.length
      destinations := [(0, httpBufMaxSize), (currentReceived, requested)]
      body := bytes ++ bytes2nd }
  else
    { currentReceived := currentReceived
      tempOtaBinaryBuffer := buffer
      incoming := rest
      destinations := [(0, httpBufMaxSize)]
      body := bytes }

/-- The receive loop when it is left: the flash operations it issued, the ranges
handed to `recv`, the last count, the status, and the body bytes obtained. -/
structure Reception where
  flash : Routine UInt8
  destinations : List (Nat × Nat)
  httpStatus : HttpStatus
  currentReceived : Nat
  body : List UInt8

variable (misaligned : Misalignment UInt8 userFlashPageSize) (memory : Pointer)

/-- The receive loop from a pass that has received its chunk. The running total
is also the flash index of the chunk. -/
def receiveLoop (contentLength : Nat) (passes : List Pass) (chunk : Chunk)
    (currentTotalLen : Nat) : Reception :=
  if chunk.currentReceived > 0 then
    let write := writeFlashOtaBinary misaligned currentTotalLen chunk.tempOtaBinaryBuffer
      chunk.currentReceived
    let total := u32 (currentTotalLen + chunk.currentReceived)
    if total ≥ contentLength then
      ⟨write, chunk.destinations, .success, chunk.currentReceived, chunk.body⟩
    else
      let later : Reception := match passes with
        | [] =>
          let last := laterChunk memory chunk.incoming (.received 0, .received 0)
          ⟨idle, last.destinations, .insufficientMemory, 0, last.body⟩
        | pass :: rest => receiveLoop contentLength rest (laterChunk memory chunk.incoming pass) total
      ⟨(picoFlash misaligned).andThen write later.flash, chunk.destinations ++ later.destinations,
        later.httpStatus, later.currentReceived, chunk.body ++ later.body⟩
  else ⟨idle, chunk.destinations, .insufficientMemory, 0, chunk.body⟩

/-- A pass that received nothing leaves the loop. -/
theorem receiveLoop_empty (contentLength : Nat) (passes : List Pass) (chunk : Chunk) (total : Nat)
    (empty : chunk.currentReceived = 0) :
    receiveLoop misaligned memory contentLength passes chunk total =
      ⟨idle, chunk.destinations, .insufficientMemory, 0, chunk.body⟩ := by
  have nothing : ¬ chunk.currentReceived > 0 := by omega
  rw [receiveLoop.eq_def, if_neg nothing]

/-- A pass that completes the content length leaves the loop with success. -/
theorem receiveLoop_complete (contentLength : Nat) (passes : List Pass) (chunk : Chunk)
    (total : Nat) (some : 0 < chunk.currentReceived)
    (complete : contentLength ≤ u32 (total + chunk.currentReceived)) :
    receiveLoop misaligned memory contentLength passes chunk total =
      ⟨writeFlashOtaBinary misaligned total chunk.tempOtaBinaryBuffer chunk.currentReceived,
        chunk.destinations, .success, chunk.currentReceived, chunk.body⟩ := by
  rw [receiveLoop.eq_def, if_pos some]
  simp only [if_pos complete]

/-- What the loop does after a pass that left the content incomplete. -/
def laterReception (contentLength : Nat) (passes : List Pass) (chunk : Chunk) (total : Nat) :
    Reception :=
  match passes with
  | [] =>
    let last := laterChunk memory chunk.incoming (.received 0, .received 0)
    ⟨idle, last.destinations, .insufficientMemory, 0, last.body⟩
  | pass :: rest =>
    receiveLoop misaligned memory contentLength rest (laterChunk memory chunk.incoming pass)
      (u32 (total + chunk.currentReceived))

/-- A pass that leaves the content incomplete is followed by the next one. -/
theorem receiveLoop_incomplete (contentLength : Nat) (passes : List Pass) (chunk : Chunk)
    (total : Nat) (some : 0 < chunk.currentReceived)
    (incomplete : u32 (total + chunk.currentReceived) < contentLength) :
    receiveLoop misaligned memory contentLength passes chunk total =
      let later := laterReception misaligned memory contentLength passes chunk total
      ⟨(picoFlash misaligned).andThen
          (writeFlashOtaBinary misaligned total chunk.tempOtaBinaryBuffer chunk.currentReceived)
          later.flash,
        chunk.destinations ++ later.destinations, later.httpStatus, later.currentReceived,
        chunk.body ++ later.body⟩ := by
  have ongoing : ¬ u32 (total + chunk.currentReceived) ≥ contentLength := by omega
  rw [receiveLoop.eq_def, if_pos some]
  simp only [if_neg ongoing]
  cases passes with
  | nil => rfl
  | cons pass rest => rfl

/-- Induction along the passes of the loop: a pass is the last one, or the loop
goes on with the next listed pass, or with the empty pass when none is listed. -/
theorem receiveLoop_induction (contentLength : Nat)
    (motive : List Pass → Chunk → Nat → Prop)
    (empty : ∀ passes chunk total, chunk.currentReceived = 0 → motive passes chunk total)
    (complete : ∀ passes chunk total, 0 < chunk.currentReceived →
      contentLength ≤ u32 (total + chunk.currentReceived) → motive passes chunk total)
    (exhausted : ∀ chunk total, 0 < chunk.currentReceived →
      u32 (total + chunk.currentReceived) < contentLength → motive [] chunk total)
    (next : ∀ pass rest chunk total, 0 < chunk.currentReceived →
      u32 (total + chunk.currentReceived) < contentLength →
      motive rest (laterChunk memory chunk.incoming pass) (u32 (total + chunk.currentReceived)) →
      motive (pass :: rest) chunk total)
    (passes : List Pass) (chunk : Chunk) (total : Nat) : motive passes chunk total := by
  induction passes generalizing chunk total with
  | nil =>
    rcases Nat.eq_zero_or_pos chunk.currentReceived with nothing | some
    · exact empty [] chunk total nothing
    · rcases Nat.lt_or_ge (u32 (total + chunk.currentReceived)) contentLength with less | reached
      · exact exhausted chunk total some less
      · exact complete [] chunk total some reached
  | cons pass rest inductionHypothesis =>
    rcases Nat.eq_zero_or_pos chunk.currentReceived with nothing | some
    · exact empty _ chunk total nothing
    · rcases Nat.lt_or_ge (u32 (total + chunk.currentReceived)) contentLength with less | reached
      · exact next pass rest chunk total some less (inductionHypothesis _ _)
      · exact complete _ chunk total some reached

/-- The callback's result: its return value and what the loop did. -/
structure CallbackResult where
  returnStatus : Int
  flash : Routine UInt8
  destinations : List (Nat × Nat)
  body : List UInt8

/-- The last two tests of the callback. An empty last pass overrides the status. -/
def callbackStatus (httpStatus : HttpStatus) (currentReceived : Nat) : Int :=
  if currentReceived = 0 then -2 else if httpStatus ≠ .success then -1 else 0

/-- The callback. The receive loop runs when the response does not fit the buffer. -/
def otaHttpSendRequestCallback (exchange : HttpExchange) (incoming : List UInt8)
    (first : RecvResult) (passes : List Pass) : CallbackResult :=
  let response := exchange.delivered
  if exchange.httpStatus = .insufficientMemory then
    let loop := receiveLoop misaligned memory response.contentLength passes
      (firstChunk memory response.pBody incoming first) 0
    ⟨callbackStatus loop.httpStatus loop.currentReceived,
      (picoFlash misaligned).andThen (eraseFlashTotalOtaArea misaligned) loop.flash,
      loop.destinations, loop.body⟩
  else ⟨callbackStatus exchange.httpStatus 0, idle, [], []⟩

end WiznetEaas.OtaDownload
