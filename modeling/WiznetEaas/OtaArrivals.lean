import WiznetEaas.OtaVerdict

/-!
# What the results of recv deliver

The passes of a download told by the results of their calls of `recv` alone: how many
bytes each of them delivers, and whether one of the results it used was negative. Without
a negative result these are the counts of the receive loop, as long as their sum fits the
32 bits of its total.
-/

namespace WiznetEaas.OtaArrivals

open ByteMemory OtaDownload OtaVerdict

/-- The bytes that a result delivers to a call with so much room, of so many to come. -/
def delivers (room waiting : Nat) : RecvResult → Nat
  | .received available => min (min available room) waiting
  | .failed _ => 0

/-- A pass as the results of its calls tell it. -/
structure Arrival where
  bytes : Nat
  negative : Bool
  deriving DecidableEq

/-- The first pass: the held part of the body, and one call for the rest of the buffer. -/
def firstArrival (held waiting : Nat) (first : RecvResult) : Arrival :=
  ⟨held + delivers (httpBufMaxSize - held) waiting first, isNegative first⟩

/-- A later pass: one call, and another if the buffer has room. -/
def laterArrival (waiting : Nat) (pass : Pass) : Arrival :=
  let one := delivers httpBufMaxSize waiting pass.1
  if one < httpBufMaxSize then
    ⟨one + delivers (httpBufMaxSize - one) (waiting - one) pass.2,
      isNegative pass.1 || isNegative pass.2⟩
  else ⟨one, isNegative pass.1⟩

/-- The passes from an arrival on: none follows one that completes the announced length or
that delivers nothing. -/
def arrivalsFrom (contentLength : Nat) (passes : List Pass) (arrival : Arrival)
    (delivered waiting : Nat) : List Arrival :=
  arrival ::
    if arrival.bytes = 0 ∨ contentLength ≤ delivered + arrival.bytes then []
    else match passes with
      | [] => []
      | pass :: rest =>
        arrivalsFrom contentLength rest (laterArrival waiting pass) (delivered + arrival.bytes)
          (waiting - (laterArrival waiting pass).bytes)

/-- The passes of a download of which `held` bytes are in the response buffer and `waiting`
are still to come. -/
def arrivals (contentLength held waiting : Nat) (first : RecvResult) (passes : List Pass) :
    List Arrival :=
  arrivalsFrom contentLength passes (firstArrival held waiting first) 0
    (waiting - ((firstArrival held waiting first).bytes - held))

/-- The passes of a callback's receive loop. -/
def downloadArrivals (exchange : HttpExchange) (incoming : List UInt8) (first : RecvResult)
    (passes : List Pass) : List Arrival :=
  arrivals exchange.delivered.contentLength exchange.delivered.pBody.length incoming.length first
    passes

/-- No call of `recv` returned an error. -/
def Steady (arrivals : List Arrival) : Prop := ∀ arrival ∈ arrivals, arrival.negative = false

instance (arrivals : List Arrival) : Decidable (Steady arrivals) :=
  inferInstanceAs (Decidable (∀ arrival ∈ arrivals, arrival.negative = false))

/-- The bytes of all passes. -/
def totalBytes (arrivals : List Arrival) : Nat := (arrivals.map Arrival.bytes).sum

/-- A chunk is counted as its arrival tells it. -/
structure Counts (chunk : Chunk) (arrival : Arrival) (waiting : Nat) : Prop where
  count : chunk.currentReceived = arrival.bytes
  body : chunk.body.length = arrival.bytes
  rest : chunk.incoming.length = waiting
  small : arrival.bytes ≤ httpBufMaxSize

/-- The total of the loop after a counted chunk, below 32 bits. -/
theorem Counts.sum {chunk : Chunk} {arrival : Arrival} {waiting : Nat}
    (counts : Counts chunk arrival waiting) (delivered : Nat)
    (exact : delivered + arrival.bytes < 4294967296) :
    u32 (delivered + chunk.currentReceived) = delivered + arrival.bytes := by
  rw [counts.count, u32_of_lt _ exact]

/-- A result that is not negative is counted as what it delivers. -/
theorem result_delivers (incoming : List UInt8) (room : Nat) (result : RecvResult)
    (positive : isNegative result = false) :
    result.returned incoming room = delivers room incoming.length result ∧
      (result.stored incoming room).length = delivers room incoming.length result := by
  cases result with
  | received available =>
    exact ⟨List.length_take, List.length_take⟩
  | failed magnitude =>
    have zero : magnitude = 0 := Nat.eq_zero_of_not_pos (of_decide_eq_false positive)
    rw [zero]
    exact ⟨rfl, rfl⟩

theorem delivers_le (room waiting : Nat) (result : RecvResult) :
    delivers room waiting result ≤ room ∧ delivers room waiting result ≤ waiting := by
  cases result with
  | received available =>
    exact ⟨Nat.le_trans (Nat.min_le_left _ _) (Nat.min_le_right _ _), Nat.min_le_right _ _⟩
  | failed magnitude => exact ⟨Nat.zero_le _, Nat.zero_le _⟩

variable (memory : Pointer)

/-- The first pass, without an error. -/
theorem firstChunk_counts (pBody incoming : List UInt8) (first : RecvResult)
    (inBuffer : pBody.length ≤ httpBufMaxSize)
    (positive : (firstArrival pBody.length incoming.length first).negative = false) :
    Counts (firstChunk memory pBody incoming first)
      (firstArrival pBody.length incoming.length first)
      (incoming.length -
        ((firstArrival pBody.length incoming.length first).bytes - pBody.length)) := by
  obtain ⟨count, stored⟩ :=
    result_delivers incoming (httpBufMaxSize - pBody.length) first positive
  obtain ⟨room, _⟩ := delivers_le (httpBufMaxSize - pBody.length) incoming.length first
  have bound : pBody.length ≤ 2048 := inBuffer
  simp only [httpBufMaxSize] at room
  constructor
  · simp only [firstChunk, firstArrival, count]
    rw [u32_of_lt _ (by simp only [httpBufMaxSize]; omega), Nat.add_comm]
  · simp only [firstChunk, firstArrival, List.length_append, stored]
  · simp only [firstChunk, firstArrival, List.length_drop, stored, Nat.add_sub_cancel_left]
  · simp only [firstArrival, httpBufMaxSize]
    omega

/-- A later pass, without an error. -/
theorem laterChunk_counts (incoming : List UInt8) (pass : Pass)
    (positive : (laterArrival incoming.length pass).negative = false) :
    Counts (laterChunk memory incoming pass) (laterArrival incoming.length pass)
      (incoming.length - (laterArrival incoming.length pass).bytes) := by
  obtain ⟨oneRoom, oneWaiting⟩ := delivers_le httpBufMaxSize incoming.length pass.1
  simp only [laterArrival] at positive ⊢
  by_cases room : delivers httpBufMaxSize incoming.length pass.1 < httpBufMaxSize
  · simp only [if_pos room, Bool.or_eq_false_iff] at positive ⊢
    obtain ⟨count, stored⟩ := result_delivers incoming httpBufMaxSize pass.1 positive.1
    have rest : (incoming.drop (delivers httpBufMaxSize incoming.length pass.1)).length =
        incoming.length - delivers httpBufMaxSize incoming.length pass.1 := List.length_drop
    obtain ⟨count2nd, stored2nd⟩ := result_delivers
      (incoming.drop (delivers httpBufMaxSize incoming.length pass.1))
      (httpBufMaxSize - delivers httpBufMaxSize incoming.length pass.1) pass.2 positive.2
    obtain ⟨secondRoom, _⟩ := delivers_le
      (httpBufMaxSize - delivers httpBufMaxSize incoming.length pass.1)
      (incoming.length - delivers httpBufMaxSize incoming.length pass.1) pass.2
    rw [rest] at count2nd stored2nd
    simp only [laterChunk, count, stored, if_pos room, count2nd]
    constructor
    · exact u32_of_lt _ (by simp only [httpBufMaxSize] at *; omega)
    · rw [List.length_append, stored, stored2nd]
    · rw [List.length_drop, rest, stored2nd, Nat.sub_sub]
    · dsimp only
      omega
  · simp only [if_neg room] at positive ⊢
    obtain ⟨count, stored⟩ := result_delivers incoming httpBufMaxSize pass.1 positive
    simp only [laterChunk, count, stored, if_neg room]
    exact ⟨rfl, stored, List.length_drop, oneRoom⟩

/-- The arrivals from one that ends the loop. -/
theorem arrivalsFrom_ended (contentLength : Nat) (passes : List Pass) (arrival : Arrival)
    (delivered waiting : Nat)
    (ended : arrival.bytes = 0 ∨ contentLength ≤ delivered + arrival.bytes) :
    arrivalsFrom contentLength passes arrival delivered waiting = [arrival] := by
  rw [arrivalsFrom.eq_def, if_pos ended]

/-- The arrivals from one that the loop goes on after. -/
theorem arrivalsFrom_ongoing (contentLength : Nat) (pass : Pass) (rest : List Pass)
    (arrival : Arrival) (delivered waiting : Nat) (some : 0 < arrival.bytes)
    (incomplete : delivered + arrival.bytes < contentLength) :
    arrivalsFrom contentLength (pass :: rest) arrival delivered waiting =
      arrival :: arrivalsFrom contentLength rest (laterArrival waiting pass)
        (delivered + arrival.bytes) (waiting - (laterArrival waiting pass).bytes) := by
  have ongoing : ¬ (arrival.bytes = 0 ∨ contentLength ≤ delivered + arrival.bytes) := by omega
  rw [arrivalsFrom.eq_def, if_neg ongoing]

theorem arrivalsFrom_exhausted (contentLength : Nat) (arrival : Arrival)
    (delivered waiting : Nat) :
    arrivalsFrom contentLength [] arrival delivered waiting = [arrival] := by
  rw [arrivalsFrom.eq_def, ite_self]

theorem totalBytes_cons (arrival : Arrival) (rest : List Arrival) :
    totalBytes (arrival :: rest) = arrival.bytes + totalBytes rest := rfl

theorem steady_cons (arrival : Arrival) (rest : List Arrival) :
    Steady (arrival :: rest) ↔ arrival.negative = false ∧ Steady rest := List.forall_mem_cons

/-- The first of the arrivals. -/
theorem arrivalsFrom_head (contentLength : Nat) (passes : List Pass) (arrival : Arrival)
    (delivered waiting : Nat) :
    ∃ rest, arrivalsFrom contentLength passes arrival delivered waiting = arrival :: rest := by
  rw [arrivalsFrom.eq_def]
  exact ⟨_, rfl⟩

variable (misaligned : NorFlash.Misalignment UInt8 FlashControl.userFlashPageSize)

/-- The first chunk of a download without errors. -/
theorem download_counts (exchange : HttpExchange) (incoming : List UInt8) (first : RecvResult)
    (passes : List Pass) (steady : Steady (downloadArrivals exchange incoming first passes)) :
    Counts (firstChunk memory exchange.delivered.pBody incoming first)
      (firstArrival exchange.delivered.pBody.length incoming.length first)
      (incoming.length - ((firstArrival exchange.delivered.pBody.length incoming.length
        first).bytes - exchange.delivered.pBody.length)) := by
  obtain ⟨rest, begins⟩ := arrivalsFrom_head exchange.delivered.contentLength passes
    (firstArrival exchange.delivered.pBody.length incoming.length first) 0
    (incoming.length - ((firstArrival exchange.delivered.pBody.length incoming.length
      first).bytes - exchange.delivered.pBody.length))
  rw [downloadArrivals, arrivals, begins] at steady
  exact firstChunk_counts memory _ incoming first exchange.delivered.inBuffer
    ((steady_cons _ _).mp steady).1

/-- A pass for which no result is listed delivers nothing. -/
theorem unlisted_empty (incoming : List UInt8) :
    (laterChunk memory incoming (.received 0, .received 0)).body = [] := by
  simp [laterChunk, RecvResult.returned, RecvResult.stored]

/-- The body begins with the chunk at hand. -/
theorem receiveLoop_body (contentLength : Nat) (passes : List Pass) (chunk : Chunk) (total : Nat) :
    chunk.body.length ≤
      (receiveLoop misaligned memory contentLength passes chunk total).body.length := by
  rw [receiveLoop.eq_def]
  split
  · dsimp only
    split
    · exact Nat.le_refl _
    · simp only [List.length_append]
      exact Nat.le_add_right _ _
  · exact Nat.le_refl _

/-- A loop that succeeds has reached an announced length of 32 bits. -/
theorem receiveLoop_reached (contentLength : Nat) (passes : List Pass) (chunk : Chunk)
    (total : Nat)
    (success : (receiveLoop misaligned memory contentLength passes chunk total).httpStatus =
      .success) : contentLength < 4294967296 := by
  induction passes, chunk, total using receiveLoop_induction memory contentLength with
  | empty passes chunk total nothing =>
    rw [receiveLoop_empty misaligned memory contentLength passes chunk total nothing] at success
    cases success
  | complete passes chunk total some reached =>
    exact Nat.lt_of_le_of_lt reached (Nat.mod_lt _ (by decide))
  | exhausted chunk total some less =>
    rw [receiveLoop_incomplete misaligned memory contentLength [] chunk total some less] at success
    cases success
  | next pass rest chunk total some less inductionHypothesis =>
    rw [receiveLoop_incomplete misaligned memory contentLength _ chunk total some less] at success
    exact inductionHypothesis success

theorem callbackStatus_success (httpStatus : HttpStatus) (currentReceived : Nat)
    (returned : callbackStatus httpStatus currentReceived = 0) :
    httpStatus = .success ∧ currentReceived ≠ 0 := by
  simp only [callbackStatus] at returned
  split at returned
  · cases returned
  next some =>
    split at returned
    · cases returned
    next success => exact ⟨Decidable.not_not.mp success, some⟩

/-- What a loop without errors does, told by the arrivals: it succeeds only if they complete
the announced length, and it obtains their bytes, but for a total beyond 32 bits. -/
structure Told (contentLength delivered : Nat) (arrivals : List Arrival) (loop : Reception) :
    Prop where
  complete : callbackStatus loop.httpStatus loop.currentReceived = 0 →
    0 < totalBytes arrivals ∧ contentLength ≤ delivered + totalBytes arrivals
  body : loop.body.length = totalBytes arrivals ∨
    4294967296 ≤ delivered + totalBytes arrivals ∧ 4294967296 ≤ delivered + loop.body.length

/-- Beyond 32 bits nothing more is said of the loop. -/
theorem told_beyond (contentLength delivered waiting : Nat) (passes : List Pass) (chunk : Chunk)
    (arrival : Arrival) (counts : Counts chunk arrival waiting)
    (narrow : delivered < 4294967296) (beyond : 4294967296 ≤ delivered + arrival.bytes) :
    Told contentLength delivered (arrivalsFrom contentLength passes arrival delivered waiting)
      (receiveLoop misaligned memory contentLength passes chunk delivered) := by
  obtain ⟨rest, begins⟩ := arrivalsFrom_head contentLength passes arrival delivered waiting
  rw [begins]
  constructor
  · intro returned
    have reached := receiveLoop_reached memory misaligned contentLength passes chunk delivered
      (callbackStatus_success _ _ returned).1
    rw [totalBytes_cons]
    omega
  · have obtained := receiveLoop_body memory misaligned contentLength passes chunk delivered
    rw [counts.body] at obtained
    rw [totalBytes_cons]
    right
    omega

/-- A pass that delivers nothing or completes the announced length is the last one. -/
theorem told_ended (contentLength delivered waiting : Nat) (passes : List Pass) (chunk : Chunk)
    (arrival : Arrival) (counts : Counts chunk arrival waiting)
    (exact : delivered + arrival.bytes < 4294967296)
    (ended : arrival.bytes = 0 ∨ contentLength ≤ delivered + arrival.bytes) :
    Told contentLength delivered (arrivalsFrom contentLength passes arrival delivered waiting)
      (receiveLoop misaligned memory contentLength passes chunk delivered) := by
  have count := counts.count
  rw [arrivalsFrom_ended _ _ _ _ _ ended]
  rcases Nat.eq_zero_or_pos arrival.bytes with nothing | some
  · rw [receiveLoop_empty misaligned memory contentLength passes chunk delivered
      (count.trans nothing)]
    exact ⟨nofun, .inl counts.body⟩
  · have complete : contentLength ≤ delivered + arrival.bytes := by omega
    have sum := counts.sum delivered exact
    rw [receiveLoop_complete misaligned memory contentLength passes chunk delivered (by omega)
      (by omega)]
    exact ⟨fun _ => ⟨some, complete⟩, .inl counts.body⟩

/-- The pass after one that is counted, when it runs without an error. -/
theorem next_counts (contentLength delivered waiting : Nat) (pass : Pass) (rest : List Pass)
    (chunk : Chunk) (arrival : Arrival) (counts : Counts chunk arrival waiting)
    (some : 0 < arrival.bytes) (incomplete : delivered + arrival.bytes < contentLength)
    (steady : Steady
      (arrivalsFrom contentLength (pass :: rest) arrival delivered waiting)) :
    Counts (laterChunk memory chunk.incoming pass) (laterArrival waiting pass)
        (waiting - (laterArrival waiting pass).bytes) ∧
      Steady (arrivalsFrom contentLength rest (laterArrival waiting pass)
        (delivered + arrival.bytes) (waiting - (laterArrival waiting pass).bytes)) := by
  rw [arrivalsFrom_ongoing _ _ _ _ _ _ some incomplete] at steady
  have later := ((steady_cons _ _).mp steady).2
  obtain ⟨next, begins⟩ := arrivalsFrom_head contentLength rest (laterArrival waiting pass)
    (delivered + arrival.bytes) (waiting - (laterArrival waiting pass).bytes)
  have positive : (laterArrival waiting pass).negative = false := by
    rw [begins] at later
    exact ((steady_cons _ _).mp later).1
  have counted := laterChunk_counts memory chunk.incoming pass
    (by rw [counts.rest]; exact positive)
  rw [counts.rest] at counted
  exact ⟨counted, later⟩

/-- The receive loop along arrivals without errors, by induction on the listed passes. -/
theorem receiveLoop_told (contentLength : Nat) (passes : List Pass) (chunk : Chunk)
    (arrival : Arrival) (delivered waiting : Nat) (counts : Counts chunk arrival waiting)
    (narrow : delivered < 4294967296)
    (steady : Steady (arrivalsFrom contentLength passes arrival delivered waiting)) :
    Told contentLength delivered (arrivalsFrom contentLength passes arrival delivered waiting)
      (receiveLoop misaligned memory contentLength passes chunk delivered) := by
  induction passes generalizing chunk arrival delivered waiting with
  | nil =>
    rcases Nat.lt_or_ge (delivered + arrival.bytes) 4294967296 with exact | beyond
    · by_cases ended : arrival.bytes = 0 ∨ contentLength ≤ delivered + arrival.bytes
      · exact told_ended memory misaligned _ _ _ _ chunk arrival counts exact ended
      · have count := counts.count
        have sum := counts.sum delivered exact
        rw [arrivalsFrom_exhausted, receiveLoop_incomplete misaligned memory contentLength []
          chunk delivered (by omega) (by omega)]
        refine ⟨nofun, .inl ?_⟩
        simp only [laterReception, unlisted_empty, List.append_nil]
        exact counts.body
    · exact told_beyond memory misaligned _ _ _ _ chunk arrival counts narrow beyond
  | cons pass rest inductionHypothesis =>
    rcases Nat.lt_or_ge (delivered + arrival.bytes) 4294967296 with exact | beyond
    · by_cases ended : arrival.bytes = 0 ∨ contentLength ≤ delivered + arrival.bytes
      · exact told_ended memory misaligned _ _ _ _ chunk arrival counts exact ended
      · have count := counts.count
        have body := counts.body
        have some : 0 < arrival.bytes := by omega
        have incomplete : delivered + arrival.bytes < contentLength := by omega
        have sum := counts.sum delivered exact
        obtain ⟨nextCounts, nextSteady⟩ :=
          next_counts memory _ _ _ pass rest chunk arrival counts some incomplete steady
        have told := inductionHypothesis _ _ _ _ nextCounts exact nextSteady
        rw [arrivalsFrom_ongoing _ _ _ _ _ _ some incomplete, receiveLoop_incomplete misaligned
          memory contentLength _ chunk delivered (by omega) (by omega)]
        simp only [laterReception, sum]
        constructor
        · intro returned
          have reached := (told.complete returned).2
          rw [totalBytes_cons]
          omega
        · have obtained := told.body
          simp only [totalBytes_cons, List.length_append, body]
          omega
    · exact told_beyond memory misaligned _ _ _ _ chunk arrival counts narrow beyond

/-- A callback without errors that returns 0 ran its loop, which completed the announced
length and, up to 32 bits, obtained the bytes of its passes. -/
theorem callback_told (exchange : HttpExchange) (incoming : List UInt8) (first : RecvResult)
    (passes : List Pass)
    (steady : exchange.httpStatus = .insufficientMemory →
      Steady (downloadArrivals exchange incoming first passes))
    (returned : (otaHttpSendRequestCallback misaligned memory exchange incoming first
      passes).returnStatus = 0) :
    let bytes := totalBytes (downloadArrivals exchange incoming first passes)
    let body := (otaHttpSendRequestCallback misaligned memory exchange incoming first passes).body
    exchange.httpStatus = .insufficientMemory ∧
      (0 < bytes ∧ exchange.delivered.contentLength ≤ bytes) ∧
      (body.length = bytes ∨ 4294967296 ≤ bytes ∧ 4294967296 ≤ body.length) := by
  simp only [otaHttpSendRequestCallback] at returned ⊢
  by_cases oversized : exchange.httpStatus = .insufficientMemory
  · simp only [if_pos oversized] at returned ⊢
    have counts := download_counts memory exchange incoming first passes (steady oversized)
    have told := receiveLoop_told memory misaligned exchange.delivered.contentLength passes _ _ 0
      _ counts (by decide) (steady oversized)
    have complete := told.complete returned
    have obtained := told.body
    rw [Nat.zero_add] at complete
    rw [Nat.zero_add, Nat.zero_add] at obtained
    exact ⟨oversized, complete, obtained⟩
  · simp only [if_neg oversized] at returned
    cases returned

end WiznetEaas.OtaArrivals
