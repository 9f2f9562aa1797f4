import WiznetEaas.OtaDownload

/-!
# Verdict and termination of the firmware download

The counts of the receive loop against an endless stream of results of `recv`. The
bytes themselves are left out, so the stream may deliver without end. The loop of the
bytes runs through the same counts.
-/

namespace WiznetEaas.OtaVerdict

open ByteMemory OtaDownload

/-- The value of a result of `recv` in an unsigned 32-bit variable. -/
def counted (requested : Nat) : RecvResult → Nat
  | .received available => min available requested
  | .failed magnitude => u32 (4294967296 - magnitude)

/-- The bytes a result really delivers. -/
def arrived (requested : Nat) : RecvResult → Nat
  | .received available => min available requested
  | .failed _ => 0

def isNegative : RecvResult → Bool
  | .received _ => false
  | .failed magnitude => decide (0 < magnitude)

/-- A pass of the loop after its calls of `recv`: the count of the code, and beside it the
bytes delivered so far, the calls made so far, and whether one of this pass was negative. -/
structure PassCount where
  currentReceived : Nat
  delivered : Nat
  calls : Nat
  negative : Bool
  deriving DecidableEq

variable (stream : Nat → RecvResult)

/-- The pass with `isFirstRecv`. -/
def firstPass (bodyLen : Nat) : PassCount :=
  let requested := httpBufMaxSize - bodyLen
  { currentReceived := u32 (counted requested (stream 0) + bodyLen)
    delivered := bodyLen + arrived requested (stream 0)
    calls := 1
    negative := isNegative (stream 0) }

/-- A later pass. The second call is made when the first left room in the buffer. -/
def laterPass (pass : PassCount) : PassCount :=
  let first := stream pass.calls
  let currentReceived := counted httpBufMaxSize first
  let delivered := pass.delivered + arrived httpBufMaxSize first
  if currentReceived < httpBufMaxSize then
    let second := stream (pass.calls + 1)
    let requested := httpBufMaxSize - currentReceived
    { currentReceived := u32 (currentReceived + counted requested second)
      delivered := delivered + arrived requested second
      calls := pass.calls + 2
      negative := isNegative first || isNegative second }
  else
    { currentReceived := currentReceived
      delivered := delivered
      calls := pass.calls + 1
      negative := isNegative first }

/-- The loop when it is left. -/
structure Ending where
  httpStatus : HttpStatus
  currentReceived : Nat
  delivered : Nat
  calls : Nat
  deriving DecidableEq

/-- The receive loop from a pass on, for at most so many passes. -/
def countLoop (contentLength : Nat) : Nat → PassCount → Nat → Option Ending
  | 0, _, _ => none
  | passes + 1, pass, currentTotalLen =>
    if pass.currentReceived > 0 then
      let total := u32 (currentTotalLen + pass.currentReceived)
      if total ≥ contentLength then
        some ⟨.success, pass.currentReceived, pass.delivered, pass.calls⟩
      else countLoop contentLength passes (laterPass stream pass) total
    else some ⟨.insufficientMemory, 0, pass.delivered, pass.calls⟩

/-- The callback returns a status after delivering so many bytes of the body. The loop
runs when the response does not fit its buffer; otherwise the body is what the library
left in it. -/
def Returns (contentLength bodyLen : Nat) (httpStatus : HttpStatus) (returnStatus : Int)
    (delivered : Nat) : Prop :=
  if httpStatus = .insufficientMemory then
    ∃ passes ending, countLoop stream contentLength passes (firstPass stream bodyLen) 0 =
      some ending ∧ returnStatus = callbackStatus ending.httpStatus ending.currentReceived ∧
        delivered = ending.delivered
  else returnStatus = callbackStatus httpStatus 0 ∧ delivered = bodyLen

/-- The callback returns, and it returns 0 exactly when the announced length was
delivered. -/
def VerdictRight (contentLength bodyLen : Nat) (httpStatus : HttpStatus) : Prop :=
  ∃ returnStatus delivered,
    Returns stream contentLength bodyLen httpStatus returnStatus delivered ∧
      (returnStatus = 0 ↔ contentLength ≤ delivered)

/-- So many passes are free of negative results and of a wrapped sum, as far as the bytes
delivered have not reached the announced length and bytes keep coming. -/
def CleanFor (contentLength : Nat) : Nat → PassCount → Prop
  | 0, _ => True
  | passes + 1, pass =>
    pass.negative = false ∧ pass.delivered < 4294967296 ∧
      (0 < pass.currentReceived → pass.delivered < contentLength →
        CleanFor contentLength passes (laterPass stream pass))

/-- The stream is clean up to the end of the download. -/
def Clean (contentLength bodyLen : Nat) : Prop :=
  ∀ passes, CleanFor stream contentLength passes (firstPass stream bodyLen)

/-- The code's count of a result that is not negative. -/
theorem counted_arrived (requested : Nat) (result : RecvResult)
    (positive : isNegative result = false) : counted requested result = arrived requested result := by
  cases result with
  | received available => rfl
  | failed magnitude =>
    have zero : magnitude = 0 := Nat.eq_zero_of_not_pos (of_decide_eq_false positive)
    rw [zero]
    rfl

theorem arrived_le (requested : Nat) (result : RecvResult) :
    arrived requested result ≤ requested := by
  cases result with
  | received available => exact Nat.min_le_right _ _
  | failed magnitude => exact Nat.zero_le _

/-- The first pass counts what it delivered, unless its result was negative. -/
theorem firstPass_counts (bodyLen : Nat) (inBuffer : bodyLen ≤ httpBufMaxSize)
    (positive : (firstPass stream bodyLen).negative = false) :
    (firstPass stream bodyLen).currentReceived = (firstPass stream bodyLen).delivered := by
  have some := arrived_le (httpBufMaxSize - bodyLen) (stream 0)
  simp only [firstPass] at positive ⊢
  rw [counted_arrived _ _ positive, u32_of_lt _ (by simp only [httpBufMaxSize] at *; omega)]
  omega

/-- A later pass counts what it delivered, unless a result was negative. -/
theorem laterPass_counts (pass : PassCount) (positive : (laterPass stream pass).negative = false) :
    (laterPass stream pass).delivered = pass.delivered + (laterPass stream pass).currentReceived := by
  have first := arrived_le httpBufMaxSize (stream pass.calls)
  simp only [laterPass] at positive ⊢
  split at positive
  next room =>
    rw [Bool.or_eq_false_iff] at positive
    have same := counted_arrived httpBufMaxSize _ positive.1
    have second := arrived_le (httpBufMaxSize - counted httpBufMaxSize (stream pass.calls))
      (stream (pass.calls + 1))
    rw [if_pos room]
    dsimp only
    rw [counted_arrived _ _ positive.2, u32_of_lt _ (by simp only [httpBufMaxSize] at *; omega)]
    omega
  next full =>
    have same := counted_arrived httpBufMaxSize _ positive
    rw [if_neg full]
    dsimp only
    omega

/-- On clean passes the loop ends, by induction on what is missing, and its verdict is
right. -/
theorem clean_loop (contentLength : Nat) (pass : PassCount) (total : Nat)
    (clean : ∀ passes, CleanFor stream contentLength passes pass)
    (counts : pass.delivered = total + pass.currentReceived) (missing : total < contentLength) :
    ∃ passes ending, countLoop stream contentLength passes pass total = some ending ∧
      (callbackStatus ending.httpStatus ending.currentReceived = 0 ↔
        contentLength ≤ ending.delivered) := by
  induction left : contentLength - total using Nat.strongRecOn generalizing pass total with
  | ind measure inductionHypothesis =>
    have here := clean 1
    obtain ⟨_, narrow, _⟩ := here
    have sum : u32 (total + pass.currentReceived) = pass.delivered := by
      rw [← counts, u32_of_lt _ narrow]
    rcases Nat.eq_zero_or_pos pass.currentReceived with nothing | coming
    · refine ⟨1, ⟨.insufficientMemory, 0, pass.delivered, pass.calls⟩, ?_, ?_⟩
      · rw [countLoop, if_neg (by omega)]
      · simp only [callbackStatus]
        constructor
        · rintro ⟨⟩
        · intro reached
          omega
    · rcases Nat.lt_or_ge pass.delivered contentLength with incomplete | complete
      · have later (passes : Nat) : CleanFor stream contentLength passes (laterPass stream pass) :=
          (clean (passes + 1)).2.2 coming incomplete
        obtain ⟨positive, _, _⟩ := later 1
        obtain ⟨passes, ending, ends, verdict⟩ := inductionHypothesis
          (contentLength - pass.delivered) (by omega) (laterPass stream pass) pass.delivered later
          (laterPass_counts stream pass positive) incomplete rfl
        refine ⟨passes + 1, ending, ?_, verdict⟩
        rw [countLoop, if_pos coming]
        simp only [sum, if_neg (Nat.not_le_of_lt incomplete), ge_iff_le]
        exact ends
      · refine ⟨1, ⟨.success, pass.currentReceived, pass.delivered, pass.calls⟩, ?_, ?_⟩
        · rw [countLoop, if_pos coming]
          simp only [sum, if_pos complete, ge_iff_le]
        · have nonzero : pass.currentReceived ≠ 0 := by omega
          simp only [callbackStatus, if_neg nonzero, ne_eq, not_true_eq_false, if_false]
          exact iff_of_true trivial complete

/-- The verdict is right on a clean stream, and on a body the library holds that is not
complete. -/
theorem verdict_right (contentLength bodyLen : Nat) (httpStatus : HttpStatus)
    (announced : 0 < contentLength) (inBuffer : bodyLen ≤ httpBufMaxSize)
    (clean : httpStatus = .insufficientMemory → Clean stream contentLength bodyLen)
    (short : httpStatus ≠ .insufficientMemory → bodyLen < contentLength) :
    VerdictRight stream contentLength bodyLen httpStatus := by
  by_cases oversized : httpStatus = .insufficientMemory
  · have positive := (clean oversized 1).1
    obtain ⟨passes, ending, ends, verdict⟩ := clean_loop stream contentLength
      (firstPass stream bodyLen) 0 (clean oversized)
      (by rw [Nat.zero_add, firstPass_counts stream bodyLen inBuffer positive]) announced
    refine ⟨_, ending.delivered, ?_, verdict⟩
    rw [Returns, if_pos oversized]
    exact ⟨passes, ending, ends, rfl, rfl⟩
  · refine ⟨-2, bodyLen, ?_, ?_⟩
    · rw [Returns, if_neg oversized]
      exact ⟨rfl, rfl⟩
    · have incomplete := short oversized
      constructor
      · rintro ⟨⟩
      · intro reached
        omega

/-- Without the receive loop the callback returns -2, so a complete body is missed. -/
theorem held_body_verdict_iff (contentLength bodyLen : Nat) (httpStatus : HttpStatus)
    (held : httpStatus ≠ .insufficientMemory) :
    VerdictRight stream contentLength bodyLen httpStatus ↔ bodyLen < contentLength := by
  constructor
  · rintro ⟨returnStatus, delivered, returns, verdict⟩
    rw [Returns, if_neg held] at returns
    obtain ⟨rfl, rfl⟩ := returns
    apply Nat.lt_of_not_le
    intro complete
    cases verdict.mpr complete
  · intro short
    refine ⟨-2, bodyLen, ?_, ?_⟩
    · rw [Returns, if_neg held]
      exact ⟨rfl, rfl⟩
    · constructor
      · rintro ⟨⟩
      · intro reached
        omega

/-- More passes do not change how the loop ends. -/
theorem countLoop_more (contentLength passes more : Nat) (pass : PassCount) (total : Nat)
    (ending : Ending) (ends : countLoop stream contentLength passes pass total = some ending) :
    countLoop stream contentLength (passes + more) pass total = some ending := by
  induction passes generalizing pass total with
  | zero => cases ends
  | succ passes inductionHypothesis =>
    rw [Nat.succ_add, countLoop]
    rw [countLoop] at ends
    split at ends
    next coming =>
      rw [if_pos coming]
      dsimp only at ends ⊢
      split at ends
      next complete =>
        rw [if_pos complete]
        exact ends
      next incomplete =>
        rw [if_neg incomplete]
        exact inductionHypothesis _ _ ends
    next empty =>
      rw [if_neg empty]
      exact ends

/-- The loop ends in one way. -/
theorem countLoop_unique (contentLength first second : Nat) (pass : PassCount) (total : Nat)
    (ending other : Ending) (ends : countLoop stream contentLength first pass total = some ending)
    (again : countLoop stream contentLength second pass total = some other) : ending = other := by
  have left := countLoop_more stream contentLength first second pass total ending ends
  have right := countLoop_more stream contentLength second first pass total other again
  rw [Nat.add_comm second first, left] at right
  exact Option.some.inj right

/-- A first result that is negative by more than the body held counts as a huge chunk: the
callback returns 0 for an incomplete body. -/
theorem negative_first_fakes (contentLength bodyLen magnitude : Nat)
    (failed : stream 0 = .failed magnitude) (short : bodyLen < contentLength)
    (beyond : bodyLen < magnitude) (close : magnitude + contentLength ≤ 4294967296) :
    ¬ VerdictRight stream contentLength bodyLen .insufficientMemory := by
  rintro ⟨returnStatus, delivered, returns, verdict⟩
  rw [Returns, if_pos rfl] at returns
  obtain ⟨passes, ending, ends, rfl, rfl⟩ := returns
  have count : (firstPass stream bodyLen).currentReceived = 4294967296 - magnitude + bodyLen := by
    simp only [firstPass, failed, counted]
    rw [u32_of_lt (4294967296 - magnitude) (by omega), u32_of_lt _ (by omega)]
  have delivers : (firstPass stream bodyLen).delivered = bodyLen := by
    simp only [firstPass, failed, arrived, Nat.add_zero]
  have faked : countLoop stream contentLength 1 (firstPass stream bodyLen) 0 =
      some ⟨.success, (firstPass stream bodyLen).currentReceived, bodyLen, 1⟩ := by
    have coming : (firstPass stream bodyLen).currentReceived > 0 := by omega
    have sum : u32 (0 + (firstPass stream bodyLen).currentReceived) ≥ contentLength := by
      rw [Nat.zero_add, u32_of_lt _ (by omega)]
      omega
    rw [countLoop, if_pos coming]
    simp only [if_pos sum, delivers]
    rfl
  have same := countLoop_unique stream contentLength passes 1 _ 0 ending _ ends faked
  subst same
  have nonzero : (firstPass stream bodyLen).currentReceived ≠ 0 := by omega
  have reached := verdict.mp (by simp [callbackStatus, nonzero])
  dsimp only at reached
  omega

/-- A result as the bytes still to come settle it. -/
def settle (incoming : List UInt8) (requested : Nat) : RecvResult → RecvResult
  | .received available => .received (incoming.take (min available requested)).length
  | .failed magnitude => .failed magnitude

theorem settle_counted (incoming : List UInt8) (requested : Nat) (result : RecvResult) :
    counted requested (settle incoming requested result) = result.returned incoming requested ∧
      arrived requested (settle incoming requested result) =
        (result.stored incoming requested).length := by
  cases result with
  | received available =>
    have cut : (incoming.take (min available requested)).length ≤ requested :=
      Nat.le_trans (List.length_take_le _ _) (Nat.min_le_right _ _)
    exact ⟨Nat.min_eq_left cut, Nat.min_eq_left cut⟩
  | failed magnitude => exact ⟨rfl, rfl⟩

variable (misaligned : NorFlash.Misalignment UInt8 FlashControl.userFlashPageSize)
  (memory : Pointer)

/-- The results of the calls that listed passes make, in their order. -/
def recvResults (incoming : List UInt8) : List Pass → List RecvResult
  | [] => []
  | pass :: rest =>
    let later := recvResults (laterChunk memory incoming pass).incoming rest
    let first := settle incoming httpBufMaxSize pass.1
    let currentReceived := pass.1.returned incoming httpBufMaxSize
    if currentReceived < httpBufMaxSize then
      first :: settle (incoming.drop (pass.1.stored incoming httpBufMaxSize).length)
        (httpBufMaxSize - currentReceived) pass.2 :: later
    else first :: later

/-- The endless stream that goes on with zeros after some results. -/
def streamOf (results : List RecvResult) (call : Nat) : RecvResult :=
  results.getD call (.received 0)

/-- A listed pass of the bytes is the later pass of the counts. -/
theorem laterPass_settled (incoming : List UInt8) (bytes : Pass) (rest : List Pass)
    (pass : PassCount)
    (ahead : ∀ call, stream (pass.calls + call) =
      streamOf (recvResults memory incoming (bytes :: rest)) call) :
    (laterPass stream pass).currentReceived = (laterChunk memory incoming bytes).currentReceived ∧
      (laterPass stream pass).delivered =
        pass.delivered + (laterChunk memory incoming bytes).body.length ∧
      ∀ call, stream ((laterPass stream pass).calls + call) =
        streamOf (recvResults memory (laterChunk memory incoming bytes).incoming rest) call := by
  obtain ⟨count, arrives⟩ := settle_counted incoming httpBufMaxSize bytes.1
  simp only [recvResults] at ahead
  by_cases room : bytes.1.returned incoming httpBufMaxSize < httpBufMaxSize
  · simp only [if_pos room] at ahead
    have first : stream pass.calls = settle incoming httpBufMaxSize bytes.1 := ahead 0
    have second : stream (pass.calls + 1) = _ := ahead 1
    rw [streamOf, List.getD_cons_succ, List.getD_cons_zero] at second
    obtain ⟨count2nd, arrives2nd⟩ :=
      settle_counted (incoming.drop (bytes.1.stored incoming httpBufMaxSize).length)
        (httpBufMaxSize - bytes.1.returned incoming httpBufMaxSize) bytes.2
    simp only [laterPass, laterChunk, first, second, count, arrives, if_pos room, count2nd,
      arrives2nd, List.length_append, Nat.add_assoc, true_and]
    intro call
    have next := ahead (call + 2)
    rw [streamOf, List.getD_cons_succ, List.getD_cons_succ] at next
    rw [← Nat.add_comm call 2, next, streamOf, laterChunk, if_pos room]
  · simp only [if_neg room] at ahead
    have first : stream pass.calls = settle incoming httpBufMaxSize bytes.1 := ahead 0
    simp only [laterPass, laterChunk, first, count, arrives, if_neg room, Nat.add_assoc, true_and]
    intro call
    have next := ahead (call + 1)
    rw [streamOf, List.getD_cons_succ] at next
    rw [← Nat.add_comm call 1, next, streamOf, laterChunk, if_neg room]

/-- The loop over the bytes runs through the counts of its results. -/
theorem receiveLoop_counted (contentLength : Nat) (passes : List Pass) (chunk : Chunk)
    (total : Nat) (pass : PassCount) (count : pass.currentReceived = chunk.currentReceived)
    (ahead : ∀ call, stream (pass.calls + call) =
      streamOf (recvResults memory chunk.incoming passes) call) :
    let loop := receiveLoop misaligned memory contentLength passes chunk total
    ∃ bound ending, countLoop stream contentLength bound pass total = some ending ∧
      ending.httpStatus = loop.httpStatus ∧ ending.currentReceived = loop.currentReceived ∧
      ending.delivered + chunk.body.length = pass.delivered + loop.body.length := by
  induction passes, chunk, total using receiveLoop_induction memory contentLength
    generalizing pass with
  | empty passes chunk total nothing =>
    have drained : ¬ pass.currentReceived > 0 := by omega
    rw [receiveLoop_empty misaligned memory contentLength passes chunk total nothing]
    refine ⟨1, ⟨.insufficientMemory, 0, pass.delivered, pass.calls⟩, ?_, rfl, rfl, rfl⟩
    rw [countLoop, if_neg drained]
  | complete passes chunk total coming complete =>
    rw [receiveLoop_complete misaligned memory contentLength passes chunk total coming complete]
    refine ⟨1, ⟨.success, pass.currentReceived, pass.delivered, pass.calls⟩, ?_, rfl, count, rfl⟩
    rw [← count] at coming complete
    rw [countLoop, if_pos coming]
    simp only [ge_iff_le, if_pos complete]
  | exhausted chunk total coming incomplete =>
    rw [receiveLoop_incomplete misaligned memory contentLength [] chunk total coming incomplete]
    rw [← count] at coming incomplete
    have first : stream pass.calls = .received 0 := ahead 0
    have second : stream (pass.calls + 1) = .received 0 := ahead 1
    have silent : laterPass stream pass = ⟨0, pass.delivered, pass.calls + 2, false⟩ := by
      simp only [laterPass, first, second]
      rfl
    refine ⟨2, ⟨.insufficientMemory, 0, pass.delivered, pass.calls + 2⟩, ?_, rfl, rfl, ?_⟩
    · rw [countLoop, if_pos coming]
      simp only [ge_iff_le, if_neg (Nat.not_le_of_lt incomplete), silent]
      rfl
    · simp [laterReception, laterChunk, RecvResult.stored, RecvResult.returned]
  | next bytes rest chunk total coming incomplete inductionHypothesis =>
    rw [receiveLoop_incomplete misaligned memory contentLength (bytes :: rest) chunk total coming
      incomplete]
    obtain ⟨sameCount, delivers, later⟩ :=
      laterPass_settled stream memory chunk.incoming bytes rest pass ahead
    obtain ⟨bound, ending, ends, status, received, delivered⟩ :=
      inductionHypothesis (laterPass stream pass) sameCount later
    refine ⟨bound + 1, ending, ?_, status, received, ?_⟩
    · rw [← count] at coming
      rw [countLoop, if_pos coming]
      simp only [count, ge_iff_le, if_neg (Nat.not_le_of_lt incomplete)]
      exact ends
    · simp only [laterReception, List.length_append]
      omega

/-- The results a download of the bytes gets, from its first call on. -/
def downloadResults (pBody incoming : List UInt8) (first : RecvResult) (passes : List Pass) :
    List RecvResult :=
  settle incoming (httpBufMaxSize - pBody.length) first ::
    recvResults memory (firstChunk memory pBody incoming first).incoming passes

/-- The first pass of the bytes is the first pass of the counts. -/
theorem firstPass_settled (pBody incoming : List UInt8) (first : RecvResult) (passes : List Pass) :
    let pass := firstPass (streamOf (downloadResults memory pBody incoming first passes)) pBody.length
    pass.currentReceived = (firstChunk memory pBody incoming first).currentReceived ∧
      pass.delivered = (firstChunk memory pBody incoming first).body.length ∧
      ∀ call, streamOf (downloadResults memory pBody incoming first passes) (pass.calls + call) =
        streamOf (recvResults memory (firstChunk memory pBody incoming first).incoming passes)
          call := by
  obtain ⟨count, arrives⟩ := settle_counted incoming (httpBufMaxSize - pBody.length) first
  have head : streamOf (downloadResults memory pBody incoming first passes) 0 =
    settle incoming (httpBufMaxSize - pBody.length) first := rfl
  simp only [firstPass, head, count, arrives]
  refine ⟨rfl, (List.length_append).symm, fun call => ?_⟩
  rw [Nat.add_comm 1 call, streamOf, downloadResults, List.getD_cons_succ, streamOf]

/-- The callback of the bytes returns the status and delivers the bytes of the counts. -/
theorem callback_counted (exchange : HttpExchange) (incoming : List UInt8) (first : RecvResult)
    (passes : List Pass) (oversized : exchange.httpStatus = .insufficientMemory) :
    let callback := otaHttpSendRequestCallback misaligned memory exchange incoming first passes
    Returns (streamOf (downloadResults memory exchange.delivered.pBody incoming first passes))
      exchange.delivered.contentLength exchange.delivered.pBody.length exchange.httpStatus
      callback.returnStatus callback.body.length := by
  obtain ⟨count, delivers, ahead⟩ :=
    firstPass_settled memory exchange.delivered.pBody incoming first passes
  obtain ⟨bound, ending, ends, status, received, delivered⟩ :=
    receiveLoop_counted _ misaligned memory exchange.delivered.contentLength passes _ 0 _ count ahead
  simp only [otaHttpSendRequestCallback, if_pos oversized]
  rw [Returns, if_pos oversized]
  refine ⟨bound, ending, ends, by rw [status, received], ?_⟩
  omega

/-- After five bytes, one byte is lost and one arrives, for ever. -/
def swinging (call : Nat) : RecvResult :=
  if call = 0 then .received 5
  else if call % 3 = 1 then .failed 1
  else if call % 3 = 2 then .received 1
  else .received 0

/-- The total of the swinging stream stays between four and five bytes. -/
theorem swinging_goes_on (passes : Nat) (pass : PassCount) (total : Nat)
    (coming : 0 < pass.currentReceived) (later : 0 < pass.calls)
    (swings : (u32 (total + pass.currentReceived) = 5 ∧ pass.calls % 3 = 1) ∨
      (u32 (total + pass.currentReceived) = 4 ∧ pass.calls % 3 = 2)) :
    countLoop swinging 10 passes pass total = none := by
  induction passes generalizing pass total with
  | zero => rfl
  | succ passes inductionHypothesis =>
    have notFirst : pass.calls ≠ 0 := by omega
    rw [countLoop, if_pos coming]
    rcases swings with ⟨sum, call⟩ | ⟨sum, call⟩
    · have lost : swinging pass.calls = .failed 1 := by
        simp only [swinging, if_neg notFirst, if_pos call]
      have next : laterPass swinging pass =
          ⟨4294967295, pass.delivered, pass.calls + 1, true⟩ := by
        simp only [laterPass, lost]
        rfl
      simp only [sum, next]
      exact inductionHypothesis _ _ (Nat.succ_pos 4294967294) (Nat.succ_pos _)
        (Or.inr ⟨by simp only [u32], by dsimp only; omega⟩)
    · have other : ¬ pass.calls % 3 = 1 := by omega
      have gained : swinging pass.calls = .received 1 := by
        simp only [swinging, if_neg notFirst, if_neg other, if_pos call]
      have nothing : swinging (pass.calls + 1) = .received 0 := by
        have first : ¬ (pass.calls + 1) % 3 = 1 := by omega
        have second : ¬ (pass.calls + 1) % 3 = 2 := by omega
        simp only [swinging, if_neg (Nat.succ_ne_zero _), if_neg first, if_neg second]
      have next : laterPass swinging pass =
          ⟨1, pass.delivered + 1, pass.calls + 2, false⟩ := by
        simp only [laterPass, gained, nothing]
        rfl
      simp only [sum, next]
      exact inductionHypothesis _ _ Nat.one_pos (Nat.succ_pos _)
        (Or.inl ⟨by simp only [u32], by dsimp only; omega⟩)

/-- On that stream the callback never returns. -/
theorem swinging_never_returns : ¬ VerdictRight swinging 10 0 .insufficientMemory := by
  rintro ⟨returnStatus, delivered, returns, _⟩
  rw [Returns, if_pos rfl] at returns
  obtain ⟨passes, ending, ends, _⟩ := returns
  rw [swinging_goes_on passes (firstPass swinging 0) 0 (by decide) (by decide)
    (Or.inl (by decide))] at ends
  cases ends

/-- A body of sixteen bytes that arrives at once. -/
theorem sixteen_bytes_right :
    VerdictRight (fun _ => .received 16) 16 0 .insufficientMemory :=
  verdict_right (fun _ => .received 16) 16 0 .insufficientMemory (by decide) (by decide)
    (fun _ passes => by
      cases passes with
      | zero => exact True.intro
      | succ passes => exact ⟨rfl, by decide, fun _ incomplete => absurd incomplete (by decide)⟩)
    (fun held => absurd rfl held)

/-- A body of sixteen bytes that the response buffer holds is reported as missing. -/
theorem held_body_missing :
    ¬ (∀ (stream : Nat → RecvResult) (contentLength bodyLen : Nat) (httpStatus : HttpStatus),
      0 < contentLength → bodyLen ≤ httpBufMaxSize →
      httpStatus = .success ∨ httpStatus = .insufficientMemory →
      VerdictRight stream contentLength bodyLen httpStatus) := by
  intro right
  obtain ⟨returnStatus, delivered, returns, verdict⟩ := right (fun _ => .received 0) 16 16 .success
    (by decide) (by decide) (Or.inl rfl)
  rw [Returns, if_neg (by decide)] at returns
  obtain ⟨rfl, rfl⟩ := returns
  cases verdict.mpr (Nat.le_refl 16)

end WiznetEaas.OtaVerdict
