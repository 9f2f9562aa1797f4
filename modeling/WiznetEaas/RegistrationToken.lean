import WiznetEaas.CBuffers
import WiznetEaas.ProvisionedRecord

/-!
# The token of the registration request

The parser copies the ownership token into a global array over the token's own length,
without a terminator. The array starts zeroed and is never cleared, so the first token
is whole, and a later one keeps the tail of any longer one before it. The string in the
array is the latest token followed by what the earlier string had behind that length.
-/

namespace WiznetEaas.RegistrationToken

open ByteMemory CStrings MqttMessages Runs Polling FleetProvisioning ProvisionedRecord

variable {Value : Type} (cbor : TinyCbor Value)

/-- A create-accepted message that is parsed successfully, with its token. -/
structure CreatedMessage where
  pPayload : List UInt8
  token : List UInt8
  parsed : ∀ certInfo buffer,
    (parsingAcceptCertificateCreateMsg cbor pPayload certInfo buffer).1 = true
  carries : FieldText cbor pPayload fpApiOwnershipTokenKey token
  isText : IsText token
  fits : token.length < maxFpCertOwnershipTokenSize

/-- The static record and `g_temp_ownership_token`. -/
abbrev Buffers := Pointer × Pointer

def parse (buffers : Buffers) (message : CreatedMessage cbor) : Buffers :=
  (parsingAcceptCertificateCreateMsg cbor message.pPayload buffers.1 buffers.2).2

/-- The arrays after any number of messages since boot. -/
def parsedSinceBoot (messages : List (CreatedMessage cbor)) : Buffers :=
  execute (parse cbor) (initial.awsFpDeviceCertInfo, initial.tempOwnershipToken) messages

/-- The string that `processRegisterThing` prints into its payload. -/
def registrationToken (buffers : Buffers) : List UInt8 :=
  cText ((List.range maxFpCertOwnershipTokenSize).map buffers.2)

/-- The string at the start of a range of memory. -/
theorem string_read (memory : Pointer) (count : Nat) (text : List UInt8) (isText : IsText text)
    (room : text.length < count)
    (bytes : ∀ position, position < text.length → memory position = text.getD position 0)
    (ended : memory text.length = 0) : cText ((List.range count).map memory) = text := by
  have shape : (List.range count).map memory =
      text ++ 0 :: ((List.range count).map memory).drop (text.length + 1) := by
    apply List.ext_getElem
    · simp only [List.length_append, List.length_cons, List.length_drop, List.length_map,
        List.length_range]
      omega
    · intro position inside _
      rw [List.getElem_map, List.getElem_range]
      rcases Nat.lt_trichotomy position text.length with early | at_end | late
      · rw [List.getElem_append_left early, bytes position early, List.getD_eq_getElem _ _ early]
      · subst at_end
        rw [List.getElem_append_right (Nat.le_refl _)]
        simp only [Nat.sub_self, List.getElem_cons_zero, ended]
      · obtain ⟨more, rfl⟩ : ∃ more, position = text.length + 1 + more :=
          ⟨position - (text.length + 1), by omega⟩
        rw [List.getElem_append_right (by omega)]
        have behind : text.length + 1 + more - text.length = more + 1 := by omega
        simp only [behind, List.getElem_cons_succ, List.getElem_drop, List.getElem_map,
          List.getElem_range]
  rw [shape]
  exact CBuffers.cText_terminated text _ isText

/-- A successful parse stores the bytes of the token over the start of the array. -/
theorem parse_token (buffers : Buffers) (message : CreatedMessage cbor) :
    (parse cbor buffers message).2 = storeBytes buffers.2 0 message.token := by
  have parsed := message.parsed buffers.1 buffers.2
  have room : message.token.length < maxFpCertOwnershipTokenSize := message.fits
  have copied (record : Pointer) : ownershipToken (parseOwnershipToken cbor message.pPayload
      record).2 = message.token := by
    have stored := textAt_stored record deviceCertOwnershipTokenOffset maxFpCertOwnershipTokenSize
      message.token (Nat.le_of_lt room)
    rw [parseOwnershipToken, parseField_whole cbor _ _ _ _ _ _ message.carries
      (Nat.le_of_lt room), ownershipToken]
    exact string_read _ _ message.token message.isText (Nat.lt_trans room (by decide)) stored.bytes
      (stored.ended room)
  simp only [parse]
  simp only [parsingAcceptCertificateCreateMsg] at parsed ⊢
  split at parsed
  next isMap =>
    rw [if_pos isMap]
    split at parsed
    next id =>
      rw [if_pos id]
      split at parsed
      next pem =>
        rw [if_pos pem]
        split at parsed
        next key =>
          rw [if_pos key]
          split at parsed
          next owner => rw [if_pos owner, copied]
          next => cases parsed
        next => cases parsed
      next => cases parsed
    next => cases parsed
  next => cases parsed

/-- The string left by a copy without a terminator. -/
def overlaid (held token : List UInt8) : List UInt8 := token ++ held.drop token.length

/-- The string left by the tokens since boot. -/
def heldToken (messages : List (CreatedMessage cbor)) : List UInt8 :=
  messages.foldl (fun held message => overlaid held message.token) []

/-- An array that shows a string and is zero behind it. -/
def shows (text : List UInt8) : Pointer := fun position => text.getD position 0

/-- Storing a token over a string. -/
theorem storeBytes_shows (held token : List UInt8) :
    storeBytes (shows held) 0 token = shows (overlaid held token) := by
  funext position
  rcases Nat.lt_or_ge position token.length with early | late
  · have stored := storeBytes_inside (shows held) 0 token position early
    rw [Nat.zero_add] at stored
    rw [stored, shows, overlaid, List.getD_append _ _ _ _ early]
  · rw [storeBytes_above _ _ _ _ (by omega), shows, shows, overlaid,
      List.getD_append_right _ _ _ _ late, List.getD_eq_getElem?_getD, List.getD_eq_getElem?_getD,
      List.getElem?_drop, Nat.add_sub_of_le late]

/-- After any messages the array shows the string the copies leave, a text that is as
long as the longest token. -/
theorem parsed_shows (messages : List (CreatedMessage cbor)) :
    (parsedSinceBoot cbor messages).2 = shows (heldToken cbor messages) ∧
      IsText (heldToken cbor messages) ∧
      (heldToken cbor messages).length < maxFpCertOwnershipTokenSize ∧
      ∀ bound, (heldToken cbor messages).length ≤ bound ↔
        ∀ message ∈ messages, message.token.length ≤ bound := by
  have general (rest : List (CreatedMessage cbor)) (buffers : Buffers) (held : List UInt8)
      (shown : buffers.2 = shows held) (text : IsText held)
      (room : held.length < maxFpCertOwnershipTokenSize) :
      let after := rest.foldl (fun held message => overlaid held message.token) held
      (execute (parse cbor) buffers rest).2 = shows after ∧ IsText after ∧
        after.length < maxFpCertOwnershipTokenSize ∧
        ∀ bound, after.length ≤ bound ↔
          held.length ≤ bound ∧ ∀ message ∈ rest, message.token.length ≤ bound := by
    induction rest generalizing buffers held with
    | nil =>
      refine ⟨shown, text, room, fun bound => ?_⟩
      simp
    | cons message rest inductionHypothesis =>
      have next : (parse cbor buffers message).2 = shows (overlaid held message.token) := by
        rw [parse_token, shown, storeBytes_shows]
      have nextText : IsText (overlaid held message.token) :=
        List.forall_mem_append.mpr
          ⟨message.isText, fun byte left => text byte (List.mem_of_mem_drop left)⟩
      have size : (overlaid held message.token).length = max message.token.length held.length := by
        rw [overlaid, List.length_append, List.length_drop]
        omega
      have nextRoom : (overlaid held message.token).length < maxFpCertOwnershipTokenSize := by
        rw [size]
        exact Nat.max_lt.mpr ⟨message.fits, room⟩
      obtain ⟨shows, isText, fits, longest⟩ :=
        inductionHypothesis (parse cbor buffers message) _ next nextText nextRoom
      refine ⟨shows, isText, fits, fun bound => ?_⟩
      rw [List.foldl_cons, longest, size, Nat.max_le, List.forall_mem_cons]
      exact ⟨fun both => ⟨both.1.2, both.1.1, both.2⟩, fun both => ⟨⟨both.2.1, both.1⟩, both.2.2⟩⟩
  have zeroed : initial.tempOwnershipToken = shows [] := rfl
  obtain ⟨shown, text, room, longest⟩ :=
    general messages (initial.awsFpDeviceCertInfo, initial.tempOwnershipToken) [] zeroed isText_nil
      (by decide)
  refine ⟨shown, text, room, fun bound => (longest bound).trans ?_⟩
  simp

/-- The registration request carries the string the copies leave. -/
theorem registrationToken_held (messages : List (CreatedMessage cbor)) :
    registrationToken (parsedSinceBoot cbor messages) = heldToken cbor messages := by
  obtain ⟨shown, text, room, _⟩ := parsed_shows cbor messages
  rw [registrationToken, shown]
  refine string_read _ _ _ text room (fun _ _ => rfl) ?_
  rw [shows, List.getD_eq_getElem?_getD, List.getElem?_eq_none (Nat.le_refl _)]
  rfl

/-- After a parse the request carries its token exactly when no earlier token was longer. -/
theorem latest_token_iff (earlier : List (CreatedMessage cbor)) (latest : CreatedMessage cbor) :
    registrationToken (parsedSinceBoot cbor (earlier ++ [latest])) = latest.token ↔
      ∀ message ∈ earlier, message.token.length ≤ latest.token.length := by
  obtain ⟨_, _, _, longest⟩ := parsed_shows cbor earlier
  have left : heldToken cbor (earlier ++ [latest]) =
      latest.token ++ (heldToken cbor earlier).drop latest.token.length := by
    rw [heldToken, List.foldl_append]
    rfl
  rw [registrationToken_held, left, ← longest latest.token.length, List.append_right_eq_self,
    List.drop_eq_nil_iff]

/-- After each parse of a sequence since boot, the request carries the latest token. -/
def CarriesCurrentToken (messages : List (CreatedMessage cbor)) : Prop :=
  ∀ earlier latest later, messages = earlier ++ latest :: later →
    registrationToken (parsedSinceBoot cbor (earlier ++ [latest])) = latest.token

/-- A relation between all earlier and later members of a list, seen from the later. -/
theorem pairwise_split {Item : Type} (related : Item → Item → Prop) (items : List Item) :
    items.Pairwise related ↔ ∀ earlier latest later, items = earlier ++ latest :: later →
      ∀ item ∈ earlier, related item latest := by
  constructor
  · rintro ordered earlier latest later rfl item member
    exact (List.pairwise_append.mp ordered).2.2 item member latest List.mem_cons_self
  · intro split
    induction items with
    | nil => exact List.Pairwise.nil
    | cons first rest inductionHypothesis =>
      rw [List.pairwise_cons]
      constructor
      · intro item member
        obtain ⟨before, behind, rfl⟩ := List.append_of_mem member
        exact split (first :: before) item behind rfl first List.mem_cons_self
      · apply inductionHypothesis
        rintro earlier latest later rfl item member
        exact split (first :: earlier) latest later rfl item (List.mem_cons_of_mem first member)

/-- A sequence of messages always leaves the latest token exactly when no token is
shorter than an earlier one. -/
theorem current_token_iff (messages : List (CreatedMessage cbor)) :
    CarriesCurrentToken cbor messages ↔
      messages.Pairwise fun earlier later => earlier.token.length ≤ later.token.length := by
  rw [pairwise_split]
  constructor
  · intro current earlier latest later shape
    exact (latest_token_iff cbor earlier latest).mp (current earlier latest later shape)
  · intro ordered earlier latest later shape
    exact (latest_token_iff cbor earlier latest).mpr (ordered earlier latest later shape)

section Attempts
variable (awsTemplateName : List UInt8)

/-- The payloads parsed in a log, the oldest first. -/
def parsedPayloads : List Event → List (List UInt8)
  | [] => []
  | .parsed pPayload _ :: earlier => parsedPayloads earlier ++ [pPayload]
  | _ :: earlier => parsedPayloads earlier

/-- The arrays are those the payloads of the log leave. -/
def Replayed (state : FleetProvisioning.State) : Prop :=
  (state.awsFpDeviceCertInfo, state.tempOwnershipToken) =
    execute (fun (buffers : Buffers) pPayload =>
        (parsingAcceptCertificateCreateMsg cbor pPayload buffers.1 buffers.2).2)
      (initial.awsFpDeviceCertInfo, initial.tempOwnershipToken) (parsedPayloads state.log)

/-- Only the parser writes the arrays. -/
theorem callback_replayed (state : FleetProvisioning.State) (info : PublishInfo)
    (replayed : Replayed cbor state) :
    Replayed cbor (fleetProvisioningEventCallback cbor awsTemplateName state info) := by
  have logged : parsedPayloads (.handled info :: state.log) = parsedPayloads state.log := rfl
  rw [fleetProvisioningEventCallback]
  dsimp only
  split
  · rw [Replayed, parsedPayloads, logged, execute_append, ← show
      (state.awsFpDeviceCertInfo, state.tempOwnershipToken) = _ from replayed]
    rfl
  · split
    · exact replayed
    · split
      · exact replayed
      · exact replayed

/-- The two waits of an attempt handle messages and lower flags. -/
theorem attempt_replayed (state : FleetProvisioning.State) (attempt : Attempt)
    (replayed : Replayed cbor state) :
    Replayed cbor (fleetProvisioningHandle cbor awsTemplateName state attempt).2 := by
  have created (state : FleetProvisioning.State) (rounds : List (List PublishInfo))
      (before : Replayed cbor state) :
      Replayed cbor (waitRecvCreateCertAndKeyAcceptMsg cbor awsTemplateName state rounds).2 := by
    apply waitFlag_invariant
    · exact callback_replayed cbor awsTemplateName
    · intro state handled
      exact handled
    · exact before
  have registered (state : FleetProvisioning.State) (rounds : List (List PublishInfo))
      (before : Replayed cbor state) :
      Replayed cbor (waitRegisterThingAcceptMsg cbor awsTemplateName state rounds).2 := by
    apply waitFlag_invariant
    · exact callback_replayed cbor awsTemplateName
    · intro state handled
      exact handled
    · exact before
  have create (state : FleetProvisioning.State) (before : Replayed cbor state) :
      Replayed cbor (processCreateCertAndKey cbor awsTemplateName attempt state).2 := by
    rw [processCreateCertAndKey]
    split
    · exact created _ _ before
    · exact before
  rw [fleetProvisioningHandle]
  dsimp only
  split
  · split
    · rw [processRegisterThing]
      split
      · exact registered _ _ (create _ replayed)
      · exact create _ replayed
    · exact create _ replayed
  · exact replayed

/-- After any attempts the arrays are those of the messages parsed since boot. -/
theorem provision_parsed (attempts : List Attempt) (messages : List (CreatedMessage cbor))
    (sent : parsedPayloads (provision cbor awsTemplateName attempts).log =
      messages.map CreatedMessage.pPayload) :
    let state := provision cbor awsTemplateName attempts
    (state.awsFpDeviceCertInfo, state.tempOwnershipToken) = parsedSinceBoot cbor messages := by
  intro state
  have replayed : Replayed cbor state :=
    execute_invariant _ (Replayed cbor) (fun _ _ => True)
      (fun state attempt before _ => attempt_replayed cbor awsTemplateName state attempt before)
      initial attempts rfl (along_true _ initial attempts)
  rw [Replayed, sent, execute_map] at replayed
  exact replayed

end Attempts

/-- A message of `textMapCbor` with a given token. -/
def tokenMessage (token : List UInt8) : List UInt8 :=
  credentials (ascii "id") (ascii "certificate") (ascii "key") token

theorem tokenMessage_parsed (token : List UInt8)
    (map : textMapCbor.isMap (tokenMessage token) = true)
    (id : FieldText textMapCbor (tokenMessage token) fpApiCertificateIdKey (ascii "id"))
    (pem : FieldText textMapCbor (tokenMessage token) fpApiCertificatePemKey (ascii "certificate"))
    (key : FieldText textMapCbor (tokenMessage token) fpApiPrivateKeyKey (ascii "key"))
    (owner : FieldText textMapCbor (tokenMessage token) fpApiOwnershipTokenKey token)
    (fits : token.length < maxFpCertOwnershipTokenSize) (certInfo buffer : Pointer) :
    (parsingAcceptCertificateCreateMsg textMapCbor (tokenMessage token) certInfo buffer).1 =
      true :=
  (parsing_whole textMapCbor (tokenMessage token) certInfo buffer
    ⟨map, ⟨_, id, by decide +kernel⟩, ⟨_, pem, by decide +kernel⟩, ⟨_, key, by decide +kernel⟩,
      ⟨_, owner, fits⟩⟩).1

def longTokenMessage : CreatedMessage textMapCbor where
  pPayload := tokenMessage (ascii "first-token")
  token := ascii "first-token"
  parsed := tokenMessage_parsed _ (by decide +kernel) ⟨_, by decide +kernel, rfl⟩
    ⟨_, by decide +kernel, rfl⟩ ⟨_, by decide +kernel, rfl⟩ ⟨_, by decide +kernel, rfl⟩
    (by decide +kernel)
  carries := ⟨some (ascii "first-token"), by decide +kernel, rfl⟩
  isText := by
    unfold IsText
    decide +kernel
  fits := by decide +kernel

def shortTokenMessage : CreatedMessage textMapCbor where
  pPayload := tokenMessage (ascii "second")
  token := ascii "second"
  parsed := tokenMessage_parsed _ (by decide +kernel) ⟨_, by decide +kernel, rfl⟩
    ⟨_, by decide +kernel, rfl⟩ ⟨_, by decide +kernel, rfl⟩ ⟨_, by decide +kernel, rfl⟩
    (by decide +kernel)
  carries := ⟨some (ascii "second"), by decide +kernel, rfl⟩
  isText := by
    unfold IsText
    decide +kernel
  fits := by decide +kernel

/-- A shorter token keeps the tail of the one before it. -/
theorem stale_tail_registered :
    registrationToken (parsedSinceBoot textMapCbor [longTokenMessage, shortTokenMessage]) =
      ascii "secondtoken" ∧
    ¬ CarriesCurrentToken textMapCbor [longTokenMessage, shortTokenMessage] := by
  have held : registrationToken (parsedSinceBoot textMapCbor
      [longTokenMessage, shortTokenMessage]) = ascii "secondtoken" := by
    rw [registrationToken_held]
    decide +kernel
  refine ⟨held, ?_⟩
  intro current
  have latest := current [longTokenMessage] shortTokenMessage [] rfl
  rw [List.singleton_append, held] at latest
  exact absurd latest (by decide +kernel)

end WiznetEaas.RegistrationToken
