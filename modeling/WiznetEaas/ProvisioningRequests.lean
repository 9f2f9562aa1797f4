import WiznetEaas.JsonRequests
import WiznetEaas.RegistrationToken

/-!
# The requests of a provisioning attempt

An attempt asks for a certificate, and then for a registration with the token of the
certificate. Both requests are published from one buffer, and only the registration prints
into it. The first request for a certificate has an empty payload, and every one after a
registration has the payload of the latest registration.

An attempt whose waits are each answered by their own messages stores the credentials of one
accepted message. The token that the service reads in the registration is the token of these
exactly when no earlier token since boot was longer.
-/

namespace WiznetEaas.ProvisioningRequests

open ByteMemory CStrings CFormat MqttMessages Runs Polling FleetProvisioning ProvisionedRecord
  RegistrationToken FormattedStrings JsonTokens JsonRequests

def awsPubTopicCreateKeyAndCert : List UInt8 := ascii "$aws/certificates/create/cbor"

/-- A call of `mqtt_transport_publish`, with the payloads that had been parsed since boot. -/
structure Outgoing where
  topic : List UInt8
  payload : List UInt8
  parsed : List (List UInt8)
  deriving DecidableEq

/-- The globals of the handler with the string in `g_aws_mqtt_prov_pub_msg_buf`, and what has
been published, the latest first. -/
structure Publisher where
  globals : FleetProvisioning.State
  provPubMsgBuf : List UInt8
  published : List Outgoing

/-- The globals before the first attempt. -/
def Publisher.initial : Publisher := ⟨FleetProvisioning.initial, [], []⟩

/-- The buffer is published up to its terminator. -/
def Publisher.publish (publisher : Publisher) (topic : List UInt8) : Publisher :=
  { publisher with
    published := ⟨topic, publisher.provPubMsgBuf, parsedPayloads publisher.globals.log⟩ ::
      publisher.published }

section Handler
variable {Value : Type} (cbor : TinyCbor Value) (deviceInfo : DeviceInfo)

/-- The payload of a registration with the token in the global array. -/
def registrationPayload (buffers : Buffers) : List UInt8 :=
  sprintf awsRegisterThingParameters [registrationToken buffers, deviceInfo.thingName.text,
    deviceInfo.location.text, deviceInfo.manufacturer.text]

/-- `processCreateCertAndKey` with its request. -/
def publishCreateCertAndKey (attempt : Attempt) (publisher : Publisher) : Bool × Publisher :=
  let result := processCreateCertAndKey cbor deviceInfo.awsTemplateName.text attempt
    publisher.globals
  let publisher :=
    if attempt.subscribeCreate then publisher.publish awsPubTopicCreateKeyAndCert else publisher
  (result.1, { publisher with globals := result.2 })

/-- `processRegisterThing` with its request. -/
def publishRegisterThing (attempt : Attempt) (publisher : Publisher) : Bool × Publisher :=
  let globals := publisher.globals
  let result := processRegisterThing cbor deviceInfo.awsTemplateName.text attempt globals
  let publisher :=
    if attempt.subscribeRegister then
      Publisher.publish { publisher with
        provPubMsgBuf := registrationPayload deviceInfo
          (globals.awsFpDeviceCertInfo, globals.tempOwnershipToken) }
        (sprintf awsPubTopicRegisterThing [deviceInfo.awsTemplateName.text])
    else publisher
  (result.1, { publisher with globals := result.2 })

/-- `fleet_provisioning_handle` with its requests. -/
def publishProvisioning (publisher : Publisher) (attempt : Attempt) : Bool × Publisher :=
  let publisher := { publisher with
    globals := { publisher.globals with
      recvedMqttCreateKeyAndCertAcceptMsg := false
      recvedMqttRegisterThingAcceptMsg := false } }
  if attempt.init && attempt.connect then
    let created := publishCreateCertAndKey cbor deviceInfo attempt publisher
    if created.1 then publishRegisterThing cbor deviceInfo attempt created.2
    else (false, created.2)
  else (false, publisher)

/-- The requests of any number of attempts. -/
def publishAttempts (attempts : List Attempt) : Publisher :=
  execute (fun publisher attempt => (publishProvisioning cbor deviceInfo publisher attempt).2)
    .initial attempts

end Handler

/-- The payload of the latest registration, or nothing. -/
def lastRegistration : List Outgoing → List UInt8
  | [] => []
  | request :: earlier =>
    if request.topic = awsPubTopicCreateKeyAndCert then lastRegistration earlier
    else request.payload

section Requests
variable {Value : Type} (cbor : TinyCbor Value) (deviceInfo : DeviceInfo)

/-- The arrays after some payloads since boot. -/
def buffersOf (payloads : List (List UInt8)) : Buffers :=
  execute (fun (buffers : Buffers) pPayload =>
      (parsingAcceptCertificateCreateMsg cbor pPayload buffers.1 buffers.2).2)
    (FleetProvisioning.initial.awsFpDeviceCertInfo, FleetProvisioning.initial.tempOwnershipToken)
    payloads

/-- A request for a certificate has the payload of the latest registration, and a
registration has the token that the payloads parsed before it leave. -/
def SoundRequest (payloads : List (List UInt8)) (request : Outgoing) (earlier : List Outgoing) :
    Prop :=
  request.parsed <+: payloads ∧
    (request.topic = awsPubTopicCreateKeyAndCert → request.payload = lastRegistration earlier) ∧
    (request.topic ≠ awsPubTopicCreateKeyAndCert →
      request.payload = registrationPayload deviceInfo (buffersOf cbor request.parsed))

def AllSound (payloads : List (List UInt8)) : List Outgoing → Prop
  | [] => True
  | request :: earlier =>
    SoundRequest cbor deviceInfo payloads request earlier ∧
      AllSound request.parsed earlier

/-- What is true between two steps of an attempt. -/
structure Kept (publisher : Publisher) : Prop where
  replayed : Replayed cbor publisher.globals
  buffer : publisher.provPubMsgBuf = lastRegistration publisher.published
  sound : AllSound cbor deviceInfo (parsedPayloads publisher.globals.log) publisher.published

theorem allSound_mono (payloads more : List (List UInt8)) (published : List Outgoing)
    (longer : payloads <+: more) (sound : AllSound cbor deviceInfo payloads published) :
    AllSound cbor deviceInfo more published := by
  cases published with
  | nil => exact True.intro
  | cons request earlier =>
    obtain ⟨⟨parsed, request⟩, rest⟩ := sound
    exact ⟨⟨parsed.trans longer, request⟩, rest⟩

/-- The topic of a registration is another one. -/
theorem registerTopic_differs (awsTemplateName : List UInt8) :
    sprintf awsPubTopicRegisterThing [awsTemplateName] ≠ awsPubTopicCreateKeyAndCert := by
  have shape : awsPubTopicRegisterThing = ascii "$aws/provisioning-templates/" ++ 37 :: 115 ::
      ascii "/provision/json" := by decide +kernel
  intro same
  rw [shape, sprintf_argument _ _ _ _ (by decide +kernel), List.append_assoc] at same
  have beginning := congrArg (List.take 6) same
  rw [List.take_append_of_le_length (by decide +kernel)] at beginning
  exact absurd beginning (by decide +kernel)

/-- The callback parses at most one more payload. -/
theorem callback_parsed (awsTemplateName : List UInt8) (state : FleetProvisioning.State)
    (info : PublishInfo) : parsedPayloads state.log <+:
      parsedPayloads (fleetProvisioningEventCallback cbor awsTemplateName state info).log := by
  rw [fleetProvisioningEventCallback]
  dsimp only
  split
  · exact List.prefix_append _ _
  · split
    · exact List.prefix_rfl
    · split
      · exact List.prefix_rfl
      · exact List.prefix_rfl

/-- Handling messages and lowering a flag parses more payloads and leaves their arrays. -/
theorem wait_continues (awsTemplateName : List UInt8) (flag : FleetProvisioning.State → Bool)
    (clear : FleetProvisioning.State → FleetProvisioning.State)
    (cleared : ∀ state, Replayed cbor state →
      Replayed cbor (clear state) ∧ (clear state).log = state.log)
    (state : FleetProvisioning.State) (rounds : List (List PublishInfo))
    (replayed : Replayed cbor state) :
    let after := (waitFlag (fleetProvisioningEventCallback cbor awsTemplateName) flag clear state
      rounds).2
    Replayed cbor after ∧ parsedPayloads state.log <+: parsedPayloads after.log := by
  apply waitFlag_invariant _ _ _ fun after =>
    Replayed cbor after ∧ parsedPayloads state.log <+: parsedPayloads after.log
  · rintro before info ⟨earlier, parsed⟩
    exact ⟨callback_replayed cbor awsTemplateName before info earlier,
      parsed.trans (callback_parsed cbor awsTemplateName before info)⟩
  · rintro before ⟨earlier, parsed⟩
    obtain ⟨kept, log⟩ := cleared before earlier
    exact ⟨kept, log ▸ parsed⟩
  · exact ⟨replayed, List.prefix_rfl⟩

/-- The request for a certificate and its wait. -/
theorem create_kept (attempt : Attempt) (publisher : Publisher)
    (kept : Kept cbor deviceInfo publisher) :
    Kept cbor deviceInfo (publishCreateCertAndKey cbor deviceInfo attempt publisher).2 := by
  by_cases subscribed : attempt.subscribeCreate = true
  · have waited := wait_continues cbor deviceInfo.awsTemplateName.text
      FleetProvisioning.State.recvedMqttCreateKeyAndCertAcceptMsg
      (fun state => { state with recvedMqttCreateKeyAndCertAcceptMsg := false })
      (fun state replayed => ⟨replayed, rfl⟩)
      { publisher.globals with log := .createPublished :: publisher.globals.log }
      attempt.createRounds kept.replayed
    have asked : SoundRequest cbor deviceInfo (parsedPayloads publisher.globals.log)
        ⟨awsPubTopicCreateKeyAndCert, publisher.provPubMsgBuf,
          parsedPayloads publisher.globals.log⟩ publisher.published :=
      ⟨List.prefix_rfl, fun _ => kept.buffer, fun other => absurd rfl other⟩
    simp only [publishCreateCertAndKey, processCreateCertAndKey, subscribed, if_true]
    constructor
    · exact waited.1
    · simp only [Publisher.publish, lastRegistration, if_true]
      exact kept.buffer
    · exact allSound_mono cbor deviceInfo _ _ _ waited.2 ⟨asked, kept.sound⟩
  · simp only [publishCreateCertAndKey, processCreateCertAndKey, if_neg subscribed]
    exact ⟨kept.replayed, kept.buffer, kept.sound⟩

/-- The registration and its wait. -/
theorem register_kept (attempt : Attempt) (publisher : Publisher)
    (kept : Kept cbor deviceInfo publisher) :
    Kept cbor deviceInfo (publishRegisterThing cbor deviceInfo attempt publisher).2 := by
  by_cases subscribed : attempt.subscribeRegister = true
  · have waited := wait_continues cbor deviceInfo.awsTemplateName.text
      FleetProvisioning.State.recvedMqttRegisterThingAcceptMsg
      (fun state => { state with recvedMqttRegisterThingAcceptMsg := false })
      (fun state replayed => ⟨replayed, rfl⟩) publisher.globals attempt.registerRounds
      kept.replayed
    have other := registerTopic_differs deviceInfo.awsTemplateName.text
    have asked : SoundRequest cbor deviceInfo (parsedPayloads publisher.globals.log)
        ⟨sprintf awsPubTopicRegisterThing [deviceInfo.awsTemplateName.text],
          registrationPayload deviceInfo
            (publisher.globals.awsFpDeviceCertInfo, publisher.globals.tempOwnershipToken),
          parsedPayloads publisher.globals.log⟩
        publisher.published := by
      refine ⟨List.prefix_rfl, fun same => absurd same other, fun _ => ?_⟩
      rw [show (publisher.globals.awsFpDeviceCertInfo, publisher.globals.tempOwnershipToken) =
        buffersOf cbor (parsedPayloads publisher.globals.log) from kept.replayed]
    simp only [publishRegisterThing, processRegisterThing, subscribed, if_true]
    constructor
    · exact waited.1
    · simp only [Publisher.publish, lastRegistration, if_neg other]
    · exact allSound_mono cbor deviceInfo _ _ _ waited.2 ⟨asked, kept.sound⟩
  · simp only [publishRegisterThing, processRegisterThing, if_neg subscribed]
    exact kept

theorem attempt_kept (publisher : Publisher) (attempt : Attempt)
    (kept : Kept cbor deviceInfo publisher) :
    Kept cbor deviceInfo (publishProvisioning cbor deviceInfo publisher attempt).2 := by
  have lowered : Kept cbor deviceInfo { publisher with
      globals := { publisher.globals with
        recvedMqttCreateKeyAndCertAcceptMsg := false
        recvedMqttRegisterThingAcceptMsg := false } } :=
    ⟨kept.replayed, kept.buffer, kept.sound⟩
  rw [publishProvisioning]
  dsimp only
  split
  · have created := create_kept cbor deviceInfo attempt _ lowered
    split
    · exact register_kept cbor deviceInfo attempt _ created
    · exact created
  · exact lowered

theorem attempts_kept (attempts : List Attempt) :
    Kept cbor deviceInfo (publishAttempts cbor deviceInfo attempts) :=
  execute_invariant _ (Kept cbor deviceInfo) (fun _ _ => True)
    (fun publisher attempt kept _ => attempt_kept cbor deviceInfo publisher attempt kept)
    .initial attempts ⟨rfl, rfl, True.intro⟩ (along_true _ _ attempts)

/-- The arrays after accepted messages. -/
theorem buffersOf_messages (messages : List (CreatedMessage cbor)) :
    buffersOf cbor (messages.map CreatedMessage.pPayload) = parsedSinceBoot cbor messages :=
  execute_map _ CreatedMessage.pPayload _ messages

theorem registrationToken_isText (buffers : Buffers) : IsText (registrationToken buffers) :=
  cText_isText _

end Requests

/-- A device with its names. -/
def exampleDevice : DeviceInfo where
  thingName := ⟨ascii "EaaS-0008DC000001", by unfold IsText; decide +kernel, by decide +kernel⟩
  location := ⟨ascii "Seoul", by unfold IsText; decide +kernel, by decide +kernel⟩
  manufacturer := ⟨ascii "WIZnet", by unfold IsText; decide +kernel, by decide +kernel⟩
  awsTemplateName := ⟨templateName, by unfold IsText; decide +kernel, by decide +kernel⟩

def shortCreated : PublishInfo where
  topicName := createKeyAndCertAccepted
  behind := []
  payload := shortTokenMessage.pPayload
  inBuffer := by decide +kernel

def exampleAttempt : Attempt :=
  ⟨true, true, true, [[shortCreated]], true, [[registeredMessage]]⟩

section Registration
variable {Value : Type} (cbor : TinyCbor Value) (deviceInfo : DeviceInfo)

/-- The publisher when an attempt has asked for its certificate. -/
def askedCertificate (publisher : Publisher) (attempt : Attempt) : Bool × Publisher :=
  publishCreateCertAndKey cbor deviceInfo attempt
    { publisher with
      globals := { publisher.globals with
        recvedMqttCreateKeyAndCertAcceptMsg := false
        recvedMqttRegisterThingAcceptMsg := false } }

/-- The wait of the registration is answered, and no certificate comes in before. -/
structure AnsweredAlone (globals : FleetProvisioning.State) (attempt : Attempt)
    (handled : List PublishInfo) : Prop where
  fresh : globals.recvedMqttRegisterThingAcceptMsg = false
  answered : answeredBy (fleetProvisioningEventCallback cbor deviceInfo.awsTemplateName.text)
    FleetProvisioning.State.recvedMqttRegisterThingAcceptMsg globals attempt.registerRounds =
      some handled
  alone : ∀ info ∈ handled,
    info.topicEqual createKeyAndCertAccepted createKeyAndCertAccepted.length = false

/-- What the wait of a registration leaves as it was, and what it stores. -/
structure StoredSince (before after : FleetProvisioning.State) (since : List Event) : Prop where
  record : after.awsFpDeviceCertInfo = before.awsFpDeviceCertInfo
  log : after.log = since ++ before.log
  only : ∀ record, .saved record ∈ since → record = before.awsFpDeviceCertInfo
  raised : after.recvedMqttRegisterThingAcceptMsg = true → ∃ record, .saved record ∈ since

/-- A message that is no certificate stores the record in place, or nothing. -/
theorem callback_stored (before state : FleetProvisioning.State) (info : PublishInfo)
    (since : List Event) (stored : StoredSince before state since)
    (other : info.topicEqual createKeyAndCertAccepted createKeyAndCertAccepted.length = false) :
    ∃ more, StoredSince before
      (fleetProvisioningEventCallback cbor deviceInfo.awsTemplateName.text state info) more := by
  obtain ⟨record, log, only, raised⟩ := stored
  have logged : StoredSince before { state with log := .handled info :: state.log }
      (.handled info :: since) := by
    refine ⟨record, by rw [log, List.cons_append], fun stored member => ?_, fun up => ?_⟩
    · exact only stored ((List.mem_cons.mp member).resolve_left nofun)
    · obtain ⟨stored, member⟩ := raised up
      exact ⟨stored, List.mem_cons_of_mem _ member⟩
  simp only [fleetProvisioningEventCallback, other, Bool.false_eq_true, if_false]
  split
  · exact ⟨_, logged⟩
  · split
    · refine ⟨.saved state.awsFpDeviceCertInfo :: .handled info :: since, record,
        by rw [log, List.cons_append, List.cons_append], fun stored member => ?_,
        fun _ => ⟨_, List.mem_cons_self⟩⟩
      rcases List.mem_cons.mp member with same | earlier
      · cases same
        exact record
      · exact logged.only stored earlier
    · exact ⟨_, logged⟩

/-- An answered wait stores the record in place. -/
theorem answered_stored (globals : FleetProvisioning.State) (attempt : Attempt)
    (handled : List PublishInfo) (answer : AnsweredAlone cbor deviceInfo globals attempt handled) :
    let result := waitRegisterThingAcceptMsg cbor deviceInfo.awsTemplateName.text globals
      attempt.registerRounds
    result.1 = true ∧ ∃ since, result.2.log = since ++ globals.log ∧
      (∃ record, .saved record ∈ since) ∧
      ∀ record, .saved record ∈ since → record = globals.awsFpDeviceCertInfo := by
  intro result
  have ended := waitFlag_answered
    (fleetProvisioningEventCallback cbor deviceInfo.awsTemplateName.text)
    FleetProvisioning.State.recvedMqttRegisterThingAcceptMsg
    (fun state => { state with recvedMqttRegisterThingAcceptMsg := false }) globals
    attempt.registerRounds
  rw [answer.answered] at ended
  obtain ⟨up, shape⟩ := ended
  have start : StoredSince globals globals [] := by
    refine ⟨rfl, rfl, fun _ member => (nomatch member), fun up => ?_⟩
    rw [answer.fresh] at up
    cases up
  obtain ⟨since, stored⟩ := execute_invariant
    (fleetProvisioningEventCallback cbor deviceInfo.awsTemplateName.text)
    (fun state => ∃ since, StoredSince globals state since)
    (fun _ info => info.topicEqual createKeyAndCertAccepted createKeyAndCertAccepted.length = false)
    (fun state info before other =>
      before.elim fun since stored => callback_stored cbor deviceInfo globals state info since
        stored other)
    globals handled ⟨[], start⟩ (along_of_forall _ _ _ _ answer.alone)
  have same : result = _ := shape
  rw [same]
  exact ⟨rfl, since, stored.log, stored.raised up, stored.only⟩

/-- The bytes of the token in the array come from the tokens. -/
theorem heldToken_bytes (messages : List (CreatedMessage cbor)) (byte : UInt8)
    (held : byte ∈ heldToken cbor messages) : ∃ message ∈ messages, byte ∈ message.token := by
  have general (rest : List (CreatedMessage cbor)) (text : List UInt8)
      (member : byte ∈ rest.foldl (fun held message => overlaid held message.token) text) :
      byte ∈ text ∨ ∃ message ∈ rest, byte ∈ message.token := by
    induction rest generalizing text with
    | nil => exact .inl member
    | cons message rest inductionHypothesis =>
      rcases inductionHypothesis (overlaid text message.token) member with
        here | ⟨later, among, inside⟩
      · rcases List.mem_append.mp here with new | old
        · exact .inr ⟨message, List.mem_cons_self, new⟩
        · exact .inl (List.mem_of_mem_drop old)
      · exact .inr ⟨later, List.mem_cons_of_mem _ among, inside⟩
  exact (general messages [] held).resolve_left List.not_mem_nil

/-- With plain tokens, the service reads the latest token and the names in a registration
exactly when no earlier token was longer and the names are plain. -/
theorem registration_reads_latest (earlier : List (CreatedMessage cbor))
    (latest : CreatedMessage cbor)
    (plain : ∀ message ∈ earlier ++ [latest], IsPlain message.token) :
    readTokens (registrationPayload deviceInfo (parsedSinceBoot cbor (earlier ++ [latest]))) =
        some (registrationTokens latest.token deviceInfo.thingName.text deviceInfo.location.text
          deviceInfo.manufacturer.text) ↔
      (∀ message ∈ earlier, message.token.length ≤ latest.token.length) ∧
        IsPlain deviceInfo.thingName.text ∧ IsPlain deviceInfo.location.text ∧
        IsPlain deviceInfo.manufacturer.text := by
  have latestPlain := plain latest (List.mem_append_right _ List.mem_cons_self)
  have tokenText := registrationToken_isText (parsedSinceBoot cbor (earlier ++ [latest]))
  rw [← latest_token_iff, registrationPayload]
  constructor
  · intro reads
    have absent (byte : UInt8) (outside : ∀ text, IsPlain text → byte ∉ text) :
        byte ∉ registrationToken (parsedSinceBoot cbor (earlier ++ [latest])) := by
      intro member
      rw [registrationToken_held] at member
      obtain ⟨message, among, inside⟩ := heldToken_bytes cbor _ byte member
      exact outside message.token (plain message among) inside
    have same : registrationToken (parsedSinceBoot cbor (earlier ++ [latest])) = latest.token :=
      registration_token _ _ _ _ _ tokenText deviceInfo.thingName.isText deviceInfo.location.isText
        deviceInfo.manufacturer.isText (absent 34 plain_no_quote) (absent 92 fun _ text => text.2)
        reads
    rw [same] at reads
    have texts := (registration_read latest.token _ _ _ latest.isText deviceInfo.thingName.isText
      deviceInfo.location.isText deviceInfo.manufacturer.isText).mp reads
    exact ⟨same, texts.2⟩
  · rintro ⟨same, names⟩
    rw [same]
    exact (registration_read latest.token _ _ _ latest.isText deviceInfo.thingName.isText
      deviceInfo.location.isText deviceInfo.manufacturer.isText).mpr ⟨latestPlain, names⟩

/-- An attempt that has its certificate, whose latest payload is whole, and whose registration
is answered alone, succeeds and stores one record, with the fields of that payload. With plain
tokens since boot, the token read in its registration is the one it stores exactly when no
earlier token was longer and the names are plain. -/
theorem registered_credentials_stored (attempts : List Attempt) (attempt : Attempt)
    (before : List (List UInt8)) (last : List UInt8) (handled : List PublishInfo)
    (connected : (attempt.init && attempt.connect && attempt.subscribeRegister) = true)
    (created : (askedCertificate cbor deviceInfo (publishAttempts cbor deviceInfo attempts)
      attempt).1 = true)
    (sent : parsedPayloads (askedCertificate cbor deviceInfo
        (publishAttempts cbor deviceInfo attempts) attempt).2.globals.log = before ++ [last])
    (whole : Whole cbor last)
    (answer : AnsweredAlone cbor deviceInfo (askedCertificate cbor deviceInfo
      (publishAttempts cbor deviceInfo attempts) attempt).2.globals attempt handled) :
    let asked := (askedCertificate cbor deviceInfo (publishAttempts cbor deviceInfo attempts)
      attempt).2
    let result := publishProvisioning cbor deviceInfo (publishAttempts cbor deviceInfo attempts)
      attempt
    result.1 = true ∧
      (∃ since, result.2.globals.log = since ++ asked.globals.log ∧
        (∃ record, .saved record ∈ since) ∧
        ∀ record, .saved record ∈ since → Carries cbor last record) ∧
      ∃ request, result.2.published = request :: asked.published ∧
        ∀ (earlier : List (CreatedMessage cbor)) (latest : CreatedMessage cbor),
          before = earlier.map CreatedMessage.pPayload → last = latest.pPayload →
          (∀ message ∈ earlier ++ [latest], IsPlain message.token) →
          (readTokens request.payload = some (registrationTokens latest.token
              deviceInfo.thingName.text deviceInfo.location.text deviceInfo.manufacturer.text) ↔
            (∀ message ∈ earlier, message.token.length ≤ latest.token.length) ∧
              IsPlain deviceInfo.thingName.text ∧ IsPlain deviceInfo.location.text ∧
              IsPlain deviceInfo.manufacturer.text) := by
  intro asked result
  have kept : Kept cbor deviceInfo asked := by
    have before := attempts_kept cbor deviceInfo attempts
    exact create_kept cbor deviceInfo attempt _ ⟨before.replayed, before.buffer, before.sound⟩
  have arrays : (asked.globals.awsFpDeviceCertInfo, asked.globals.tempOwnershipToken) =
      buffersOf cbor (before ++ [last]) := by
    rw [← sent]
    exact kept.replayed
  have carries : Carries cbor last asked.globals.awsFpDeviceCertInfo := by
    have record := congrArg Prod.fst arrays
    rw [buffersOf, execute_append] at record
    rw [show asked.globals.awsFpDeviceCertInfo = _ from record]
    exact (parsing_whole cbor last _ _ whole).2
  have shape : result = publishRegisterThing cbor deviceInfo attempt asked := by
    rw [Bool.and_eq_true] at connected
    simp only [result, publishProvisioning, connected.1, if_true]
    exact if_pos created
  have subscribed : attempt.subscribeRegister = true := (Bool.and_eq_true_iff.mp connected).2
  obtain ⟨succeeds, since, log, stored, only⟩ :=
    answered_stored cbor deviceInfo asked.globals attempt handled answer
  rw [shape, publishRegisterThing, processRegisterThing]
  simp only [subscribed, if_true]
  refine ⟨succeeds, ⟨since, log, stored, fun record member => ?_⟩, _, rfl, ?_⟩
  · rw [only record member]
    exact carries
  · intro earlier latest beforeSame lastSame plain
    have held : before ++ [last] = (earlier ++ [latest]).map CreatedMessage.pPayload := by
      rw [beforeSame, lastSame, List.map_append, List.map_singleton]
    rw [held, buffersOf_messages] at arrays
    have published := registration_reads_latest cbor deviceInfo earlier latest plain
    rw [← arrays] at published
    exact published

end Registration

/-- The credentials of one message are registered and stored. -/
theorem short_credentials_stored :
    let result := publishProvisioning textMapCbor exampleDevice
      (publishAttempts textMapCbor exampleDevice []) exampleAttempt
    result.1 = true ∧
      (∃ record, .saved record ∈ result.2.globals.log ∧
        Carries textMapCbor shortTokenMessage.pPayload record) ∧
      ∃ request earlier, result.2.published = request :: earlier ∧
        readTokens request.payload = some (registrationTokens shortTokenMessage.token
          exampleDevice.thingName.text exampleDevice.location.text
          exampleDevice.manufacturer.text) := by
  have whole : Whole textMapCbor shortTokenMessage.pPayload := by
    refine ⟨by decide +kernel, ⟨ascii "id", ⟨_, ?_, rfl⟩, by decide +kernel⟩,
      ⟨ascii "certificate", ⟨_, ?_, rfl⟩, by decide +kernel⟩,
      ⟨ascii "key", ⟨_, ?_, rfl⟩, by decide +kernel⟩,
      ⟨_, shortTokenMessage.carries, shortTokenMessage.fits⟩⟩ <;> decide +kernel
  have answer : AnsweredAlone textMapCbor exampleDevice (askedCertificate textMapCbor exampleDevice
      (publishAttempts textMapCbor exampleDevice []) exampleAttempt).2.globals exampleAttempt
      [registeredMessage] := by
    refine ⟨by decide +kernel, ?_, by decide +kernel⟩
    have raised : (execute (fleetProvisioningEventCallback textMapCbor templateName)
        (askedCertificate textMapCbor exampleDevice (publishAttempts textMapCbor exampleDevice [])
          exampleAttempt).2.globals [registeredMessage]).recvedMqttRegisterThingAcceptMsg =
        true := by decide +kernel
    rw [show exampleAttempt.registerRounds = [[registeredMessage]] from rfl, answeredBy]
    exact if_pos raised
  obtain ⟨succeeds, ⟨since, log, ⟨record, member⟩, only⟩, request, published, reads⟩ :=
    registered_credentials_stored textMapCbor exampleDevice [] exampleAttempt []
      shortTokenMessage.pPayload [registeredMessage] rfl (by decide +kernel) (by decide +kernel)
      whole answer
  refine ⟨succeeds, ⟨record, ?_, only record member⟩, request, _, published, ?_⟩
  · rw [log]
    exact List.mem_append_left _ member
  · exact (reads [] shortTokenMessage rfl rfl (by decide +kernel)).mpr (by decide +kernel)

end WiznetEaas.ProvisioningRequests
