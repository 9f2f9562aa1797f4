import WiznetEaas.ByteMemory
import WiznetEaas.MqttMessages
import WiznetEaas.Polling

/-!
# Fleet provisioning

`fleet_provisioning_handle` with its callback and its parser. The CBOR library is a
parameter: it finds the value of a key in a map, and it copies a text string into a
buffer. The received credentials are the bytes of `AWS_FP_DEVICE_CERT_INFO_t`, kept in
the static record of the callback.

The events of a run are logged, the newest first: the messages handled, the verdicts of
the parser, the requests for a certificate and their results, and the records saved.
-/

namespace WiznetEaas.FleetProvisioning

open ByteMemory CStrings MqttMessages Runs Polling

/-- The results of the CBOR library the parser tells apart. -/
inductive CborError where
  | noError
  | outOfMemory
  | other (code : Nat)
  deriving DecidableEq

/-- The CBOR library. A payload may open as a map, and the search for a key ends in
an error or in a value. A copy returns its result and the bytes it left at the start
of the buffer. A text string that fits is copied whole, with a terminator if there is
room. What a copy does on a value that is no text string is not known. -/
structure TinyCbor (Value : Type) where
  isMap : List UInt8 → Bool
  mapFindValue : List UInt8 → List UInt8 → Option Value
  textString : Value → Option (List UInt8)
  copyTextString : Value → Nat → CborError × List UInt8
  copy_inside : ∀ value size, (copyTextString value size).2.length ≤ size
  copy_text : ∀ value text size, textString value = some text → text.length ≤ size →
    copyTextString value size =
      (.noError, text ++ if text.length < size then [0] else [])

@[simp] abbrev maxPemSize : Nat := 2048
@[simp] abbrev maxFpCertIdSize : Nat := 256
@[simp] abbrev maxFpCertOwnershipTokenSize : Nat := 512

/-- Offsets in `AWS_FP_DEVICE_CERT_INFO_t`. -/
@[simp] abbrev deviceProvisionedCertOffset : Nat := 0
@[simp] abbrev deviceProvisionedPrivateKeyOffset : Nat := 0x800
@[simp] abbrev deviceCertOwnershipTokenOffset : Nat := 0x1000
@[simp] abbrev deviceCertIdOffset : Nat := 0x1200
@[simp] abbrev sizeofAwsFpDeviceCertInfo : Nat := 0x1300

def fpApiCertificateIdKey : List UInt8 := ascii "certificateId"
def fpApiCertificatePemKey : List UInt8 := ascii "certificatePem"
def fpApiPrivateKeyKey : List UInt8 := ascii "privateKey"
def fpApiOwnershipTokenKey : List UInt8 := ascii "certificateOwnershipToken"

def createKeyAndCertAccepted : List UInt8 := ascii "$aws/certificates/create/cbor/accepted"
def createKeyAndCertRejected : List UInt8 := ascii "$aws/certificates/create/cbor/rejected"

def registerThingAccepted (awsTemplateName : List UInt8) : List UInt8 :=
  topicOf (ascii "$aws/provisioning-templates/") awsTemplateName (ascii "/provision/json/accepted")

def registerThingRejected (awsTemplateName : List UInt8) : List UInt8 :=
  topicOf (ascii "$aws/provisioning-templates/") awsTemplateName (ascii "/provision/json/rejected")

/-- What happened, as far as the stored credentials are concerned. -/
inductive Event where
  | handled (info : PublishInfo)
  | parsed (pPayload : List UInt8) (ret : Bool)
  | createPublished
  | createReturned (ret : Bool)
  | saved (certInfo : Pointer)

/-- The globals of the handler and the log. -/
structure State where
  awsFpDeviceCertInfo : Pointer
  tempOwnershipToken : Pointer
  recvedMqttCreateKeyAndCertAcceptMsg : Bool
  recvedMqttRegisterThingAcceptMsg : Bool
  log : List Event

/-- The globals before the first attempt. -/
def initial : State := ⟨fun _ => 0, fun _ => 0, false, false, []⟩

section Parser

variable {Value : Type} (cbor : TinyCbor Value)

/-- The parser's treatment of one key: only a failed search and a buffer that is too
small are failures. -/
def parseField (pPayload key : List UInt8) (offset size : Nat) (certInfo : Pointer) :
    Bool × Pointer :=
  match cbor.mapFindValue pPayload key with
  | none => (false, certInfo)
  | some value =>
    ((cbor.copyTextString value size).1 != .outOfMemory,
      storeBytes certInfo offset (cbor.copyTextString value size).2)

def parseCertificateId (pPayload : List UInt8) : Pointer → Bool × Pointer :=
  parseField cbor pPayload fpApiCertificateIdKey deviceCertIdOffset maxFpCertIdSize

def parseCertificatePem (pPayload : List UInt8) : Pointer → Bool × Pointer :=
  parseField cbor pPayload fpApiCertificatePemKey deviceProvisionedCertOffset maxPemSize

def parsePrivateKey (pPayload : List UInt8) : Pointer → Bool × Pointer :=
  parseField cbor pPayload fpApiPrivateKeyKey deviceProvisionedPrivateKeyOffset maxPemSize

def parseOwnershipToken (pPayload : List UInt8) : Pointer → Bool × Pointer :=
  parseField cbor pPayload fpApiOwnershipTokenKey deviceCertOwnershipTokenOffset
    maxFpCertOwnershipTokenSize

/-- The token as a string. A token that fills its array runs on into the id. -/
def ownershipToken (certInfo : Pointer) : List UInt8 :=
  cText ((List.range (sizeofAwsFpDeviceCertInfo - deviceCertOwnershipTokenOffset)).map
    fun position => certInfo (deviceCertOwnershipTokenOffset + position))

/-- `parsing_accept_certificate_create_msg`: the verdict, the record and the copy of
the token, which is written without a terminator. -/
def parsingAcceptCertificateCreateMsg (pPayload : List UInt8) (certInfo token : Pointer) :
    Bool × Pointer × Pointer :=
  if cbor.isMap pPayload then
    let id := parseCertificateId cbor pPayload certInfo
    if id.1 then
      let pem := parseCertificatePem cbor pPayload id.2
      if pem.1 then
        let key := parsePrivateKey cbor pPayload pem.2
        if key.1 then
          let owner := parseOwnershipToken cbor pPayload key.2
          if owner.1 then (true, owner.2, storeBytes token 0 (ownershipToken owner.2))
          else (false, owner.2, token)
        else (false, key.2, token)
      else (false, pem.2, token)
    else (false, id.2, token)
  else (false, certInfo, token)

end Parser

section Handler

variable {Value : Type} (cbor : TinyCbor Value) (awsTemplateName : List UInt8)

/-- `fleet_provisioning_event_callback` on a PUBLISH packet. The verdict of the parser
is not used. -/
def fleetProvisioningEventCallback (state : State) (info : PublishInfo) : State :=
  let state := { state with log := .handled info :: state.log }
  if info.topicEqual createKeyAndCertAccepted createKeyAndCertAccepted.length then
    let parsed := parsingAcceptCertificateCreateMsg cbor info.payload state.awsFpDeviceCertInfo
      state.tempOwnershipToken
    { state with
      awsFpDeviceCertInfo := parsed.2.1
      tempOwnershipToken := parsed.2.2
      recvedMqttCreateKeyAndCertAcceptMsg := true
      log := .parsed info.payload parsed.1 :: state.log }
  else if info.topicEqual createKeyAndCertRejected createKeyAndCertRejected.length then state
  else if info.topicEqual (registerThingAccepted awsTemplateName)
      (registerThingAccepted awsTemplateName).length then
    { state with
      recvedMqttRegisterThingAcceptMsg := true
      log := .saved state.awsFpDeviceCertInfo :: state.log }
  else state

/-- One attempt as the outside sees it: which calls of the MQTT client succeed, and
the messages that come in during the rounds of the two waits. -/
structure Attempt where
  init : Bool
  connect : Bool
  subscribeCreate : Bool
  createRounds : List (List PublishInfo)
  subscribeRegister : Bool
  registerRounds : List (List PublishInfo)

def waitRecvCreateCertAndKeyAcceptMsg (state : State) (rounds : List (List PublishInfo)) :
    Bool × State :=
  waitFlag (fleetProvisioningEventCallback cbor awsTemplateName)
    State.recvedMqttCreateKeyAndCertAcceptMsg
    (fun state => { state with recvedMqttCreateKeyAndCertAcceptMsg := false }) state rounds

def waitRegisterThingAcceptMsg (state : State) (rounds : List (List PublishInfo)) : Bool × State :=
  waitFlag (fleetProvisioningEventCallback cbor awsTemplateName)
    State.recvedMqttRegisterThingAcceptMsg
    (fun state => { state with recvedMqttRegisterThingAcceptMsg := false }) state rounds

/-- The result of `processCreateCertAndKey`, in the log. -/
def createReturned (result : Bool × State) : Bool × State :=
  (result.1, { result.2 with log := .createReturned result.1 :: result.2.log })

def processCreateCertAndKey (attempt : Attempt) (state : State) : Bool × State :=
  createReturned
    (if attempt.subscribeCreate then
      waitRecvCreateCertAndKeyAcceptMsg cbor awsTemplateName
        { state with log := .createPublished :: state.log } attempt.createRounds
    else (false, state))

def processRegisterThing (attempt : Attempt) (state : State) : Bool × State :=
  if attempt.subscribeRegister then
    waitRegisterThingAcceptMsg cbor awsTemplateName state attempt.registerRounds
  else (false, state)

def fleetProvisioningHandle (state : State) (attempt : Attempt) : Bool × State :=
  let state := { state with
    recvedMqttCreateKeyAndCertAcceptMsg := false
    recvedMqttRegisterThingAcceptMsg := false }
  if attempt.init && attempt.connect then
    let created := processCreateCertAndKey cbor awsTemplateName attempt state
    if created.1 then processRegisterThing cbor awsTemplateName attempt created.2
    else (false, created.2)
  else (false, state)

/-- The state after any number of attempts. -/
def provision (attempts : List Attempt) : State :=
  execute (fun state attempt => (fleetProvisioningHandle cbor awsTemplateName state attempt).2)
    initial attempts

end Handler

end WiznetEaas.FleetProvisioning
