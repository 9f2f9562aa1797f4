import WiznetEaas.FleetProvisioning

/-!
# Where the stored credentials come from

The callback keeps the credentials in one static record that the parser fills field by
field. It raises its flag and later saves the record whatever the parser found. So the
saved records are whole in those runs in which every create-accepted message carries
four text strings that fit, and a registration is accepted only after such a message.
-/

namespace WiznetEaas.ProvisionedRecord

open ByteMemory CStrings MqttMessages Runs Polling FleetProvisioning

/-- An array of the record holds a text, with a terminator if there is room. -/
structure TextAt (certInfo : Pointer) (offset size : Nat) (text : List UInt8) : Prop where
  fits : text.length ≤ size
  bytes : ∀ position, position < text.length →
    certInfo (offset + position) = text.getD position 0
  ended : text.length < size → certInfo (offset + text.length) = 0

variable {Value : Type} (cbor : TinyCbor Value) (awsTemplateName : List UInt8)

/-- A payload has a text string under a key. -/
def FieldText (pPayload key text : List UInt8) : Prop :=
  ∃ value, cbor.mapFindValue pPayload key = some value ∧ cbor.textString value = some text

/-- A record's four fields are those of a payload. -/
structure Carries (pPayload : List UInt8) (certInfo : Pointer) : Prop where
  certificateId : ∃ text, FieldText cbor pPayload fpApiCertificateIdKey text ∧
    TextAt certInfo deviceCertIdOffset maxFpCertIdSize text
  certificatePem : ∃ text, FieldText cbor pPayload fpApiCertificatePemKey text ∧
    TextAt certInfo deviceProvisionedCertOffset maxPemSize text
  privateKey : ∃ text, FieldText cbor pPayload fpApiPrivateKeyKey text ∧
    TextAt certInfo deviceProvisionedPrivateKeyOffset maxPemSize text
  ownershipToken : ∃ text, FieldText cbor pPayload fpApiOwnershipTokenKey text ∧
    TextAt certInfo deviceCertOwnershipTokenOffset maxFpCertOwnershipTokenSize text

/-- A payload is a map with four text strings that fit their arrays. The token leaves
room for the terminator its copy depends on. -/
structure Whole (pPayload : List UInt8) : Prop where
  isMap : cbor.isMap pPayload = true
  certificateId : ∃ text, FieldText cbor pPayload fpApiCertificateIdKey text ∧
    text.length ≤ maxFpCertIdSize
  certificatePem : ∃ text, FieldText cbor pPayload fpApiCertificatePemKey text ∧
    text.length ≤ maxPemSize
  privateKey : ∃ text, FieldText cbor pPayload fpApiPrivateKeyKey text ∧
    text.length ≤ maxPemSize
  ownershipToken : ∃ text, FieldText cbor pPayload fpApiOwnershipTokenKey text ∧
    text.length < maxFpCertOwnershipTokenSize

/-- A create-accepted message the parser accepted was handled since the last request. -/
def AcceptedSince : List Event → Prop
  | [] => False
  | .createPublished :: _ => False
  | .parsed _ true :: _ => True
  | _ :: earlier => AcceptedSince earlier

/-- A saved record carries one accepted message, and the request for a certificate
succeeds only if such a message answered it. -/
def EventSound : Event → List Event → Prop
  | .saved certInfo, earlier =>
    ∃ pPayload, .parsed pPayload true ∈ earlier ∧ Carries cbor pPayload certInfo
  | .createReturned true, earlier => AcceptedSince earlier
  | _, _ => True

/-- Every event of a log is sound in view of the earlier ones. -/
def Sound : List Event → Prop
  | [] => True
  | event :: earlier => EventSound cbor event earlier ∧ Sound earlier

/-- A create-accepted message has been handled. -/
def CreateAccepted (log : List Event) : Prop :=
  ∃ info, .handled info ∈ log ∧ info.topicName = createKeyAndCertAccepted

/-- The messages of the four subscribed topics. -/
def Known (info : PublishInfo) : Prop :=
  info.topicName = createKeyAndCertAccepted ∨ info.topicName = createKeyAndCertRejected ∨
    info.topicName = registerThingAccepted awsTemplateName ∨
    info.topicName = registerThingRejected awsTemplateName

/-- A handled message keeps the record whole: a create-accepted message is whole, and
a register-accepted message comes after a create-accepted one. -/
structure Orderly (info : PublishInfo) (earlier : List Event) : Prop where
  known : Known awsTemplateName info
  whole : info.topicName = createKeyAndCertAccepted → Whole cbor info.payload
  following : info.topicName = registerThingAccepted awsTemplateName → CreateAccepted earlier

/-- Every message handled in a log is orderly. -/
def AllOrderly : List Event → Prop
  | [] => True
  | .handled info :: earlier => Orderly cbor awsTemplateName info earlier ∧ AllOrderly earlier
  | _ :: earlier => AllOrderly earlier

/-- A text stored with its terminator is held by its array. -/
theorem textAt_stored (certInfo : Pointer) (offset size : Nat) (text : List UInt8)
    (fits : text.length ≤ size) :
    TextAt (storeBytes certInfo offset (text ++ if text.length < size then [0] else []))
      offset size text := by
  have stored (position : Nat)
      (inside : position < (text ++ if text.length < size then [0] else []).length) :=
    storeBytes_inside certInfo offset (text ++ if text.length < size then [0] else []) position
      inside
  constructor
  · exact fits
  · intro position inside
    have within : position < (text ++ if text.length < size then [0] else []).length :=
      Nat.lt_of_lt_of_le inside (by rw [List.length_append]; exact Nat.le_add_right _ _)
    rw [stored position within, List.getD_append _ _ _ _ inside]
  · intro room
    rw [if_pos room] at stored ⊢
    rw [stored text.length (by rw [List.length_append]; exact Nat.lt_succ_self _),
      List.getD_append_right _ _ _ _ (Nat.le_refl _), Nat.sub_self]
    rfl

/-- Storing into one array leaves the others as they are. -/
theorem textAt_frame (certInfo : Pointer) (offset size other otherSize : Nat)
    (text bytes : List UInt8) (held : TextAt certInfo offset size text)
    (small : bytes.length ≤ otherSize)
    (disjoint : offset + size ≤ other ∨ other + otherSize ≤ offset) :
    TextAt (storeBytes certInfo other bytes) offset size text := by
  have kept (position : Nat) (inside : position < size) :
      storeBytes certInfo other bytes (offset + position) = certInfo (offset + position) := by
    cases disjoint with
    | inl below =>
      exact storeBytes_below _ _ _ _
        (Nat.lt_of_lt_of_le (Nat.add_lt_add_left inside offset) below)
    | inr above =>
      exact storeBytes_above _ _ _ _ (Nat.le_trans (Nat.add_le_add_left small other)
        (Nat.le_trans above (Nat.le_add_right _ _)))
  constructor
  · exact held.fits
  · intro position inside
    rw [kept position (Nat.lt_of_lt_of_le inside held.fits)]
    exact held.bytes position inside
  · intro room
    rw [kept text.length room]
    exact held.ended room

/-- A field of a whole payload is copied with its terminator. -/
theorem parseField_whole (pPayload key : List UInt8) (offset size : Nat) (certInfo : Pointer)
    (text : List UInt8) (found : FieldText cbor pPayload key text) (fits : text.length ≤ size) :
    parseField cbor pPayload key offset size certInfo =
      (true, storeBytes certInfo offset (text ++ if text.length < size then [0] else [])) := by
  obtain ⟨value, located, string⟩ := found
  rw [parseField, located]
  simp only [cbor.copy_text value text size string fits]
  rfl

theorem terminated_length (text : List UInt8) (size : Nat) (fits : text.length ≤ size) :
    (text ++ if text.length < size then [0] else []).length ≤ size := by
  split
  next room =>
    rw [List.length_append]
    exact room
  next => rwa [List.append_nil]

/-- The parser accepts a whole payload, and the record then carries it. -/
theorem parsing_whole (pPayload : List UInt8) (certInfo token : Pointer)
    (whole : Whole cbor pPayload) :
    (parsingAcceptCertificateCreateMsg cbor pPayload certInfo token).1 = true ∧
      Carries cbor pPayload (parsingAcceptCertificateCreateMsg cbor pPayload certInfo token).2.1 := by
  obtain ⟨isMap, ⟨id, idFound, idFits⟩, ⟨pem, pemFound, pemFits⟩, ⟨key, keyFound, keyFits⟩,
    ⟨owner, ownerFound, ownerFits⟩⟩ := whole
  have ownerSmall : owner.length ≤ maxFpCertOwnershipTokenSize := Nat.le_of_lt ownerFits
  simp only [parsingAcceptCertificateCreateMsg, parseCertificateId, parseCertificatePem,
    parsePrivateKey, parseOwnershipToken, parseField_whole cbor _ _ _ _ _ _ idFound idFits,
    parseField_whole cbor _ _ _ _ _ _ pemFound pemFits,
    parseField_whole cbor _ _ _ _ _ _ keyFound keyFits,
    parseField_whole cbor _ _ _ _ _ _ ownerFound ownerSmall, isMap, if_true, true_and]
  constructor
  · refine ⟨id, idFound, ?_⟩
    apply textAt_frame _ _ _ _ maxFpCertOwnershipTokenSize _ _ _
      (terminated_length owner _ ownerSmall) (.inr (by decide))
    apply textAt_frame _ _ _ _ maxPemSize _ _ _ (terminated_length key _ keyFits)
      (.inr (by decide))
    apply textAt_frame _ _ _ _ maxPemSize _ _ _ (terminated_length pem _ pemFits)
      (.inr (by decide))
    exact textAt_stored _ _ _ id idFits
  · refine ⟨pem, pemFound, ?_⟩
    apply textAt_frame _ _ _ _ maxFpCertOwnershipTokenSize _ _ _
      (terminated_length owner _ ownerSmall) (.inl (by decide))
    apply textAt_frame _ _ _ _ maxPemSize _ _ _ (terminated_length key _ keyFits)
      (.inl (by decide))
    exact textAt_stored _ _ _ pem pemFits
  · refine ⟨key, keyFound, ?_⟩
    apply textAt_frame _ _ _ _ maxFpCertOwnershipTokenSize _ _ _
      (terminated_length owner _ ownerSmall) (.inl (by decide))
    exact textAt_stored _ _ _ key keyFits
  · exact ⟨owner, ownerFound, textAt_stored _ _ _ owner ownerSmall⟩

/-- The two create topics share all but their last word. -/
theorem create_topics_differ (behind : List UInt8) :
    strncmpEqual createKeyAndCertAccepted.length (createKeyAndCertRejected ++ behind)
      createKeyAndCertAccepted = false := by
  have accepted : createKeyAndCertAccepted =
      ascii "$aws/certificates/create/cbor/" ++ 97 :: ascii "ccepted" := by decide +kernel
  have rejected : createKeyAndCertRejected ++ behind =
      ascii "$aws/certificates/create/cbor/" ++ 114 :: (ascii "ejected" ++ behind) := by
    rw [show createKeyAndCertRejected =
      ascii "$aws/certificates/create/cbor/" ++ 114 :: ascii "ejected" from by decide +kernel,
      List.append_assoc, List.cons_append]
  rw [rejected, accepted]
  exact strncmpEqual_differs _ _ _ _ _ _ (by unfold IsText; decide +kernel) (by decide +kernel)
    (by decide)

/-- A register topic differs from a create topic in the word behind `$aws/`. -/
theorem register_topic_differs (createTopic rest behind name tail : List UInt8)
    (create : createTopic = ascii "$aws/" ++ 99 :: rest) :
    strncmpEqual createTopic.length
      (topicOf (ascii "$aws/provisioning-templates/") name tail ++ behind) createTopic = false := by
  have register : topicOf (ascii "$aws/provisioning-templates/") name tail ++ behind =
      ascii "$aws/" ++ 112 :: (ascii "rovisioning-templates/" ++ cText name ++ tail ++ behind) := by
    rw [topicOf, show ascii "$aws/provisioning-templates/" =
      ascii "$aws/" ++ 112 :: ascii "rovisioning-templates/" from by decide +kernel]
    simp only [List.append_assoc, List.cons_append]
  rw [register, create]
  refine strncmpEqual_differs _ _ _ _ _ _ (by unfold IsText; decide +kernel) ?_ (by decide)
  rw [List.length_append, List.length_cons]
  exact Nat.lt_add_of_pos_right (Nat.succ_pos _)

theorem accepted_head : createKeyAndCertAccepted =
    ascii "$aws/" ++ 99 :: ascii "ertificates/create/cbor/accepted" := by decide +kernel

theorem rejected_head : createKeyAndCertRejected =
    ascii "$aws/" ++ 99 :: ascii "ertificates/create/cbor/rejected" := by decide +kernel

theorem registerTopic_isText (name : List UInt8) : IsText (registerThingAccepted name) := by
  intro byte member
  have head : IsText (ascii "$aws/provisioning-templates/") := by unfold IsText; decide +kernel
  have tail : IsText (ascii "/provision/json/accepted") := by unfold IsText; decide +kernel
  rw [registerThingAccepted, topicOf, List.mem_append, List.mem_append] at member
  cases member with
  | inl front =>
    cases front with
    | inl first => exact head byte first
    | inr middle => exact cText_isText name byte middle
  | inr last => exact tail byte last

/-- The two register topics share all but their last word. -/
theorem register_topics_differ (name behind : List UInt8) :
    strncmpEqual (registerThingAccepted name).length (registerThingRejected name ++ behind)
      (registerThingAccepted name) = false := by
  have common : ∀ word, topicOf (ascii "$aws/provisioning-templates/") name
      (ascii "/provision/json/" ++ word) =
      topicOf (ascii "$aws/provisioning-templates/") name (ascii "/provision/json/") ++ word := by
    intro word
    rw [topicOf, topicOf, List.append_assoc _ _ word]
  have accepted : registerThingAccepted name =
      topicOf (ascii "$aws/provisioning-templates/") name (ascii "/provision/json/") ++
        97 :: ascii "ccepted" := by
    rw [← common, registerThingAccepted]
    exact congrArg _ (by decide +kernel)
  have rejected : registerThingRejected name ++ behind =
      topicOf (ascii "$aws/provisioning-templates/") name (ascii "/provision/json/") ++
        114 :: (ascii "ejected" ++ behind) := by
    rw [show registerThingRejected name =
        topicOf (ascii "$aws/provisioning-templates/") name (ascii "/provision/json/") ++
          114 :: ascii "ejected" from by
      rw [← common, registerThingRejected]
      exact congrArg _ (by decide +kernel), List.append_assoc, List.cons_append]
  have text := registerTopic_isText name
  rw [accepted] at text
  rw [rejected, accepted]
  refine strncmpEqual_differs _ _ _ _ _ _ ?_ ?_ (by decide)
  · intro byte member
    exact text byte (List.mem_append_left _ member)
  · rw [List.length_append, List.length_cons]
    exact Nat.lt_add_of_pos_right (Nat.succ_pos _)

/-- What the callback does with a create-accepted message. -/
theorem callback_created (state : FleetProvisioning.State) (info : PublishInfo)
    (topic : info.topicName = createKeyAndCertAccepted) :
    fleetProvisioningEventCallback cbor awsTemplateName state info =
      { state with
        awsFpDeviceCertInfo := (parsingAcceptCertificateCreateMsg cbor info.payload
          state.awsFpDeviceCertInfo state.tempOwnershipToken).2.1
        tempOwnershipToken := (parsingAcceptCertificateCreateMsg cbor info.payload
          state.awsFpDeviceCertInfo state.tempOwnershipToken).2.2
        recvedMqttCreateKeyAndCertAcceptMsg := true
        log := .parsed info.payload (parsingAcceptCertificateCreateMsg cbor info.payload
          state.awsFpDeviceCertInfo state.tempOwnershipToken).1 ::
            .handled info :: state.log } := by
  have matched : info.topicEqual createKeyAndCertAccepted createKeyAndCertAccepted.length =
      true := by
    rw [PublishInfo.topicEqual, topic]
    exact topicEqual_self _ _ (by unfold IsText; decide +kernel)
  simp only [fleetProvisioningEventCallback, matched, if_true]

/-- What it does with a register-accepted message. -/
theorem callback_registered (state : FleetProvisioning.State) (info : PublishInfo)
    (topic : info.topicName = registerThingAccepted awsTemplateName) :
    fleetProvisioningEventCallback cbor awsTemplateName state info =
      { state with
        recvedMqttRegisterThingAcceptMsg := true
        log := .saved state.awsFpDeviceCertInfo :: .handled info :: state.log } := by
  have first : info.topicEqual createKeyAndCertAccepted createKeyAndCertAccepted.length =
      false := by
    rw [PublishInfo.topicEqual, topic]
    exact register_topic_differs _ _ _ _ _ accepted_head
  have second : info.topicEqual createKeyAndCertRejected createKeyAndCertRejected.length =
      false := by
    rw [PublishInfo.topicEqual, topic]
    exact register_topic_differs _ _ _ _ _ rejected_head
  have matched : info.topicEqual (registerThingAccepted awsTemplateName)
      (registerThingAccepted awsTemplateName).length = true := by
    rw [PublishInfo.topicEqual, topic]
    exact topicEqual_self _ _ (registerTopic_isText awsTemplateName)
  simp only [fleetProvisioningEventCallback, first, second, matched, if_true, if_neg,
    Bool.false_eq_true, not_false_eq_true]

/-- It only logs the rejections. -/
theorem callback_rejected (state : FleetProvisioning.State) (info : PublishInfo)
    (topic : info.topicName = createKeyAndCertRejected ∨
      info.topicName = registerThingRejected awsTemplateName) :
    fleetProvisioningEventCallback cbor awsTemplateName state info =
      { state with log := .handled info :: state.log } := by
  cases topic with
  | inl create =>
    have first : info.topicEqual createKeyAndCertAccepted createKeyAndCertAccepted.length =
        false := by
      rw [PublishInfo.topicEqual, create]
      exact create_topics_differ info.behind
    have second : info.topicEqual createKeyAndCertRejected createKeyAndCertRejected.length =
        true := by
      rw [PublishInfo.topicEqual, create]
      exact topicEqual_self _ _ (by unfold IsText; decide +kernel)
    simp only [fleetProvisioningEventCallback, first, second, if_true, if_neg,
      Bool.false_eq_true, not_false_eq_true]
  | inr register =>
    have first : info.topicEqual createKeyAndCertAccepted createKeyAndCertAccepted.length =
        false := by
      rw [PublishInfo.topicEqual, register]
      exact register_topic_differs _ _ _ _ _ accepted_head
    have second : info.topicEqual createKeyAndCertRejected createKeyAndCertRejected.length =
        false := by
      rw [PublishInfo.topicEqual, register]
      exact register_topic_differs _ _ _ _ _ rejected_head
    have third : info.topicEqual (registerThingAccepted awsTemplateName)
        (registerThingAccepted awsTemplateName).length = false := by
      rw [PublishInfo.topicEqual, register]
      exact register_topics_differ awsTemplateName info.behind
    simp only [fleetProvisioningEventCallback, first, second, third, if_neg, Bool.false_eq_true,
      not_false_eq_true]

/-- Every callback logs its message. -/
theorem callback_orderly (state : FleetProvisioning.State) (info : PublishInfo)
    (orderly : AllOrderly cbor awsTemplateName
      (fleetProvisioningEventCallback cbor awsTemplateName state info).log) :
    Orderly cbor awsTemplateName info state.log ∧
      AllOrderly cbor awsTemplateName state.log := by
  rw [fleetProvisioningEventCallback] at orderly
  dsimp only at orderly
  split at orderly
  · exact orderly
  · split at orderly
    · exact orderly
    · split at orderly
      · exact orderly
      · exact orderly

/-- The log is sound, the record is that of an accepted message once one was handled,
and a raised flag was raised by an accepted message since the last request. -/
structure Provenance (state : FleetProvisioning.State) : Prop where
  sound : Sound cbor state.log
  current : CreateAccepted state.log → ∃ pPayload, .parsed pPayload true ∈ state.log ∧
    Carries cbor pPayload state.awsFpDeviceCertInfo
  flagged : state.recvedMqttCreateKeyAndCertAcceptMsg = true → AcceptedSince state.log

/-- The invariant of a run: what was handled in an orderly way leaves a provenance. -/
def Justified (state : FleetProvisioning.State) : Prop :=
  AllOrderly cbor awsTemplateName state.log → Provenance cbor state

theorem createAccepted_earlier (info : PublishInfo) (log : List Event)
    (other : info.topicName ≠ createKeyAndCertAccepted)
    (accepted : CreateAccepted (.handled info :: log)) : CreateAccepted log := by
  obtain ⟨found, member, topic⟩ := accepted
  cases member with
  | head => exact absurd topic other
  | tail _ earlier => exact ⟨found, earlier, topic⟩

/-- A rejection changes nothing but the log. -/
theorem rejected_provenance (state : FleetProvisioning.State) (info : PublishInfo)
    (before : Provenance cbor state) (other : info.topicName ≠ createKeyAndCertAccepted) :
    Provenance cbor { state with log := .handled info :: state.log } := by
  constructor
  · exact ⟨True.intro, before.sound⟩
  · intro accepted
    obtain ⟨pPayload, parsed, carries⟩ :=
      before.current (createAccepted_earlier info state.log other accepted)
    exact ⟨pPayload, List.mem_cons_of_mem _ parsed, carries⟩
  · exact before.flagged

theorem callback_justified (state : FleetProvisioning.State) (info : PublishInfo)
    (justified : Justified cbor awsTemplateName state) :
    Justified cbor awsTemplateName
      (fleetProvisioningEventCallback cbor awsTemplateName state info) := by
  intro orderly
  obtain ⟨known, whole, following⟩ := (callback_orderly cbor awsTemplateName state info orderly).1
  have before := justified (callback_orderly cbor awsTemplateName state info orderly).2
  have first : createKeyAndCertRejected ≠ createKeyAndCertAccepted := by decide +kernel
  have register (tail : List UInt8) : topicOf (ascii "$aws/provisioning-templates/")
      awsTemplateName tail ≠ createKeyAndCertAccepted := by
    intro same
    have differs := register_topic_differs createKeyAndCertAccepted _ [] awsTemplateName tail
      accepted_head
    rw [same, topicEqual_self _ _ (by unfold IsText; decide +kernel)] at differs
    cases differs
  rcases known with created | rejected | registered | refused
  · obtain ⟨accepts, carries⟩ := parsing_whole cbor info.payload state.awsFpDeviceCertInfo
      state.tempOwnershipToken (whole created)
    rw [callback_created cbor awsTemplateName state info created, accepts]
    constructor
    · exact ⟨True.intro, True.intro, before.sound⟩
    · intro _
      exact ⟨info.payload, List.mem_cons_self, carries⟩
    · intro _
      exact True.intro
  · rw [callback_rejected cbor awsTemplateName state info (.inl rejected)]
    exact rejected_provenance cbor state info before (by rw [rejected]; exact first)
  · obtain ⟨pPayload, parsed, carries⟩ := before.current (following registered)
    have kept := rejected_provenance cbor state info before (by rw [registered]; exact register _)
    rw [callback_registered cbor awsTemplateName state info registered]
    constructor
    · exact ⟨⟨pPayload, List.mem_cons_of_mem _ parsed, carries⟩, kept.sound⟩
    · intro _
      exact ⟨pPayload, List.mem_cons_of_mem _ (List.mem_cons_of_mem _ parsed), carries⟩
    · exact kept.flagged
  · rw [callback_rejected cbor awsTemplateName state info (.inr refused)]
    exact rejected_provenance cbor state info before (by rw [refused]; exact register _)

/-- Messages are handled one after the other. -/
theorem messages_justified (state : FleetProvisioning.State) (messages : List PublishInfo)
    (justified : Justified cbor awsTemplateName state) :
    Justified cbor awsTemplateName
      (execute (fleetProvisioningEventCallback cbor awsTemplateName) state messages) :=
  execute_invariant _ _ (fun _ _ => True)
    (fun state info before _ => callback_justified cbor awsTemplateName state info before)
    state messages justified (along_true _ state messages)

/-- Flags may be lowered. -/
theorem lowered_justified (state : FleetProvisioning.State) (create register : Bool)
    (lower : create = true → state.recvedMqttCreateKeyAndCertAcceptMsg = true)
    (justified : Justified cbor awsTemplateName state) :
    Justified cbor awsTemplateName { state with
      recvedMqttCreateKeyAndCertAcceptMsg := create
      recvedMqttRegisterThingAcceptMsg := register } := by
  intro orderly
  have before := justified orderly
  exact ⟨before.sound, before.current, fun up => before.flagged (lower up)⟩

/-- A request is published with the flag down. -/
theorem published_justified (state : FleetProvisioning.State)
    (down : state.recvedMqttCreateKeyAndCertAcceptMsg = false)
    (justified : Justified cbor awsTemplateName state) :
    Justified cbor awsTemplateName { state with log := .createPublished :: state.log } := by
  intro orderly
  have before := justified orderly
  constructor
  · exact ⟨True.intro, before.sound⟩
  · rintro ⟨info, member, topic⟩
    cases member with
    | tail _ earlier =>
      obtain ⟨pPayload, parsed, carries⟩ := before.current ⟨info, earlier, topic⟩
      exact ⟨pPayload, List.mem_cons_of_mem _ parsed, carries⟩
  · intro up
    rw [down] at up
    cases up

/-- A success is returned only with an accepted message since the request. -/
theorem returned_justified (result : Bool × FleetProvisioning.State)
    (answered : AllOrderly cbor awsTemplateName result.2.log → result.1 = true →
      AcceptedSince result.2.log)
    (justified : Justified cbor awsTemplateName result.2) :
    Justified cbor awsTemplateName (createReturned result).2 := by
  obtain ⟨ret, state⟩ := result
  intro orderly
  have before := justified orderly
  constructor
  · refine ⟨?_, before.sound⟩
    cases ret with
    | true => exact answered orderly rfl
    | false => exact True.intro
  · rintro ⟨info, member, topic⟩
    cases member with
    | tail _ earlier =>
      obtain ⟨pPayload, parsed, carries⟩ := before.current ⟨info, earlier, topic⟩
      exact ⟨pPayload, List.mem_cons_of_mem _ parsed, carries⟩
  · exact before.flagged

/-- The wait for the certificate ends well only on a message that raised the flag. -/
theorem waitCreate_justified (state : FleetProvisioning.State) (rounds : List (List PublishInfo))
    (justified : Justified cbor awsTemplateName state) :
    let result := waitRecvCreateCertAndKeyAcceptMsg cbor awsTemplateName state rounds
    Justified cbor awsTemplateName result.2 ∧
      (AllOrderly cbor awsTemplateName result.2.log → result.1 = true →
        AcceptedSince result.2.log) := by
  intro result
  have ended := waitFlag_answered (fleetProvisioningEventCallback cbor awsTemplateName)
    FleetProvisioning.State.recvedMqttCreateKeyAndCertAcceptMsg
    (fun state => { state with recvedMqttCreateKeyAndCertAcceptMsg := false }) state rounds
  split at ended
  next messages _ =>
    have handled := messages_justified cbor awsTemplateName state messages justified
    have shape : result = _ := ended.2
    rw [shape]
    refine ⟨lowered_justified cbor awsTemplateName _ false _ (by rintro ⟨⟩) handled, ?_⟩
    intro orderly _
    exact (handled orderly).flagged ended.1
  next =>
    have shape : result = _ := ended
    rw [shape]
    refine ⟨messages_justified cbor awsTemplateName state rounds.flatten justified, ?_⟩
    rintro _ ⟨⟩

theorem waitRegister_justified (state : FleetProvisioning.State)
    (rounds : List (List PublishInfo)) (justified : Justified cbor awsTemplateName state) :
    Justified cbor awsTemplateName
      (waitRegisterThingAcceptMsg cbor awsTemplateName state rounds).2 := by
  apply waitFlag_invariant
  · exact callback_justified cbor awsTemplateName
  · intro state before
    exact lowered_justified cbor awsTemplateName state _ false id before
  · exact justified

/-- An attempt starts with both flags down, so an old message answers no request. -/
theorem attempt_justified (state : FleetProvisioning.State) (attempt : Attempt)
    (justified : Justified cbor awsTemplateName state) :
    Justified cbor awsTemplateName
      (fleetProvisioningHandle cbor awsTemplateName state attempt).2 := by
  have lowered := lowered_justified cbor awsTemplateName state false false
    (by rintro ⟨⟩) justified
  have created : Justified cbor awsTemplateName (processCreateCertAndKey cbor awsTemplateName
      attempt { state with
        recvedMqttCreateKeyAndCertAcceptMsg := false
        recvedMqttRegisterThingAcceptMsg := false }).2 := by
    simp only [processCreateCertAndKey]
    split
    · have waited := waitCreate_justified cbor awsTemplateName _ attempt.createRounds
        (published_justified cbor awsTemplateName _ rfl lowered)
      exact returned_justified cbor awsTemplateName _ waited.2 waited.1
    · exact returned_justified cbor awsTemplateName _ (by rintro _ ⟨⟩) lowered
  rw [fleetProvisioningHandle]
  dsimp only
  split
  · split
    · simp only [processRegisterThing]
      split
      · exact waitRegister_justified cbor awsTemplateName _ attempt.registerRounds created
      · exact created
    · exact created
  · exact lowered

/-- In every run whose messages are orderly, each saved record carries one accepted
message, and each successful request was answered by one. -/
theorem saved_records_whole (attempts : List Attempt)
    (orderly : AllOrderly cbor awsTemplateName (provision cbor awsTemplateName attempts).log) :
    Sound cbor (provision cbor awsTemplateName attempts).log := by
  have start : Justified cbor awsTemplateName initial := by
    intro _
    constructor
    · exact True.intro
    · rintro ⟨info, member, _⟩
      cases member
    · rintro ⟨⟩
  have run := execute_invariant
    (fun state attempt => (fleetProvisioningHandle cbor awsTemplateName state attempt).2)
    (Justified cbor awsTemplateName) (fun _ _ => True)
    (fun state attempt before _ => attempt_justified cbor awsTemplateName state attempt before)
    initial attempts start (along_true _ initial attempts)
  exact (run orderly).sound

/-- The log of one attempt with one message in each wait. -/
theorem exchange_log (created registered : PublishInfo)
    (createTopic : created.topicName = createKeyAndCertAccepted)
    (registerTopic : registered.topicName = registerThingAccepted awsTemplateName) :
    let parsed := parsingAcceptCertificateCreateMsg cbor created.payload (fun _ => 0) (fun _ => 0)
    (provision cbor awsTemplateName [⟨true, true, true, [[created]], true, [[registered]]⟩]).log =
      [.saved parsed.2.1, .handled registered, .createReturned true,
        .parsed created.payload parsed.1, .handled created, .createPublished] := by
  simp only [provision, execute, fleetProvisioningHandle, processCreateCertAndKey,
    processRegisterThing, waitRecvCreateCertAndKeyAcceptMsg, waitRegisterThingAcceptMsg, waitFlag,
    callback_created cbor awsTemplateName _ created createTopic,
    callback_registered cbor awsTemplateName _ registered registerTopic, createReturned, initial,
    Bool.and_self, if_true]

/-- A text string in CBOR, of less than 65536 bytes. -/
def cborText (text : List UInt8) : List UInt8 :=
  if text.length < 24 then UInt8.ofNat (0x60 + text.length) :: text
  else if text.length < 256 then 0x78 :: UInt8.ofNat text.length :: text
  else 0x79 :: UInt8.ofNat (text.length / 256) :: UInt8.ofNat text.length :: text

/-- The text string at the front of the bytes, and what follows. -/
def readText : List UInt8 → Option (List UInt8 × List UInt8)
  | 0x78 :: length :: rest =>
    if length.toNat ≤ rest.length then some (rest.splitAt length.toNat) else none
  | 0x79 :: high :: low :: rest =>
    if high.toNat * 256 + low.toNat ≤ rest.length then
      some (rest.splitAt (high.toNat * 256 + low.toNat))
    else none
  | head :: rest =>
    if 0x60 ≤ head ∧ head < 0x78 ∧ head.toNat - 0x60 ≤ rest.length then
      some (rest.splitAt (head.toNat - 0x60))
    else none
  | [] => none

/-- The pairs of a map of text strings. -/
def readPairs : Nat → List UInt8 → Option (List (List UInt8 × List UInt8))
  | 0, _ => some []
  | count + 1, bytes => do
    let (key, afterKey) ← readText bytes
    let (value, afterValue) ← readText afterKey
    let pairs ← readPairs count afterValue
    some ((key, value) :: pairs)

/-- The CBOR library on maps of text strings. A missing key has the invalid value. -/
def textMapCbor : TinyCbor (Option (List UInt8)) where
  isMap bytes := match bytes with
    | head :: _ => decide (0xA0 ≤ head ∧ head < 0xB8)
    | [] => false
  mapFindValue bytes key := do
    let pairs ← readPairs ((bytes.headD 0xA0).toNat - 0xA0) (bytes.drop 1)
    some (pairs.lookup key)
  textString value := value
  copyTextString value size := match value with
    | some text =>
      if text.length ≤ size then (.noError, text ++ if text.length < size then [0] else [])
      else (.outOfMemory, [])
    | none => (.other 0, [])
  copy_inside := by
    intro value size
    cases value with
    | none => exact Nat.zero_le _
    | some text =>
      dsimp only
      split
      next fits => exact terminated_length text size fits
      next => exact Nat.zero_le _
  copy_text := by
    intro value text size string fits
    subst string
    simp only [if_pos fits]

/-- A payload with the four fields. -/
def credentials (id pem key owner : List UInt8) : List UInt8 :=
  0xA4 :: (cborText fpApiCertificateIdKey ++ cborText id ++
    cborText fpApiCertificatePemKey ++ cborText pem ++
    cborText fpApiPrivateKeyKey ++ cborText key ++
    cborText fpApiOwnershipTokenKey ++ cborText owner)

def templateName : List UInt8 := ascii "wiznet-service-template"

def createdMessage : PublishInfo where
  topicName := createKeyAndCertAccepted
  behind := []
  payload := credentials (ascii "id") (ascii "certificate") (ascii "key") (ascii "token")
  inBuffer := by decide +kernel

def registeredMessage : PublishInfo where
  topicName := registerThingAccepted templateName
  behind := []
  payload := []
  inBuffer := by decide +kernel

/-- A certificate one byte longer than its array. -/
def oversizedMessage : PublishInfo where
  topicName := createKeyAndCertAccepted
  behind := []
  payload := credentials (ascii "id") (List.replicate 2049 120) (ascii "key") (ascii "token")
  inBuffer := by decide +kernel

theorem createdMessage_whole : Whole textMapCbor createdMessage.payload where
  isMap := by decide +kernel
  certificateId := ⟨ascii "id", ⟨some (ascii "id"), by decide +kernel, rfl⟩, by decide +kernel⟩
  certificatePem := ⟨ascii "certificate", ⟨some (ascii "certificate"), by decide +kernel, rfl⟩,
    by decide +kernel⟩
  privateKey := ⟨ascii "key", ⟨some (ascii "key"), by decide +kernel, rfl⟩, by decide +kernel⟩
  ownershipToken := ⟨ascii "token", ⟨some (ascii "token"), by decide +kernel, rfl⟩,
    by decide +kernel⟩

/-- A certificate is created and registered, and the saved record carries it. -/
theorem whole_credentials_saved :
    Sound textMapCbor (provision textMapCbor templateName
      [⟨true, true, true, [[createdMessage]], true, [[registeredMessage]]⟩]).log := by
  apply saved_records_whole
  rw [exchange_log textMapCbor templateName createdMessage registeredMessage rfl rfl]
  have created : Orderly textMapCbor templateName createdMessage [.createPublished] :=
    ⟨.inl rfl, fun _ => createdMessage_whole,
      fun other => absurd other (by decide +kernel)⟩
  refine ⟨⟨.inr (.inr (.inl rfl)), fun other => absurd other (by decide +kernel), fun _ => ?_⟩,
    created, True.intro⟩
  exact ⟨createdMessage, List.mem_cons_of_mem _ (List.mem_cons_of_mem _ List.mem_cons_self), rfl⟩

/-- The parser refuses the oversized certificate, but the request for it succeeds, and
the record with the new id and no certificate is saved. -/
theorem refused_credentials_saved :
    Known templateName oversizedMessage ∧ Known templateName registeredMessage ∧
      ¬ Sound textMapCbor (provision textMapCbor templateName
        [⟨true, true, true, [[oversizedMessage]], true, [[registeredMessage]]⟩]).log := by
  refine ⟨.inl rfl, .inr (.inr (.inl rfl)), ?_⟩
  have refused : (parsingAcceptCertificateCreateMsg textMapCbor oversizedMessage.payload
      (fun _ => 0) (fun _ => 0)).1 = false := by decide +kernel
  rw [exchange_log textMapCbor templateName oversizedMessage registeredMessage rfl rfl, refused]
  rintro ⟨⟨pPayload, accepted, _⟩, _⟩
  simp at accepted

end WiznetEaas.ProvisionedRecord
