import WiznetEaas.JobProcedures

/-!
# Which branch of the callback takes a message

The branches compare as many bytes as the received name has, so they take every
beginning of their topic. On the topics of the session the first two are exact. The
third takes the update topic of the current id, but may take others if the id itself
looks like the tail of a topic.
-/

namespace WiznetEaas.JobDispatch

open NorFlash ByteMemory CStrings FlashControl DeviceCommon HttpInterface JobDocument JobList
  MqttMessages JobMessages JobProcedures Runs Polling

variable (json : Json) (thingName : List UInt8)

theorem jobsTopic_isText (tail : List UInt8) (text : IsText tail) :
    IsText (jobsTopic thingName tail) := by
  have head : IsText (ascii "$aws/things/") := by unfold IsText; decide +kernel
  intro byte member
  rw [jobsTopic, topicOf, List.mem_append, List.mem_append] at member
  cases member with
  | inl front =>
    cases front with
    | inl first => exact head byte first
    | inr middle => exact cText_isText thingName byte middle
  | inr last => exact text byte last

/-- The tail of an update topic. -/
theorem updateTail_isText (jobId tail : List UInt8) (text : IsText tail) :
    IsText (topicOf (ascii "/jobs/") jobId tail) := by
  have head : IsText (ascii "/jobs/") := by unfold IsText; decide +kernel
  intro byte member
  rw [topicOf, List.mem_append, List.mem_append] at member
  cases member with
  | inl front =>
    cases front with
    | inl first => exact head byte first
    | inr middle => exact cText_isText jobId byte middle
  | inr last => exact text byte last

theorem topicName_isText (topic : JobTopic) : IsText (topic.name thingName) := by
  cases topic with
  | getAccepted => exact jobsTopic_isText thingName _ (by unfold IsText; decide +kernel)
  | startNextAccepted => exact jobsTopic_isText thingName _ (by unfold IsText; decide +kernel)
  | updateAccepted jobId =>
    have tail : IsText (ascii "/update/accepted") := by unfold IsText; decide +kernel
    exact jobsTopic_isText thingName _ (updateTail_isText jobId _ tail)
  | getRejected => exact jobsTopic_isText thingName _ (by unfold IsText; decide +kernel)
  | startNextRejected => exact jobsTopic_isText thingName _ (by unfold IsText; decide +kernel)
  | updateRejected jobId =>
    have tail : IsText (ascii "/update/rejected") := by unfold IsText; decide +kernel
    exact jobsTopic_isText thingName _ (updateTail_isText jobId _ tail)

/-- A branch takes the beginnings of its topic. -/
theorem taken_iff (message : Incoming thingName) (tail : List UInt8) :
    message.topicEqual (jobsTopic thingName tail) message.topicName.length = true ↔
      message.topicName <+: jobsTopic thingName tail :=
  topicEqual_own message.toPublishInfo _ (message.named ▸ topicName_isText thingName message.topic)

theorem jobsTopic_prefix (left right : List UInt8) :
    jobsTopic thingName left <+: jobsTopic thingName right ↔ left <+: right :=
  List.prefix_append_right_inj _

/-- No update topic begins the topic of the pending jobs: it is longer. -/
theorem update_get_apart (jobId outcome : List UInt8) (size : outcome.length = 8) :
    ¬ topicOf (ascii "/jobs/") jobId (ascii "/update/" ++ outcome) <+:
      ascii "/jobs/get/accepted" := by
  intro early
  have short := early.length_le
  have head : (ascii "/jobs/").length = 6 := by decide +kernel
  have tail : (ascii "/update/").length = 8 := by decide +kernel
  have whole : (ascii "/jobs/get/accepted").length = 18 := by decide +kernel
  rw [topicOf, List.length_append, List.length_append, List.length_append, head, tail, size,
    whole] at short
  omega

/-- Nor that of the next job: the slash behind the id would fall into its first word. -/
theorem update_startNext_apart (jobId outcome : List UInt8) (size : outcome.length = 8) :
    ¬ topicOf (ascii "/jobs/") jobId (ascii "/update/" ++ outcome) <+:
      ascii "/jobs/start-next/accepted" := by
  intro early
  have short := early.length_le
  have head : (ascii "/jobs/").length = 6 := by decide +kernel
  have tail : (ascii "/update/").length = 8 := by decide +kernel
  have whole : (ascii "/jobs/start-next/accepted").length = 25 := by decide +kernel
  rw [topicOf, List.length_append, List.length_append, List.length_append, head, tail, size,
    whole] at short
  rw [topicOf, List.append_assoc, show ascii "/jobs/start-next/accepted" =
    ascii "/jobs/" ++ ascii "start-next/accepted" from by decide +kernel,
    List.prefix_append_right_inj] at early
  have slash : (ascii "start-next/accepted")[(cText jobId).length]? = some 47 := by
    obtain ⟨rest, whole⟩ := early
    rw [← whole, List.append_assoc, List.getElem?_append_right (Nat.le_refl _), Nat.sub_self,
      show ascii "/update/" = 47 :: ascii "update/" from by decide +kernel]
    rfl
  have bound : (cText jobId).length < 4 := by omega
  generalize (cText jobId).length = count at slash bound
  revert slash
  revert bound
  revert count
  decide +kernel

theorem updateAccepted_tail :
    ascii "/update/accepted" = ascii "/update/" ++ ascii "accepted" := by decide +kernel

theorem updateRejected_tail :
    ascii "/update/rejected" = ascii "/update/" ++ ascii "rejected" := by decide +kernel

/-- The first branch takes just the accepted requests for the pending jobs. -/
theorem taken_getAccepted (message : Incoming thingName) :
    message.topicEqual (jobsGetAccepted thingName) message.topicName.length = true ↔
      message.topic = .getAccepted := by
  rw [jobsGetAccepted, taken_iff, message.named]
  constructor
  · intro early
    cases topic : message.topic with
    | getAccepted => rfl
    | startNextAccepted =>
      rw [topic, JobTopic.name, jobsStartNextAccepted, jobsTopic_prefix] at early
      exact absurd early (by decide +kernel)
    | updateAccepted jobId =>
      rw [topic, JobTopic.name, jobsUpdateAccepted, jobsTopic_prefix, updateAccepted_tail] at early
      exact absurd early (update_get_apart jobId _ (by decide +kernel))
    | getRejected =>
      rw [topic, JobTopic.name, jobsTopic_prefix] at early
      exact absurd early (by decide +kernel)
    | startNextRejected =>
      rw [topic, JobTopic.name, jobsTopic_prefix] at early
      exact absurd early (by decide +kernel)
    | updateRejected jobId =>
      rw [topic, JobTopic.name, jobsTopic_prefix, updateRejected_tail] at early
      exact absurd early (update_get_apart jobId _ (by decide +kernel))
  · intro topic
    rw [topic]
    exact List.prefix_rfl

/-- The second takes just the accepted requests for the next job. -/
theorem taken_startNextAccepted (message : Incoming thingName) :
    message.topicEqual (jobsStartNextAccepted thingName) message.topicName.length = true ↔
      message.topic = .startNextAccepted := by
  rw [jobsStartNextAccepted, taken_iff, message.named]
  constructor
  · intro early
    cases topic : message.topic with
    | getAccepted =>
      rw [topic, JobTopic.name, jobsGetAccepted, jobsTopic_prefix] at early
      exact absurd early (by decide +kernel)
    | startNextAccepted => rfl
    | updateAccepted jobId =>
      rw [topic, JobTopic.name, jobsUpdateAccepted, jobsTopic_prefix, updateAccepted_tail] at early
      exact absurd early (update_startNext_apart jobId _ (by decide +kernel))
    | getRejected =>
      rw [topic, JobTopic.name, jobsTopic_prefix] at early
      exact absurd early (by decide +kernel)
    | startNextRejected =>
      rw [topic, JobTopic.name, jobsTopic_prefix] at early
      exact absurd early (by decide +kernel)
    | updateRejected jobId =>
      rw [topic, JobTopic.name, jobsTopic_prefix, updateRejected_tail] at early
      exact absurd early (update_startNext_apart jobId _ (by decide +kernel))
  · intro topic
    rw [topic]
    exact List.prefix_rfl

/-- Whether an id fills its buffer. -/
def getOverruns (pPayload : List UInt8) : Bool :=
  (parsingGetJobAccepted json pPayload).any fun jobId => decide (maxAwsJobIdSize ≤ jobId.length)

/-- Whether a message overruns a buffer. -/
def overruns (message : Incoming thingName) : Bool :=
  match message.topic with
  | .getAccepted => getOverruns json message.payload
  | .startNextAccepted => startNextOverruns json message.payload
  | _ => false

/-- The job a message hands out. -/
def handedOut (message : Incoming thingName) : Option StartNextJob :=
  match message.topic with
  | .startNextAccepted => parsingStartNextJobAccepted json message.payload []
  | _ => none

/-- The record after a message: a job is taken over unless one is running. -/
def recordAfter (message : Incoming thingName) (param : ExecutionParam) : ExecutionParam :=
  if param.isJobStarted then param
  else ((handedOut json thingName message).map param.takeOver).getD param

/-- The current id after a message. -/
def idAfter (state : JobsState) (message : Incoming thingName) : List UInt8 :=
  { state with executionParam :=
      recordAfter json thingName message state.executionParam }.jobIdForEventCallback

/-- What the callback does with a message. The flags of the first two branches are
exact. The third flag is raised by a beginning of the update topic of the current id,
and by that topic itself. An occupied head of the list stays. -/
structure Handled (before : JobsState) (message : Incoming thingName) (after : JobsState) :
    Prop where
  executionParam : after.executionParam = recordAfter json thingName message before.executionParam
  getFlag : after.recvedMqttGetJobAcceptMsg = true ↔
    before.recvedMqttGetJobAcceptMsg = true ∨ message.topic = .getAccepted
  startNextFlag : after.recvedMqttStartNextJobAcceptMsg = true ↔
    before.recvedMqttStartNextJobAcceptMsg = true ∨ message.topic = .startNextAccepted
  updateFlag : after.recvedMqttJobUpdateAcceptMsg = true →
    before.recvedMqttJobUpdateAcceptMsg = true ∨
      message.topicName <+: jobsUpdateAccepted thingName (idAfter json thingName before message)
  isJobIdSet : after.isJobIdSetForEventCallback = before.isJobIdSetForEventCallback
  appCommon : after.appCommon = before.appCommon
  flash : after.flash = before.flash
  overrun : after.overrun = (before.overrun || overruns json thingName message)
  sincePublish : after.sincePublish = message.toPublishInfo :: before.sincePublish
  queue : (queued before.awsJobIdList).Sublist (queued after.awsJobIdList)
  head : first before.awsJobIdList ≠ [] →
    first after.awsJobIdList = first before.awsJobIdList
  count : (queued after.awsJobIdList).count (first before.awsJobIdList) =
    (queued before.awsJobIdList).count (first before.awsJobIdList)

/-- The third branch raises its flag or does nothing. -/
theorem updateBranch_handled (before middle : JobsState) (message : Incoming thingName)
    (current : middle.jobIdForEventCallback = idAfter json thingName before message)
    (handled : Handled json thingName before message middle) :
    Handled json thingName before message
      (updateAcceptedBranch thingName message.toPublishInfo middle) := by
  simp only [updateAcceptedBranch]
  split
  next taken =>
    refine { handled with updateFlag := ?_ }
    intro _
    right
    rw [jobsUpdateAccepted, taken_iff, ← jobsUpdateAccepted, current] at taken
    exact taken
  next => exact handled

/-- The first branch on an accepted request for the pending jobs. -/
theorem getBranch_handled (state : JobsState) (message : Incoming thingName)
    (topic : message.topic = .getAccepted) :
    Handled json thingName state message (getAcceptedBranch json thingName message.toPublishInfo
      { state with sincePublish := message.toPublishInfo :: state.sincePublish }).2.2 := by
  have taken := (taken_getAccepted thingName message).mpr topic
  have same : recordAfter json thingName message state.executionParam = state.executionParam := by
    simp [recordAfter, handedOut, topic]
  have flagged : true = true ↔ state.recvedMqttGetJobAcceptMsg = true ∨
      message.topic = .getAccepted := ⟨fun _ => .inr topic, fun _ => rfl⟩
  have calm : state.recvedMqttStartNextJobAcceptMsg = true ↔
      state.recvedMqttStartNextJobAcceptMsg = true ∨ message.topic = .startNextAccepted := by
    simp [topic]
  rw [getAcceptedBranch, if_pos taken]
  dsimp only
  cases parsed : parsingGetJobAccepted json message.payload with
  | none =>
    have fits : overruns json thingName message = false := by
      simp [overruns, topic, getOverruns, parsed]
    exact ⟨same.symm, flagged, calm, .inl, rfl, rfl, rfl, by rw [fits, Bool.or_false], rfl,
      List.Sublist.refl _, fun _ => rfl, rfl⟩
  | some jobId =>
    have recorded : (state.overrun || decide (maxAwsJobIdSize ≤ jobId.length)) =
        (state.overrun || overruns json thingName message) := by
      simp [overruns, topic, getOverruns, parsed]
    dsimp only
    split
    next => exact ⟨same.symm, flagged, calm, .inl, rfl, rfl, rfl, recorded, rfl,
        List.Sublist.refl _, fun _ => rfl, rfl⟩
    next absent =>
      have other : jobId ≠ first state.awsJobIdList := by
        rintro rfl
        exact absent (isExistJobId_first state.awsJobIdList)
      cases added : addJobId state.awsJobIdList jobId with
      | none => exact ⟨same.symm, flagged, calm, .inl, rfl, rfl, rfl, recorded, rfl,
          List.Sublist.refl _, fun _ => rfl, rfl⟩
      | some list => exact ⟨same.symm, flagged, calm, .inl, rfl, rfl, rfl, recorded, rfl,
          addJobId_queued _ _ _ added, fun occupied => addJobId_first _ _ _ occupied added,
          addJobId_count _ _ _ _ other added⟩

/-- The second branch on an accepted request for the next job. -/
theorem startNextBranch_handled (state : JobsState) (message : Incoming thingName)
    (topic : message.topic = .startNextAccepted) :
    Handled json thingName state message
      (startNextAcceptedBranch json thingName message.toPublishInfo []
        { state with sincePublish := message.toPublishInfo :: state.sincePublish }) := by
  have taken := (taken_startNextAccepted thingName message).mpr topic
  have calm : state.recvedMqttGetJobAcceptMsg = true ↔
      state.recvedMqttGetJobAcceptMsg = true ∨ message.topic = .getAccepted := by
    simp [topic]
  have flagged : true = true ↔ state.recvedMqttStartNextJobAcceptMsg = true ∨
      message.topic = .startNextAccepted := ⟨fun _ => .inr topic, fun _ => rfl⟩
  rw [startNextAcceptedBranch, if_pos taken]
  dsimp only
  cases parsed : parsingStartNextJobAccepted json message.payload [] with
  | none =>
    have fits : overruns json thingName message = false := by
      simp only [parsingStartNextJobAccepted] at parsed
      split at parsed
      · cases parsed
      next invalid => simp [overruns, topic, startNextOverruns, invalid]
    have same : recordAfter json thingName message state.executionParam =
        state.executionParam := by
      simp [recordAfter, handedOut, topic, parsed]
    exact ⟨same.symm, calm, flagged, .inl, rfl, rfl, rfl, by rw [fits, Bool.or_false], rfl,
      List.Sublist.refl _, fun _ => rfl, rfl⟩
  | some job =>
    have recorded : (state.overrun || startNextOverruns json message.payload) =
        (state.overrun || overruns json thingName message) := by
      simp [overruns, topic]
    dsimp only
    split
    next running =>
      have same : recordAfter json thingName message state.executionParam =
          state.executionParam := by
        simp [recordAfter, running]
      exact ⟨same.symm, calm, flagged, .inl, rfl, rfl, rfl, recorded, rfl,
        List.Sublist.refl _, fun _ => rfl, rfl⟩
    next waiting =>
      have taken : recordAfter json thingName message state.executionParam =
          state.executionParam.takeOver job := by
        simp [recordAfter, waiting, handedOut, topic, parsed]
      exact ⟨taken.symm, calm, flagged, .inl, rfl, rfl, rfl, recorded, rfl,
        List.Sublist.refl _, fun _ => rfl, rfl⟩

/-- A message that the first two branches do not take. -/
theorem other_handled (state : JobsState) (message : Incoming thingName)
    (notGet : message.topic ≠ .getAccepted) (notStartNext : message.topic ≠ .startNextAccepted) :
    Handled json thingName state message
      { state with sincePublish := message.toPublishInfo :: state.sincePublish } := by
  have nothing : handedOut json thingName message = none := by
    rw [handedOut]
    split
    next topic => exact absurd topic notStartNext
    next => rfl
  have same : recordAfter json thingName message state.executionParam = state.executionParam := by
    simp [recordAfter, nothing]
  have fits : overruns json thingName message = false := by
    rw [overruns]
    split
    next topic => exact absurd topic notGet
    next topic => exact absurd topic notStartNext
    next => rfl
  exact ⟨same.symm, by simp [notGet], by simp [notStartNext], .inl, rfl, rfl, rfl,
    by rw [fits, Bool.or_false], rfl, List.Sublist.refl _, fun _ => rfl, rfl⟩

/-- The current id depends on the record and on whether the pointer is set. -/
theorem idAfter_of_handled (before middle : JobsState) (message : Incoming thingName)
    (handled : Handled json thingName before message middle) :
    middle.jobIdForEventCallback = idAfter json thingName before message := by
  simp only [idAfter, JobsState.jobIdForEventCallback]
  rw [handled.executionParam, handled.isJobIdSet]

/-- The first branch leaves a message on another topic alone. -/
theorem getBranch_skips (message : Incoming thingName) (topic : message.topic ≠ .getAccepted)
    (state : JobsState) :
    getAcceptedBranch json thingName message.toPublishInfo state = (false, [], state) := by
  simp only [getAcceptedBranch]
  rw [if_neg fun taken => topic ((taken_getAccepted thingName message).mp taken)]

/-- So does the second. -/
theorem startNextBranch_skips (message : Incoming thingName)
    (topic : message.topic ≠ .startNextAccepted) (tempJobId : List UInt8) (state : JobsState) :
    startNextAcceptedBranch json thingName message.toPublishInfo tempJobId state = state := by
  simp only [startNextAcceptedBranch]
  rw [if_neg fun taken => topic ((taken_startNextAccepted thingName message).mp taken)]

/-- The callback handles every message so. -/
theorem handle_handled (state : JobsState) (message : Incoming thingName) :
    Handled json thingName state message (handle json thingName state message) := by
  unfold handle iotJobsEventCallback
  dsimp only
  by_cases isGet : message.topic = .getAccepted
  · have branch := getBranch_handled json thingName state message isGet
    split
    · exact branch
    · rw [startNextBranch_skips json thingName message (by rw [isGet]; intro no; cases no)]
      exact updateBranch_handled json thingName state _ message
        (idAfter_of_handled json thingName state _ message branch) branch
  rw [getBranch_skips json thingName message isGet, if_neg Bool.false_ne_true]
  by_cases isNext : message.topic = .startNextAccepted
  · have branch := startNextBranch_handled json thingName state message isNext
    exact updateBranch_handled json thingName state _ message
      (idAfter_of_handled json thingName state _ message branch) branch
  · have branch := other_handled json thingName state message isGet isNext
    rw [startNextBranch_skips json thingName message isNext]
    exact updateBranch_handled json thingName state _ message
      (idAfter_of_handled json thingName state _ message branch) branch

/-- Whether a message accepts a request for the pending jobs. -/
def isGet (message : Incoming thingName) : Bool :=
  match message.topic with
  | .getAccepted => true
  | _ => false

theorem isGet_iff (message : Incoming thingName) :
    isGet thingName message = true ↔ message.topic = .getAccepted := by
  simp only [isGet]
  cases message.topic <;> simp

/-- Whether a message accepts a request for the next job. -/
def isStartNext (message : Incoming thingName) : Bool :=
  match message.topic with
  | .startNextAccepted => true
  | _ => false

theorem isStartNext_iff (message : Incoming thingName) :
    isStartNext thingName message = true ↔ message.topic = .startNextAccepted := by
  simp only [isStartNext]
  cases message.topic <;> simp

/-- The last job that messages hand out. -/
def lastJob (messages : List (Incoming thingName)) : Option StartNextJob :=
  (messages.filterMap (handedOut json thingName)).getLast?

/-- What the callback does with a sequence of messages. -/
structure HandledAll (before : JobsState) (messages : List (Incoming thingName))
    (after : JobsState) : Prop where
  executionParam : before.executionParam.isJobStarted = false →
    after.executionParam = ((lastJob json thingName messages).map
      before.executionParam.takeOver).getD before.executionParam
  getFlag : after.recvedMqttGetJobAcceptMsg =
    (before.recvedMqttGetJobAcceptMsg || messages.any (isGet thingName))
  startNextFlag : after.recvedMqttStartNextJobAcceptMsg =
    (before.recvedMqttStartNextJobAcceptMsg || messages.any (isStartNext thingName))
  isJobIdSet : after.isJobIdSetForEventCallback = before.isJobIdSetForEventCallback
  appCommon : after.appCommon = before.appCommon
  flash : after.flash = before.flash
  overrun : after.overrun = (before.overrun || messages.any (overruns json thingName))
  sincePublish : after.sincePublish =
    (messages.map fun message => message.toPublishInfo).reverse ++ before.sincePublish
  queue : (queued before.awsJobIdList).Sublist (queued after.awsJobIdList)
  head : first before.awsJobIdList ≠ [] →
    first after.awsJobIdList = first before.awsJobIdList
  count : first before.awsJobIdList ≠ [] →
    (queued after.awsJobIdList).count (first before.awsJobIdList) =
      (queued before.awsJobIdList).count (first before.awsJobIdList)

theorem recordAfter_isJobStarted (message : Incoming thingName) (param : ExecutionParam) :
    (recordAfter json thingName message param).isJobStarted = param.isJobStarted := by
  simp only [recordAfter]
  split
  · rfl
  · cases handedOut json thingName message <;> rfl

/-- Taking over a second job leaves nothing of the first. -/
theorem recordAfter_lastJob (message : Incoming thingName) (rest : List (Incoming thingName))
    (param : ExecutionParam) (waiting : param.isJobStarted = false) :
    ((lastJob json thingName rest).map (recordAfter json thingName message param).takeOver).getD
      (recordAfter json thingName message param) =
    ((lastJob json thingName (message :: rest)).map param.takeOver).getD param := by
  simp only [recordAfter, lastJob]
  rw [waiting, if_neg Bool.false_ne_true]
  cases first : handedOut json thingName message with
  | none =>
    rw [List.filterMap_cons_none first]
    rfl
  | some job =>
    rw [List.filterMap_cons_some first, List.getLast?_cons]
    cases later : (rest.filterMap (handedOut json thingName)).getLast? with
    | none => rfl
    | some last => rfl

theorem messages_handled (state : JobsState) (messages : List (Incoming thingName)) :
    HandledAll json thingName state messages
      (execute (handle json thingName) state messages) := by
  induction messages generalizing state with
  | nil =>
    exact ⟨fun _ => rfl, (Bool.or_false _).symm, (Bool.or_false _).symm, rfl, rfl, rfl,
      (Bool.or_false _).symm, rfl, List.Sublist.refl _, fun _ => rfl, fun _ => rfl⟩
  | cons message rest ih =>
    have one := handle_handled json thingName state message
    have later := ih (handle json thingName state message)
    rw [execute]
    constructor
    · intro waiting
      rw [later.executionParam (by rw [one.executionParam, recordAfter_isJobStarted, waiting]),
        one.executionParam, recordAfter_lastJob json thingName message rest _ waiting]
    · have flag : (handle json thingName state message).recvedMqttGetJobAcceptMsg =
          (state.recvedMqttGetJobAcceptMsg || isGet thingName message) := by
        rw [Bool.eq_iff_iff, one.getFlag, Bool.or_eq_true, isGet_iff]
      rw [later.getFlag, flag, List.any_cons, Bool.or_assoc]
    · have flag : (handle json thingName state message).recvedMqttStartNextJobAcceptMsg =
          (state.recvedMqttStartNextJobAcceptMsg || isStartNext thingName message) := by
        rw [Bool.eq_iff_iff, one.startNextFlag, Bool.or_eq_true, isStartNext_iff]
      rw [later.startNextFlag, flag, List.any_cons, Bool.or_assoc]
    · exact later.isJobIdSet.trans one.isJobIdSet
    · exact later.appCommon.trans one.appCommon
    · exact later.flash.trans one.flash
    · rw [later.overrun, one.overrun, List.any_cons, Bool.or_assoc]
    · rw [later.sincePublish, one.sincePublish, List.map_cons, List.reverse_cons,
        List.append_assoc]
      rfl
    · exact one.queue.trans later.queue
    · intro occupied
      have kept := one.head occupied
      rw [later.head (by rw [kept]; exact occupied), kept]
    · intro occupied
      have kept := one.head occupied
      have counted := later.count (by rw [kept]; exact occupied)
      rw [kept] at counted
      exact counted.trans one.count

/-- The messages handled in a request until it is answered. -/
def answer (flag : JobsState → Bool) (exchange : Exchange thingName) (state : JobsState) :
    Option (List (Incoming thingName)) :=
  if exchange.publish then
    answeredBy (handle json thingName) flag (published state) exchange.rounds
  else none

/-- The messages handled in a request. -/
def handledIn (flag : JobsState → Bool) (exchange : Exchange thingName) (state : JobsState) :
    List (Incoming thingName) :=
  (answer json thingName flag exchange state).getD
    (if exchange.publish then exchange.rounds.flatten else [])

/-- The same until an answer of a request for the next job. The state enters only through
its flag. -/
def startNextAnswer (raised : Bool) (exchange : Exchange thingName) :
    Option (List (Incoming thingName)) :=
  if exchange.publish then
    answeredBy (fun raised message => raised || isStartNext thingName message) id raised
      exchange.rounds
  else none

theorem answer_startNext (exchange : Exchange thingName) (state : JobsState) :
    answer json thingName JobsState.recvedMqttStartNextJobAcceptMsg exchange state =
      startNextAnswer thingName state.recvedMqttStartNextJobAcceptMsg exchange := by
  simp only [answer, startNextAnswer]
  split
  · exact answeredBy_view (handle json thingName) _ id JobsState.recvedMqttStartNextJobAcceptMsg
      (fun _ => True) (fun _ _ _ => True.intro)
      (fun state message _ => by
        rw [Bool.eq_iff_iff, (handle_handled json thingName state message).startNextFlag,
          Bool.or_eq_true, isStartNext_iff])
      _ exchange.rounds True.intro
  · rfl

/-- A request handles messages, and ends well exactly when they answer it. -/
theorem request_answered (flag : JobsState → Bool) (clear : JobsState → JobsState)
    (exchange : Exchange thingName) (state : JobsState) :
    request json thingName flag clear exchange state =
      let handled := execute (handle json thingName) (published state)
        (handledIn json thingName flag exchange state)
      if (answer json thingName flag exchange state).isSome then (true, clear handled)
      else (false, handled) := by
  simp only [request, handledIn, answer]
  split
  next sent =>
    have ended := waitFlag_answered (handle json thingName) flag clear (published state)
      exchange.rounds
    split at ended
    next messages answered =>
      rw [answered]
      exact ended.2
    next unanswered =>
      rw [unanswered]
      exact ended
  next => rfl

theorem request_returned (flag : JobsState → Bool) (clear : JobsState → JobsState)
    (exchange : Exchange thingName) (state : JobsState) :
    (request json thingName flag clear exchange state).1 =
      (answer json thingName flag exchange state).isSome := by
  rw [request_answered]
  dsimp only
  split
  next answered => exact answered.symm
  next unanswered => exact (Bool.eq_false_iff.mpr unanswered).symm

/-- What lowering the flag leaves alone is as the handled messages leave it. -/
theorem request_view {View : Type} (view : JobsState → View) (flag : JobsState → Bool)
    (clear : JobsState → JobsState) (exchange : Exchange thingName) (state : JobsState)
    (kept : ∀ state, view (clear state) = view state) :
    view (request json thingName flag clear exchange state).2 =
      view (execute (handle json thingName) (published state)
        (handledIn json thingName flag exchange state)) := by
  rw [request_answered]
  dsimp only
  split
  · exact kept _
  · rfl

/-- The flag of an answered request was raised by the messages handled until then. -/
theorem answer_raised (flag : JobsState → Bool) (exchange : Exchange thingName)
    (state : JobsState) (messages : List (Incoming thingName))
    (answered : answer json thingName flag exchange state = some messages) :
    flag (execute (handle json thingName) (published state) messages) = true := by
  simp only [answer] at answered
  split at answered
  next =>
    have ended := waitFlag_answered (handle json thingName) flag id (published state)
      exchange.rounds
    rw [answered] at ended
    exact ended.1
  next => cases answered

end WiznetEaas.JobDispatch
