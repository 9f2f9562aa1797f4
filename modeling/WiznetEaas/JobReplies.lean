import WiznetEaas.JobQueue
import WiznetEaas.JobsTask

/-!
# Which waits are answered by their own request

Each flag stays up until its wait consumes it, and no procedure lowers it before its
publish. A message that comes in during another wait therefore answers a later request.
And the third flag watches the id of the record, which a late job may replace during the
wait. Without these two things every request that succeeds was accepted by a message
handled since its publish.
-/

namespace WiznetEaas.JobReplies

open NorFlash ByteMemory CStrings FlashControl FlashRecords DeviceCommon HttpInterface JobDocument
  JobList MqttMessages JobMessages JobProcedures JobDispatch JobCalls JobQueue JobsTask
  FirmwareArming Runs Polling

variable (json : Json) (thingName : List UInt8) (misaligned : Misalignment UInt8 userFlashPageSize)
  (coreHttp : CoreHttp) (abi : Abi) (current : Version)

/-- A request that succeeds was accepted by a message handled since its publish. -/
def Matched (request : Request) : Prop :=
  request.returned = true → request.overrun = false ∧
    ∃ info ∈ request.handled, info.topicName = request.topic.name thingName

/-- All requests of an iteration that succeed were. -/
def Answered (state : Option TaskState) (iteration : Iteration thingName) : Prop :=
  ∀ request ∈ requests json thingName misaligned coreHttp abi current state iteration,
    Matched thingName request

/-- A request whose flag is down when it is published, and whose messages fit. -/
def FreshRequest (flag : JobsState → Bool) (exchange : Exchange thingName) (state : JobsState) :
    Prop :=
  (exchange.publish = true → flag state = false) ∧
    ∀ message ∈ handledIn json thingName flag exchange state,
      overruns json thingName message = false

/-- A fresh status update. Its id is one level of a topic, and no other job is handed out
while it is awaited. -/
def FreshUpdate (inputs : DocumentInputs thingName) (state : JobsState)
    (messages : List (Incoming thingName)) (document : DocumentResult) : Prop :=
  FreshRequest json thingName JobsState.recvedMqttJobUpdateAcceptMsg inputs.update
      (updating json thingName misaligned abi state messages document) ∧
    47 ∉ (delivered json thingName messages).jobId ∧
    ∀ message ∈ updateHandled json thingName misaligned abi inputs state messages document,
      ∀ job ∈ handedOut json thingName message,
        job.jobId = (delivered json thingName messages).jobId

/-- A call for a job whose requests are fresh. -/
def FreshDocument (inputs : DocumentInputs thingName) (state : JobsState) : Prop :=
  ((getFirstJobId state.awsJobIdList).isSome && !state.executionParam.isJobStarted) = true →
    FreshRequest json thingName JobsState.recvedMqttStartNextJobAcceptMsg inputs.startNext
        (beforeStartNext abi state) ∧
      ∀ messages ∈ started thingName inputs state,
        ∀ document ∈ execution json thingName misaligned coreHttp abi current inputs state messages,
          FreshUpdate json thingName misaligned abi inputs state messages document

/-- An iteration whose requests are fresh. -/
def FreshCalls (iteration : Iteration thingName) (state : TaskState) : Prop :=
  (isGetDue thingName iteration state = true →
      FreshRequest json thingName JobsState.recvedMqttGetJobAcceptMsg iteration.getJob state.jobs) ∧
    (isDocumentDue thingName iteration (getJobs json thingName iteration state).2 = true →
      FreshDocument json thingName misaligned coreHttp abi current iteration.document
        (getJobs json thingName iteration state).2.jobs)

def Fresh (state : Option TaskState) (iteration : Iteration thingName) : Prop :=
  ∀ task ∈ state, iteration.isLinkUp = true → iteration.isRunAwsIotJobs = true →
    (opened thingName iteration task).isConnected = true →
    FreshCalls json thingName misaligned coreHttp abi current iteration
      (opened thingName iteration task)

instance (request : Request) : Decidable (Matched thingName request) :=
  inferInstanceAs (Decidable (_ → _ ∧ _))

instance (state : Option TaskState) (iteration : Iteration thingName) :
    Decidable (Answered json thingName misaligned coreHttp abi current state iteration) :=
  inferInstanceAs (Decidable (∀ request ∈ _, Matched thingName request))

instance (flag : JobsState → Bool) (exchange : Exchange thingName) (state : JobsState) :
    Decidable (FreshRequest json thingName flag exchange state) :=
  inferInstanceAs (Decidable (_ ∧ ∀ message ∈ _, overruns json thingName message = false))

instance (inputs : DocumentInputs thingName) (state : JobsState)
    (messages : List (Incoming thingName)) (document : DocumentResult) :
    Decidable (FreshUpdate json thingName misaligned abi inputs state messages document) :=
  inferInstanceAs (Decidable (_ ∧ _ ∧ ∀ message ∈ updateHandled json thingName misaligned abi inputs
    state messages document, ∀ job ∈ handedOut json thingName message, job.jobId = _))

instance (inputs : DocumentInputs thingName) (state : JobsState) :
    Decidable (FreshDocument json thingName misaligned coreHttp abi current inputs state) :=
  inferInstanceAs (Decidable (_ → _ ∧ ∀ messages ∈ started thingName inputs state,
    ∀ document ∈ execution json thingName misaligned coreHttp abi current inputs state messages,
      FreshUpdate json thingName misaligned abi inputs state messages document))

instance (iteration : Iteration thingName) (state : TaskState) :
    Decidable (FreshCalls json thingName misaligned coreHttp abi current iteration state) :=
  inferInstanceAs (Decidable ((_ → _) ∧ (_ → _)))

instance (state : Option TaskState) (iteration : Iteration thingName) :
    Decidable (Fresh json thingName misaligned coreHttp abi current state iteration) :=
  inferInstanceAs (Decidable (∀ task ∈ state, _ → _ → _ →
    FreshCalls json thingName misaligned coreHttp abi current iteration
      (opened thingName iteration task)))

/-- On the topics of the session, only the topic of an update begins it, if its id is one
level. -/
theorem update_exact (message : Incoming thingName) (jobId : List UInt8) (single : 47 ∉ jobId)
    (early : message.topicName <+: jobsUpdateAccepted thingName jobId) :
    message.topicName = jobsUpdateAccepted thingName jobId := by
  have level : 47 ∉ cText jobId := fun member => single ((List.takeWhile_sublist _).subset member)
  have shape (name outcome : List UInt8) : topicOf (ascii "/jobs/") name (47 :: outcome) =
      ascii "/jobs/" ++ (cText name ++ 47 :: outcome) := List.append_assoc _ _ _
  have updated : ascii "/update/accepted" = 47 :: ascii "update/accepted" := by decide +kernel
  have refused : ascii "/update/rejected" = 47 :: ascii "update/rejected" := by decide +kernel
  have apart (name outcome : List UInt8) (oneLevel : 47 ∉ name)
      (differs : ¬ outcome <+: ascii "update/accepted") :
      ¬ ascii "/jobs/" ++ (name ++ 47 :: outcome) <+:
        topicOf (ascii "/jobs/") jobId (ascii "/update/accepted") := by
    intro other
    rw [updated, shape, List.prefix_append_right_inj] at other
    exact differs (first_level 47 name _ outcome _ level (.inl oneLevel) other).2
  rw [message.named] at early ⊢
  cases topic : message.topic with
  | getAccepted =>
    rw [topic, JobTopic.name, jobsGetAccepted, jobsUpdateAccepted, jobsTopic_prefix,
      show ascii "/jobs/get/accepted" = ascii "/jobs/" ++ (ascii "get" ++ 47 :: ascii "accepted")
        from by decide +kernel] at early
    exact absurd early (apart _ _ (by decide +kernel) (by decide +kernel))
  | startNextAccepted =>
    rw [topic, JobTopic.name, jobsStartNextAccepted, jobsUpdateAccepted, jobsTopic_prefix,
      show ascii "/jobs/start-next/accepted" =
        ascii "/jobs/" ++ (ascii "start-next" ++ 47 :: ascii "accepted")
        from by decide +kernel] at early
    exact absurd early (apart _ _ (by decide +kernel) (by decide +kernel))
  | updateAccepted other =>
    rw [topic, JobTopic.name, jobsUpdateAccepted, jobsUpdateAccepted, jobsTopic_prefix, updated,
      shape, shape, List.prefix_append_right_inj] at early
    have same := (first_level 47 (cText other) _ _ _ level (.inr (Nat.le_refl _)) early).1
    rw [JobTopic.name, jobsUpdateAccepted, jobsUpdateAccepted, updated, shape, shape, same]
  | getRejected =>
    rw [topic, JobTopic.name, jobsUpdateAccepted, jobsTopic_prefix,
      show ascii "/jobs/get/rejected" = ascii "/jobs/" ++ (ascii "get" ++ 47 :: ascii "rejected")
        from by decide +kernel] at early
    exact absurd early (apart _ _ (by decide +kernel) (by decide +kernel))
  | startNextRejected =>
    rw [topic, JobTopic.name, jobsUpdateAccepted, jobsTopic_prefix,
      show ascii "/jobs/start-next/rejected" =
        ascii "/jobs/" ++ (ascii "start-next" ++ 47 :: ascii "rejected")
        from by decide +kernel] at early
    exact absurd early (apart _ _ (by decide +kernel) (by decide +kernel))
  | updateRejected other =>
    rw [topic, JobTopic.name, jobsUpdateAccepted, jobsTopic_prefix, refused, updated, shape, shape,
      List.prefix_append_right_inj] at early
    have rest := (first_level 47 (cText other) _ _ _ level (.inr (by decide +kernel)) early).2
    exact absurd rest (by decide +kernel)

/-- The id stays while no other job is handed out. -/
theorem recordAfter_jobId (message : Incoming thingName) (param : ExecutionParam)
    (same : ∀ job ∈ handedOut json thingName message, job.jobId = param.jobId) :
    (recordAfter json thingName message param).jobId = param.jobId := by
  simp only [recordAfter]
  split
  · rfl
  · cases handed : handedOut json thingName message with
    | none => rfl
    | some job => exact same job handed

/-- Then the third flag is raised only by an accepted message for this id. -/
theorem update_raised (jobId : List UInt8) (single : 47 ∉ jobId)
    (messages : List (Incoming thingName)) (state : JobsState)
    (isSet : state.isJobIdSetForEventCallback = true)
    (isId : state.executionParam.jobId = jobId)
    (same : ∀ message ∈ messages, ∀ job ∈ handedOut json thingName message, job.jobId = jobId)
    (down : state.recvedMqttJobUpdateAcceptMsg = false)
    (up : (execute (handle json thingName) state messages).recvedMqttJobUpdateAcceptMsg = true) :
    ∃ message ∈ messages, message.topicName = jobsUpdateAccepted thingName jobId := by
  induction messages generalizing state with
  | nil =>
    rw [execute, down] at up
    cases up
  | cons message rest ih =>
    have one := handle_handled json thingName state message
    have kept : (recordAfter json thingName message state.executionParam).jobId = jobId := by
      rw [recordAfter_jobId json thingName message _ (by
        rw [isId]
        exact same message List.mem_cons_self), isId]
    have isCurrent : idAfter json thingName state message = jobId := by
      simp only [idAfter, JobsState.jobIdForEventCallback]
      rw [isSet, if_pos rfl]
      exact kept
    by_cases raised : (handle json thingName state message).recvedMqttJobUpdateAcceptMsg = true
    · rcases one.updateFlag raised with before | early
      · rw [down] at before
        cases before
      · rw [isCurrent] at early
        exact ⟨message, List.mem_cons_self, update_exact thingName message jobId single early⟩
    · obtain ⟨found, member, topic⟩ := ih (handle json thingName state message)
        (one.isJobIdSet.trans isSet) (by rw [one.executionParam, kept])
        (fun other member => same other (List.mem_cons_of_mem message member))
        (Bool.eq_false_iff.mpr raised) up
      exact ⟨found, List.mem_cons_of_mem message member, topic⟩

/-- A fresh request that is answered by a message on its topic is matched. -/
theorem matched_of_answer (topic : JobTopic) (flag : JobsState → Bool)
    (clear : JobsState → JobsState) (exchange : Exchange thingName) (state : JobsState)
    (kept : ∀ state, (clear state).sincePublish = state.sincePublish)
    (intact : ∀ state, (clear state).overrun = state.overrun)
    (calm : state.overrun = false) (fresh : FreshRequest json thingName flag exchange state)
    (found : ∀ messages, answer json thingName flag exchange state = some messages →
      ∃ message ∈ messages, message.topicName = topic.name thingName) :
    Matched thingName (requestOf topic (request json thingName flag clear exchange state)) ∧
      (request json thingName flag clear exchange state).2.overrun = false := by
  have handled := messages_handled json thingName (published state)
    (handledIn json thingName flag exchange state)
  have fits : (request json thingName flag clear exchange state).2.overrun = false := by
    rw [request_view json thingName JobsState.overrun flag clear exchange state intact,
      handled.overrun]
    exact (fitting_iff json thingName state _).mp ⟨calm, fresh.2⟩
  refine ⟨fun success => ⟨fits, ?_⟩, fits⟩
  rw [requestOf, request_returned] at success
  obtain ⟨messages, answered⟩ := Option.isSome_iff_exists.mp success
  obtain ⟨message, member, isTopic⟩ := found messages answered
  refine ⟨message.toPublishInfo, ?_, isTopic⟩
  have record := (request_view json thingName JobsState.sincePublish flag clear exchange state
    kept).trans handled.sincePublish
  rw [handledIn, answered, Option.getD_some] at record
  rw [requestOf, record]
  exact List.mem_append_left _ (List.mem_reverse.mpr (List.mem_map_of_mem member))

/-- The messages of a published request were handled with its flag down at first. -/
theorem published_down (flag : JobsState → Bool) (exchange : Exchange thingName)
    (state : JobsState) (messages : List (Incoming thingName))
    (fresh : FreshRequest json thingName flag exchange state)
    (answered : answer json thingName flag exchange state = some messages) :
    flag state = false := by
  simp only [answer] at answered
  split at answered
  next sent => exact fresh.1 sent
  next => cases answered

/-- A fresh request for the pending jobs. -/
theorem get_matched (exchange : Exchange thingName) (state : JobsState)
    (calm : state.overrun = false)
    (fresh : FreshRequest json thingName JobsState.recvedMqttGetJobAcceptMsg exchange state) :
    Matched thingName (requestOf .getAccepted (iotJobsGetProcedure json thingName exchange state)) ∧
      (iotJobsGetProcedure json thingName exchange state).2.overrun = false := by
  apply matched_of_answer json thingName .getAccepted _ clearGetJob exchange state
    (fun _ => rfl) (fun _ => rfl) calm fresh
  intro messages answered
  have up := answer_raised json thingName _ exchange state messages answered
  have down : (published state).recvedMqttGetJobAcceptMsg = false :=
    published_down json thingName _ exchange state messages fresh answered
  rw [(messages_handled json thingName (published state) messages).getFlag, down,
    Bool.false_or] at up
  obtain ⟨message, member, accepts⟩ := List.any_eq_true.mp up
  exact ⟨message, member, by rw [message.named, (isGet_iff thingName message).mp accepts]⟩

/-- A fresh request for the next job. -/
theorem startNext_matched (exchange : Exchange thingName) (state : JobsState)
    (calm : state.overrun = false)
    (fresh : FreshRequest json thingName JobsState.recvedMqttStartNextJobAcceptMsg exchange state) :
    Matched thingName
      (requestOf .startNextAccepted (iotJobsStartNextProcedure json thingName exchange state)) := by
  apply (matched_of_answer json thingName .startNextAccepted _ clearStartNext exchange state
    (fun _ => rfl) (fun _ => rfl) calm fresh _).1
  intro messages answered
  have up := answer_raised json thingName _ exchange state messages answered
  have down : (published state).recvedMqttStartNextJobAcceptMsg = false :=
    published_down json thingName _ exchange state messages fresh answered
  rw [(messages_handled json thingName (published state) messages).startNextFlag, down,
    Bool.false_or] at up
  obtain ⟨message, member, accepts⟩ := List.any_eq_true.mp up
  exact ⟨message, member, by rw [message.named, (isStartNext_iff thingName message).mp accepts]⟩

/-- A fresh status update that is answered was accepted for its own id. -/
theorem update_found (inputs : DocumentInputs thingName) (state : JobsState)
    (messages accepted : List (Incoming thingName)) (document : DocumentResult)
    (shape : Started json thingName abi state messages
      (executing json thingName abi state messages))
    (fresh : FreshUpdate json thingName misaligned abi inputs state messages document)
    (answered : updateAnswer json thingName misaligned abi inputs state messages document =
      some accepted) :
    ∃ message ∈ accepted, message.topicName =
      jobsUpdateAccepted thingName (delivered json thingName messages).jobId := by
  obtain ⟨request, single, same⟩ := fresh
  rw [updateHandled, handledIn] at same
  rw [updateAnswer] at answered
  rw [answered, Option.getD_some] at same
  apply update_raised json thingName _ single accepted
    (published (updating json thingName misaligned abi state messages document)) rfl _ same
    (published_down json thingName _ inputs.update _ accepted request answered)
    (answer_raised json thingName _ inputs.update _ accepted answered)
  dsimp only [published, updating, afterDocument]
  rw [shape.executionParam]

/-- The requests of a call that executed a document. -/
theorem updateRequest_matched (inputs : DocumentInputs thingName) (state : JobsState)
    (messages : List (Incoming thingName)) (document : DocumentResult) (result : ProcedureResult)
    (grown : JobIdList)
    (shape : Started json thingName abi state messages
      (executing json thingName abi state messages))
    (reported : Reported json thingName misaligned abi inputs state messages document result grown)
    (calm : result.state.overrun = false)
    (fresh : FreshUpdate json thingName misaligned abi inputs state messages document) :
    ∀ request ∈ updateRequest (some result), Matched thingName request := by
  obtain ⟨carried, reports, report, overrun⟩ := reported.carried
  intro request member
  rw [updateRequest, Option.bind_some, reports, Option.map_some, Option.toList_some,
    List.mem_singleton] at member
  rw [member]
  intro success
  refine ⟨overrun.trans calm, ?_⟩
  dsimp only at success ⊢
  rw [report.updated] at success
  obtain ⟨accepted, answered⟩ := Option.isSome_iff_exists.mp success
  obtain ⟨message, among, topic⟩ := update_found json thingName misaligned abi inputs state
    messages accepted document shape fresh answered
  refine ⟨message.toPublishInfo, ?_, ?_⟩
  · rw [updateAnswer] at answered
    rw [report.updateMessages, updateHandled, handledIn, answered, Option.getD_some,
      List.mem_reverse]
    exact List.mem_map_of_mem among
  · rw [report.jobId]
    exact topic

/-- The messages of a fresh start-next wait fit the buffers. -/
theorem startNextHandled_fits (inputs : DocumentInputs thingName) (state : JobsState)
    (fresh : FreshDocument json thingName misaligned coreHttp abi current inputs state) :
    ∀ message ∈ startNextHandled json thingName abi inputs state,
      overruns json thingName message = false := by
  simp only [startNextHandled]
  split
  next entered => exact (fresh entered).1.2
  next =>
    rintro message ⟨⟩

/-- The request of a fresh start-next wait is answered by its own reply. -/
theorem startNextRequest_matched (inputs : DocumentInputs thingName) (state : JobsState)
    (calm : state.overrun = false)
    (fresh : FreshDocument json thingName misaligned coreHttp abi current inputs state) :
    ∀ request ∈ startNextRequest json thingName abi inputs state, Matched thingName request := by
  simp only [startNextRequest]
  split
  next entered =>
    intro request member
    rw [List.mem_singleton.mp member]
    exact startNext_matched json thingName inputs.startNext (beforeStartNext abi state) calm
      (fresh entered).1
  next =>
    rintro request ⟨⟩

/-- A document is only executed for a queued job while none is started. -/
theorem started_entered (inputs : DocumentInputs thingName) (state : JobsState)
    (messages : List (Incoming thingName)) (reached : started thingName inputs state = some messages) :
    ((getFirstJobId state.awsJobIdList).isSome && !state.executionParam.isJobStarted) = true := by
  simp only [started] at reached
  split at reached
  next entered => exact entered
  next => cases reached

/-- A call for a job with fresh requests. -/
theorem document_matched (inputs : DocumentInputs thingName) (state : JobsState)
    (calm : state.overrun = false)
    (fresh : FreshDocument json thingName misaligned coreHttp abi current inputs state) :
    (∀ request ∈ startNextRequest json thingName abi inputs state ++
      updateRequest (iotJobsStartJobDocumentProcedure json thingName misaligned coreHttp abi current
        inputs state), Matched thingName request) ∧
    ∀ result, iotJobsStartJobDocumentProcedure json thingName misaligned coreHttp abi current inputs
      state = some result → result.state.overrun = false := by
  have fits := startNextHandled_fits json thingName misaligned coreHttp abi current inputs state fresh
  have startNext :=
    startNextRequest_matched json thingName misaligned coreHttp abi current inputs state calm fresh
  cases reached : started thingName inputs state with
  | none =>
    obtain ⟨result, returned, nothing, overrun, _⟩ := procedure_unstarted json thingName misaligned
      coreHttp abi current inputs state reached
    have none : updateRequest (some result) = [] := by
      rw [updateRequest, Option.bind_some, nothing]
      rfl
    rw [returned, none, List.append_nil]
    refine ⟨startNext, ?_⟩
    rintro _ ⟨⟩
    exact overrun.trans ((fitting_iff json thingName state _).mp ⟨calm, fits⟩)
  | some messages =>
    obtain ⟨shape, ended⟩ := procedure_started json thingName misaligned coreHttp abi current inputs
      state messages reached
    rw [startNextHandled_started json thingName abi inputs state messages reached] at fits
    cases executed : execution json thingName misaligned coreHttp abi current inputs state messages
      with
    | none =>
      rw [ended, executed, Option.map_none]
      refine ⟨fun request member => startNext request ?_, fun result no => by cases no⟩
      rw [updateRequest, Option.bind_none, Option.map_none, Option.toList_none,
        List.append_nil] at member
      exact member
    | some document =>
      have entered := started_entered thingName inputs state messages reached
      have update := (fresh entered).2 messages reached document executed
      obtain ⟨grown, reported⟩ := reportDocument_reported json thingName misaligned abi inputs
        state messages document shape
      have intact := reported.overrun.trans ((fitting_iff json thingName state _).mp ⟨calm,
        fun message member => (List.mem_append.mp member).elim (fits message)
          (update.1.2 message)⟩)
      rw [ended, executed, Option.map_some]
      constructor
      · exact List.forall_mem_append.mpr ⟨startNext,
          updateRequest_matched json thingName misaligned abi inputs state messages document
            _ grown shape reported intact update⟩
      · rintro _ ⟨⟩
        exact intact

/-- No buffer was overrun, if the task still runs. -/
def Calm (state : Option TaskState) : Prop := ∀ task ∈ state, task.jobs.overrun = false

/-- The calls of an iteration with fresh requests. -/
theorem serve_matched (iteration : Iteration thingName) (state : TaskState)
    (calm : state.jobs.overrun = false)
    (fresh : FreshCalls json thingName misaligned coreHttp abi current iteration state) :
    (∀ request ∈ (serve json thingName misaligned coreHttp abi current iteration state).1,
      Matched thingName request) ∧
    Calm (serve json thingName misaligned coreHttp abi current iteration state).2 := by
  have got : (∀ request ∈ (getJobs json thingName iteration state).1, Matched thingName request) ∧
      (getJobs json thingName iteration state).2.jobs.overrun = false := by
    simp only [getJobs]
    split
    next due =>
      obtain ⟨matched, intact⟩ := get_matched json thingName iteration.getJob state.jobs calm
        (fresh.1 due)
      refine ⟨fun request member => ?_, intact⟩
      rw [List.mem_singleton.mp member]
      exact matched
    next => exact ⟨fun request no => (by cases no), calm⟩
  have done : (∀ request ∈ (startDocument json thingName misaligned coreHttp abi current
        iteration (getJobs json thingName iteration state).2).1, Matched thingName request) ∧
      Calm (startDocument json thingName misaligned coreHttp abi current iteration
        (getJobs json thingName iteration state).2).2 := by
    simp only [startDocument]
    split
    next due =>
      obtain ⟨matched, intact⟩ := document_matched json thingName misaligned coreHttp abi current
        iteration.document _ got.2 (fresh.2 due)
      refine ⟨matched, fun task member => ?_⟩
      obtain ⟨result, returned, goesOn⟩ := Option.bind_eq_some_iff.mp member
      split at goesOn
      · cases goesOn
      · cases goesOn
        exact intact result returned
    next =>
      refine ⟨fun request no => (by cases no), ?_⟩
      rintro _ ⟨⟩
      exact got.2
  exact ⟨List.forall_mem_append.mpr ⟨got.1, done.1⟩, done.2⟩

/-- Opening a session leaves the globals of the handler. -/
theorem opened_jobs (iteration : Iteration thingName) (state : TaskState) :
    (opened thingName iteration state).jobs = state.jobs := by
  simp only [opened]
  split
  · rfl
  · split
    · rfl
    · rfl

/-- An iteration with fresh requests. -/
theorem iterate_matched (iteration : Iteration thingName) (state : TaskState)
    (calm : state.jobs.overrun = false)
    (fresh : Fresh json thingName misaligned coreHttp abi current (some state) iteration) :
    (∀ request ∈ (iterate json thingName misaligned coreHttp abi current iteration state).1,
      Matched thingName request) ∧
    Calm (iterate json thingName misaligned coreHttp abi current iteration state).2 := by
  have idle (other : TaskState) (intact : other.jobs.overrun = false) :
      (∀ request ∈ ([] : List Request), Matched thingName request) ∧ Calm (some other) := by
    refine ⟨fun request no => (by cases no), ?_⟩
    rintro _ ⟨⟩
    exact intact
  have openedCalm : (opened thingName iteration state).jobs.overrun = false := by
    rw [opened_jobs]
    exact calm
  rw [iterate]
  split
  next up =>
    split
    next run =>
      dsimp only
      split
      next connected =>
        exact serve_matched json thingName misaligned coreHttp abi current iteration _ openedCalm
          (fresh state rfl up run connected)
      next => exact idle _ openedCalm
    next => exact idle _ calm
  next => exact idle _ calm

/-- In a run whose requests are all fresh, every request that succeeds was accepted by a
message handled since its publish. -/
theorem requests_answered (appCommon : Pointer) (flash : Contents UInt8) (timers : UInt32 × UInt32)
    (iterations : List (Iteration thingName))
    (fresh : Along (step json thingName misaligned coreHttp abi current)
      (Fresh json thingName misaligned coreHttp abi current)
      (some (TaskState.initial appCommon flash timers)) iterations) :
    Along (step json thingName misaligned coreHttp abi current)
      (Answered json thingName misaligned coreHttp abi current)
      (some (TaskState.initial appCommon flash timers)) iterations := by
  apply along_invariant _ Calm _ _ _ _ _ _ _ fresh
  · intro state iteration calm fresh
    cases state with
    | none =>
      rintro task ⟨⟩
    | some task =>
      exact (iterate_matched json thingName misaligned coreHttp abi current iteration task
        (calm task rfl) fresh).2
  · intro state iteration calm fresh
    cases state with
    | none =>
      rintro request ⟨⟩
    | some task =>
      exact (iterate_matched json thingName misaligned coreHttp abi current iteration task
        (calm task rfl) fresh).1
  · rintro _ ⟨⟩
    rfl

/-- AWS lists the second job as pending. -/
def pendingJobs : Incoming (ascii "eaas") :=
  .on _ .getAccepted (ascii "\x7b\"queuedJobs\":[\x7b\"jobId\":\"job-2\"\x7d]\x7d")
    (by decide +kernel)

/-- No job is left. -/
def noPendingJobs : Incoming (ascii "eaas") :=
  .on _ .getAccepted (ascii "\x7b\"queuedJobs\":[]\x7d") (by decide +kernel)

/-- An iteration in an open session, at a time, with the answers to its requests. -/
def iterationAt (timeMs : UInt32) (getJob startNext update : List (Incoming (ascii "eaas"))) :
    Iteration (ascii "eaas") where
  isLinkUp := true
  isRunAwsIotJobs := true
  connect := true
  connectTimeMs := (timeMs, timeMs)
  currentTimeoutMs := timeMs
  getTimeMs := timeMs
  getJob := ⟨true, [getJob]⟩
  document := ⟨⟨true, [startNext]⟩, unreachable, ⟨true, [update]⟩⟩

/-- The second job is listed, handed out and accepted as finished. Eleven seconds later
the pending jobs are requested again. -/
def secondJobRun (startNext later : List (Incoming (ascii "eaas"))) :
    List (Iteration (ascii "eaas")) :=
  [iterationAt 0 [] [] [],
    iterationAt 11000 [pendingJobs] startNext [secondJobUpdated],
    iterationAt 22000 later [] []]

theorem second_job_run_answered :
    Along (step nestedJson (ascii "eaas") (.ignored UInt8 256) exampleCoreHttp shortEnumAbi
        applicationVersion)
      (Answered nestedJson (ascii "eaas") (.ignored UInt8 256) exampleCoreHttp shortEnumAbi
        applicationVersion)
      (some (TaskState.initial (fun _ => 0) (fun _ => 0) (0, 0)))
      (secondJobRun [secondJob] [noPendingJobs]) :=
  requests_answered nestedJson (ascii "eaas") (.ignored UInt8 256) exampleCoreHttp shortEnumAbi
    applicationVersion (fun _ => 0) (fun _ => 0) (0, 0) (secondJobRun [secondJob] [noPendingJobs])
    (by decide +kernel)

/-- A duplicate of the first answer that comes in during the request for the next job
answers the later request, which then succeeds without a message. -/
theorem duplicate_answers_later_request :
    ¬ Along (step nestedJson (ascii "eaas") (.ignored UInt8 256) exampleCoreHttp shortEnumAbi
        applicationVersion)
      (Answered nestedJson (ascii "eaas") (.ignored UInt8 256) exampleCoreHttp shortEnumAbi
        applicationVersion)
      (some (TaskState.initial (fun _ => 0) (fun _ => 0) (0, 0)))
      (secondJobRun [pendingJobs, secondJob] []) := by
  decide +kernel

end WiznetEaas.JobReplies
