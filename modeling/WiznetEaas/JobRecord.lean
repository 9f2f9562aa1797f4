import WiznetEaas.JobReplies

/-!
# The record of the running job

`IS_JOB_STARTED` keeps the callback from replacing the record while a document is
executed, but it is lowered before the status update is published and awaited. A job that
is handed out in that wait takes the place of the one being reported, and with it the id
that the pointer of the third branch shows. So the record is stable exactly when the wait
hands out nothing but the same job again.
-/

namespace WiznetEaas.JobRecord

open NorFlash ByteMemory CStrings FlashControl FlashRecords DeviceCommon HttpInterface JobDocument
  JobList MqttMessages JobMessages JobProcedures JobDispatch JobCalls JobQueue JobsTask JobReplies
  FirmwareArming Runs Polling

deriving instance DecidableEq for StartNextJob

variable (json : Json) (thingName : List UInt8) (misaligned : Misalignment UInt8 userFlashPageSize)
  (coreHttp : CoreHttp) (abi : Abi) (current : Version)

/-- The globals when `iot_jobs_start_next_procedure` has returned true. -/
def afterStartNext (inputs : DocumentInputs thingName) (state : JobsState) : Option JobsState :=
  match getFirstJobId state.awsJobIdList with
  | none => none
  | some _ =>
    if state.executionParam.isJobStarted then none
    else
      let next := iotJobsStartNextProcedure json thingName inputs.startNext
        (beforeStartNext abi state)
      if next.1 then some next.2 else none

/-- The globals when the status update is called, after the execution of the document. -/
def afterExecution (inputs : DocumentInputs thingName) (next : JobsState) : Option JobsState :=
  (executeDocument json misaligned coreHttp abi current inputs.world (markStarted next)).map
    fun document => afterDocument misaligned document (markStarted next)

/-- The globals when the status update is published: the pointer for the callback is set. -/
def pointerSet (state : JobsState) : JobsState :=
  { state with isJobIdSetForEventCallback := true }

/-- The messages that the status update handles. -/
def updateMessages (inputs : DocumentInputs thingName) (state : JobsState) :
    List (Incoming thingName) :=
  handledIn json thingName JobsState.recvedMqttJobUpdateAcceptMsg inputs.update (pointerSet state)

/-- The globals from the call of the status update to its return. -/
def updateMoments (inputs : DocumentInputs thingName) (state : JobsState) : List JobsState :=
  state :: visited (handle json thingName) (published (pointerSet state))
      (updateMessages json thingName inputs state) ++
    [(iotJobsUpdateJobStatusProcedure json thingName inputs.update state).2]

/-- The globals from the return of the request for a job to that of the status update. -/
def moments (inputs : DocumentInputs thingName) (next : JobsState) : List JobsState :=
  next :: markStarted next ::
    ((afterExecution json thingName misaligned coreHttp abi current inputs next).map
      (updateMoments json thingName inputs)).getD []

/-- The id that the third branch of the callback compares, if it is reached. -/
def comparedId (state : JobsState) (message : Incoming thingName) : Option (List UInt8) :=
  let state := { state with sincePublish := message.toPublishInfo :: state.sincePublish }
  let first := getAcceptedBranch json thingName message.toPublishInfo state
  if first.1 then none
  else some (startNextAcceptedBranch json thingName message.toPublishInfo first.2.1
    first.2.2).jobIdForEventCallback

/-- From the return of the request for a job to that of the status update the job stays
what it was, and the ids compared are the one in the topic of the update. -/
structure RecordStable (inputs : DocumentInputs thingName) (next : JobsState) : Prop where
  kept : ∀ moment ∈ moments json thingName misaligned coreHttp abi current inputs next,
    moment.overrun = false ∧ moment.executionParam.job = next.executionParam.job
  compared : ∀ state ∈ afterExecution json thingName misaligned coreHttp abi current inputs next,
    Along (handle json thingName)
      (fun before message => ∀ jobId ∈ comparedId json thingName before message,
        jobId = state.executionParam.jobId)
      (published (pointerSet state)) (updateMessages json thingName inputs state)

/-- A message that disturbs no report of a job. -/
def Harmless (job : StartNextJob) (message : Incoming thingName) : Prop :=
  overruns json thingName message = false ∧
    ∀ handed ∈ handedOut json thingName message, handed = job

/-- No buffer is overrun, and what is handed out while the update is awaited is the job
being reported. -/
def Undisturbed (inputs : DocumentInputs thingName) (next : JobsState) : Prop :=
  next.overrun = false ∧
    ∀ state ∈ afterExecution json thingName misaligned coreHttp abi current inputs next,
      ∀ message ∈ updateMessages json thingName inputs state,
        Harmless json thingName next.executionParam.job message

/-- The third branch compares the id that is current after the message. -/
theorem comparedId_idAfter (state : JobsState) (message : Incoming thingName) (jobId : List UInt8)
    (compares : comparedId json thingName state message = some jobId) :
    jobId = idAfter json thingName state message := by
  simp only [comparedId] at compares
  split at compares
  next => cases compares
  next =>
    cases compares
    apply idAfter_of_handled
    by_cases isGet : message.topic = .getAccepted
    · rw [startNextBranch_skips json thingName message (by rw [isGet]; intro no; cases no)]
      exact getBranch_handled json thingName state message isGet
    rw [getBranch_skips json thingName message isGet]
    by_cases isNext : message.topic = .startNextAccepted
    · exact startNextBranch_handled json thingName state message isNext
    · rw [startNextBranch_skips json thingName message isNext]
      exact other_handled json thingName state message isGet isNext

/-- The globals while a job is reported. -/
structure Reporting (job : StartNextJob) (state : JobsState) : Prop where
  isJobIdSet : state.isJobIdSetForEventCallback = true
  waiting : state.executionParam.isJobStarted = false
  job : state.executionParam.job = job
  calm : state.overrun = false

/-- The record after a message that is handled while a job is reported. -/
theorem reporting_job (job : StartNextJob) (state : JobsState) (message : Incoming thingName)
    (reporting : Reporting job state) :
    (recordAfter json thingName message state.executionParam).job =
      (handedOut json thingName message).getD job := by
  rw [recordAfter, reporting.waiting, if_neg Bool.false_ne_true]
  cases handedOut json thingName message with
  | none => exact reporting.job
  | some handed => rfl

/-- A message leaves the report alone exactly when it is harmless. -/
theorem handle_reporting (job : StartNextJob) (state : JobsState) (message : Incoming thingName)
    (reporting : Reporting job state) :
    (handle json thingName state message).overrun = false ∧
        (handle json thingName state message).executionParam.job = job ↔
      Harmless json thingName job message := by
  have handled := handle_handled json thingName state message
  rw [handled.overrun, handled.executionParam, reporting.calm, Bool.false_or,
    reporting_job json thingName job state message reporting, Harmless]
  cases handedOut json thingName message with
  | none => simp
  | some handed => simp

/-- A harmless message keeps the report. -/
theorem reporting_kept (job : StartNextJob) (state : JobsState) (message : Incoming thingName)
    (reporting : Reporting job state) (harmless : Harmless json thingName job message) :
    Reporting job (handle json thingName state message) := by
  have handled := handle_handled json thingName state message
  obtain ⟨calm, same⟩ := (handle_reporting json thingName job state message reporting).mpr harmless
  refine ⟨handled.isJobIdSet.trans reporting.isJobIdSet, ?_, same, calm⟩
  rw [handled.executionParam, recordAfter_isJobStarted]
  exact reporting.waiting

/-- The report is left alone all along exactly when all messages are harmless. -/
theorem along_reporting (job : StartNextJob) (state : JobsState)
    (messages : List (Incoming thingName)) (reporting : Reporting job state) :
    Along (handle json thingName)
        (fun before message => (handle json thingName before message).overrun = false ∧
          (handle json thingName before message).executionParam.job = job) state messages ↔
      ∀ message ∈ messages, Harmless json thingName job message := by
  induction messages generalizing state with
  | nil => simp [Along]
  | cons message rest ih =>
    rw [Along, List.forall_mem_cons, handle_reporting json thingName job state message reporting]
    apply and_congr_right
    intro harmless
    exact ih _ (reporting_kept json thingName job state message reporting harmless)

/-- The execution of a document leaves the job, and lowers the guard. -/
theorem afterExecution_reporting (inputs : DocumentInputs thingName) (next state : JobsState)
    (executed : state ∈ afterExecution json thingName misaligned coreHttp abi current inputs next)
    (calm : next.overrun = false) :
    Reporting next.executionParam.job (published (pointerSet state)) := by
  obtain ⟨document, _, rfl⟩ := Option.map_eq_some_iff.mp executed
  exact ⟨rfl, rfl, rfl, calm⟩

/-- The globals when the status update returns are those its last message leaves, but for
the flag. -/
theorem update_returned {View : Type} (view : JobsState → View)
    (inputs : DocumentInputs thingName) (state : JobsState)
    (kept : ∀ state, view (clearUpdate state) = view state) :
    view (iotJobsUpdateJobStatusProcedure json thingName inputs.update state).2 =
      view (execute (handle json thingName) (published (pointerSet state))
        (updateMessages json thingName inputs state)) :=
  request_view json thingName view JobsState.recvedMqttJobUpdateAcceptMsg clearUpdate inputs.update
    (pointerSet state) kept

/-- The job is stable during the status update exactly when its messages are harmless. -/
theorem updateMoments_iff (inputs : DocumentInputs thingName) (job : StartNextJob)
    (state : JobsState) (reporting : Reporting job (published (pointerSet state))) :
    (∀ moment ∈ updateMoments json thingName inputs state,
        moment.overrun = false ∧ moment.executionParam.job = job) ↔
      ∀ message ∈ updateMessages json thingName inputs state, Harmless json thingName job message := by
  have whole := forall_visited (handle json thingName)
    (fun moment => moment.overrun = false ∧ moment.executionParam.job = job)
    (published (pointerSet state)) (updateMessages json thingName inputs state)
  rw [along_reporting json thingName job _ _ reporting] at whole
  constructor
  · intro stable
    refine (whole.mp fun moment member => stable moment ?_).2
    exact List.mem_append_left _ (List.mem_cons_of_mem _ member)
  · intro harmless moment member
    have visited := whole.mpr ⟨⟨reporting.calm, reporting.job⟩, harmless⟩
    rcases List.mem_append.mp member with earlier | last
    · rcases List.mem_cons.mp earlier with rfl | passed
      · exact ⟨reporting.calm, reporting.job⟩
      · exact visited moment passed
    · have reached := visited _ (execute_visited (handle json thingName)
        (published (pointerSet state)) (updateMessages json thingName inputs state))
      rw [List.mem_singleton.mp last,
        update_returned json thingName JobsState.overrun inputs state fun _ => rfl,
        update_returned json thingName JobsState.executionParam inputs state fun _ => rfl]
      exact reached

/-- From the request for a job to its status update the record is stable exactly when the
messages that come in while the update is awaited are harmless. -/
theorem record_stable_iff (inputs : DocumentInputs thingName) (next : JobsState) :
    RecordStable json thingName misaligned coreHttp abi current inputs next ↔
      Undisturbed json thingName misaligned coreHttp abi current inputs next := by
  constructor
  · intro stable
    have calm := (stable.kept next List.mem_cons_self).1
    refine ⟨calm, fun state executed => ?_⟩
    rw [← updateMoments_iff json thingName inputs next.executionParam.job state
      (afterExecution_reporting json thingName misaligned coreHttp abi current inputs next state
        executed calm)]
    intro moment member
    apply stable.kept
    rw [moments, Option.mem_def.mp executed]
    exact List.mem_cons_of_mem _ (List.mem_cons_of_mem _ member)
  · rintro ⟨calm, harmless⟩
    constructor
    · intro moment member
      rcases List.mem_cons.mp member with rfl | member
      · exact ⟨calm, rfl⟩
      rcases List.mem_cons.mp member with rfl | member
      · exact ⟨calm, rfl⟩
      cases executed : afterExecution json thingName misaligned coreHttp abi current inputs next with
      | none =>
        rw [executed] at member
        cases member
      | some state =>
        rw [executed] at member
        exact (updateMoments_iff json thingName inputs _ state
          (afterExecution_reporting json thingName misaligned coreHttp abi current inputs next state
            executed calm)).mpr (harmless state executed) moment member
    · intro state executed
      have reporting := afterExecution_reporting json thingName misaligned coreHttp abi current
        inputs next state executed calm
      have published : state.executionParam.job = next.executionParam.job := reporting.job
      apply along_invariant (handle json thingName) (Reporting next.executionParam.job)
        (fun _ message => Harmless json thingName next.executionParam.job message) _
        (fun before message held allowed => reporting_kept json thingName _ before message held
          allowed) _ _ _ reporting
      · exact along_of_forall _ _ _ _ (harmless state executed)
      · intro before message held allowed jobId compares
        have later := reporting_kept json thingName _ before message held allowed
        rw [comparedId_idAfter json thingName before message jobId compares, ← idAfter_of_handled
          json thingName before _ message (handle_handled json thingName before message),
          JobsState.jobIdForEventCallback, if_pos later.isJobIdSet]
        exact congrArg StartNextJob.jobId (later.job.trans published.symm)

/-- A call that gets past its first wait executes the record it found there and reports. -/
theorem procedure_next (inputs : DocumentInputs thingName) (state next : JobsState)
    (reached : afterStartNext json thingName abi inputs state = some next) :
    iotJobsStartJobDocumentProcedure json thingName misaligned coreHttp abi current inputs state =
      (executeDocument json misaligned coreHttp abi current inputs.world (markStarted next)).map
        fun document => reportDocument json thingName misaligned abi inputs document
          (markStarted next) := by
  simp only [afterStartNext] at reached
  cases found : getFirstJobId state.awsJobIdList with
  | none =>
    rw [found] at reached
    cases reached
  | some jobId =>
    simp only [found] at reached
    simp only [iotJobsStartJobDocumentProcedure, found]
    split at reached
    next => cases reached
    next waiting =>
      split at reached
      next answered =>
        cases reached
        simp only [if_neg waiting, if_pos answered]
      next => cases reached

/-- The globals with which an iteration calls `iot_jobs_start_job_document_procedure`. -/
def called (state : Option TaskState) (iteration : Iteration thingName) : Option JobsState :=
  state.bind fun task =>
    if iteration.isLinkUp && iteration.isRunAwsIotJobs &&
        (opened thingName iteration task).isConnected then
      let got := (getJobs json thingName iteration (opened thingName iteration task)).2
      if isDocumentDue thingName iteration got then some got.jobs else none
    else none

/-- The call of an iteration decides how the task goes on. -/
theorem step_called (task : TaskState) (iteration : Iteration thingName) (jobs : JobsState)
    (calls : called json thingName (some task) iteration = some jobs) :
    ∃ got : TaskState, got.jobs = jobs ∧
      step json thingName misaligned coreHttp abi current (some task) iteration =
        (iotJobsStartJobDocumentProcedure json thingName misaligned coreHttp abi current
          iteration.document jobs).bind fun result =>
            if result.reboot then none
            else some { got with jobs := result.state, isConnected := result.ret } := by
  simp only [called, Option.bind_some] at calls
  split at calls
  next session =>
    rw [Bool.and_eq_true, Bool.and_eq_true] at session
    obtain ⟨⟨up, run⟩, connected⟩ := session
    split at calls
    next due =>
      cases calls
      refine ⟨_, rfl, ?_⟩
      simp only [step, Option.bind_some, iterate, up, run, connected, if_true, serve, startDocument,
        due]
    next => cases calls
  next => cases calls

/-- The record of the job that an iteration executes is stable until it is acknowledged. -/
def StableIteration (state : Option TaskState) (iteration : Iteration thingName) : Prop :=
  ∀ jobs ∈ called json thingName state iteration,
    ∀ next ∈ afterStartNext json thingName abi iteration.document jobs,
      RecordStable json thingName misaligned coreHttp abi current iteration.document next

/-- The messages of the wait that ends an iteration do not disturb its report. -/
def UndisturbedIteration (state : Option TaskState) (iteration : Iteration thingName) : Prop :=
  ∀ jobs ∈ called json thingName state iteration,
    ∀ next ∈ afterStartNext json thingName abi iteration.document jobs,
      Undisturbed json thingName misaligned coreHttp abi current iteration.document next

/-- An undisturbed iteration leaves the record of the job that it executed. -/
theorem undisturbed_keeps_job (task after : TaskState) (iteration : Iteration thingName)
    (jobs next : JobsState) (calls : called json thingName (some task) iteration = some jobs)
    (reached : afterStartNext json thingName abi iteration.document jobs = some next)
    (undisturbed : Undisturbed json thingName misaligned coreHttp abi current iteration.document next)
    (served : step json thingName misaligned coreHttp abi current (some task) iteration =
      some after) :
    after.jobs.executionParam.job = next.executionParam.job ∧ after.jobs.overrun = false := by
  obtain ⟨got, _, goesOn⟩ := step_called json thingName misaligned coreHttp abi current task
    iteration jobs calls
  rw [goesOn, procedure_next json thingName misaligned coreHttp abi current iteration.document jobs
    next reached] at served
  obtain ⟨result, returned, left⟩ := Option.bind_eq_some_iff.mp served
  obtain ⟨document, executed, isResult⟩ := Option.map_eq_some_iff.mp returned
  split at left
  next => cases left
  next =>
    cases left
    subst isResult
    have stable := (record_stable_iff json thingName misaligned coreHttp abi current
      iteration.document next).mpr undisturbed
    let reported := (iotJobsUpdateJobStatusProcedure json thingName iteration.document.update
      (afterDocument misaligned document (markStarted next))).2
    have isMoment : reported ∈ moments json thingName misaligned coreHttp abi current
        iteration.document next := by
      simp only [moments, afterExecution, executed, Option.map_some, Option.getD_some, updateMoments]
      refine List.mem_cons_of_mem _ (List.mem_cons_of_mem _ ?_)
      exact List.mem_append_right _ List.mem_cons_self
    have last := stable.kept reported isMoment
    dsimp only [reportDocument]
    split
    next => exact ⟨last.2, last.1⟩
    next => exact ⟨last.2, last.1⟩

/-- In a run the record of every job is stable until it is acknowledged exactly when no
wait for an update overruns a buffer or hands out anything but the job being reported. -/
theorem records_stable_iff (appCommon : Pointer) (flash : Contents UInt8)
    (timers : UInt32 × UInt32) (iterations : List (Iteration thingName)) :
    Along (step json thingName misaligned coreHttp abi current)
        (StableIteration json thingName misaligned coreHttp abi current)
        (some (TaskState.initial appCommon flash timers)) iterations ↔
      Along (step json thingName misaligned coreHttp abi current)
        (UndisturbedIteration json thingName misaligned coreHttp abi current)
        (some (TaskState.initial appCommon flash timers)) iterations := by
  apply along_congr
  intro state iteration
  constructor
  · intro stable jobs calls next reached
    exact (record_stable_iff json thingName misaligned coreHttp abi current iteration.document
      next).mp (stable jobs calls next reached)
  · intro undisturbed jobs calls next reached
    exact (record_stable_iff json thingName misaligned coreHttp abi current iteration.document
      next).mpr (undisturbed jobs calls next reached)

instance (job : StartNextJob) (message : Incoming thingName) :
    Decidable (Harmless json thingName job message) :=
  inferInstanceAs (Decidable (_ ∧ ∀ handed ∈ handedOut json thingName message, handed = job))

instance (inputs : DocumentInputs thingName) (next : JobsState) :
    Decidable (Undisturbed json thingName misaligned coreHttp abi current inputs next) :=
  inferInstanceAs (Decidable (_ ∧
    ∀ state ∈ afterExecution json thingName misaligned coreHttp abi current inputs next,
      ∀ message ∈ updateMessages json thingName inputs state,
        Harmless json thingName next.executionParam.job message))

instance (inputs : DocumentInputs thingName) (next : JobsState) :
    Decidable (RecordStable json thingName misaligned coreHttp abi current inputs next) :=
  decidable_of_iff _ (record_stable_iff json thingName misaligned coreHttp abi current inputs
    next).symm

instance (state : Option TaskState) (iteration : Iteration thingName) :
    Decidable (StableIteration json thingName misaligned coreHttp abi current state iteration) :=
  inferInstanceAs (Decidable (∀ jobs ∈ called json thingName state iteration,
    ∀ next ∈ afterStartNext json thingName abi iteration.document jobs,
      RecordStable json thingName misaligned coreHttp abi current iteration.document next))

/-- The job before the second one is handed out once more. -/
def otherJob : Incoming (ascii "eaas") :=
  .on _ .startNextAccepted
    (ascii "\x7b\"execution\":\x7b\"jobId\":\"job-1\"," ++
      ascii "\"jobDocument\":\x7b\"jobType\":\"TEST\"\x7d\x7d\x7d")
    (by decide +kernel)

/-- While the update of a job is awaited, a late answer hands out another one, which
replaces the record. -/
theorem late_job_replaces_record :
    ¬ Along (step nestedJson (ascii "eaas") (.ignored UInt8 256) exampleCoreHttp shortEnumAbi
        applicationVersion)
      (StableIteration nestedJson (ascii "eaas") (.ignored UInt8 256) exampleCoreHttp shortEnumAbi
        applicationVersion)
      (some (TaskState.initial (fun _ => 0) (fun _ => 0) (0, 0)))
      [iterationAt 0 [] [] [],
        iterationAt 11000 [pendingJobs] [secondJob] [otherJob, secondJobUpdated]] := by
  decide +kernel

end WiznetEaas.JobRecord
