import WiznetEaas.JobDispatch

/-!
# What a call of iot_jobs_start_job_document_procedure does

A call gets past its first wait when the list is occupied, no job is running and the
request for the next job is answered. Which messages answer it depends on the state only
through one flag, and the record it executes is that of the last job handed out by them.
-/

namespace WiznetEaas.JobCalls

open NorFlash ByteMemory CStrings FlashControl DeviceCommon HttpInterface JobDocument JobList
  MqttMessages JobMessages JobProcedures JobDispatch Runs Polling

variable (json : Json) (thingName : List UInt8) (misaligned : Misalignment UInt8 userFlashPageSize)
  (coreHttp : CoreHttp) (abi : Abi) (current : Version)

/-- The messages of the first wait of a call that gets past it. -/
def started (inputs : DocumentInputs thingName) (state : JobsState) :
    Option (List (Incoming thingName)) :=
  if (getFirstJobId state.awsJobIdList).isSome && !state.executionParam.isJobStarted then
    startNextAnswer thingName state.recvedMqttStartNextJobAcceptMsg inputs.startNext
  else none

/-- The messages handled in the first wait of a call. -/
def startNextHandled (inputs : DocumentInputs thingName) (state : JobsState) :
    List (Incoming thingName) :=
  if (getFirstJobId state.awsJobIdList).isSome && !state.executionParam.isJobStarted then
    handledIn json thingName JobsState.recvedMqttStartNextJobAcceptMsg inputs.startNext
      (beforeStartNext abi state)
  else []

/-- The globals when a document is executed. -/
def executing (state : JobsState) (messages : List (Incoming thingName)) : JobsState :=
  markStarted (clearStartNext (execute (handle json thingName)
    (published (beforeStartNext abi state)) messages))

/-- The record those messages leave. -/
def delivered (messages : List (Incoming thingName)) : ExecutionParam :=
  ((lastJob json thingName messages).map ExecutionParam.cleared.takeOver).getD .cleared

theorem delivered_job (messages : List (Incoming thingName)) (job : StartNextJob)
    (last : lastJob json thingName messages = some job) :
    (delivered json thingName messages).job = job := by
  simp only [delivered]
  rw [last]
  rfl

/-- The execution of that record. -/
def execution (inputs : DocumentInputs thingName) (state : JobsState)
    (messages : List (Incoming thingName)) : Option DocumentResult :=
  startJobDocument misaligned coreHttp abi json current inputs.world
    (setEnableReboot abi state.appCommon false)
    (delivered json thingName messages).toJobExecution state.flash

/-- What the globals hold when a document is executed. -/
structure Started (before : JobsState) (messages : List (Incoming thingName))
    (state : JobsState) : Prop where
  executionParam : state.executionParam =
    { delivered json thingName messages with isJobStarted := true }
  appCommon : state.appCommon = setEnableReboot abi before.appCommon false
  flash : state.flash = before.flash
  overrun : state.overrun = (before.overrun || messages.any (overruns json thingName))
  sincePublish : state.sincePublish =
    (messages.map fun message => message.toPublishInfo).reverse
  queue : (queued before.awsJobIdList).Sublist (queued state.awsJobIdList)
  head : first state.awsJobIdList = first before.awsJobIdList
  occupied : first state.awsJobIdList ≠ []
  count : (queued state.awsJobIdList).count (first before.awsJobIdList) =
    (queued before.awsJobIdList).count (first before.awsJobIdList)

/-- The record is delivered as the messages hand jobs out. -/
theorem executing_started (state : JobsState) (messages : List (Incoming thingName))
    (occupied : first state.awsJobIdList ≠ []) :
    Started json thingName abi state messages (executing json thingName abi state messages) := by
  have handled := messages_handled json thingName
    (published (beforeStartNext abi state)) messages
  have head := handled.head occupied
  constructor
  · dsimp only [executing, markStarted, clearStartNext]
    rw [handled.executionParam rfl]
    rfl
  · exact handled.appCommon
  · exact handled.flash
  · exact handled.overrun
  · exact handled.sincePublish.trans (List.append_nil _)
  · exact handled.queue
  · exact head
  · dsimp only [executing, markStarted, clearStartNext]
    rw [head]
    exact occupied
  · exact handled.count occupied

/-- Only what the messages deliver enters the execution. -/
theorem executeDocument_started (inputs : DocumentInputs thingName) (before state : JobsState)
    (messages : List (Incoming thingName))
    (shape : Started json thingName abi before messages state) :
    executeDocument json misaligned coreHttp abi current inputs.world state =
      execution json thingName misaligned coreHttp abi current inputs before messages := by
  simp only [executeDocument, execution]
  rw [shape.executionParam, shape.appCommon, shape.flash]

/-- A call that gets past its first wait executes the delivered record and reports. -/
theorem procedure_started (inputs : DocumentInputs thingName) (state : JobsState)
    (messages : List (Incoming thingName))
    (reached : started thingName inputs state = some messages) :
    Started json thingName abi state messages (executing json thingName abi state messages) ∧
      iotJobsStartJobDocumentProcedure json thingName misaligned coreHttp abi current inputs state =
        (execution json thingName misaligned coreHttp abi current inputs state messages).map
          fun document => reportDocument json thingName misaligned abi inputs document
            (executing json thingName abi state messages) := by
  simp only [started] at reached
  split at reached
  next entered =>
    rw [Bool.and_eq_true, Bool.not_eq_true'] at entered
    obtain ⟨occupied, waiting⟩ := entered
    obtain ⟨jobId, found⟩ := Option.isSome_iff_exists.mp occupied
    obtain ⟨isFirst, nonempty⟩ := getFirstJobId_some state.awsJobIdList jobId found
    have shape := executing_started json thingName abi state messages (isFirst ▸ nonempty)
    refine ⟨shape, ?_⟩
    have answered := request_answered json thingName JobsState.recvedMqttStartNextJobAcceptMsg
      clearStartNext inputs.startNext (beforeStartNext abi state)
    rw [handledIn, (answer_startNext json thingName inputs.startNext
      (beforeStartNext abi state)).trans reached] at answered
    simp only [iotJobsStartJobDocumentProcedure]
    simp only [found, waiting, iotJobsStartNextProcedure, answered, Option.isSome_some, if_true,
      Bool.false_eq_true, if_false, Option.getD_some]
    rw [← executing, executeDocument_started json thingName misaligned coreHttp abi current inputs
      state _ messages shape]
  next => cases reached

/-- The messages of an answered first wait. -/
theorem startNextHandled_started (inputs : DocumentInputs thingName) (state : JobsState)
    (messages : List (Incoming thingName))
    (reached : started thingName inputs state = some messages) :
    startNextHandled json thingName abi inputs state = messages := by
  simp only [started] at reached
  simp only [startNextHandled]
  split at reached
  next entered =>
    rw [if_pos entered, handledIn, (answer_startNext json thingName inputs.startNext
      (beforeStartNext abi state)).trans reached, Option.getD_some]
  next => cases reached

/-- Any other call carries out nothing, and takes nothing from the list. -/
theorem procedure_unstarted (inputs : DocumentInputs thingName) (state : JobsState)
    (unreached : started thingName inputs state = none) :
    ∃ result, iotJobsStartJobDocumentProcedure json thingName misaligned coreHttp abi current
        inputs state = some result ∧
      result.carried = none ∧
      result.state.overrun = (state.overrun ||
        (startNextHandled json thingName abi inputs state).any (overruns json thingName)) ∧
      (queued state.awsJobIdList).Sublist (queued result.state.awsJobIdList) := by
  simp only [started] at unreached
  simp only [startNextHandled, iotJobsStartJobDocumentProcedure]
  cases found : getFirstJobId state.awsJobIdList with
  | none => exact ⟨_, rfl, rfl, (Bool.or_false _).symm, List.Sublist.refl _⟩
  | some jobId =>
    dsimp only
    split
    next running =>
      rw [running]
      exact ⟨_, rfl, rfl, (Bool.or_false _).symm, List.Sublist.refl _⟩
    next waiting =>
      rw [found, Bool.eq_false_iff.mpr waiting] at unreached
      have answered := request_answered json thingName JobsState.recvedMqttStartNextJobAcceptMsg
        clearStartNext inputs.startNext (beforeStartNext abi state)
      rw [(answer_startNext json thingName inputs.startNext (beforeStartNext abi state)).trans
        unreached] at answered
      have handled := messages_handled json thingName (published (beforeStartNext abi state))
        (handledIn json thingName JobsState.recvedMqttStartNextJobAcceptMsg inputs.startNext
          (beforeStartNext abi state))
      simp only [iotJobsStartNextProcedure, answered, Option.isSome_none, Bool.false_eq_true,
        if_false]
      rw [Bool.eq_false_iff.mpr waiting]
      exact ⟨_, rfl, rfl, handled.overrun, handled.queue⟩

/-- The globals when the status update of a call is requested. -/
def updating (state : JobsState) (messages : List (Incoming thingName))
    (document : DocumentResult) : JobsState :=
  { afterDocument misaligned document (executing json thingName abi state messages) with
    isJobIdSetForEventCallback := true }

/-- The messages that end the wait for the update. -/
def updateAnswer (inputs : DocumentInputs thingName) (state : JobsState)
    (messages : List (Incoming thingName)) (document : DocumentResult) :
    Option (List (Incoming thingName)) :=
  answer json thingName JobsState.recvedMqttJobUpdateAcceptMsg inputs.update
    (updating json thingName misaligned abi state messages document)

/-- The messages handled in that wait. -/
def updateHandled (inputs : DocumentInputs thingName) (state : JobsState)
    (messages : List (Incoming thingName)) (document : DocumentResult) :
    List (Incoming thingName) :=
  handledIn json thingName JobsState.recvedMqttJobUpdateAcceptMsg inputs.update
    (updating json thingName misaligned abi state messages document)

/-- No buffer was overrun before, and all messages fit. -/
def Fitting (state : JobsState) (messages : List (Incoming thingName)) : Prop :=
  state.overrun = false ∧ ∀ message ∈ messages, overruns json thingName message = false

theorem fitting_iff (state : JobsState) (messages : List (Incoming thingName)) :
    Fitting json thingName state messages ↔
      (state.overrun || messages.any (overruns json thingName)) = false := by
  rw [Fitting, Bool.or_eq_false_iff, List.any_eq_false]
  simp

/-- What a call reports of the messages of its first wait, of the execution and of the
update. -/
structure ReportOf (inputs : DocumentInputs thingName) (before : JobsState)
    (messages : List (Incoming thingName)) (document : DocumentResult) (carried : Carried) :
    Prop where
  startNextMessages : carried.startNextMessages =
    (messages.map fun message => message.toPublishInfo).reverse
  job : carried.executionParam.job = (delivered json thingName messages).job
  overrun : carried.overrun = (before.overrun || messages.any (overruns json thingName))
  executed : carried.document = document
  jobId : carried.update.jobId = (delivered json thingName messages).jobId
  status : carried.update.status =
    if document.ret then jobsApiStatusSucceeded else jobsApiStatusFailed
  updateMessages : carried.updateMessages = ((updateHandled json thingName misaligned abi inputs
    before messages document).map fun message => message.toPublishInfo).reverse
  updated : carried.updated =
    (updateAnswer json thingName misaligned abi inputs before messages document).isSome

/-- What the update of a call does to the list: it may grow, and an answered update
deletes its head. -/
structure Reported (inputs : DocumentInputs thingName) (before : JobsState)
    (messages : List (Incoming thingName)) (document : DocumentResult) (result : ProcedureResult)
    (grown : JobIdList) : Prop where
  carried : ∃ carried, result.carried = some carried ∧
    ReportOf json thingName misaligned abi inputs before messages document carried ∧
    carried.before.overrun = result.state.overrun
  overrun : result.state.overrun = (before.overrun || (messages ++ updateHandled json thingName
    misaligned abi inputs before messages document).any (overruns json thingName))
  list : result.state.awsJobIdList =
    if (updateAnswer json thingName misaligned abi inputs before messages document).isSome then
      delFirstJobId grown
    else grown
  queue : (queued before.awsJobIdList).Sublist (queued grown)
  head : first grown = first before.awsJobIdList
  occupied : first grown ≠ []
  count : (queued grown).count (first before.awsJobIdList) =
    (queued before.awsJobIdList).count (first before.awsJobIdList)

theorem reportDocument_reported (inputs : DocumentInputs thingName) (state : JobsState)
    (messages : List (Incoming thingName)) (document : DocumentResult)
    (shape : Started json thingName abi state messages
      (executing json thingName abi state messages)) :
    ∃ grown, Reported json thingName misaligned abi inputs state messages document
      (reportDocument json thingName misaligned abi inputs document
        (executing json thingName abi state messages)) grown := by
  have handled := messages_handled json thingName
    (published (updating json thingName misaligned abi state messages document))
    (updateHandled json thingName misaligned abi inputs state messages document)
  have returned := request_returned json thingName JobsState.recvedMqttJobUpdateAcceptMsg
    clearUpdate inputs.update (updating json thingName misaligned abi state messages document)
  have view {View : Type} (view : JobsState → View) := request_view json thingName view
    JobsState.recvedMqttJobUpdateAcceptMsg clearUpdate inputs.update
    (updating json thingName misaligned abi state messages document)
  have overrun := (view JobsState.overrun fun _ => rfl).trans (handled.overrun.trans
    (congrArg (· || _) shape.overrun))
  rw [Bool.or_assoc, ← List.any_append] at overrun
  have list := view JobsState.awsJobIdList fun _ => rfl
  have counted : List.count (first (executing json thingName abi state messages).awsJobIdList) _ =
      (queued (executing json thingName abi state messages).awsJobIdList).count
        (first (executing json thingName abi state messages).awsJobIdList) :=
    handled.count shape.occupied
  rw [shape.head] at counted
  refine ⟨(execute (handle json thingName)
    (published (updating json thingName misaligned abi state messages document))
    (updateHandled json thingName misaligned abi inputs state messages document)).awsJobIdList, ?_⟩
  constructor
  · have told := (view JobsState.sincePublish fun _ => rfl).trans
      (handled.sincePublish.trans (List.append_nil _))
    have job : (executing json thingName abi state messages).executionParam.job =
        (delivered json thingName messages).job := by
      rw [shape.executionParam]
      rfl
    refine ⟨_, rfl, ⟨shape.sincePublish, job, shape.overrun, rfl, congrArg StartNextJob.jobId job,
      rfl, told, returned⟩, ?_⟩
    dsimp only [reportDocument]
    split
    · rfl
    · rfl
  · dsimp only [reportDocument]
    split
    · exact overrun
    · exact overrun
  · rw [updateAnswer, ← returned]
    dsimp only [reportDocument]
    split
    next success => exact (congrArg delFirstJobId list).trans (if_pos success).symm
    next failure => exact list.trans (if_neg failure).symm
  · exact shape.queue.trans handled.queue
  · exact (handled.head shape.occupied).trans shape.head
  · rw [handled.head shape.occupied]
    exact shape.occupied
  · exact counted.trans shape.count

/-- A device with one pending job. -/
def pendingState : JobsState :=
  { JobsState.initial (fun _ => 0) (fun _ => 0) with
    awsJobIdList := ⟨[ascii "job-1", [], [], [], []], rfl⟩ }

end WiznetEaas.JobCalls
