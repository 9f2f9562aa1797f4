import WiznetEaas.JobProcedures

/-!
# The loop of aws_iot_jobs_task

The loop body, with its two timers and the state of the connection. A failed call closes
the session, and the next iteration opens it again. The globals of the handler outlive
the session, and messages come in only while a procedure waits. Connecting, closing and
the clock are given as outcomes.

Each iteration also lists the requests it made.
-/

namespace WiznetEaas.JobsTask

open NorFlash ByteMemory FlashControl DeviceCommon HttpInterface JobDocument JobList MqttMessages
  JobMessages JobProcedures

@[simp] abbrev iotJobsGetJobTimeMs : UInt32 := 10000
@[simp] abbrev iotJobsStartJobDocumentTimeMs : UInt32 := 1000

/-- A request, by the topic that accepts it: what the procedure returned, the messages
handled since its publish, and whether a buffer was overrun. -/
structure Request where
  topic : JobTopic
  returned : Bool
  handled : List PublishInfo
  overrun : Bool

def requestOf (topic : JobTopic) (result : Bool × JobsState) : Request :=
  ⟨topic, result.1, result.2.sincePublish, result.2.overrun⟩

/-- What an iteration learns from outside. -/
structure Iteration (thingName : List UInt8) where
  isLinkUp : Bool
  isRunAwsIotJobs : Bool
  connect : Bool
  connectTimeMs : UInt32 × UInt32
  currentTimeoutMs : UInt32
  getTimeMs : UInt32
  getJob : Exchange thingName
  document : DocumentInputs thingName

/-- The globals of the handler, the status of the session and the two timers. -/
structure TaskState where
  jobs : JobsState
  isConnected : Bool
  startGetJobTimeoutMs : UInt32
  startStartJobDocumentTimeoutMs : UInt32

/-- The task when its loop starts. The timers are not set before the first session. -/
def TaskState.initial (appCommon : Pointer) (flash : Contents UInt8) (timers : UInt32 × UInt32) :
    TaskState :=
  ⟨.initial appCommon flash, false, timers.1, timers.2⟩

variable (json : Json) (thingName : List UInt8) (misaligned : Misalignment UInt8 userFlashPageSize)
  (coreHttp : CoreHttp) (abi : Abi) (current : Version)

/-- The session is opened unless it is open. -/
def opened (iteration : Iteration thingName) (state : TaskState) : TaskState :=
  if state.isConnected then state
  else if iteration.connect then
    { state with
      isConnected := true
      startGetJobTimeoutMs := iteration.connectTimeMs.1
      startStartJobDocumentTimeoutMs := iteration.connectTimeMs.2 }
  else state

/-- The first timer has run out. -/
def isGetDue (iteration : Iteration thingName) (state : TaskState) : Bool :=
  decide (iotJobsGetJobTimeMs < iteration.currentTimeoutMs - state.startGetJobTimeoutMs)

/-- The request for the pending jobs. -/
def getJobs (iteration : Iteration thingName) (state : TaskState) : List Request × TaskState :=
  if isGetDue thingName iteration state then
    let result := iotJobsGetProcedure json thingName iteration.getJob state.jobs
    ([requestOf .getAccepted result],
      { state with
        jobs := result.2
        isConnected := result.1
        startGetJobTimeoutMs := iteration.getTimeMs })
  else ([], state)

/-- The second timer has run out, and the session was not closed before. -/
def isDocumentDue (iteration : Iteration thingName) (state : TaskState) : Bool :=
  state.isConnected && decide (iotJobsStartJobDocumentTimeMs <
    iteration.currentTimeoutMs - state.startStartJobDocumentTimeoutMs)

/-- The request of a call for the next job. -/
def startNextRequest (inputs : DocumentInputs thingName) (state : JobsState) : List Request :=
  if (getFirstJobId state.awsJobIdList).isSome && !state.executionParam.isJobStarted then
    [requestOf .startNextAccepted
      (iotJobsStartNextProcedure json thingName inputs.startNext (beforeStartNext abi state))]
  else []

/-- The request of a call that reports a document. -/
def updateRequest (result : Option ProcedureResult) : List Request :=
  ((result.bind ProcedureResult.carried).map fun carried =>
    ⟨.updateAccepted carried.update.jobId, carried.updated, carried.updateMessages,
      carried.before.overrun⟩).toList

/-- The execution of a job. The task does not go on after a reboot or a crash. -/
def startDocument (iteration : Iteration thingName) (state : TaskState) :
    List Request × Option TaskState :=
  if isDocumentDue thingName iteration state then
    let result := iotJobsStartJobDocumentProcedure json thingName misaligned coreHttp abi current
      iteration.document state.jobs
    (startNextRequest json thingName abi iteration.document state.jobs ++ updateRequest result,
      result.bind fun result =>
        if result.reboot then none
        else some { state with jobs := result.state, isConnected := result.ret })
  else ([], some state)

/-- The calls of an iteration in an open session. -/
def serve (iteration : Iteration thingName) (state : TaskState) :
    List Request × Option TaskState :=
  let got := getJobs json thingName iteration state
  let done := startDocument json thingName misaligned coreHttp abi current iteration got.2
  (got.1 ++ done.1, done.2)

/-- The loop body of `aws_iot_jobs_task`. -/
def iterate (iteration : Iteration thingName) (state : TaskState) :
    List Request × Option TaskState :=
  if iteration.isLinkUp then
    if iteration.isRunAwsIotJobs then
      let state := opened thingName iteration state
      if state.isConnected then serve json thingName misaligned coreHttp abi current iteration state
      else ([], some state)
    else ([], some { state with isConnected := false })
  else ([], some state)

/-- An iteration of the task, if it still runs. -/
def step (state : Option TaskState) (iteration : Iteration thingName) : Option TaskState :=
  state.bind fun state =>
    (iterate json thingName misaligned coreHttp abi current iteration state).2

/-- The requests of an iteration. -/
def requests (state : Option TaskState) (iteration : Iteration thingName) : List Request :=
  (state.map fun state =>
    (iterate json thingName misaligned coreHttp abi current iteration state).1).getD []

end WiznetEaas.JobsTask
