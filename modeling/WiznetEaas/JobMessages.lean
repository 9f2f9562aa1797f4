import WiznetEaas.FlashControl
import WiznetEaas.JobDocument
import WiznetEaas.JobList
import WiznetEaas.MqttMessages

/-!
# The callback of the jobs session

`iot_jobs_event_callback` with its two parsers and the globals it shares with the
procedures. A buffer is represented by the string in it. A message with a string that
does not fit its buffer, terminator included, sets `overrun`: nothing is promised from
then on, although the definitions go on as if the buffer were longer.

A ghost field keeps the messages handled since the last publish, the newest first.
-/

namespace WiznetEaas.JobMessages

open NorFlash ByteMemory CStrings JobDocument JobList MqttMessages

@[simp] abbrev maxAwsJobDocumentSize : Nat := 4096
@[simp] abbrev maxAwsJobTypeSize : Nat := 64

def jobsTopic (thingName tail : List UInt8) : List UInt8 :=
  topicOf (ascii "$aws/things/") thingName tail

def jobsGetAccepted (thingName : List UInt8) : List UInt8 :=
  jobsTopic thingName (ascii "/jobs/get/accepted")

def jobsStartNextAccepted (thingName : List UInt8) : List UInt8 :=
  jobsTopic thingName (ascii "/jobs/start-next/accepted")

def jobsUpdateAccepted (thingName jobId : List UInt8) : List UInt8 :=
  jobsTopic thingName (topicOf (ascii "/jobs/") jobId (ascii "/update/accepted"))

/-- The topics on which AWS answers the requests of the session. -/
inductive JobTopic where
  | getAccepted
  | startNextAccepted
  | updateAccepted (jobId : List UInt8)
  | getRejected
  | startNextRejected
  | updateRejected (jobId : List UInt8)

def JobTopic.name (thingName : List UInt8) : JobTopic → List UInt8
  | .getAccepted => jobsGetAccepted thingName
  | .startNextAccepted => jobsStartNextAccepted thingName
  | .updateAccepted jobId => jobsUpdateAccepted thingName jobId
  | .getRejected => jobsTopic thingName (ascii "/jobs/get/rejected")
  | .startNextRejected => jobsTopic thingName (ascii "/jobs/start-next/rejected")
  | .updateRejected jobId =>
    jobsTopic thingName (topicOf (ascii "/jobs/") jobId (ascii "/update/rejected"))

/-- A message the broker delivers to the session. -/
structure Incoming (thingName : List UInt8) extends PublishInfo where
  topic : JobTopic
  named : topicName = topic.name thingName

/-- A message on a topic, with nothing behind the topic name. -/
def Incoming.on (thingName : List UInt8) (topic : JobTopic) (payload : List UInt8)
    (inBuffer : (topic.name thingName).length + payload.length ≤ mqttBufMaxSize) :
    Incoming thingName :=
  ⟨⟨topic.name thingName, [], payload, inBuffer⟩, topic, rfl⟩

/-- The value of a key, as the JSON library locates it. -/
def located (json : Json) (pPayload key : List UInt8) : Option (List UInt8) :=
  (json.search pPayload key).map fun span => (pPayload.drop span.1).take span.2

/-- `parsing_get_job_accepted`: the id it copies. -/
def parsingGetJobAccepted (json : Json) (pPayload : List UInt8) : Option (List UInt8) :=
  if json.validate pPayload then
    match located json pPayload (ascii "queuedJobs[0].jobId") with
    | none => none
    | some jobId => if jobId.length > maxAwsJobIdSize then none else some (cText jobId)
  else none

/-- The strings `parsing_start_next_job_accepted` copies. -/
structure StartNextJob where
  jobId : List UInt8
  jobDocument : List UInt8
  jobType : List UInt8

/-- `parsing_start_next_job_accepted`, which succeeds on all valid JSON. What is not
found stays as the callback prepared it: empty, or the id of its first branch. -/
def parsingStartNextJobAccepted (json : Json) (pPayload tempJobId : List UInt8) :
    Option StartNextJob :=
  if json.validate pPayload then
    some {
      jobId := ((located json pPayload (ascii "execution.jobId")).map cText).getD tempJobId
      jobDocument := ((located json pPayload (ascii "execution.jobDocument")).map cText).getD []
      jobType := ((located json pPayload (ascii "execution.jobDocument.jobType")).map cText).getD []
    }
  else none

/-- Whether a located value leaves no room for its terminator. -/
def tooLong (size : Nat) (value : Option (List UInt8)) : Bool :=
  value.any fun text => decide (size ≤ text.length)

/-- Whether the three copies of a start-next message overrun their buffers. -/
def startNextOverruns (json : Json) (pPayload : List UInt8) : Bool :=
  json.validate pPayload &&
    (tooLong maxAwsJobIdSize (located json pPayload (ascii "execution.jobId")) ||
      tooLong maxAwsJobDocumentSize (located json pPayload (ascii "execution.jobDocument")) ||
      tooLong maxAwsJobTypeSize (located json pPayload (ascii "execution.jobDocument.jobType")))

/-- `AWS_JOBS_EXECUTION_PARAMS_t`. -/
structure ExecutionParam extends JobExecution where
  isJobStarted : Bool
  jobId : List UInt8

/-- The record after `memset`. -/
def ExecutionParam.cleared : ExecutionParam := ⟨⟨[], [], fun _ => 0⟩, false, []⟩

/-- The strings of the record that a start-next message fills. -/
def ExecutionParam.job (param : ExecutionParam) : StartNextJob :=
  ⟨param.jobId, param.jobDocument, param.jobType⟩

def ExecutionParam.takeOver (param : ExecutionParam) (job : StartNextJob) : ExecutionParam :=
  { param with jobId := job.jobId, jobDocument := job.jobDocument, jobType := job.jobType }

/-- The globals of the handler, the device's configuration record and the flash. -/
structure JobsState where
  executionParam : ExecutionParam
  awsJobIdList : JobIdList
  isJobIdSetForEventCallback : Bool
  recvedMqttGetJobAcceptMsg : Bool
  recvedMqttStartNextJobAcceptMsg : Bool
  recvedMqttJobUpdateAcceptMsg : Bool
  appCommon : Pointer
  flash : Contents UInt8
  overrun : Bool
  sincePublish : List PublishInfo

/-- The string at `p_aws_job_id_for_event_callback`, which points at the id of the
record once it is set. A null pointer is printed as such. -/
def JobsState.jobIdForEventCallback (state : JobsState) : List UInt8 :=
  if state.isJobIdSetForEventCallback then state.executionParam.jobId else ascii "(null)"

/-- The globals before the task runs. -/
def JobsState.initial (appCommon : Pointer) (flash : Contents UInt8) : JobsState where
  executionParam := .cleared
  awsJobIdList := JobList.empty
  isJobIdSetForEventCallback := false
  recvedMqttGetJobAcceptMsg := false
  recvedMqttStartNextJobAcceptMsg := false
  recvedMqttJobUpdateAcceptMsg := false
  appCommon := appCommon
  flash := flash
  overrun := false
  sincePublish := []

variable (json : Json) (thingName : List UInt8)

/-- The first branch of the callback: whether it returns, the id left in the local
buffer, and the state. An id that fills the buffer has no terminator there. -/
def getAcceptedBranch (info : PublishInfo) (state : JobsState) : Bool × List UInt8 × JobsState :=
  if info.topicEqual (jobsGetAccepted thingName) info.topicName.length then
    let state := { state with recvedMqttGetJobAcceptMsg := true }
    match parsingGetJobAccepted json info.payload with
    | none => (false, [], state)
    | some jobId =>
      let state := { state with
        overrun := state.overrun || decide (maxAwsJobIdSize ≤ jobId.length) }
      if isExistJobId state.awsJobIdList jobId then (true, jobId, state)
      else
        match addJobId state.awsJobIdList jobId with
        | none => (true, jobId, state)
        | some added => (false, jobId, { state with awsJobIdList := added })
  else (false, [], state)

/-- The second branch. A job is taken over unless one is running. -/
def startNextAcceptedBranch (info : PublishInfo) (tempJobId : List UInt8) (state : JobsState) :
    JobsState :=
  if info.topicEqual (jobsStartNextAccepted thingName) info.topicName.length then
    let state := { state with recvedMqttStartNextJobAcceptMsg := true }
    match parsingStartNextJobAccepted json info.payload tempJobId with
    | none => state
    | some job =>
      let state := { state with overrun := state.overrun || startNextOverruns json info.payload }
      if state.executionParam.isJobStarted then state
      else { state with executionParam := state.executionParam.takeOver job }
  else state

/-- The third branch. -/
def updateAcceptedBranch (info : PublishInfo) (state : JobsState) : JobsState :=
  if info.topicEqual (jobsUpdateAccepted thingName state.jobIdForEventCallback)
      info.topicName.length then
    { state with recvedMqttJobUpdateAcceptMsg := true }
  else state

/-- `iot_jobs_event_callback` on a PUBLISH packet. -/
def iotJobsEventCallback (state : JobsState) (info : PublishInfo) : JobsState :=
  let state := { state with sincePublish := info :: state.sincePublish }
  let first := getAcceptedBranch json thingName info state
  if first.1 then first.2.2
  else updateAcceptedBranch thingName info
    (startNextAcceptedBranch json thingName info first.2.1 first.2.2)

/-- The callback on a delivered message. -/
def handle (state : JobsState) (message : Incoming thingName) : JobsState :=
  iotJobsEventCallback json thingName state message.toPublishInfo

end WiznetEaas.JobMessages
