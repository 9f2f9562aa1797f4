import WiznetEaas.JobMessages
import WiznetEaas.Polling

/-!
# The procedures of the jobs session

A procedure publishes a request and waits for its answer. What the outside decides is
given to it: whether the publish succeeds, and the messages of the rounds of the wait.
`iot_jobs_start_job_document_procedure` goes through two such waits, with the execution
of the document between them, and reports beside its result what it did.
-/

namespace WiznetEaas.JobProcedures

open NorFlash ByteMemory CStrings FlashControl DeviceCommon HttpInterface OtaDownload JobDocument
  JobList MqttMessages JobMessages Polling

def jobsApiStatusFailed : List UInt8 := ascii "FAILED"
def jobsApiStatusSucceeded : List UInt8 := ascii "SUCCEEDED"

/-- The arguments of a status update. -/
structure StatusUpdate where
  jobId : List UInt8
  status : List UInt8
  log : List UInt8

/-- The topic a status update is published on. -/
def StatusUpdate.topic (thingName : List UInt8) (update : StatusUpdate) : List UInt8 :=
  jobsTopic thingName (topicOf (ascii "/jobs/") update.jobId (ascii "/update"))

/-- Its payload. -/
def StatusUpdate.payload (update : StatusUpdate) : List UInt8 :=
  ascii "\x7b\r\n   \"status\" : \"" ++ update.status ++ ascii "\", \r\n   \"logs\"   : \"" ++
    update.log ++ ascii "\" \r\n\x7d"

/-- What the outside does during a request. -/
structure Exchange (thingName : List UInt8) where
  publish : Bool
  rounds : List (List (Incoming thingName))

variable (json : Json) (thingName : List UInt8)

/-- The record of the messages starts anew with a publish. -/
def published (state : JobsState) : JobsState := { state with sincePublish := [] }

/-- A request: it is published, and then awaited by its flag. -/
def request (flag : JobsState → Bool) (clear : JobsState → JobsState)
    (exchange : Exchange thingName) (state : JobsState) : Bool × JobsState :=
  if exchange.publish then
    waitFlag (handle json thingName) flag clear (published state) exchange.rounds
  else (false, published state)

def clearGetJob (state : JobsState) : JobsState := { state with recvedMqttGetJobAcceptMsg := false }

def clearStartNext (state : JobsState) : JobsState :=
  { state with recvedMqttStartNextJobAcceptMsg := false }

def clearUpdate (state : JobsState) : JobsState :=
  { state with recvedMqttJobUpdateAcceptMsg := false }

/-- `iot_jobs_get_procedure`. -/
def iotJobsGetProcedure : Exchange thingName → JobsState → Bool × JobsState :=
  request json thingName JobsState.recvedMqttGetJobAcceptMsg clearGetJob

/-- `iot_jobs_start_next_procedure`. -/
def iotJobsStartNextProcedure : Exchange thingName → JobsState → Bool × JobsState :=
  request json thingName JobsState.recvedMqttStartNextJobAcceptMsg clearStartNext

/-- `iot_jobs_update_job_status_procedure`, called with the id of the record. -/
def iotJobsUpdateJobStatusProcedure (exchange : Exchange thingName) (state : JobsState) :
    Bool × JobsState :=
  request json thingName JobsState.recvedMqttJobUpdateAcceptMsg clearUpdate exchange
    { state with isJobIdSetForEventCallback := true }

/-- What a call that executed a document did: the messages of its first wait, the
record it executed, whether a buffer was overrun until then, the execution, the update,
and what its wait brought: the messages, the result and the state before the deletion. -/
structure Carried where
  startNextMessages : List PublishInfo
  executionParam : ExecutionParam
  overrun : Bool
  document : DocumentResult
  update : StatusUpdate
  updateMessages : List PublishInfo
  updated : Bool
  before : JobsState

/-- The result of `iot_jobs_start_job_document_procedure`. -/
structure ProcedureResult where
  ret : Bool
  reboot : Bool
  state : JobsState
  carried : Option Carried

/-- What the outside does during `iot_jobs_start_job_document_procedure`. -/
structure DocumentInputs (thingName : List UInt8) where
  startNext : Exchange thingName
  world : DownloadWorld
  update : Exchange thingName

variable (misaligned : Misalignment UInt8 userFlashPageSize) (coreHttp : CoreHttp) (abi : Abi)
  (current : Version)

/-- `start_job_document` on the record of the handler. -/
def executeDocument (world : DownloadWorld) (state : JobsState) : Option DocumentResult :=
  startJobDocument misaligned coreHttp abi json current world state.appCommon
    state.executionParam.toJobExecution state.flash

/-- The globals after the execution of a document. -/
def afterDocument (document : DocumentResult) (state : JobsState) : JobsState :=
  { state with
    executionParam := { state.executionParam with isJobStarted := false, jobOta := document.jobOta }
    appCommon := document.appCommon
    flash := (picoFlash misaligned).run document.flash state.flash }

/-- The status update of an execution. -/
def statusOf (document : DocumentResult) (state : JobsState) : StatusUpdate where
  jobId := state.executionParam.jobId
  status := if document.ret then jobsApiStatusSucceeded else jobsApiStatusFailed
  log := document.log

/-- The end of the procedure, from the execution of the document on. -/
def reportDocument (inputs : DocumentInputs thingName) (document : DocumentResult)
    (started : JobsState) : ProcedureResult :=
  let state := afterDocument misaligned document started
  let updated := iotJobsUpdateJobStatusProcedure json thingName inputs.update state
  let final :=
    if updated.1 then { updated.2 with awsJobIdList := delFirstJobId updated.2.awsJobIdList }
    else updated.2
  { ret := document.ret
    reboot := document.ret && enableReboot abi final.appCommon
    state := final
    carried := some {
      startNextMessages := started.sincePublish
      executionParam := started.executionParam
      overrun := started.overrun
      document := document
      update := statusOf document state
      updateMessages := updated.2.sincePublish
      updated := updated.1
      before := updated.2 } }

/-- The globals before the request for a job. -/
def beforeStartNext (state : JobsState) : JobsState :=
  { state with
    appCommon := setEnableReboot abi state.appCommon false
    executionParam := .cleared }

/-- A job is running. -/
def markStarted (state : JobsState) : JobsState :=
  { state with executionParam := { state.executionParam with isJobStarted := true } }

/-- `iot_jobs_start_job_document_procedure`. A document that stops in a null dereference
leaves no result. -/
def iotJobsStartJobDocumentProcedure (inputs : DocumentInputs thingName) (state : JobsState) :
    Option ProcedureResult :=
  let idle := { state with appCommon := setEnableReboot abi state.appCommon false }
  match getFirstJobId state.awsJobIdList with
  | none => some ⟨true, false, idle, none⟩
  | some _ =>
    if state.executionParam.isJobStarted then some ⟨true, false, idle, none⟩
    else
      let started := iotJobsStartNextProcedure json thingName inputs.startNext
        (beforeStartNext abi state)
      if started.1 then
        let state := markStarted started.2
        (executeDocument json misaligned coreHttp abi current inputs.world state).map
          fun document => reportDocument json thingName misaligned abi inputs document state
      else some ⟨false, false, started.2, none⟩

end WiznetEaas.JobProcedures
