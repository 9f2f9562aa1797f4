import WiznetEaas.CBuffers
import WiznetEaas.CFormat
import WiznetEaas.FleetProvisioning
import WiznetEaas.JobProcedures

/-!
# The formatted strings of the handlers

Every `sprintf` of the jobs handler and of the provisioning handler, with its
destination, its format and its arguments. The text fields of the device's record are
strings of their declared sizes. The destinations hold the longest of them, but for the
two client ids: their array is smaller than the thing name's.
-/

namespace WiznetEaas.FormattedStrings

open CStrings CFormat MqttMessages JobMessages JobProcedures FleetProvisioning

@[simp] abbrev maxMqttClientIdSize : Nat := 50
@[simp] abbrev maxMqttTopicSize : Nat := 256
@[simp] abbrev maxJobsDocumentLogSize : Nat := 512
@[simp] abbrev sizeofPubMsgBuf : Nat := 1024

/-- An array of some size with a string in it, its terminator included. -/
structure Field (size : Nat) where
  text : List UInt8
  isText : IsText text
  inside : text.length < size

/-- The fields of `DEVICE_INFO_t` that are formatted. -/
structure DeviceInfo where
  thingName : Field 64
  location : Field 64
  manufacturer : Field 64
  awsTemplateName : Field 64

/-- The statuses the handler reports. -/
inductive JobStatus where
  | failed
  | succeeded
  deriving DecidableEq

def JobStatus.text : JobStatus → List UInt8
  | .failed => jobsApiStatusFailed
  | .succeeded => jobsApiStatusSucceeded

/-- What the handlers format. A job id that is not set yet prints as `(null)`, and the
numbers of the running version are given by their decimal texts. -/
structure Inputs where
  deviceInfo : DeviceInfo
  ownershipToken : Field 512
  jobId : Field 64
  jobStatus : JobStatus
  processLog : Field 512
  versionMajor : Field 12
  versionMinor : Field 12
  versionPatch : Field 12
  firmwareVersion : Field 64

/-- One call of `sprintf`. -/
structure Call where
  destination : Nat
  format : List UInt8
  arguments : List (List UInt8)

/-- It writes no more than its destination holds. -/
def Call.Fits (call : Call) : Prop := sprintfWrites call.format call.arguments ≤ call.destination

def awsSubTopicJobsGetAccepted : List UInt8 := ascii "$aws/things/%s/jobs/get/accepted"

def awsSubTopicJobsStartNextAccepted : List UInt8 :=
  ascii "$aws/things/%s/jobs/start-next/accepted"

def awsSubTopicJobsUpdateAccepted : List UInt8 := ascii "$aws/things/%s/jobs/%s/update/accepted"

def awsPubTopicJobsGet : List UInt8 := ascii "$aws/things/%s/jobs/get"
def awsPubTopicJobsStartNext : List UInt8 := ascii "$aws/things/%s/jobs/start-next"
def awsPubTopicJobsUpdate : List UInt8 := ascii "$aws/things/%s/jobs/%s/update"

def awsJobsUpdateParameters : List UInt8 :=
  ascii "\x7b\r\n   \"status\" : \"%s\", \r\n   \"logs\"   : \"%s\" \r\n\x7d"

def invalidVersionLog : List UInt8 :=
  ascii "Invalid Firmware Version. Current Version : %d.%d.%d, Update Version : %s"

def awsSubTopicRegisterThingAccepted : List UInt8 :=
  ascii "$aws/provisioning-templates/%s/provision/json/accepted"

def awsSubTopicRegisterThingRejected : List UInt8 :=
  ascii "$aws/provisioning-templates/%s/provision/json/rejected"

def awsPubTopicRegisterThing : List UInt8 := ascii "$aws/provisioning-templates/%s/provision/json"

def awsRegisterThingParameters : List UInt8 :=
  ascii "\x7b\r\n   \"certificateOwnershipToken\" : \"%s\",\r\n   \"parameters\" : \x7b\r\n" ++
  ascii "       \"SerialNumber\" : \"%s\",\r\n       \"DeviceLocation\" : \"%s\",\r\n" ++
  ascii "       \"Manufacturer\" : \"%s\"\r\n   \x7d\r\n\x7d"

/-- The places that format a string. -/
inductive Site where
  | jobsEventCallbackGet
  | jobsEventCallbackStartNext
  | jobsEventCallbackUpdate
  | iotJobsGetProcedure
  | startJobDocumentLog
  | iotJobsStartNextProcedure
  | iotJobsUpdateJobStatusTopic
  | iotJobsUpdateJobStatusPayload
  | iotJobsMqttConnect
  | subscribeJobsGetTopic
  | unsubscribeJobsGetTopic
  | subscribeJobsStartNextTopic
  | unsubscribeJobsStartNextTopic
  | subscribeJobsUpdateTopic
  | unsubscribeJobsUpdateTopic
  | fleetEventCallbackAccepted
  | fleetEventCallbackRejected
  | processRegisterThingAccepted
  | processRegisterThingRejected
  | processRegisterThingTopic
  | processRegisterThingPayload
  | fleetProvisioningHandle
  deriving DecidableEq

/-- The call at a place. The unsubscription of the update topic formats the topic of the
next job, with an argument too many. -/
def Site.call (inputs : Inputs) : Site → Call :=
  let thingName := inputs.deviceInfo.thingName.text
  let awsTemplateName := inputs.deviceInfo.awsTemplateName.text
  let jobId := inputs.jobId.text
  fun
  | .jobsEventCallbackGet => ⟨maxMqttTopicSize, awsSubTopicJobsGetAccepted, [thingName]⟩
  | .jobsEventCallbackStartNext =>
    ⟨maxMqttTopicSize, awsSubTopicJobsStartNextAccepted, [thingName]⟩
  | .jobsEventCallbackUpdate =>
    ⟨maxMqttTopicSize, awsSubTopicJobsUpdateAccepted, [thingName, jobId]⟩
  | .iotJobsGetProcedure => ⟨maxMqttTopicSize, awsPubTopicJobsGet, [thingName]⟩
  | .startJobDocumentLog =>
    ⟨maxJobsDocumentLogSize, invalidVersionLog,
      [inputs.versionMajor.text, inputs.versionMinor.text, inputs.versionPatch.text,
        inputs.firmwareVersion.text]⟩
  | .iotJobsStartNextProcedure => ⟨maxMqttTopicSize, awsPubTopicJobsStartNext, [thingName]⟩
  | .iotJobsUpdateJobStatusTopic => ⟨maxMqttTopicSize, awsPubTopicJobsUpdate, [thingName, jobId]⟩
  | .iotJobsUpdateJobStatusPayload =>
    ⟨sizeofPubMsgBuf, awsJobsUpdateParameters, [inputs.jobStatus.text, inputs.processLog.text]⟩
  | .iotJobsMqttConnect => ⟨maxMqttClientIdSize, ascii "%s", [thingName]⟩
  | .subscribeJobsGetTopic => ⟨maxMqttTopicSize, awsSubTopicJobsGetAccepted, [thingName]⟩
  | .unsubscribeJobsGetTopic => ⟨maxMqttTopicSize, awsSubTopicJobsGetAccepted, [thingName]⟩
  | .subscribeJobsStartNextTopic =>
    ⟨maxMqttTopicSize, awsSubTopicJobsStartNextAccepted, [thingName]⟩
  | .unsubscribeJobsStartNextTopic =>
    ⟨maxMqttTopicSize, awsSubTopicJobsStartNextAccepted, [thingName]⟩
  | .subscribeJobsUpdateTopic =>
    ⟨maxMqttTopicSize, awsSubTopicJobsUpdateAccepted, [thingName, jobId]⟩
  | .unsubscribeJobsUpdateTopic =>
    ⟨maxMqttTopicSize, awsSubTopicJobsStartNextAccepted, [thingName, jobId]⟩
  | .fleetEventCallbackAccepted =>
    ⟨maxMqttTopicSize, awsSubTopicRegisterThingAccepted, [awsTemplateName]⟩
  | .fleetEventCallbackRejected =>
    ⟨maxMqttTopicSize, awsSubTopicRegisterThingRejected, [awsTemplateName]⟩
  | .processRegisterThingAccepted => ⟨256, awsSubTopicRegisterThingAccepted, [awsTemplateName]⟩
  | .processRegisterThingRejected => ⟨256, awsSubTopicRegisterThingRejected, [awsTemplateName]⟩
  | .processRegisterThingTopic => ⟨256, awsPubTopicRegisterThing, [awsTemplateName]⟩
  | .processRegisterThingPayload =>
    ⟨sizeofPubMsgBuf, awsRegisterThingParameters,
      [inputs.ownershipToken.text, thingName, inputs.deviceInfo.location.text,
        inputs.deviceInfo.manufacturer.text]⟩
  | .fleetProvisioningHandle => ⟨maxMqttClientIdSize, ascii "%s", [thingName]⟩

/-- The two places whose destination is the array of a client id. -/
def Site.isClientId : Site → Bool
  | .iotJobsMqttConnect => true
  | .fleetProvisioningHandle => true
  | _ => false

/-- A string prints whole. -/
theorem field_length {size : Nat} (field : Field size) : (cText field.text).length < size := by
  rw [CBuffers.cText_whole field.text field.isText]
  exact field.inside

/-- A topic with one name in it fits. -/
theorem oneName_fits (format : List UInt8) (name : Field 64) (spare : List (List UInt8))
    (short : literals format ≤ 192) (places : conversions format = 1) :
    Call.Fits ⟨maxMqttTopicSize, format, name.text :: spare⟩ := by
  have inside := field_length name
  simp only [Call.Fits, sprintfWrites_exact, places, List.take_succ_cons, List.take_zero,
    List.map_cons, List.map_nil, List.sum_cons, List.sum_nil, maxMqttTopicSize]
  omega

/-- A topic with two names in it fits. -/
theorem twoNames_fit (format : List UInt8) (first second : Field 64)
    (short : literals format ≤ 129) (places : conversions format = 2) :
    Call.Fits ⟨maxMqttTopicSize, format, [first.text, second.text]⟩ := by
  have firstInside := field_length first
  have secondInside := field_length second
  simp only [Call.Fits, sprintfWrites_exact, places, List.take_succ_cons, List.take_nil,
    List.map_cons, List.map_nil, List.sum_cons, List.sum_nil, maxMqttTopicSize]
  omega

/-- The payload of a status update fits. -/
theorem updatePayload_fits (inputs : Inputs) :
    (Site.iotJobsUpdateJobStatusPayload.call inputs).Fits := by
  have status : (cText inputs.jobStatus.text).length ≤ 9 := by
    cases inputs.jobStatus <;> simp only [JobStatus.text] <;> decide +kernel
  have log := field_length inputs.processLog
  have copied : literals awsJobsUpdateParameters = 43 := by decide +kernel
  have places : conversions awsJobsUpdateParameters = 2 := by decide +kernel
  simp only [Site.call, Call.Fits, sprintfWrites_exact, copied, places, List.take_succ_cons,
    List.take_nil, List.map_cons, List.map_nil, List.sum_cons, List.sum_nil, sizeofPubMsgBuf]
  omega

/-- The log of a refused version fits. -/
theorem versionLog_fits (inputs : Inputs) : (Site.startJobDocumentLog.call inputs).Fits := by
  have major := field_length inputs.versionMajor
  have minor := field_length inputs.versionMinor
  have patch := field_length inputs.versionPatch
  have version := field_length inputs.firmwareVersion
  have copied : literals invalidVersionLog ≤ 100 := by decide +kernel
  have places : conversions invalidVersionLog = 4 := by decide +kernel
  simp only [Site.call, Call.Fits, sprintfWrites_exact, places, List.take_succ_cons, List.take_nil,
    List.map_cons, List.map_nil, List.sum_cons, List.sum_nil, maxJobsDocumentLogSize]
  omega

/-- The payload of a registration fits. -/
theorem registerPayload_fits (inputs : Inputs) :
    (Site.processRegisterThingPayload.call inputs).Fits := by
  have token := field_length inputs.ownershipToken
  have serial := field_length inputs.deviceInfo.thingName
  have location := field_length inputs.deviceInfo.location
  have manufacturer := field_length inputs.deviceInfo.manufacturer
  have copied : literals awsRegisterThingParameters ≤ 300 := by decide +kernel
  have places : conversions awsRegisterThingParameters = 4 := by decide +kernel
  simp only [Site.call, Call.Fits, sprintfWrites_exact, places, List.take_succ_cons, List.take_nil,
    List.map_cons, List.map_nil, List.sum_cons, List.sum_nil, sizeofPubMsgBuf]
  omega

/-- Every string but a client id fits its destination. -/
theorem other_sites_fit (inputs : Inputs) (site : Site) (other : site.isClientId = false) :
    (site.call inputs).Fits := by
  have thing (format : List UInt8) (spare : List (List UInt8)) :=
    oneName_fits format inputs.deviceInfo.thingName spare
  have template (format : List UInt8) := oneName_fits format inputs.deviceInfo.awsTemplateName []
  have job (format : List UInt8) :=
    twoNames_fit format inputs.deviceInfo.thingName inputs.jobId
  cases site with
  | jobsEventCallbackGet => exact thing _ _ (by decide +kernel) (by decide +kernel)
  | jobsEventCallbackStartNext => exact thing _ _ (by decide +kernel) (by decide +kernel)
  | jobsEventCallbackUpdate => exact job _ (by decide +kernel) (by decide +kernel)
  | iotJobsGetProcedure => exact thing _ _ (by decide +kernel) (by decide +kernel)
  | startJobDocumentLog => exact versionLog_fits inputs
  | iotJobsStartNextProcedure => exact thing _ _ (by decide +kernel) (by decide +kernel)
  | iotJobsUpdateJobStatusTopic => exact job _ (by decide +kernel) (by decide +kernel)
  | iotJobsUpdateJobStatusPayload => exact updatePayload_fits inputs
  | iotJobsMqttConnect => cases other
  | subscribeJobsGetTopic => exact thing _ _ (by decide +kernel) (by decide +kernel)
  | unsubscribeJobsGetTopic => exact thing _ _ (by decide +kernel) (by decide +kernel)
  | subscribeJobsStartNextTopic => exact thing _ _ (by decide +kernel) (by decide +kernel)
  | unsubscribeJobsStartNextTopic => exact thing _ _ (by decide +kernel) (by decide +kernel)
  | subscribeJobsUpdateTopic => exact job _ (by decide +kernel) (by decide +kernel)
  | unsubscribeJobsUpdateTopic => exact thing _ _ (by decide +kernel) (by decide +kernel)
  | fleetEventCallbackAccepted => exact template _ (by decide +kernel) (by decide +kernel)
  | fleetEventCallbackRejected => exact template _ (by decide +kernel) (by decide +kernel)
  | processRegisterThingAccepted => exact template _ (by decide +kernel) (by decide +kernel)
  | processRegisterThingRejected => exact template _ (by decide +kernel) (by decide +kernel)
  | processRegisterThingTopic => exact template _ (by decide +kernel) (by decide +kernel)
  | processRegisterThingPayload => exact registerPayload_fits inputs
  | fleetProvisioningHandle => cases other

/-- A client id fits exactly when the thing name is shorter than its array. -/
theorem clientId_fits_iff (inputs : Inputs) (site : Site) (clientId : site.isClientId = true) :
    (site.call inputs).Fits ↔ inputs.deviceInfo.thingName.text.length < 50 := by
  have call : site.call inputs =
      ⟨maxMqttClientIdSize, ascii "%s", [inputs.deviceInfo.thingName.text]⟩ := by
    cases site <;> first | rfl | cases clientId
  have copied : literals (ascii "%s") = 0 := by decide +kernel
  have places : conversions (ascii "%s") = 1 := by decide +kernel
  rw [call]
  simp only [Call.Fits, sprintfWrites_exact, copied, places, List.take_succ_cons, List.take_nil,
    List.map_cons, List.map_nil, List.sum_cons, List.sum_nil, maxMqttClientIdSize,
    CBuffers.cText_whole _ inputs.deviceInfo.thingName.isText]
  omega

/-- Every formatted string fits its destination exactly when the thing name has fewer than
fifty bytes. -/
theorem all_sites_fit_iff (inputs : Inputs) :
    (∀ site : Site, (site.call inputs).Fits) ↔
      inputs.deviceInfo.thingName.text.length < 50 := by
  constructor
  · intro fit
    exact (clientId_fits_iff inputs .iotJobsMqttConnect rfl).mp (fit .iotJobsMqttConnect)
  · intro short site
    cases clientId : site.isClientId with
    | true => exact (clientId_fits_iff inputs site clientId).mpr short
    | false => exact other_sites_fit inputs site clientId

/-- The topics and payloads that the callbacks and the procedures are modelled with are
those that the calls write. -/
theorem written_topics (thingName awsTemplateName jobId status log : List UInt8) :
    sprintf awsSubTopicJobsGetAccepted [thingName] = jobsGetAccepted thingName ∧
    sprintf awsSubTopicJobsStartNextAccepted [thingName] = jobsStartNextAccepted thingName ∧
    sprintf awsSubTopicJobsUpdateAccepted [thingName, jobId] = jobsUpdateAccepted thingName jobId ∧
    sprintf awsPubTopicJobsUpdate [thingName, jobId] =
      StatusUpdate.topic thingName ⟨jobId, status, log⟩ ∧
    sprintf awsSubTopicRegisterThingAccepted [awsTemplateName] =
      registerThingAccepted awsTemplateName ∧
    sprintf awsSubTopicRegisterThingRejected [awsTemplateName] =
      registerThingRejected awsTemplateName := by
  have one (head tail format name : List UInt8) (shape : format = head ++ 37 :: 115 :: tail)
      (plainHead : 37 ∉ head) (plainTail : 37 ∉ tail) :
      sprintf format [name] = topicOf head name tail := by
    rw [shape, sprintf_argument _ _ _ _ plainHead, sprintf_literal _ _ plainTail]
    rfl
  have two (head middle tail format first second : List UInt8)
      (shape : format = head ++ 37 :: 115 :: (middle ++ 37 :: 115 :: tail))
      (plainHead : 37 ∉ head) (plainMiddle : 37 ∉ middle) (plainTail : 37 ∉ tail) :
      sprintf format [first, second] = topicOf head first (topicOf middle second tail) := by
    rw [shape, sprintf_argument _ _ _ _ plainHead, sprintf_argument _ _ _ _ plainMiddle,
      sprintf_literal _ _ plainTail]
    rfl
  refine ⟨one _ _ _ _ ?_ ?_ ?_, one _ _ _ _ ?_ ?_ ?_, two _ _ _ _ _ _ ?_ ?_ ?_ ?_,
    two _ _ _ _ _ _ ?_ ?_ ?_ ?_, one _ _ _ _ ?_ ?_ ?_, one _ _ _ _ ?_ ?_ ?_⟩ <;> decide +kernel

/-- A thing name of 50 bytes, which its array of 64 holds. -/
def longThingName : Field 64 where
  text := List.replicate 50 100
  isText := by
    intro byte member
    rw [List.eq_of_mem_replicate member]
    decide
  inside := by decide

def longNameInputs : Inputs where
  deviceInfo := ⟨longThingName, ⟨[], isText_nil, by decide⟩, ⟨[], isText_nil, by decide⟩,
    ⟨[], isText_nil, by decide⟩⟩
  ownershipToken := ⟨[], isText_nil, by decide⟩
  jobId := ⟨[], isText_nil, by decide⟩
  jobStatus := .succeeded
  processLog := ⟨[], isText_nil, by decide⟩
  versionMajor := ⟨ascii "1", by unfold IsText; decide +kernel, by decide +kernel⟩
  versionMinor := ⟨ascii "0", by unfold IsText; decide +kernel, by decide +kernel⟩
  versionPatch := ⟨ascii "0", by unfold IsText; decide +kernel, by decide +kernel⟩
  firmwareVersion := ⟨[], isText_nil, by decide⟩

/-- Its client id writes 51 bytes into 50. -/
theorem long_name_overruns :
    let call := Site.iotJobsMqttConnect.call longNameInputs
    sprintfWrites call.format call.arguments = 51 ∧ call.destination = 50 ∧
      ¬ ∀ site : Site, (site.call longNameInputs).Fits := by
  intro call
  have writes : sprintfWrites call.format call.arguments = 51 := by decide +kernel
  refine ⟨writes, rfl, ?_⟩
  intro fit
  have inside : sprintfWrites call.format call.arguments ≤ 50 := fit .iotJobsMqttConnect
  omega

end WiznetEaas.FormattedStrings
