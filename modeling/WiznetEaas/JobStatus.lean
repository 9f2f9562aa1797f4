import WiznetEaas.JobQueue

/-!
# Which status updates are truthful

The parser succeeds on any valid JSON, the record is cleared before the request, and a
type that is neither `OTA` nor `TEST` is carried out by doing nothing. So a success is
reported truthfully when the last job handed out in the wait has an id and one of the two
types, and an update is sent the image that it announces.
-/

namespace WiznetEaas.JobStatus

open NorFlash ByteMemory CStrings FlashControl FlashRecords DeviceCommon HttpInterface JobDocument
  JobList MqttMessages JobMessages JobProcedures JobDispatch JobCalls JobQueue FirmwareArming

variable (json : Json) (thingName : List UInt8) (misaligned : Misalignment UInt8 userFlashPageSize)
  (coreHttp : CoreHttp) (abi : Abi) (current : Version)

/-- A job's document was carried out: it is a test, or an update whose image was
downloaded, verified and armed. -/
def CarriedOut (job : StartNextJob) (state : JobsState) (document : DocumentResult) : Prop :=
  job.jobType = awsJobTypeTest ∨
    job.jobType = awsJobTypeOta ∧
      (∃ record, document.saved = some record ∧
        startFirmwareOtaStatus abi record = startFwOtaEnable) ∧
      ArmsSafely misaligned abi (setEnableReboot abi state.appCommon false) state.flash document

/-- An update names a job, and a success names the job of an accepted message whose
document was executed and carried out. -/
structure Truthful (state : JobsState) (carried : Carried) : Prop where
  intact : carried.overrun = false
  named : carried.update.jobId ≠ []
  succeeded : carried.update.status = jobsApiStatusSucceeded →
    ∃ info ∈ carried.startNextMessages, info.topicName = jobsStartNextAccepted thingName ∧
      ∃ job, parsingStartNextJobAccepted json info.payload [] = some job ∧
        carried.executionParam.job = job ∧ carried.update.jobId = job.jobId ∧
        CarriedOut misaligned abi job state carried.document

/-- The status updates of a call are truthful. -/
def TruthfulStatus (state : JobsState) (result : ProcedureResult) : Prop :=
  ∀ carried, result.carried = some carried →
    Truthful json thingName misaligned abi state carried

/-- What the execution reads of a job. -/
def executionOf (job : StartNextJob) : JobExecution := ⟨job.jobType, job.jobDocument, fun _ => 0⟩

/-- The last job handed out can be reported: all strings fit, and it has an id and a known
type. -/
structure Reportable (state : JobsState) (messages : List (Incoming thingName)) : Prop where
  fits : Fitting json thingName state messages
  job : ∃ job, lastJob json thingName messages = some job ∧ job.jobId ≠ [] ∧
    (job.jobType = awsJobTypeTest ∨ job.jobType = awsJobTypeOta)

/-- If the last job handed out comes to a download, it is sent the image it announces. -/
def ImageSent (inputs : DocumentInputs thingName) (messages : List (Incoming thingName)) : Prop :=
  ∀ job, lastJob json thingName messages = some job →
    ComesToDownload json current inputs.world (executionOf job) →
    SendsImage inputs.world (jobOtaSize (parsedParams json (executionOf job)).2)

/-- The strings of a handed out job are texts. -/
theorem located_isText (pPayload key fallback : List UInt8) (text : IsText fallback) :
    IsText (((located json pPayload key).map cText).getD fallback) := by
  cases located json pPayload key with
  | none => exact text
  | some value => exact cText_isText value

theorem lastJob_message (messages : List (Incoming thingName)) (job : StartNextJob)
    (last : lastJob json thingName messages = some job) :
    ∃ message ∈ messages, message.topic = .startNextAccepted ∧
      parsingStartNextJobAccepted json message.payload [] = some job := by
  obtain ⟨message, member, handed⟩ := List.mem_filterMap.mp (List.mem_of_getLast? last)
  refine ⟨message, member, ?_⟩
  simp only [handedOut] at handed
  split at handed
  next topic => exact ⟨topic, handed⟩
  next => cases handed

/-- The comparison with the type of an update includes the terminator. -/
theorem ota_iff (messages : List (Incoming thingName)) (job : StartNextJob)
    (last : lastJob json thingName messages = some job) :
    strncmpEqual 4 job.jobType awsJobTypeOta = true ↔ job.jobType = awsJobTypeOta := by
  obtain ⟨message, _, _, parsed⟩ := lastJob_message json thingName messages job last
  apply strncmpEqual_whole job.jobType awsJobTypeOta
  · simp only [parsingStartNextJobAccepted] at parsed
    split at parsed
    · cases parsed
      exact located_isText json message.payload _ [] (by rintro _ ⟨⟩)
    · cases parsed
  · simp only [IsText]
    decide +kernel

/-- An execution that succeeds is a test, one of an unknown type, or an accepted update;
one that fails is an update. -/
theorem document_ret (inputs : DocumentInputs thingName) (state : JobsState)
    (messages : List (Incoming thingName)) (job : StartNextJob) (document : DocumentResult)
    (last : lastJob json thingName messages = some job)
    (executed : execution json thingName misaligned coreHttp abi current inputs state messages =
      some document) :
    startJobDocument misaligned coreHttp abi json current inputs.world
        (setEnableReboot abi state.appCommon false) (executionOf job) state.flash = some document ∧
      (job.jobType ≠ awsJobTypeOta → document.ret = true) ∧
      (job.jobType = awsJobTypeOta → (document.ret = true ↔ ∃ download,
        Accepted misaligned coreHttp json current inputs.world (executionOf job) state.flash
          download) ∧
        (document.ret = true → ∃ record, document.saved = some record ∧
          startFirmwareOtaStatus abi record = startFwOtaEnable)) := by
  have run : startJobDocument misaligned coreHttp abi json current inputs.world
      (setEnableReboot abi state.appCommon false) (executionOf job) state.flash =
      some document := by
    simp only [execution, delivered] at executed
    rw [last] at executed
    exact executed
  have cases := document_cases misaligned coreHttp abi json current inputs.world
    (setEnableReboot abi state.appCommon false) (executionOf job) state.flash document run
  have isOta : strncmpEqual 4 (executionOf job).jobType awsJobTypeOta = true ↔
      job.jobType = awsJobTypeOta := ota_iff json thingName messages job last
  refine ⟨run, ?_, ?_⟩
  · intro other
    rcases cases with ⟨_, _, ret⟩ | ⟨_, _, ret, _⟩
    · rw [ret, Bool.not_eq_true', Bool.eq_false_iff]
      exact fun ota => other (isOta.mp ota)
    · exact ret
  · intro ota
    rcases cases with ⟨nothing, _, ret⟩ | ⟨download, accepted, ret, _, saved⟩
    · rw [isOta.mpr ota] at ret
      refine ⟨⟨fun success => ?_, ?_⟩, fun success => ?_⟩
      · rw [ret] at success
        cases success
      · rintro ⟨download, accepted⟩
        obtain ⟨other, returned, _, saved⟩ := accepted_document misaligned coreHttp abi json
          current inputs.world (setEnableReboot abi state.appCommon false) (executionOf job)
          state.flash download accepted
        rw [run] at returned
        cases returned
        rw [nothing] at saved
        cases saved
      · rw [ret] at success
        cases success
    · refine ⟨⟨fun _ => ⟨download, accepted⟩, fun _ => ret⟩, fun _ => ⟨_, saved, ?_⟩⟩
      exact (savedRecord_fields abi inputs.world.stack _ _).1

/-- A truthful report is one of a reportable job, and its image was sent if no `recv`
failed and the update was accepted. -/
theorem reportable_of_truthful (inputs : DocumentInputs thingName) (state : JobsState)
    (messages : List (Incoming thingName)) (document : DocumentResult) (carried : Carried)
    (executed : execution json thingName misaligned coreHttp abi current inputs state messages =
      some document)
    (report : ReportOf json thingName misaligned abi inputs state messages document carried)
    (truthful : Truthful json thingName misaligned abi state carried) :
    Reportable json thingName state messages ∧
      (SteadyWorld inputs.world → document.ret = true →
        ImageSent json thingName current inputs messages) := by
  have named := truthful.named
  rw [report.jobId] at named
  have fits : Fitting json thingName state messages :=
    (fitting_iff json thingName state messages).mpr (report.overrun.symm.trans truthful.intact)
  cases last : lastJob json thingName messages with
  | none =>
    simp only [delivered] at named
    rw [last] at named
    exact absurd rfl named
  | some job =>
    have isJob := delivered_job json thingName messages job last
    have isId : (delivered json thingName messages).jobId = job.jobId :=
      congrArg StartNextJob.jobId isJob
    rw [isId] at named
    obtain ⟨run, other, _⟩ := document_ret json thingName misaligned coreHttp abi current inputs
      state messages job document last executed
    have carriedOut (success : document.ret = true) :
        CarriedOut misaligned abi job state document := by
      obtain ⟨_, _, _, told, _, executedJob, _, out⟩ := truthful.succeeded (by
        rw [report.status, success, if_pos rfl])
      rw [report.job, isJob] at executedJob
      rw [← executedJob, report.executed] at out
      exact out
    have known : job.jobType = awsJobTypeTest ∨ job.jobType = awsJobTypeOta := by
      by_cases isOta : job.jobType = awsJobTypeOta
      · exact .inr isOta
      · exact (carriedOut (other isOta)).imp_right And.left
    refine ⟨⟨fits, job, last, named, known⟩, fun steady success handed same comes => ?_⟩
    rw [last] at same
    cases same
    rcases carriedOut success with test | ⟨_, _, safe⟩
    · have isOta := (ota_iff json thingName messages job last).mp comes.ota
      rw [isOta] at test
      cases test
    · exact sends_of_armsSafely misaligned coreHttp abi json current inputs.world
        (setEnableReboot abi state.appCommon false) (executionOf job) state.flash document run
        comes.ota steady success safe

/-- A reportable job whose image is sent is reported truthfully. -/
theorem truthful_of_reportable (inputs : DocumentInputs thingName) (state : JobsState)
    (messages : List (Incoming thingName)) (document : DocumentResult) (carried : Carried)
    (executed : execution json thingName misaligned coreHttp abi current inputs state messages =
      some document)
    (report : ReportOf json thingName misaligned abi inputs state messages document carried)
    (reportable : Reportable json thingName state messages)
    (sent : ImageSent json thingName current inputs messages) :
    Truthful json thingName misaligned abi state carried := by
  obtain ⟨job, last, named, kind⟩ := reportable.job
  have isJob := delivered_job json thingName messages job last
  have isId : (delivered json thingName messages).jobId = job.jobId :=
    congrArg StartNextJob.jobId isJob
  constructor
  · exact report.overrun.trans ((fitting_iff json thingName state messages).mp reportable.fits)
  · rw [report.jobId, isId]
    exact named
  · intro success
    have ret : document.ret = true := by
      apply Bool.not_eq_false _ |>.mp
      intro failed
      rw [report.status, failed] at success
      exact absurd success (by decide +kernel)
    obtain ⟨message, member, topic, parsed⟩ :=
      lastJob_message json thingName messages job last
    refine ⟨message.toPublishInfo, ?_, ?_, job, parsed, report.job.trans isJob,
      report.jobId.trans isId, ?_⟩
    · rw [report.startNextMessages, List.mem_reverse]
      exact List.mem_map_of_mem member
    · rw [message.named, topic]
      rfl
    · rw [report.executed]
      obtain ⟨run, _, ota⟩ := document_ret json thingName misaligned coreHttp abi current inputs
        state messages job document last executed
      rcases kind with test | isOta
      · exact .inl test
      · right
        exact ⟨isOta, (ota isOta).2 ret, armsSafely_of_sends misaligned coreHttp abi json current
          inputs.world (setEnableReboot abi state.appCommon false) (executionOf job) state.flash
          document run (sent job last)⟩

/-- The status updates of a call are truthful when the messages that answer its request for
a job hand out, as their last one, a job that can be reported and, if it is an update, is
sent its image. They are truthful for no other job, but for an update that is not accepted
or one with an error of `recv`. -/
theorem truthful_status_when (inputs : DocumentInputs thingName) (state : JobsState) :
    ((∀ messages document, started thingName inputs state = some messages →
        execution json thingName misaligned coreHttp abi current inputs state messages =
          some document →
        Reportable json thingName state messages ∧
          ImageSent json thingName current inputs messages) →
      ∀ result, iotJobsStartJobDocumentProcedure json thingName misaligned coreHttp abi current
        inputs state = some result → TruthfulStatus json thingName misaligned abi state result) ∧
    ((∀ result, iotJobsStartJobDocumentProcedure json thingName misaligned coreHttp abi current
        inputs state = some result → TruthfulStatus json thingName misaligned abi state result) →
      ∀ messages document, started thingName inputs state = some messages →
        execution json thingName misaligned coreHttp abi current inputs state messages =
          some document →
        Reportable json thingName state messages ∧
          (SteadyWorld inputs.world → document.ret = true →
            ImageSent json thingName current inputs messages)) := by
  constructor
  · intro reportable result returned carried reports
    cases reached : started thingName inputs state with
    | none =>
      obtain ⟨other, same, nothing, _⟩ := procedure_unstarted json thingName misaligned coreHttp abi
        current inputs state reached
      rw [same] at returned
      cases returned
      rw [nothing] at reports
      cases reports
    | some messages =>
      obtain ⟨shape, ended⟩ := procedure_started json thingName misaligned coreHttp abi
        current inputs state messages reached
      rw [ended] at returned
      obtain ⟨document, executed, isResult⟩ := Option.map_eq_some_iff.mp returned
      obtain ⟨_, reported⟩ := reportDocument_reported json thingName misaligned abi inputs state
        messages document shape
      obtain ⟨other, otherReports, report, _⟩ := reported.carried
      rw [← isResult, otherReports] at reports
      cases reports
      obtain ⟨can, sent⟩ := reportable messages document reached executed
      exact truthful_of_reportable json thingName misaligned coreHttp abi current inputs state
        messages document _ executed report can sent
  · intro truthful messages document reached executed
    obtain ⟨shape, returned⟩ := procedure_started json thingName misaligned coreHttp abi
      current inputs state messages reached
    rw [executed] at returned
    obtain ⟨_, reported⟩ := reportDocument_reported json thingName misaligned abi inputs state
      messages document shape
    obtain ⟨carried, reports, report, _⟩ := reported.carried
    exact reportable_of_truthful json thingName misaligned coreHttp abi current inputs state
      messages document carried executed report (truthful _ returned carried reports)

/-- An update of sixteen bytes is handed out. -/
def updateHandedOut : Incoming (ascii "eaas") :=
  .on _ .startNextAccepted
    (ascii "\x7b\"execution\":\x7b\"jobId\":\"job-1\",\"jobDocument\":\x7b\"jobType\":\"OTA\"," ++
      ascii "\"fwUrl\":\"http://host/fw\",\"fwVersion\":\"1.0.1\",\"fwSize\":\"16\"," ++
      ascii "\"fwCrc\":\"0\"\x7d\x7d\x7d")
    (by decide +kernel)

/-- Its image is sent. -/
def updateInputs : DocumentInputs (ascii "eaas") where
  startNext := ⟨true, [[updateHandedOut]]⟩
  world := sendingZeros
  update := ⟨true, []⟩

/-- The success of this update is reported, and truthfully. -/
theorem sent_update_reported : ∃ result carried,
    iotJobsStartJobDocumentProcedure nestedJson (ascii "eaas") (.ignored UInt8 256)
      exampleCoreHttp shortEnumAbi applicationVersion updateInputs pendingState = some result ∧
    result.carried = some carried ∧
    carried.update.jobId = ascii "job-1" ∧ carried.update.status = jobsApiStatusSucceeded ∧
    Truthful nestedJson (ascii "eaas") (.ignored UInt8 256) shortEnumAbi pendingState carried := by
  have reported : ((iotJobsStartJobDocumentProcedure nestedJson (ascii "eaas") (.ignored UInt8 256)
      exampleCoreHttp shortEnumAbi applicationVersion updateInputs pendingState).bind
        fun result => result.carried.map fun carried =>
          (carried.update.jobId, carried.update.status)) =
      some (ascii "job-1", jobsApiStatusSucceeded) := by decide +kernel
  obtain ⟨result, returned, told⟩ := Option.bind_eq_some_iff.mp reported
  obtain ⟨carried, reports, values⟩ := Option.map_eq_some_iff.mp told
  have job : (lastJob nestedJson (ascii "eaas") [updateHandedOut]).map (fun job =>
      (job.jobId, job.jobType, jobOtaSize (parsedParams nestedJson (executionOf job)).2)) =
        some (ascii "job-1", awsJobTypeOta, 16) := by decide +kernel
  obtain ⟨handed, last, fields⟩ := Option.map_eq_some_iff.mp job
  obtain ⟨jobId, jobType, size⟩ : handed.jobId = ascii "job-1" ∧ handed.jobType = awsJobTypeOta ∧
      jobOtaSize (parsedParams nestedJson (executionOf handed)).2 = 16 := by
    simpa only [Prod.mk.injEq] using fields
  have reportable : Reportable nestedJson (ascii "eaas") pendingState [updateHandedOut] := by
    refine ⟨⟨rfl, by decide +kernel⟩, handed, last, ?_, .inr jobType⟩
    rw [jobId]
    decide +kernel
  have sent : ImageSent nestedJson (ascii "eaas") applicationVersion updateInputs
      [updateHandedOut] := by
    intro other same _
    rw [last] at same
    cases same
    rw [size]
    exact ⟨rfl, fun _ => by decide, fun _ _ _ => by decide⟩
  have truthful := (truthful_status_when nestedJson (ascii "eaas") (.ignored UInt8 256)
    exampleCoreHttp shortEnumAbi applicationVersion updateInputs pendingState).1
    (fun messages _ reached _ => by cases reached; exact ⟨reportable, sent⟩) result returned
  exact ⟨result, carried, returned, reports, congrArg Prod.fst values, congrArg Prod.snd values,
    truthful carried reports⟩

/-- The answer when AWS has no job left: a valid payload without an execution. -/
def noExecution : Incoming (ascii "eaas") :=
  .on _ .startNextAccepted (ascii "\x7b\"timestamp\":\"0\"\x7d") (by decide +kernel)

/-- The request for a job is answered so. -/
def noExecutionInputs : DocumentInputs (ascii "eaas") where
  startNext := ⟨true, [[noExecution]]⟩
  world := unreachable
  update := ⟨true, []⟩

/-- A success is then published for the empty job id. -/
theorem empty_job_reported :
    ¬ ∀ result, iotJobsStartJobDocumentProcedure flatJson (ascii "eaas") (.ignored UInt8 256)
        exampleCoreHttp shortEnumAbi applicationVersion noExecutionInputs pendingState =
          some result →
      TruthfulStatus flatJson (ascii "eaas") (.ignored UInt8 256) shortEnumAbi pendingState
        result := by
  intro truthful
  have reported : ((iotJobsStartJobDocumentProcedure flatJson (ascii "eaas") (.ignored UInt8 256)
      exampleCoreHttp shortEnumAbi applicationVersion noExecutionInputs pendingState).bind
        fun result => result.carried.map fun carried =>
          (carried.update.jobId, carried.update.status)) =
      some ([], jobsApiStatusSucceeded) := by decide +kernel
  obtain ⟨result, returned, told⟩ := Option.bind_eq_some_iff.mp reported
  obtain ⟨carried, reports, values⟩ := Option.map_eq_some_iff.mp told
  exact (truthful result returned carried reports).named (congrArg Prod.fst values)

end WiznetEaas.JobStatus
