import WiznetEaas.FirmwareArming
import WiznetEaas.JobCalls

/-!
# Which job the queue loses

The id at the head of the list only decides that a job is requested. The job executed and
reported is the one AWS hands out, but what is deleted after an accepted update is the
head again. So the queue loses the finished job exactly when that job is the head and the
wait for the update was ended by its own acceptance.
-/

namespace WiznetEaas.JobQueue

open NorFlash ByteMemory CStrings FlashControl FlashRecords DeviceCommon HttpInterface JobDocument
  JobList MqttMessages JobMessages JobProcedures JobDispatch JobCalls FirmwareArming Runs Polling

variable (json : Json) (thingName : List UInt8) (misaligned : Misalignment UInt8 userFlashPageSize)
  (coreHttp : CoreHttp) (abi : Abi) (current : Version)

/-- The queued ids stay in their order, all but the job whose update was accepted during
the call. -/
structure QueueLaw (state : JobsState) (result : ProcedureResult) : Prop where
  intact : result.state.overrun = false
  kept : (queued state.awsJobIdList).Sublist (queued result.state.awsJobIdList) ∨
    ∃ carried, result.carried = some carried ∧
      (∃ info ∈ carried.updateMessages,
        info.topicName = jobsUpdateAccepted thingName carried.update.jobId) ∧
      ((queued state.awsJobIdList).erase carried.update.jobId).Sublist
        (queued result.state.awsJobIdList)

/-- A call that finishes the head of the list: if its update is answered, then the job it
was handed is the head, and an accepted message for this job is among the answers. -/
structure FinishesHead (inputs : DocumentInputs thingName) (state : JobsState)
    (messages : List (Incoming thingName)) (document : DocumentResult) : Prop where
  fits : Fitting json thingName state
    (messages ++ updateHandled json thingName misaligned abi inputs state messages document)
  finished : ∀ accepted, updateAnswer json thingName misaligned abi inputs state messages document =
    some accepted →
      (delivered json thingName messages).jobId = first state.awsJobIdList ∧
        ∃ message ∈ accepted,
          message.topicName = jobsUpdateAccepted thingName (first state.awsJobIdList)

/-- A call that finishes the head keeps the law. -/
theorem law_of_finishesHead (inputs : DocumentInputs thingName) (state : JobsState)
    (messages : List (Incoming thingName)) (document : DocumentResult) (result : ProcedureResult)
    (grown : JobIdList)
    (reported : Reported json thingName misaligned abi inputs state messages document result grown)
    (finishes : FinishesHead json thingName misaligned abi inputs state messages document) :
    QueueLaw thingName state result := by
  have occupied : first state.awsJobIdList ≠ [] := reported.head ▸ reported.occupied
  refine ⟨reported.overrun.trans ((fitting_iff json thingName state _).mp finishes.fits), ?_⟩
  rw [reported.list]
  cases answered : updateAnswer json thingName misaligned abi inputs state messages document with
  | none =>
    left
    exact reported.queue
  | some accepted =>
    right
    obtain ⟨isHead, message, member, topic⟩ := finishes.finished accepted answered
    obtain ⟨carried, reports, report, _⟩ := reported.carried
    have jobId := report.jobId
    rw [isHead] at jobId
    refine ⟨carried, reports, ⟨message.toPublishInfo, ?_, ?_⟩, ?_⟩
    · rw [report.updateMessages, List.mem_reverse, updateHandled, handledIn]
      rw [updateAnswer] at answered
      rw [answered, Option.getD_some]
      exact List.mem_map_of_mem member
    · rw [jobId]
      exact topic
    · have before := queued_first state.awsJobIdList occupied
      have after := delFirst_queued grown reported.occupied
      have grew := reported.queue
      rw [before, after, reported.head, List.cons_sublist_cons] at grew
      rw [jobId, before, List.erase_cons_head, Option.isSome_some, if_pos rfl]
      exact grew

/-- The deleted head is missed in the queue. -/
theorem deleted_head_missed (state : JobsState) (grown : JobIdList) (other : List (List UInt8))
    (head : first grown = first state.awsJobIdList) (occupied : first grown ≠ [])
    (count : (queued grown).count (first state.awsJobIdList) =
      (queued state.awsJobIdList).count (first state.awsJobIdList))
    (same : other.count (first state.awsJobIdList) =
      (queued state.awsJobIdList).count (first state.awsJobIdList)) :
    ¬ other.Sublist (queued (delFirstJobId grown)) := by
  intro kept
  have fewer := kept.count_le (first state.awsJobIdList)
  rw [delFirst_queued grown occupied, head, List.count_cons_self] at count
  omega

/-- The law forces a call to finish the head. -/
theorem finishesHead_of_law (inputs : DocumentInputs thingName) (state : JobsState)
    (messages : List (Incoming thingName)) (document : DocumentResult) (result : ProcedureResult)
    (grown : JobIdList)
    (reported : Reported json thingName misaligned abi inputs state messages document result grown)
    (law : QueueLaw thingName state result) :
    FinishesHead json thingName misaligned abi inputs state messages document := by
  refine ⟨(fitting_iff json thingName state _).mpr (reported.overrun.symm.trans law.intact), ?_⟩
  intro accepted answered
  have deleted := reported.list
  rw [answered, Option.isSome_some, if_pos rfl] at deleted
  have kept := law.kept
  rw [deleted] at kept
  rcases kept with all | ⟨carried, reports, ⟨info, member, topic⟩, rest⟩
  · exact absurd all (deleted_head_missed state grown _ reported.head reported.occupied
      reported.count rfl)
  · obtain ⟨other, otherReports, report, _⟩ := reported.carried
    rw [reports] at otherReports
    cases otherReports
    have isHead : carried.update.jobId = first state.awsJobIdList := by
      apply Classical.byContradiction
      intro differs
      exact deleted_head_missed state grown _ reported.head reported.occupied reported.count
        (List.count_erase_of_ne (Ne.symm differs)) rest
    rw [report.updateMessages, List.mem_reverse, updateHandled, handledIn] at member
    rw [updateAnswer] at answered
    rw [answered, Option.getD_some] at member
    obtain ⟨message, among, rfl⟩ := List.mem_map.mp member
    exact ⟨report.jobId.symm.trans isHead, message, among, topic.trans (by rw [isHead])⟩

/-- A call keeps the law exactly when all its messages fit and, if its update is
answered, it finishes the head of the list. -/
theorem queue_law_iff (inputs : DocumentInputs thingName) (state : JobsState) :
    (∀ result, iotJobsStartJobDocumentProcedure json thingName misaligned coreHttp abi current
        inputs state = some result → QueueLaw thingName state result) ↔
    (started thingName inputs state = none →
      Fitting json thingName state (startNextHandled json thingName abi inputs state)) ∧
    ∀ messages document, started thingName inputs state = some messages →
      execution json thingName misaligned coreHttp abi current inputs state messages =
        some document →
      FinishesHead json thingName misaligned abi inputs state messages document := by
  constructor
  · intro law
    constructor
    · intro unreached
      obtain ⟨result, returned, _, overrun, _⟩ := procedure_unstarted json thingName misaligned
        coreHttp abi current inputs state unreached
      exact (fitting_iff json thingName state _).mpr
        (overrun.symm.trans (law result returned).intact)
    · intro messages document reached executed
      obtain ⟨shape, returned⟩ := procedure_started json thingName misaligned coreHttp abi current
        inputs state messages reached
      rw [executed] at returned
      obtain ⟨grown, reported⟩ := reportDocument_reported json thingName misaligned abi inputs
        state messages document shape
      exact finishesHead_of_law json thingName misaligned abi inputs state messages document _
        grown reported (law _ returned)
  · rintro ⟨idle, finishes⟩ result returned
    cases reached : started thingName inputs state with
    | none =>
      obtain ⟨other, same, _, overrun, kept⟩ := procedure_unstarted json thingName misaligned
        coreHttp abi current inputs state reached
      rw [same] at returned
      cases returned
      exact ⟨overrun.trans ((fitting_iff json thingName state _).mp (idle reached)), .inl kept⟩
    | some messages =>
      obtain ⟨shape, ended⟩ := procedure_started json thingName misaligned coreHttp abi current
        inputs state messages reached
      rw [ended] at returned
      obtain ⟨document, executed, isResult⟩ := Option.map_eq_some_iff.mp returned
      obtain ⟨grown, reported⟩ := reportDocument_reported json thingName misaligned abi inputs
        state messages document shape
      rw [isResult] at reported
      exact law_of_finishesHead json thingName misaligned abi inputs state messages document result
        grown reported (finishes messages document reached executed)

/-- The keys of a path, and the text that introduces the value of each. -/
def pathMarks (key : List UInt8) : List (List UInt8) :=
  let steps : List (List UInt8) := key.foldr (fun byte parts =>
    if byte == 46 then [] :: parts else (byte :: parts.headD []) :: parts.tail) [[]]
  steps.map fun step =>
    if step.getLast? == some 93 then
      ascii "\"" ++ step.takeWhile (· != 91) ++ ascii "\":["
    else ascii "\"" ++ step ++ ascii "\":"

/-- Where a mark ends that is found from a position on. -/
def markEnd (text : List UInt8) (position : Option Nat) (mark : List UInt8) : Option Nat :=
  position.bind fun start =>
    ((List.range text.length).find? fun index =>
      decide (start ≤ index) && mark.isPrefixOf (text.drop index)).map (· + mark.length)

/-- The length of an object. -/
def objectLength : List UInt8 → Nat → Nat
  | [], _ => 0
  | 123 :: rest, depth => objectLength rest (depth + 1) + 1
  | 125 :: rest, depth => if depth ≤ 1 then 1 else objectLength rest (depth - 1) + 1
  | _ :: rest, depth => objectLength rest depth + 1

/-- The JSON library on nested objects with distinct keys, whose values are plain strings. -/
def nestedJson : Json where
  validate text := text.head? == some 123 && objectLength text 0 == text.length
  search text key :=
    (((pathMarks key).foldl (markEnd text) (some 0)).map fun start =>
      if text[start]? == some 34 then
        (start + 1, ((text.drop (start + 1)).takeWhile (· != 34)).length)
      else (start, objectLength (text.drop start) 0)).filter fun span =>
        decide (span.1 + span.2 ≤ text.length)
  search_inside := by
    intro text key start length found
    simpa using (Option.filter_eq_some_iff.mp found).2

/-- AWS hands out a second job. -/
def secondJob : Incoming (ascii "eaas") :=
  .on _ .startNextAccepted
    (ascii "\x7b\"execution\":\x7b\"jobId\":\"job-2\"," ++
      ascii "\"jobDocument\":\x7b\"jobType\":\"TEST\"\x7d\x7d\x7d")
    (by decide +kernel)

/-- It accepts the update of this job. -/
def secondJobUpdated : Incoming (ascii "eaas") :=
  .on _ (.updateAccepted (ascii "job-2")) (ascii "\x7b\x7d") (by decide +kernel)

/-- The second job is handed out, and its update accepted. -/
def secondJobInputs : DocumentInputs (ascii "eaas") where
  startNext := ⟨true, [[secondJob]]⟩
  world := unreachable
  update := ⟨true, [[secondJobUpdated]]⟩

/-- The first job is lost then. -/
theorem pending_job_lost :
    ¬ ∀ result, iotJobsStartJobDocumentProcedure nestedJson (ascii "eaas") (.ignored UInt8 256)
        exampleCoreHttp shortEnumAbi applicationVersion secondJobInputs pendingState =
          some result →
      QueueLaw (ascii "eaas") pendingState result := by
  intro law
  have reported : (iotJobsStartJobDocumentProcedure nestedJson (ascii "eaas") (.ignored UInt8 256)
      exampleCoreHttp shortEnumAbi applicationVersion secondJobInputs pendingState).map
        (fun result => (queued result.state.awsJobIdList,
          result.carried.map fun carried => carried.update.jobId)) =
      some ([], some (ascii "job-2")) := by decide +kernel
  obtain ⟨result, returned, values⟩ := Option.map_eq_some_iff.mp reported
  have lost : queued result.state.awsJobIdList = [] := congrArg Prod.fst values
  have updated := congrArg Prod.snd values
  have kept := (law result returned).kept
  rw [lost] at kept
  rcases kept with all | ⟨carried, reports, _, rest⟩
  · exact absurd all (by decide +kernel)
  · have jobId : carried.update.jobId = ascii "job-2" := by
      simpa [reports] using updated
    rw [jobId] at rest
    exact absurd rest (by decide +kernel)

end WiznetEaas.JobQueue
