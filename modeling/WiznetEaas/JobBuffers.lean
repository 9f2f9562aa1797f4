import WiznetEaas.CBuffers
import WiznetEaas.JobMessages

/-!
# The arrays of the jobs callback

The two parsers and the copies of `iot_jobs_event_callback` on the arrays themselves.
The string-level callback calls a message whose strings do not fit an overrun. Here
every access is listed with the array it is made on, and an overrun is an access that
leaves its array.
-/

namespace WiznetEaas.JobBuffers

open ByteMemory CStrings CBuffers JobDocument JobList MqttMessages JobMessages

/-- What `parsing_get_job_accepted` returns, stores and touches. -/
structure GetJobParse where
  ret : Bool
  pJobId : Buffer maxAwsJobIdSize
  accesses : List Access

/-- `parsing_get_job_accepted`. The length may equal that of the array, and no terminator
is added. -/
def parsingGetJobAcceptedInto (json : Json) (pPayload : List UInt8)
    (pJobId : Buffer maxAwsJobIdSize) (maxJobIdLength : Nat) : GetJobParse :=
  if json.validate pPayload then
    match located json pPayload (ascii "queuedJobs[0].jobId") with
    | none => ⟨false, pJobId, []⟩
    | some jobId =>
      if jobId.length > maxJobIdLength then ⟨false, pJobId, []⟩
      else ⟨true, pJobId.strncpy jobId jobId.length, [⟨maxAwsJobIdSize, jobId.length⟩]⟩
  else ⟨false, pJobId, []⟩

/-- One of the three values of a start-next message: copied and terminated if it is found,
whatever its length. -/
def copyLocated {size : Nat} (value : Option (List UInt8)) (target : Buffer size) :
    Buffer size × List Access :=
  match value with
  | none => (target, [])
  | some text =>
    ((target.strncpy text text.length).terminate text.length,
      [⟨size, text.length⟩, ⟨size, text.length + 1⟩])

/-- What `parsing_start_next_job_accepted` returns, stores and touches. -/
structure StartNextParse where
  ret : Bool
  pJobId : Buffer maxAwsJobIdSize
  pJobDocument : Buffer maxAwsJobDocumentSize
  pJobType : Buffer maxAwsJobTypeSize
  accesses : List Access

/-- `parsing_start_next_job_accepted`, which does not use the lengths it is given. -/
def parsingStartNextJobAcceptedInto (json : Json) (pPayload : List UInt8)
    (pJobId : Buffer maxAwsJobIdSize) (pJobDocument : Buffer maxAwsJobDocumentSize)
    (pJobType : Buffer maxAwsJobTypeSize) : StartNextParse :=
  if json.validate pPayload then
    let jobId := copyLocated (located json pPayload (ascii "execution.jobId")) pJobId
    let jobDocument :=
      copyLocated (located json pPayload (ascii "execution.jobDocument")) pJobDocument
    let jobType :=
      copyLocated (located json pPayload (ascii "execution.jobDocument.jobType")) pJobType
    ⟨true, jobId.1, jobDocument.1, jobType.1, jobId.2 ++ jobDocument.2 ++ jobType.2⟩
  else ⟨false, pJobId, pJobDocument, pJobType, []⟩

/-- `g_aws_job_id_list` and the three arrays of `g_iot_jobs_execution_param`. -/
structure JobArrays where
  awsJobIdList : Nat → Buffer maxAwsJobIdSize
  jobId : Buffer maxAwsJobIdSize
  jobDocument : Buffer maxAwsJobDocumentSize
  jobType : Buffer maxAwsJobTypeSize

/-- What lies on the stack behind the local arrays of the callback. -/
structure Stack where
  behindJobId : List UInt8
  behindJobType : List UInt8
  behindJobDocument : List UInt8

/-- A branch of the callback: whether it returns, the local job id, and the arrays. -/
structure BranchRun where
  returns : Bool
  tempJobId : Buffer maxAwsJobIdSize
  arrays : JobArrays
  accesses : List Access

/-- `add_job_id` on the slot the list offers. -/
def addJobIdInto (arrays : JobArrays) (index : Nat) (tempJobId : Buffer maxAwsJobIdSize) :
    JobArrays × List Access :=
  let copied := copyString (arrays.awsJobIdList index).cleared tempJobId
  ({ arrays with
      awsJobIdList := fun slot => if slot = index then copied.1 else arrays.awsJobIdList slot },
    [⟨maxAwsJobListSize, index + 1⟩, ⟨maxAwsJobIdSize, maxAwsJobIdSize⟩] ++ copied.2)

variable (json : Json) (thingName : List UInt8) (stack : Stack)

/-- The first branch on the arrays. -/
def getAcceptedBranchInto (info : PublishInfo) (list : JobIdList) (arrays : JobArrays) :
    BranchRun :=
  let tempJobId := Buffer.zeroed maxAwsJobIdSize stack.behindJobId
  if info.topicEqual (jobsGetAccepted thingName) info.topicName.length then
    let parsed := parsingGetJobAcceptedInto json info.payload tempJobId maxAwsJobIdSize
    if parsed.ret then
      let read : Access := ⟨maxAwsJobIdSize, parsed.pJobId.strlen + 1⟩
      if isExistJobId list parsed.pJobId.text then
        ⟨true, parsed.pJobId, arrays, parsed.accesses ++ [read]⟩
      else
        match getAvailableIndex list with
        | none => ⟨true, parsed.pJobId, arrays, parsed.accesses ++ [read, read]⟩
        | some index =>
          let added := addJobIdInto arrays index parsed.pJobId
          ⟨false, parsed.pJobId, added.1, parsed.accesses ++ [read] ++ added.2⟩
    else ⟨false, parsed.pJobId, arrays, parsed.accesses⟩
  else ⟨false, tempJobId, arrays, []⟩

/-- The second branch on the arrays. -/
def startNextAcceptedBranchInto (info : PublishInfo) (isJobStarted : Bool)
    (tempJobId : Buffer maxAwsJobIdSize) (arrays : JobArrays) : JobArrays × List Access :=
  if info.topicEqual (jobsStartNextAccepted thingName) info.topicName.length then
    let parsed := parsingStartNextJobAcceptedInto json info.payload tempJobId
      (.zeroed maxAwsJobDocumentSize stack.behindJobDocument)
      (.zeroed maxAwsJobTypeSize stack.behindJobType)
    if parsed.ret && !isJobStarted then
      let jobId := copyString arrays.jobId parsed.pJobId
      let jobDocument := copyString arrays.jobDocument parsed.pJobDocument
      let jobType := copyString arrays.jobType parsed.pJobType
      ({ arrays with jobId := jobId.1, jobDocument := jobDocument.1, jobType := jobType.1 },
        parsed.accesses ++ (jobId.2 ++ jobDocument.2 ++ jobType.2))
    else (arrays, parsed.accesses)
  else (arrays, [])

/-- The copies of `iot_jobs_event_callback` on a PUBLISH packet, in a state of the string
level. -/
def iotJobsEventCallbackInto (state : JobsState) (info : PublishInfo) (arrays : JobArrays) :
    JobArrays × List Access :=
  let first := getAcceptedBranchInto json thingName stack info state.awsJobIdList arrays
  if first.returns then (first.arrays, first.accesses)
  else
    let second := startNextAcceptedBranchInto json thingName stack info
      state.executionParam.isJobStarted first.tempJobId first.arrays
    (second.1, first.accesses ++ second.2)

/-- The first parser leaves the matched id, terminated, and stays inside the array. -/
structure GetExact (pPayload : List UInt8) : Prop where
  stored : ∀ behind,
    let parsed := parsingGetJobAcceptedInto json pPayload (.zeroed maxAwsJobIdSize behind)
      maxAwsJobIdSize
    parsed.ret = true → ∃ jobId, located json pPayload (ascii "queuedJobs[0].jobId") = some jobId ∧
      parsed.pJobId.Holds jobId
  inside : ∀ behind, ∀ access ∈ (parsingGetJobAcceptedInto json pPayload
    (.zeroed maxAwsJobIdSize behind) maxAwsJobIdSize).accesses, access.Inside

/-- The second parser leaves every matched value, terminated, and stays inside the
arrays. -/
structure StartNextExact (pPayload : List UInt8) : Prop where
  stored : ∀ pJobId pJobDocument pJobType,
    let parsed := parsingStartNextJobAcceptedInto json pPayload pJobId pJobDocument pJobType
    parsed.ret = true →
      (∀ jobId, located json pPayload (ascii "execution.jobId") = some jobId →
        parsed.pJobId.Holds jobId) ∧
      (∀ jobDocument, located json pPayload (ascii "execution.jobDocument") = some jobDocument →
        parsed.pJobDocument.Holds jobDocument) ∧
      (∀ jobType, located json pPayload (ascii "execution.jobDocument.jobType") = some jobType →
        parsed.pJobType.Holds jobType)
  inside : ∀ pJobId pJobDocument pJobType, ∀ access ∈ (parsingStartNextJobAcceptedInto json pPayload
    pJobId pJobDocument pJobType).accesses, access.Inside

/-- Both parsers are exact, and every callback on a message with the payload copies
inside its arrays. -/
structure PayloadSafe (pPayload : List UInt8) : Prop where
  getJob : GetExact json pPayload
  startNext : StartNextExact json pPayload
  copies : ∀ (thingName : List UInt8) (stack : Stack) (state : JobsState) (info : PublishInfo)
    (arrays : JobArrays), info.payload = pPayload →
    ∀ access ∈ (iotJobsEventCallbackInto json thingName stack state info arrays).2, access.Inside

/-- No value that is matched fills its array: the queued id has another length than the
array, and the three values of the execution are shorter than theirs. -/
structure ValuesFit (pPayload : List UInt8) : Prop where
  queuedJobId : ∀ jobId, located json pPayload (ascii "queuedJobs[0].jobId") = some jobId →
    jobId.length ≠ maxAwsJobIdSize
  jobId : ∀ jobId, located json pPayload (ascii "execution.jobId") = some jobId →
    jobId.length < maxAwsJobIdSize
  jobDocument : ∀ jobDocument,
    located json pPayload (ascii "execution.jobDocument") = some jobDocument →
    jobDocument.length < maxAwsJobDocumentSize
  jobType : ∀ jobType,
    located json pPayload (ascii "execution.jobDocument.jobType") = some jobType →
    jobType.length < maxAwsJobTypeSize

/-- A value lies in the payload. -/
theorem located_text (pPayload key text : List UInt8) (isText : IsText pPayload)
    (found : located json pPayload key = some text) : IsText text := by
  obtain ⟨span, _, rfl⟩ := Option.map_eq_some_iff.mp found
  exact fun byte member => isText byte (List.mem_of_mem_drop (List.mem_of_mem_take member))

/-- A parsed id is copied as it is; anything else leaves the array alone. -/
theorem getParse_cases (pPayload behind : List UInt8) (valid : json.validate pPayload = true)
    (isText : IsText pPayload) :
    (parsingGetJobAcceptedInto json pPayload (.zeroed maxAwsJobIdSize behind) maxAwsJobIdSize =
        ⟨false, .zeroed maxAwsJobIdSize behind, []⟩ ∧
      parsingGetJobAccepted json pPayload = none) ∨
    ∃ jobId, located json pPayload (ascii "queuedJobs[0].jobId") = some jobId ∧ IsText jobId ∧
      jobId.length ≤ maxAwsJobIdSize ∧
      parsingGetJobAcceptedInto json pPayload (.zeroed maxAwsJobIdSize behind) maxAwsJobIdSize =
        ⟨true, (Buffer.zeroed maxAwsJobIdSize behind).strncpy jobId jobId.length,
          [⟨maxAwsJobIdSize, jobId.length⟩]⟩ ∧
      parsingGetJobAccepted json pPayload = some jobId := by
  simp only [parsingGetJobAcceptedInto, parsingGetJobAccepted, if_pos valid]
  cases found : located json pPayload (ascii "queuedJobs[0].jobId") with
  | none => exact Or.inl ⟨rfl, rfl⟩
  | some jobId =>
    have jobIdText := located_text json pPayload _ jobId isText found
    by_cases long : jobId.length > maxAwsJobIdSize
    · simp only [if_pos long]
      exact Or.inl ⟨trivial, trivial⟩
    · simp only [if_neg long]
      exact Or.inr ⟨jobId, rfl, jobIdText, Nat.le_of_not_lt long, rfl,
        congrArg some (cText_whole jobId jobIdText)⟩

/-- A located value that is shorter than its array is held by it. -/
theorem copyLocated_holds {size : Nat} (target : Buffer size) (text : List UInt8)
    (isText : IsText text) (room : text.length < size) :
    (copyLocated (some text) target).1.Holds text ∧
      ∀ access ∈ (copyLocated (some text) target).2, access.Inside :=
  ⟨copied_holds target text isText room, copied_inside room⟩

/-- A located value that fills its array is terminated behind it. -/
theorem copyLocated_leaves {size : Nat} (value : Option (List UInt8)) (target : Buffer size)
    (long : tooLong size value = true) :
    ∃ access ∈ (copyLocated value target).2, ¬ access.Inside := by
  cases value with
  | none => cases long
  | some text =>
    have filled : size ≤ text.length := of_decide_eq_true long
    refine ⟨⟨size, text.length + 1⟩, by simp [copyLocated], ?_⟩
    simp only [Access.Inside]
    omega

/-- A value that fits its array, or is not found, leaves a held string. -/
theorem copyLocated_fits {size : Nat} (value : Option (List UInt8)) (target : Buffer size)
    (fallback : List UInt8) (valueText : ∀ text, value = some text → IsText text)
    (isText : IsText fallback) (holds : target.Holds fallback)
    (fits : tooLong size value = false) :
    IsText ((value.map cText).getD fallback) ∧
      (copyLocated value target).1.Holds ((value.map cText).getD fallback) ∧
      ∀ access ∈ (copyLocated value target).2, access.Inside := by
  cases value with
  | none => exact ⟨isText, holds, by rintro _ ⟨⟩⟩
  | some text =>
    have room : text.length < size := Nat.lt_of_not_le (of_decide_eq_false fits)
    have ownText := valueText text rfl
    have held := copyLocated_holds target text ownText room
    simp only [Option.map_some, Option.getD_some, cText_whole text ownText]
    exact ⟨ownText, held⟩

/-- The first parser is exact unless the queued id fills the array. -/
theorem get_exact_iff (pPayload : List UInt8) (valid : json.validate pPayload = true)
    (isText : IsText pPayload) :
    GetExact json pPayload ↔
      ∀ jobId, located json pPayload (ascii "queuedJobs[0].jobId") = some jobId →
        jobId.length ≠ maxAwsJobIdSize := by
  constructor
  · intro exactly jobId found full
    rcases getParse_cases json pPayload [] valid isText with
      ⟨parsed, refused⟩ | ⟨text, same, _, _, parsed, _⟩
    · rw [parsingGetJobAccepted, if_pos valid, found] at refused
      simp only [full, Nat.lt_irrefl, gt_iff_lt, if_false] at refused
      cases refused
    · have stored := exactly.stored []
      rw [parsed] at stored
      obtain ⟨other, again, holds⟩ := stored rfl
      rw [found] at again
      cases again
      exact absurd holds.inside (by omega)
  · intro fits
    constructor
    · intro behind parsed ret
      rcases getParse_cases json pPayload behind valid isText with
        ⟨refused, _⟩ | ⟨jobId, found, jobIdText, short, copied, _⟩
      · rw [show parsed = _ from refused] at ret
        cases ret
      · have room : jobId.length < maxAwsJobIdSize := Nat.lt_of_le_of_ne short (fits jobId found)
        refine ⟨jobId, found, ?_⟩
        rw [show parsed = _ from copied]
        exact zeroed_holds behind jobId jobIdText room
    · intro behind access member
      rcases getParse_cases json pPayload behind valid isText with
        ⟨refused, _⟩ | ⟨jobId, _, _, short, copied, _⟩
      · rw [refused] at member
        cases member
      · rw [copied] at member
        cases List.mem_singleton.mp member
        exact short

/-- The second parser is exact exactly when its three values are shorter than their
arrays. -/
theorem startNext_exact_iff (pPayload : List UInt8) (valid : json.validate pPayload = true)
    (isText : IsText pPayload) :
    StartNextExact json pPayload ↔
      (∀ jobId, located json pPayload (ascii "execution.jobId") = some jobId →
        jobId.length < maxAwsJobIdSize) ∧
      (∀ jobDocument, located json pPayload (ascii "execution.jobDocument") = some jobDocument →
        jobDocument.length < maxAwsJobDocumentSize) ∧
      (∀ jobType, located json pPayload (ascii "execution.jobDocument.jobType") = some jobType →
        jobType.length < maxAwsJobTypeSize) := by
  constructor
  · intro exactly
    have stored := exactly.stored (.zeroed _ []) (.zeroed _ []) (.zeroed _ [])
    simp only [parsingStartNextJobAcceptedInto, if_pos valid, forall_const] at stored
    exact ⟨fun text found => (stored.1 text found).inside,
      fun text found => (stored.2.1 text found).inside,
      fun text found => (stored.2.2 text found).inside⟩
  · rintro ⟨jobIdFits, jobDocumentFits, jobTypeFits⟩
    have copied {size : Nat} (key : List UInt8) (target : Buffer size)
        (fits : ∀ text, located json pPayload key = some text → text.length < size) :
        (∀ text, located json pPayload key = some text →
          (copyLocated (located json pPayload key) target).1.Holds text) ∧
        ∀ access ∈ (copyLocated (located json pPayload key) target).2, access.Inside := by
      cases found : located json pPayload key with
      | none => exact ⟨by rintro _ ⟨⟩, by rintro _ ⟨⟩⟩
      | some text =>
        have held := copyLocated_holds target text (located_text json pPayload key text isText found)
          (fits text found)
        exact ⟨by rintro _ ⟨⟩; exact held.1, held.2⟩
    constructor
    · intro pJobId pJobDocument pJobType
      simp only [parsingStartNextJobAcceptedInto, if_pos valid, forall_const]
      exact ⟨(copied _ pJobId jobIdFits).1, (copied _ pJobDocument jobDocumentFits).1,
        (copied _ pJobType jobTypeFits).1⟩
    · intro pJobId pJobDocument pJobType access member
      simp only [parsingStartNextJobAcceptedInto, if_pos valid, List.mem_append] at member
      rcases member with (member | member) | member
      · exact (copied _ pJobId jobIdFits).2 access member
      · exact (copied _ pJobDocument jobDocumentFits).2 access member
      · exact (copied _ pJobType jobTypeFits).2 access member

/-- The arrays hold the strings of the string-level state. -/
structure Represents (arrays : JobArrays) (state : JobsState) : Prop where
  awsJobIdList : ∀ index, index < maxAwsJobListSize →
    (arrays.awsJobIdList index).Holds (state.awsJobIdList.slots.getD index [])
  jobId : arrays.jobId.Holds state.executionParam.jobId
  jobDocument : arrays.jobDocument.Holds state.executionParam.jobDocument
  jobType : arrays.jobType.Holds state.executionParam.jobType

/-- The strings the arrays hold are those of the list and of the record. -/
theorem Represents.congr {arrays : JobArrays} {state next : JobsState}
    (represents : Represents arrays state) (list : next.awsJobIdList = state.awsJobIdList)
    (param : next.executionParam = state.executionParam) : Represents arrays next :=
  ⟨list ▸ represents.awsJobIdList, param ▸ represents.jobId, param ▸ represents.jobDocument,
    param ▸ represents.jobType⟩

/-- An array initialised with zeros holds the empty string. -/
theorem zeroed_empty {size : Nat} (behind : List UInt8) (room : 0 < size) :
    (Buffer.zeroed size behind).Holds [] :=
  zeroed_holds behind [] (by rintro _ ⟨⟩) room

/-- A free slot lies in the list. -/
theorem availableIndex_inside (list : JobIdList) (index : Nat)
    (available : getAvailableIndex list = some index) : index < maxAwsJobListSize := by
  have found := List.findIdx?_eq_some_iff_findIdx_eq.mp available
  rw [← list.size_eq]
  exact found.1

/-- What the first branch does on the arrays and on the strings when nothing overruns. -/
structure FirstMatches (run : BranchRun) (first : Bool × List UInt8 × JobsState) (arrays : JobArrays)
    (state : JobsState) : Prop where
  returns : run.returns = first.1
  holds : run.tempJobId.Holds first.2.1
  isText : IsText first.2.1
  inside : ∀ access ∈ run.accesses, access.Inside
  overrun : first.2.2.overrun = state.overrun
  executionParam : first.2.2.executionParam = state.executionParam
  represents : Represents arrays state → Represents run.arrays first.2.2

/-- A held id is added inside every array. -/
theorem addJobIdInto_inside (arrays : JobArrays) (list : JobIdList) (index : Nat)
    (tempJobId : Buffer maxAwsJobIdSize) (jobId : List UInt8) (isText : IsText jobId)
    (holds : tempJobId.Holds jobId) (available : getAvailableIndex list = some index) :
    ∀ access ∈ (addJobIdInto arrays index tempJobId).2, access.Inside := by
  have within := availableIndex_inside list index available
  have copied := copyString_holds (arrays.awsJobIdList index).cleared tempJobId jobId
    isText holds holds.inside (by decide)
  intro access member
  simp only [addJobIdInto, List.cons_append, List.nil_append, List.mem_cons] at member
  rcases member with rfl | rfl | member
  · exact within
  · exact Nat.le_refl _
  · exact copied.2 access member

/-- An id that is added goes into the slot of the list. -/
theorem addJobIdInto_represents (arrays : JobArrays) (state added : JobsState) (index : Nat)
    (tempJobId : Buffer maxAwsJobIdSize) (jobId : List UInt8) (isText : IsText jobId)
    (holds : tempJobId.Holds jobId) (represents : Represents arrays state)
    (slots : added.awsJobIdList.slots = state.awsJobIdList.slots.set index jobId)
    (param : added.executionParam = state.executionParam) :
    Represents (addJobIdInto arrays index tempJobId).1 added := by
  have copied := copyString_holds (arrays.awsJobIdList index).cleared tempJobId jobId
    isText holds holds.inside (by decide)
  refine ⟨fun slot bound => ?_, param ▸ represents.jobId, param ▸ represents.jobDocument,
    param ▸ represents.jobType⟩
  simp only [addJobIdInto, slots]
  by_cases same : slot = index
  · subst same
    rw [if_pos rfl, List.getD_eq_getElem?_getD, List.getElem?_set_self (by
      rw [state.awsJobIdList.size_eq]; exact bound), Option.getD_some]
    exact copied.1
  · rw [if_neg same, List.getD_eq_getElem?_getD, List.getElem?_set_ne (Ne.symm same),
      ← List.getD_eq_getElem?_getD]
    exact represents.awsJobIdList slot bound

/-- A branch that stores no id. -/
theorem first_unmatched (behind : List UInt8) (state next : JobsState) (arrays : JobArrays)
    (list : next.awsJobIdList = state.awsJobIdList)
    (param : next.executionParam = state.executionParam) (overrun : next.overrun = state.overrun) :
    FirstMatches ⟨false, .zeroed maxAwsJobIdSize behind, arrays, []⟩ (false, [], next) arrays state where
  returns := rfl
  holds := zeroed_empty behind (by decide)
  isText := by rintro _ ⟨⟩
  inside := by rintro _ ⟨⟩
  overrun := overrun
  executionParam := param
  represents := fun represents => represents.congr list param

/-- An id that fills its array has no terminator there. -/
theorem full_id_leaves (behind jobId : List UInt8) (isText : IsText jobId)
    (full : jobId.length = maxAwsJobIdSize) :
    ¬ (Access.mk maxAwsJobIdSize
      (((Buffer.zeroed maxAwsJobIdSize behind).strncpy jobId jobId.length).strlen + 1)).Inside := by
  have bytes := strncpyBytes_text jobId [] isText
  rw [List.append_nil] at bytes
  have leaves := strlen_leaves ((Buffer.zeroed maxAwsJobIdSize behind).strncpy jobId jobId.length) (by
    simp only [Buffer.strncpy, bytes]
    rw [← full, List.take_left]
    exact isText)
  simp only [Access.Inside]
  omega

/-- What the first branch does with an id that its array holds: it finds it listed, or finds
no slot, or adds it. -/
theorem heldId_run (arrays : JobArrays) (state next : JobsState)
    (tempJobId : Buffer maxAwsJobIdSize) (jobId : List UInt8) (isText : IsText jobId)
    (holds : tempJobId.Holds jobId) (stored read : Access) (storing : stored.Inside)
    (reading : read.Inside) (list : next.awsJobIdList = state.awsJobIdList)
    (param : next.executionParam = state.executionParam) (overrun : next.overrun = state.overrun) :
    FirstMatches
      (if isExistJobId state.awsJobIdList jobId then
        ⟨true, tempJobId, arrays, [stored] ++ [read]⟩
      else
        match getAvailableIndex state.awsJobIdList with
        | none => ⟨true, tempJobId, arrays, [stored] ++ [read, read]⟩
        | some index =>
          ⟨false, tempJobId, (addJobIdInto arrays index tempJobId).1,
            [stored] ++ [read] ++ (addJobIdInto arrays index tempJobId).2⟩)
      (if isExistJobId next.awsJobIdList jobId then (true, jobId, next)
      else
        match addJobId next.awsJobIdList jobId with
        | none => (true, jobId, next)
        | some added => (false, jobId, { next with awsJobIdList := added }))
      arrays state := by
  have nothing : ∀ access ∈ ([] : List Access), access.Inside := by rintro _ ⟨⟩
  have same (represents : Represents arrays state) : Represents arrays next :=
    represents.congr list param
  rw [list]
  by_cases listed : isExistJobId state.awsJobIdList jobId = true
  · simp only [if_pos listed]
    refine ⟨rfl, holds, isText, ?_, overrun, param, same⟩
    exact List.forall_mem_cons.mpr ⟨storing, List.forall_mem_cons.mpr ⟨reading, nothing⟩⟩
  · simp only [if_neg listed, addJobId]
    cases available : getAvailableIndex state.awsJobIdList with
    | none =>
      simp only [Option.map_none]
      refine ⟨rfl, holds, isText, ?_, overrun, param, same⟩
      exact List.forall_mem_cons.mpr ⟨storing,
        List.forall_mem_cons.mpr ⟨reading, List.forall_mem_cons.mpr ⟨reading, nothing⟩⟩⟩
    | some index =>
      simp only [Option.map_some]
      have inside := addJobIdInto_inside arrays state.awsJobIdList index _ jobId isText holds
        available
      refine ⟨rfl, holds, isText, ?_, overrun, param, ?_⟩
      · exact List.forall_mem_cons.mpr ⟨storing, List.forall_mem_cons.mpr ⟨reading, inside⟩⟩
      · intro represents
        exact addJobIdInto_represents arrays state _ index _ jobId isText holds represents
          rfl param

/-- The first branch overruns when the id fills its array, and matches otherwise. -/
theorem getBranch_run (noNul : ∀ text, json.validate text = true → IsText text)
    (info : PublishInfo) (state : JobsState) (arrays : JobArrays) :
    let run := getAcceptedBranchInto json thingName stack info state.awsJobIdList arrays
    let first := getAcceptedBranch json thingName info state
    (first.2.2.overrun = true ∧ (∃ access ∈ run.accesses, ¬ access.Inside) ∧
      ¬ ValuesFit json info.payload) ∨ FirstMatches run first arrays state := by
  simp only [getAcceptedBranchInto, getAcceptedBranch]
  by_cases topic : info.topicEqual (jobsGetAccepted thingName) info.topicName.length = true
  · simp only [if_pos topic]
    by_cases valid : json.validate info.payload = true
    · rcases getParse_cases json info.payload stack.behindJobId valid (noNul _ valid) with
        ⟨refused, noId⟩ | ⟨jobId, found, isText, short, copied, parsed⟩
      · simp only [refused, noId]
        exact Or.inr (first_unmatched _ _ _ _ rfl rfl rfl)
      · simp only [copied, parsed, if_true]
        by_cases full : jobId.length = maxAwsJobIdSize
        · have leaves := full_id_leaves stack.behindJobId jobId isText full
          refine Or.inl ⟨?_, ?_, fun fits => fits.queuedJobId jobId found full⟩
          · have filled : decide (maxAwsJobIdSize ≤ jobId.length) = true :=
              decide_eq_true (Nat.le_of_eq full.symm)
            split
            · simp only [filled, Bool.or_true]
            · split <;> simp only [filled, Bool.or_true]
          · split
            · exact ⟨_, by simp, leaves⟩
            · split <;> exact ⟨_, by simp, leaves⟩
        · have room : jobId.length < maxAwsJobIdSize := Nat.lt_of_le_of_ne short full
          have unfilled : decide (maxAwsJobIdSize ≤ jobId.length) = false :=
            decide_eq_false (Nat.not_le_of_lt room)
          have holds := zeroed_holds stack.behindJobId jobId isText room
          have text := holds_text _ jobId isText holds
          have read := holds_strlen _ jobId isText holds
          refine Or.inr ?_
          simp only [text, read, unfilled, Bool.or_false]
          exact heldId_run arrays state { state with recvedMqttGetJobAcceptMsg := true } _ jobId
            isText holds ⟨maxAwsJobIdSize, jobId.length⟩ ⟨maxAwsJobIdSize, jobId.length + 1⟩
            short room rfl rfl rfl
    · have refused : parsingGetJobAcceptedInto json info.payload
          (.zeroed maxAwsJobIdSize stack.behindJobId) maxAwsJobIdSize =
          ⟨false, .zeroed maxAwsJobIdSize stack.behindJobId, []⟩ := if_neg valid
      have noId : parsingGetJobAccepted json info.payload = none := if_neg valid
      simp only [refused, noId]
      exact Or.inr (first_unmatched _ _ _ _ rfl rfl rfl)
  · simp only [if_neg topic]
    exact Or.inr (first_unmatched _ _ _ _ rfl rfl rfl)

/-- A start-next message overruns exactly when one of its values does not fit. -/
theorem startNext_leaves (pPayload : List UInt8) (pJobId : Buffer maxAwsJobIdSize)
    (pJobDocument : Buffer maxAwsJobDocumentSize) (pJobType : Buffer maxAwsJobTypeSize)
    (overruns : startNextOverruns json pPayload = true) :
    ∃ access ∈ (parsingStartNextJobAcceptedInto json pPayload pJobId pJobDocument pJobType).accesses,
      ¬ access.Inside := by
  rw [startNextOverruns, Bool.and_eq_true, Bool.or_eq_true, Bool.or_eq_true] at overruns
  obtain ⟨valid, long⟩ := overruns
  simp only [parsingStartNextJobAcceptedInto, if_pos valid, List.mem_append]
  rcases long with (long | long) | long
  · obtain ⟨access, member, outside⟩ := copyLocated_leaves _ pJobId long
    exact ⟨access, Or.inl (Or.inl member), outside⟩
  · obtain ⟨access, member, outside⟩ := copyLocated_leaves _ pJobDocument long
    exact ⟨access, Or.inl (Or.inr member), outside⟩
  · obtain ⟨access, member, outside⟩ := copyLocated_leaves _ pJobType long
    exact ⟨access, Or.inr member, outside⟩

/-- Values that fit do not overrun. -/
theorem startNextOverruns_of_fit (pPayload : List UInt8) (fits : ValuesFit json pPayload) :
    startNextOverruns json pPayload = false := by
  have short (key : List UInt8) (size : Nat)
      (bound : ∀ text, located json pPayload key = some text → text.length < size) :
      tooLong size (located json pPayload key) = false := by
    cases found : located json pPayload key with
    | none => rfl
    | some text => exact decide_eq_false (Nat.not_le_of_lt (bound text found))
  rw [startNextOverruns, short _ _ fits.jobId, short _ _ fits.jobDocument, short _ _ fits.jobType]
  exact Bool.and_false _

/-- A start-next message without an overrun leaves the values of the string level in the
local arrays. -/
theorem startNext_holds (noNul : ∀ text, json.validate text = true → IsText text)
    (pPayload : List UInt8) (pJobId : Buffer maxAwsJobIdSize)
    (pJobDocument : Buffer maxAwsJobDocumentSize) (pJobType : Buffer maxAwsJobTypeSize)
    (jobId : List UInt8) (isText : IsText jobId) (holds : pJobId.Holds jobId)
    (documentEmpty : pJobDocument.Holds []) (typeEmpty : pJobType.Holds [])
    (valid : json.validate pPayload = true) (fits : startNextOverruns json pPayload = false) :
    let parsed := parsingStartNextJobAcceptedInto json pPayload pJobId pJobDocument pJobType
    ∃ job, parsingStartNextJobAccepted json pPayload jobId = some job ∧ parsed.ret = true ∧
      (IsText job.jobId ∧ parsed.pJobId.Holds job.jobId) ∧
      (IsText job.jobDocument ∧ parsed.pJobDocument.Holds job.jobDocument) ∧
      (IsText job.jobType ∧ parsed.pJobType.Holds job.jobType) ∧
      ∀ access ∈ parsed.accesses, access.Inside := by
  rw [startNextOverruns, valid, Bool.true_and, Bool.or_eq_false_iff, Bool.or_eq_false_iff] at fits
  obtain ⟨⟨jobIdFits, documentFits⟩, typeFits⟩ := fits
  have valueText (key text : List UInt8) (found : located json pPayload key = some text) :
      IsText text := located_text json pPayload key text (noNul _ valid) found
  have empty : IsText ([] : List UInt8) := by rintro _ ⟨⟩
  obtain ⟨jobIdText, jobIdHolds, jobIdInside⟩ :=
    copyLocated_fits _ pJobId jobId (valueText _) isText holds jobIdFits
  obtain ⟨documentText, documentHolds, documentInside⟩ :=
    copyLocated_fits _ pJobDocument [] (valueText _) empty documentEmpty documentFits
  obtain ⟨typeText, typeHolds, typeInside⟩ :=
    copyLocated_fits _ pJobType [] (valueText _) empty typeEmpty typeFits
  simp only [parsingStartNextJobAcceptedInto, parsingStartNextJobAccepted, if_pos valid]
  refine ⟨_, rfl, trivial, ⟨jobIdText, jobIdHolds⟩, ⟨documentText, documentHolds⟩,
    ⟨typeText, typeHolds⟩, ?_⟩
  exact List.forall_mem_append.mpr
    ⟨List.forall_mem_append.mpr ⟨jobIdInside, documentInside⟩, typeInside⟩

/-- The second branch overruns when a value does not fit, and matches otherwise. -/
theorem startNextBranch_run (noNul : ∀ text, json.validate text = true → IsText text)
    (info : PublishInfo) (state : JobsState) (arrays : JobArrays)
    (tempJobId : Buffer maxAwsJobIdSize) (jobId : List UInt8) (isText : IsText jobId)
    (holds : tempJobId.Holds jobId) :
    let run := startNextAcceptedBranchInto json thingName stack info
      state.executionParam.isJobStarted tempJobId arrays
    let after := startNextAcceptedBranch json thingName info jobId state
    (after.overrun = true ∧ (∃ access ∈ run.2, ¬ access.Inside) ∧ ¬ ValuesFit json info.payload) ∨
      (after.overrun = state.overrun ∧ (∀ access ∈ run.2, access.Inside) ∧
        (Represents arrays state → Represents run.1 after)) := by
  simp only [startNextAcceptedBranchInto, startNextAcceptedBranch]
  by_cases topic : info.topicEqual (jobsStartNextAccepted thingName) info.topicName.length = true
  · simp only [if_pos topic]
    by_cases valid : json.validate info.payload = true
    · cases overruns : startNextOverruns json info.payload with
      | true =>
        obtain ⟨access, member, outside⟩ := startNext_leaves json info.payload tempJobId
          (.zeroed maxAwsJobDocumentSize stack.behindJobDocument)
          (.zeroed maxAwsJobTypeSize stack.behindJobType) overruns
        refine Or.inl ⟨?_, ⟨access, ?_, outside⟩, fun fits => ?_⟩
        · simp only [parsingStartNextJobAccepted, if_pos valid, Bool.or_true]
          split <;> rfl
        · split
          · exact List.mem_append_left _ member
          · exact member
        · rw [startNextOverruns_of_fit json info.payload fits] at overruns
          cases overruns
      | false =>
        obtain ⟨job, parsed, returned, ⟨jobIdText, jobIdHolds⟩, ⟨documentText, documentHolds⟩,
          ⟨typeText, typeHolds⟩, parsedInside⟩ :=
          startNext_holds json noNul info.payload tempJobId _ _ jobId isText holds
            (zeroed_empty stack.behindJobDocument (by decide))
            (zeroed_empty stack.behindJobType (by decide)) valid overruns
        refine Or.inr ?_
        rw [parsed, returned]
        cases started : state.executionParam.isJobStarted with
        | true =>
          simp only [Bool.not_true, Bool.and_false, Bool.false_eq_true, if_false, if_true]
          exact ⟨Bool.or_false _, parsedInside, fun represents => represents.congr rfl rfl⟩
        | false =>
          simp only [Bool.not_false, Bool.and_true, if_true, Bool.false_eq_true, if_false]
          have idCopied := copyString_holds arrays.jobId _ _ jobIdText jobIdHolds jobIdHolds.inside
            (by decide)
          have documentCopied := copyString_holds arrays.jobDocument _ _ documentText documentHolds
            documentHolds.inside (by decide)
          have typeCopied := copyString_holds arrays.jobType _ _ typeText typeHolds
            typeHolds.inside (by decide)
          refine ⟨Bool.or_false _, ?_, fun represents => ?_⟩
          · exact List.forall_mem_append.mpr ⟨parsedInside, List.forall_mem_append.mpr
              ⟨List.forall_mem_append.mpr ⟨idCopied.2, documentCopied.2⟩, typeCopied.2⟩⟩
          · exact ⟨represents.awsJobIdList, idCopied.1, documentCopied.1, typeCopied.1⟩
    · simp only [parsingStartNextJobAcceptedInto, parsingStartNextJobAccepted, if_neg valid,
        Bool.false_and, Bool.false_eq_true, if_false]
      exact Or.inr ⟨trivial, by rintro _ ⟨⟩, fun represents => represents.congr rfl rfl⟩
  · simp only [if_neg topic]
    exact Or.inr ⟨trivial, by rintro _ ⟨⟩, fun represents => represents⟩

/-- The later branches keep the overrun flag set. -/
theorem startNextBranch_overrun (info : PublishInfo) (tempJobId : List UInt8) (state : JobsState)
    (overrun : state.overrun = true) :
    (startNextAcceptedBranch json thingName info tempJobId state).overrun = true := by
  simp only [startNextAcceptedBranch]
  split
  · split
    · exact overrun
    · split <;> simp only [overrun, Bool.true_or]
  · exact overrun

theorem updateBranch_kept (info : PublishInfo) (state : JobsState) :
    (updateAcceptedBranch thingName info state).overrun = state.overrun ∧
      (updateAcceptedBranch thingName info state).awsJobIdList = state.awsJobIdList ∧
      (updateAcceptedBranch thingName info state).executionParam = state.executionParam := by
  simp only [updateAcceptedBranch]
  split <;> exact ⟨rfl, rfl, rfl⟩

/-- The later branches after a first branch without an overrun. -/
theorem laterBranches_run (noNul : ∀ text, json.validate text = true → IsText text)
    (info : PublishInfo) (state : JobsState) (arrays : JobArrays) (run : BranchRun)
    (branch : Bool × List UInt8 × JobsState) (first : FirstMatches run branch arrays state)
    (quiet : state.overrun = false) :
    let second := startNextAcceptedBranchInto json thingName stack info
      state.executionParam.isJobStarted run.tempJobId run.arrays
    let after := updateAcceptedBranch thingName info
      (startNextAcceptedBranch json thingName info branch.2.1 branch.2.2)
    (after.overrun = true ∧ (∃ access ∈ run.accesses ++ second.2, ¬ access.Inside) ∧
        ¬ ValuesFit json info.payload) ∨
      (after.overrun = false ∧ (∀ access ∈ run.accesses ++ second.2, access.Inside) ∧
        (Represents arrays state → Represents second.1 after)) := by
  have second := startNextBranch_run json thingName stack noNul info branch.2.2 run.arrays
    run.tempJobId branch.2.1 first.isText first.holds
  rw [first.executionParam] at second
  obtain ⟨sameOverrun, sameList, sameParam⟩ := updateBranch_kept thingName info
    (startNextAcceptedBranch json thingName info branch.2.1 branch.2.2)
  rcases second with ⟨overrun, ⟨access, member, outside⟩, unfit⟩ | ⟨overrun, inside, represents⟩
  · exact Or.inl ⟨sameOverrun.trans overrun,
      ⟨access, List.mem_append_right _ member, outside⟩, unfit⟩
  · refine Or.inr ⟨sameOverrun.trans (overrun.trans (first.overrun.trans quiet)), ?_, ?_⟩
    · exact List.forall_mem_append.mpr ⟨first.inside, inside⟩
    · intro before
      exact (represents (first.represents before)).congr sameList sameParam

/-- A callback sets the overrun flag of the string level exactly when an access leaves its
array; otherwise the arrays keep holding the strings of the state. -/
theorem callback_run (noNul : ∀ text, json.validate text = true → IsText text)
    (info : PublishInfo) (state : JobsState) (arrays : JobArrays) (quiet : state.overrun = false) :
    let run := iotJobsEventCallbackInto json thingName stack state info arrays
    let after := iotJobsEventCallback json thingName state info
    (after.overrun = true ∧ (∃ access ∈ run.2, ¬ access.Inside) ∧ ¬ ValuesFit json info.payload) ∨
      (after.overrun = false ∧ (∀ access ∈ run.2, access.Inside) ∧
        (Represents arrays state → Represents run.1 after)) := by
  simp only [iotJobsEventCallbackInto, iotJobsEventCallback]
  rcases getBranch_run json thingName stack noNul info
      { state with sincePublish := info :: state.sincePublish } arrays with
    ⟨overrun, ⟨access, member, outside⟩, unfit⟩ | first
  · refine Or.inl ⟨?_, ⟨access, ?_, outside⟩, unfit⟩
    · split
      · exact overrun
      · rw [(updateBranch_kept thingName info _).1]
        exact startNextBranch_overrun json thingName info _ _ overrun
    · split
      · exact member
      · exact List.mem_append_left _ member
  · have later := laterBranches_run json thingName stack noNul info _ arrays _ _ first quiet
    have returns := first.returns
    dsimp only at returns later
    rw [returns]
    split
    next =>
      exact Or.inr ⟨first.overrun.trans quiet, first.inside,
        fun before => first.represents (before.congr rfl rfl)⟩
    next =>
      rcases later with overruns | ⟨overrun, inside, represents⟩
      · exact Or.inl overruns
      · exact Or.inr ⟨overrun, inside, fun before => represents (before.congr rfl rfl)⟩

/-- The overrun flag of the string level says exactly that an access leaves its array. -/
theorem overrun_iff (noNul : ∀ text, json.validate text = true → IsText text)
    (info : PublishInfo) (state : JobsState) (arrays : JobArrays) (quiet : state.overrun = false) :
    (iotJobsEventCallback json thingName state info).overrun = true ↔
      ∃ access ∈ (iotJobsEventCallbackInto json thingName stack state info arrays).2,
        ¬ access.Inside := by
  rcases callback_run json thingName stack noNul info state arrays quiet with
    ⟨overrun, outside, _⟩ | ⟨overrun, inside, _⟩
  · exact ⟨fun _ => outside, fun _ => overrun⟩
  · constructor
    · intro set
      rw [overrun] at set
      cases set
    · rintro ⟨access, member, outside⟩
      exact absurd (inside access member) outside

/-- A payload is handled safely exactly when none of its values fills an array. -/
theorem payload_safe_iff (noNul : ∀ text, json.validate text = true → IsText text)
    (pPayload : List UInt8) (valid : json.validate pPayload = true) :
    PayloadSafe json pPayload ↔ ValuesFit json pPayload := by
  have isText := noNul pPayload valid
  have getJob := get_exact_iff json pPayload valid isText
  have startNext := startNext_exact_iff json pPayload valid isText
  constructor
  · intro safe
    obtain ⟨jobId, jobDocument, jobType⟩ := startNext.mp safe.startNext
    exact ⟨getJob.mp safe.getJob, jobId, jobDocument, jobType⟩
  · intro fits
    refine ⟨getJob.mpr fits.queuedJobId,
      startNext.mpr ⟨fits.jobId, fits.jobDocument, fits.jobType⟩, ?_⟩
    intro thingName stack state info arrays payload
    rcases callback_run json thingName stack noNul info { state with overrun := false } arrays rfl with
      ⟨_, _, unfit⟩ | ⟨_, inside, _⟩
    · exact absurd (payload ▸ fits) unfit
    · exact inside

/-- The JSON library on the get-accepted message of one queued job that has no other key. -/
def queuedJobJson : Json where
  validate text := text.all (· != 0)
  search text key :=
    if key = ascii "queuedJobs[0].jobId" ∧ 29 ≤ text.length then some (25, text.length - 29)
    else none
  search_inside := by
    intro text key start length found
    split at found
    next enough =>
      cases found
      omega
    next => cases found

/-- The message that lists a job. -/
def queuedJobPayload (jobId : List UInt8) : List UInt8 :=
  ascii "\x7b\"queuedJobs\":[\x7b\"jobId\":\"" ++ jobId ++ ascii "\"\x7d]\x7d"

theorem queuedJobJson_noNul (text : List UInt8) (valid : queuedJobJson.validate text = true) :
    IsText text := by
  intro byte member
  exact bne_iff_ne.mp (List.all_eq_true.mp valid byte member)

theorem short_id_safe : PayloadSafe queuedJobJson (queuedJobPayload (ascii "job-1")) :=
  (payload_safe_iff queuedJobJson queuedJobJson_noNul _ (by decide +kernel)).mpr (by
    have queued : located queuedJobJson (queuedJobPayload (ascii "job-1"))
        (ascii "queuedJobs[0].jobId") = some (ascii "job-1") := by decide +kernel
    have jobId : located queuedJobJson (queuedJobPayload (ascii "job-1"))
        (ascii "execution.jobId") = none := by decide +kernel
    have jobDocument : located queuedJobJson (queuedJobPayload (ascii "job-1"))
        (ascii "execution.jobDocument") = none := by decide +kernel
    have jobType : located queuedJobJson (queuedJobPayload (ascii "job-1"))
        (ascii "execution.jobDocument.jobType") = none := by decide +kernel
    constructor
    · intro text found
      rw [queued] at found
      cases found
      decide +kernel
    · rw [jobId]
      rintro _ ⟨⟩
    · rw [jobDocument]
      rintro _ ⟨⟩
    · rw [jobType]
      rintro _ ⟨⟩)

/-- An id of 64 characters is accepted without a terminator. -/
theorem full_id_unterminated :
    ¬ (∀ json : Json, (∀ text, json.validate text = true → IsText text) →
      ∀ pPayload, json.validate pPayload = true → PayloadSafe json pPayload) := by
  intro safe
  have stored := (safe queuedJobJson queuedJobJson_noNul
    (queuedJobPayload (List.replicate 64 65)) (by decide +kernel)).getJob.stored []
  obtain ⟨jobId, found, holds⟩ := stored (by decide +kernel)
  have full : located queuedJobJson (queuedJobPayload (List.replicate 64 65))
      (ascii "queuedJobs[0].jobId") = some (List.replicate 64 65) := by decide +kernel
  rw [full] at found
  cases found
  exact absurd holds.inside (by decide)

end WiznetEaas.JobBuffers
