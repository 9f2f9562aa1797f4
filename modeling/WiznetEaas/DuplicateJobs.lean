import WiznetEaas.JobBuffers
import WiznetEaas.JobDispatch
import WiznetEaas.JobSlots

/-!
# Jobs that are queued twice

The callback ignores a pending job that `is_exist_job_id` finds in the list. That
comparison goes no further than the new id, so an id also finds every queued id that it
begins. It is exact for an id just as long as no queued id properly extends it.
-/

namespace WiznetEaas.DuplicateJobs

open NorFlash ByteMemory CStrings Runs JobDocument MqttMessages JobMessages JobDispatch JobSlots
open JobList (JobIdList queued isExistJobId delFirstJobId maxAwsJobListSize)

variable (json : Json) (thingName : List UInt8)

/-- An accepted request for the pending jobs, whose first job has an id that fits. -/
structure GetAccepted where
  message : Incoming thingName
  jobId : JobId
  topic : message.topic = .getAccepted
  parsed : parsingGetJobAccepted json message.payload = some jobId.text

/-- The broker answers, or the task deletes the head of the list. -/
inductive Event where
  | getAccepted (answer : GetAccepted json thingName)
  | delFirstJobId

def step (state : JobsState) : Event json thingName → JobsState
  | .getAccepted answer => handle json thingName state answer.message
  | .delFirstJobId => { state with awsJobIdList := delFirstJobId state.awsJobIdList }

/-- Suppression by exact id: the list knows just the ids that are queued, none of them
twice, and an answer is ignored only if its id is queued or the list is full. -/
structure ExactFor (state : JobsState) (jobId : JobId) : Prop where
  known : isExistJobId state.awsJobIdList jobId.text = true ↔
    jobId.text ∈ queued state.awsJobIdList
  once : (queued state.awsJobIdList).Nodup
  ignored : ∀ answer : GetAccepted json thingName, answer.jobId = jobId →
    (step json thingName state (.getAccepted answer)).awsJobIdList = state.awsJobIdList →
      jobId.text ∈ queued state.awsJobIdList ∨
        (queued state.awsJobIdList).length = maxAwsJobListSize

/-- The list of a queue knows an id when the id begins one of the queued. -/
theorem known_iff (queue : BoundedQueue JobId maxAwsJobListSize) (jobId : JobId) :
    isExistJobId (stringView queue) jobId.text = true ↔
      ∃ held ∈ queued (stringView queue), jobId.text <+: held := by
  have positive : jobId.text ≠ [] := List.ne_nil_of_length_pos jobId.positive
  rw [stringView_queued, isExistJobId, List.any_eq_true]
  constructor
  · rintro ⟨text, member, equal⟩
    rw [strncmpEqual_comm, strncmpEqual_prefix _ _ jobId.isText] at equal
    rcases List.mem_append.mp member with held | free
    · exact ⟨text, held, equal⟩
    · rw [List.eq_of_mem_replicate free] at equal
      exact absurd (List.prefix_nil.mp equal) positive
  · rintro ⟨text, held, begins⟩
    refine ⟨text, List.mem_append.mpr (.inl held), ?_⟩
    rw [strncmpEqual_comm, strncmpEqual_prefix _ _ jobId.isText]
    exact begins

/-- An answer adds its id, unless the list knows it or is full. -/
theorem handle_list (state : JobsState) (answer : GetAccepted json thingName) :
    (handle json thingName state answer.message).awsJobIdList =
      if isExistJobId state.awsJobIdList answer.jobId.text then state.awsJobIdList
      else (JobList.addJobId state.awsJobIdList answer.jobId.text).getD state.awsJobIdList := by
  have taken := (taken_getAccepted thingName answer.message).mpr answer.topic
  have notNext : answer.message.topic ≠ .startNextAccepted := by
    rw [answer.topic]
    intro no
    cases no
  have updated (before : JobsState) :
      (updateAcceptedBranch thingName answer.message.toPublishInfo before).awsJobIdList =
        before.awsJobIdList := by
    rw [updateAcceptedBranch]
    split <;> rfl
  unfold handle iotJobsEventCallback
  simp only [getAcceptedBranch, if_pos taken, answer.parsed]
  by_cases known : isExistJobId state.awsJobIdList answer.jobId.text = true
  · simp only [if_pos known, if_true]
  · simp only [if_neg known]
    cases JobList.addJobId state.awsJobIdList answer.jobId.text with
    | none => rfl
    | some added =>
      simp only [if_neg Bool.false_ne_true, startNextBranch_skips json thingName _ notNext, updated,
        Option.getD_some]

/-- The list is that of a queue without duplicates. -/
def Sound (state : JobsState) : Prop :=
  ∃ queue : BoundedQueue JobId maxAwsJobListSize, state.awsJobIdList = stringView queue ∧
    (queue.items.map JobId.text).Nodup

/-- The list after an answer, told of the queue. -/
theorem answer_list (state : JobsState) (queue : BoundedQueue JobId maxAwsJobListSize)
    (list : state.awsJobIdList = stringView queue) (answer : GetAccepted json thingName) :
    (step json thingName state (.getAccepted answer)).awsJobIdList =
      if isExistJobId (stringView queue) answer.jobId.text then stringView queue
      else ((queue.add answer.jobId).map stringView).getD (stringView queue) := by
  rw [step, handle_list, list, stringView_add]

/-- No event puts an id into the list twice. -/
theorem step_sound (state : JobsState) (event : Event json thingName) (sound : Sound state) :
    Sound (step json thingName state event) := by
  obtain ⟨queue, list, once⟩ := sound
  cases event with
  | getAccepted answer =>
    have after := answer_list json thingName state queue list answer
    by_cases known : isExistJobId (stringView queue) answer.jobId.text = true
    · rw [if_pos known] at after
      exact ⟨queue, after, once⟩
    · rw [if_neg known] at after
      by_cases room : queue.items.length < maxAwsJobListSize
      · rw [BoundedQueue.add, dif_pos room] at after
        refine ⟨_, after, ?_⟩
        have fresh : answer.jobId.text ∉ queue.items.map JobId.text := by
          intro member
          apply known
          rw [known_iff, stringView_queued]
          exact ⟨_, member, List.prefix_rfl⟩
        rw [List.map_append, List.nodup_append]
        refine ⟨once, List.pairwise_singleton _ _, ?_⟩
        intro held member other single
        rw [List.mem_singleton.mp single]
        rintro rfl
        exact fresh member
      · rw [BoundedQueue.add, dif_neg room] at after
        exact ⟨queue, after, once⟩
  | delFirstJobId =>
    refine ⟨queue.drop, ?_, ?_⟩
    · rw [step, list, stringView_drop]
    · rw [BoundedQueue.drop, List.map_tail]
      exact once.sublist (List.tail_sublist _)

/-- Suppression is exact for an id unless it begins a queued id without being queued. -/
theorem exactFor_iff (state : JobsState) (sound : Sound state) (jobId : JobId) :
    ExactFor json thingName state jobId ↔
      (jobId.text ∈ queued state.awsJobIdList ∨
        ∀ held ∈ queued state.awsJobIdList, ¬ jobId.text <+: held) := by
  obtain ⟨queue, list, once⟩ := sound
  have known := known_iff queue jobId
  constructor
  · intro exact
    have isKnown := exact.known
    rw [list] at isKnown ⊢
    by_cases member : jobId.text ∈ queued (stringView queue)
    · exact .inl member
    · refine .inr fun held heldMember begins => member ?_
      exact isKnown.mp (known.mpr ⟨held, heldMember, begins⟩)
  · intro condition
    have isKnown : isExistJobId state.awsJobIdList jobId.text = true ↔
        jobId.text ∈ queued state.awsJobIdList := by
      rw [list] at condition ⊢
      rw [known]
      constructor
      · rintro ⟨held, member, begins⟩
        rcases condition with queuedId | none
        · exact queuedId
        · exact absurd begins (none held member)
      · intro member
        exact ⟨_, member, List.prefix_rfl⟩
    refine ⟨isKnown, by rw [list, stringView_queued]; exact once, ?_⟩
    rintro answer rfl ignored
    apply Decidable.byContradiction
    intro refused
    obtain ⟨fresh, notFull⟩ := not_or.mp refused
    rw [list, stringView_queued, List.length_map] at notFull
    have unknown := mt isKnown.mp fresh
    have bounded := queue.bounded
    have room : queue.items.length < maxAwsJobListSize := Nat.lt_of_le_of_ne bounded notFull
    have after := answer_list json thingName state queue list answer
    rw [ignored, list] at after
    rw [list] at unknown
    rw [if_neg unknown, BoundedQueue.add, dif_pos room] at after
    have lengths := congrArg (fun view => (queued view).length) after
    simp only [Option.map_some, Option.getD_some, stringView_queued, List.length_map,
      List.length_append, List.length_singleton] at lengths
    omega

/-- The state that a sequence of events reaches from the start of the program. -/
def reached (appCommon : Pointer) (flash : Contents UInt8) (events : List (Event json thingName)) :
    JobsState :=
  execute (step json thingName) (.initial appCommon flash) events

theorem reached_sound (appCommon : Pointer) (flash : Contents UInt8)
    (events : List (Event json thingName)) :
    Sound (reached json thingName appCommon flash events) := by
  refine execute_invariant (step json thingName) Sound (fun _ _ => True)
    (fun state event sound _ => step_sound json thingName state event sound) _ events ?_
    (along_true _ _ _)
  exact ⟨BoundedQueue.empty, rfl, List.nodup_nil⟩

/-- After any answers and deletions, suppression is exact for an id just when it is
queued or begins no queued id. -/
theorem suppression_exact_iff (appCommon : Pointer) (flash : Contents UInt8)
    (events : List (Event json thingName)) (jobId : JobId) :
    ExactFor json thingName (reached json thingName appCommon flash events) jobId ↔
      (jobId.text ∈ queued (reached json thingName appCommon flash events).awsJobIdList ∨
        ∀ held ∈ queued (reached json thingName appCommon flash events).awsJobIdList,
          ¬ jobId.text <+: held) :=
  exactFor_iff json thingName _ (reached_sound json thingName appCommon flash events) jobId

/-- The answer that lists a job with the given id. -/
def listing (jobId : JobId) (parsed : parsingGetJobAccepted JobBuffers.queuedJobJson
      (JobBuffers.queuedJobPayload jobId.text) = some jobId.text)
    (inBuffer : (JobTopic.getAccepted.name (ascii "dev")).length +
      (JobBuffers.queuedJobPayload jobId.text).length ≤ mqttBufMaxSize) :
    GetAccepted JobBuffers.queuedJobJson (ascii "dev") where
  message := .on (ascii "dev") .getAccepted (JobBuffers.queuedJobPayload jobId.text) inBuffer
  jobId := jobId
  topic := rfl
  parsed := parsed

/-- The tenth job of a fleet. -/
def tenthJob : JobId := ⟨ascii "job-10", by unfold IsText; decide +kernel, by decide +kernel,
  by decide +kernel⟩

/-- The first, whose id begins that of the tenth. -/
def firstJob : JobId := ⟨ascii "job-1", by unfold IsText; decide +kernel, by decide +kernel,
  by decide +kernel⟩

/-- While job-10 is queued, job-1 is taken for a duplicate. -/
theorem prefix_taken_for_duplicate :
    ¬ ∀ (json : Json) (thingName : List UInt8) (appCommon : Pointer) (flash : Contents UInt8)
      (events : List (Event json thingName)) (jobId : JobId),
      ExactFor json thingName (reached json thingName appCommon flash events) jobId := by
  intro exact
  let tenth := listing tenthJob (by decide +kernel) (by decide +kernel)
  have found := (exact _ _ (fun _ => 0) (fun _ => 0xFF) [.getAccepted tenth] firstJob).known
  have list : (reached JobBuffers.queuedJobJson (ascii "dev") (fun _ => 0) (fun _ => 0xFF)
      [.getAccepted tenth]).awsJobIdList = stringView ⟨[tenthJob], by decide⟩ := by
    rw [reached, execute, execute, answer_list _ _ _ BoundedQueue.empty rfl tenth]
    rfl
  rw [list] at found
  have known : isExistJobId (stringView ⟨[tenthJob], by decide⟩) firstJob.text = true := by
    decide +kernel
  have absent : firstJob.text ∉ queued (stringView ⟨[tenthJob], by decide⟩) := by
    decide +kernel
  exact absent (found.mp known)

end WiznetEaas.DuplicateJobs
