import WiznetEaas.JobQueue
import WiznetEaas.OfferQueues

/-!
# The jobs of a session are finished in the order of their announcement

The list is a bounded queue: its free slots lie behind the occupied ones, and an id that
begins a queued one is refused. Messages announce pending jobs at any time of a session,
and a call whose update is answered deletes the head. If the cloud hands out the head of
the list whenever a call asks for a job, then the jobs finished and those still queued are
the announced ones in their order: none is lost, finished twice or overtaken.
-/

namespace WiznetEaas.JobOrder

open NorFlash ByteMemory CStrings FlashControl FlashRecords DeviceCommon HttpInterface JobDocument JobList
  MqttMessages JobMessages JobProcedures JobDispatch JobCalls JobQueue FirmwareArming Runs Polling
  OfferQueues

/-- The comparison of `is_exist_job_id` with one slot. -/
def isKnownBy (slot jobId : List UInt8) : Bool := strncmpEqual jobId.length slot jobId

abbrev JobIdQueue : Type := OfferQueue isKnownBy maxAwsJobListSize

/-- A string that occupies a slot and fits it. -/
structure IsJobId (jobId : List UInt8) : Prop where
  text : IsText jobId
  nonempty : jobId ≠ []
  fits : jobId.length < maxAwsJobIdSize

/-- The slots hold the ids of a queue, and the others are free. -/
structure Holds (list : JobIdList) (queue : JobIdQueue) : Prop where
  slots : list.slots =
    queue.items ++ List.replicate (maxAwsJobListSize - queue.items.length) []
  ids : ∀ jobId ∈ queue.items, IsJobId jobId

theorem empty_holds : Holds JobList.empty OfferQueue.empty :=
  ⟨rfl, fun _ member => absurd member List.not_mem_nil⟩

/-- What the callback does with the list when a pending job is announced. -/
def enter (list : JobIdList) (jobId : List UInt8) : JobIdList :=
  if isExistJobId list jobId then list else (addJobId list jobId).getD list

/-- The empty id is known to every list. -/
theorem enter_empty (list : JobIdList) : enter list [] = list := by
  have known : isExistJobId list [] = true := by
    rw [isExistJobId, slots_shape list]
    rfl
  rw [enter, if_pos known]

/-- A free slot knows no id. -/
theorem free_unknown (jobId : List UInt8) (isJobId : IsJobId jobId) :
    isKnownBy [] jobId = false := by
  rw [isKnownBy, strncmpEqual_comm, Bool.eq_false_iff]
  intro known
  have beginning := strncmpEqual_prefix jobId [] isJobId.text
  exact isJobId.nonempty (List.prefix_nil.mp (beginning.mp known))

/-- So an id is known exactly when a queued one knows it. -/
theorem isExistJobId_queue (list : JobIdList) (queue : JobIdQueue) (holds : Holds list queue)
    (jobId : List UInt8) (isJobId : IsJobId jobId) :
    isExistJobId list jobId = queue.items.any fun slot => isKnownBy slot jobId := by
  have free : (List.replicate (maxAwsJobListSize - queue.items.length) []).any
      (fun slot => isKnownBy slot jobId) = false := by
    rw [List.any_eq_false]
    intro slot member
    rw [(List.mem_replicate.mp member).2, free_unknown jobId isJobId]
    exact Bool.false_ne_true
  rw [isExistJobId, holds.slots, List.any_append]
  exact (congrArg (_ || ·) free).trans (Bool.or_false _)

/-- The first free slot is the one behind the queued ids. -/
theorem available_queue (list : JobIdList) (queue : JobIdQueue) (holds : Holds list queue) :
    getAvailableIndex list =
      if queue.items.length < maxAwsJobListSize then some queue.items.length else none := by
  have occupied : (queue.items.findIdx? fun slot => slot.length == 0) = none := by
    rw [List.findIdx?_eq_none_iff]
    intro jobId member
    simpa using (holds.ids jobId member).nonempty
  rw [getAvailableIndex, holds.slots, List.findIdx?_append, occupied]
  split
  next room =>
    obtain ⟨free, count⟩ := Nat.exists_eq_add_of_lt room
    rw [show maxAwsJobListSize - queue.items.length = free + 1 by omega, List.replicate_succ,
      List.findIdx?_cons]
    simp
  next full =>
    rw [show maxAwsJobListSize - queue.items.length = 0 by omega]
    rfl

/-- Announcing an id offers it to the queue. -/
theorem enter_holds (list : JobIdList) (queue : JobIdQueue) (holds : Holds list queue)
    (jobId : List UInt8) (isJobId : IsJobId jobId) :
    Holds (enter list jobId) (queue.offer jobId) := by
  have admits : queue.Admits jobId ↔ queue.items.length < maxAwsJobListSize ∧
      isExistJobId list jobId = false := by
    rw [isExistJobId_queue list queue holds jobId isJobId, List.any_eq_false]
    simp only [OfferQueue.Admits, Bool.not_eq_true]
  have index := available_queue list queue holds
  by_cases known : isExistJobId list jobId = true
  · rw [enter, if_pos known, queue.offer_refused jobId (by rw [admits, known]; simp)]
    exact holds
  · rw [enter, if_neg known]
    by_cases room : queue.items.length < maxAwsJobListSize
    · have admitted := queue.offer_admitted jobId
        (admits.mpr ⟨room, Bool.eq_false_iff.mpr known⟩)
      rw [if_pos room] at index
      obtain ⟨free, count⟩ := Nat.exists_eq_add_of_lt room
      constructor
      · simp only [addJobId, index, Option.map_some, Option.getD_some, holds.slots, admitted,
          List.length_append, List.length_singleton]
        rw [show maxAwsJobListSize - queue.items.length = free + 1 by omega,
          show maxAwsJobListSize - (queue.items.length + 1) = free by omega,
          List.set_append_right _ _ (Nat.le_refl _), Nat.sub_self, List.replicate_succ,
          List.set_cons_zero, List.append_assoc, List.singleton_append]
      · intro other member
        rw [admitted, List.mem_append, List.mem_singleton] at member
        rcases member with queued | isNew
        · exact holds.ids other queued
        · rw [isNew]
          exact isJobId
    · rw [if_neg room] at index
      rw [queue.offer_refused jobId (fun admitted => room admitted.1), addJobId, index]
      exact holds

/-- Deleting the head serves the queue. -/
theorem delete_holds (list : JobIdList) (queue : JobIdQueue) (holds : Holds list queue) :
    Holds (delFirstJobId list) queue.serve := by
  constructor
  · simp only [delFirstJobId, OfferQueue.serve, holds.slots]
    have bounded := queue.bounded
    cases items : queue.items with
    | nil => rfl
    | cons head rest =>
      rw [items, List.length_cons] at bounded
      rw [List.cons_append, List.tail_cons, List.tail_cons, List.length_cons, List.append_assoc,
        ← List.replicate_succ',
        show maxAwsJobListSize - (rest.length + 1) + 1 = maxAwsJobListSize - rest.length by omega]
  · intro jobId member
    exact holds.ids jobId (List.mem_of_mem_tail member)

/-- The head of an occupied list is the front of the queue. -/
theorem front_holds (list : JobIdList) (queue : JobIdQueue) (holds : Holds list queue)
    (occupied : first list ≠ []) : queue.items.head? = some (first list) := by
  have slots := holds.slots
  cases items : queue.items with
  | nil =>
    rw [items] at slots
    rw [first, slots] at occupied
    exact absurd rfl occupied
  | cons head rest =>
    rw [items] at slots
    rw [first, slots]
    rfl

variable (json : Json) (thingName : List UInt8) (misaligned : Misalignment UInt8 userFlashPageSize)
  (coreHttp : CoreHttp) (abi : Abi) (current : Version)

/-- The pending job a message announces. -/
def announcement (message : Incoming thingName) : Option (List UInt8) :=
  match message.topic with
  | .getAccepted => (parsingGetJobAccepted json message.payload).filter fun jobId => jobId != []
  | _ => none

/-- The pending jobs that messages announce, in their order. -/
def announced (messages : List (Incoming thingName)) : List (List UInt8) :=
  messages.filterMap (announcement json thingName)

/-- What the callback does with the list. -/
def receive (list : JobIdList) (message : Incoming thingName) : JobIdList :=
  ((announcement json thingName message).map (enter list)).getD list

/-- An announced id that fits its slot. -/
theorem announcement_isJobId (message : Incoming thingName) (jobId : List UInt8)
    (announces : announcement json thingName message = some jobId)
    (fits : overruns json thingName message = false) : IsJobId jobId := by
  simp only [announcement] at announces
  split at announces
  next topic =>
    obtain ⟨parsed, nonempty⟩ := Option.filter_eq_some_iff.mp announces
    simp only [overruns, topic, getOverruns, parsed, Option.any_some, decide_eq_false_iff_not,
      Nat.not_le] at fits
    refine ⟨?_, bne_iff_ne.mp nonempty, fits⟩
    simp only [parsingGetJobAccepted] at parsed
    split at parsed
    · split at parsed
      · cases parsed
      · split at parsed
        · cases parsed
        · cases parsed
          exact cText_isText _
    · cases parsed
  next => cases announces

/-- The list after the first branch. -/
theorem getBranch_list (message : Incoming thingName) (topic : message.topic = .getAccepted)
    (state : JobsState) :
    (getAcceptedBranch json thingName message.toPublishInfo state).2.2.awsJobIdList =
      receive json thingName state.awsJobIdList message := by
  have taken := (taken_getAccepted thingName message).mpr topic
  simp only [receive, announcement, topic]
  rw [getAcceptedBranch, if_pos taken]
  dsimp only
  cases parsed : parsingGetJobAccepted json message.payload with
  | none => rfl
  | some jobId =>
    have entered : ((some jobId).filter fun jobId => jobId != []).map
        (enter state.awsJobIdList) = none ∧ jobId = [] ∨
      ((some jobId).filter fun jobId => jobId != []).map (enter state.awsJobIdList) =
        some (enter state.awsJobIdList jobId) := by
      cases jobId with
      | nil => exact .inl ⟨rfl, rfl⟩
      | cons byte rest => exact .inr rfl
    have same : (((some jobId).filter fun jobId => jobId != []).map
        (enter state.awsJobIdList)).getD state.awsJobIdList = enter state.awsJobIdList jobId := by
      rcases entered with ⟨nothing, isEmpty⟩ | something
      · rw [nothing, isEmpty, enter_empty]
        rfl
      · rw [something]
        rfl
    rw [same, enter]
    dsimp only
    split
    · rfl
    · cases addJobId state.awsJobIdList jobId with
      | none => rfl
      | some added => rfl

theorem startNextBranch_list (info : PublishInfo) (tempJobId : List UInt8) (state : JobsState) :
    (startNextAcceptedBranch json thingName info tempJobId state).awsJobIdList =
      state.awsJobIdList := by
  simp only [startNextAcceptedBranch]
  split
  · cases parsingStartNextJobAccepted json info.payload tempJobId with
    | none => rfl
    | some job =>
      dsimp only
      split
      · rfl
      · rfl
  · rfl

theorem updateBranch_list (info : PublishInfo) (state : JobsState) :
    (updateAcceptedBranch thingName info state).awsJobIdList = state.awsJobIdList := by
  simp only [updateAcceptedBranch]
  split
  · rfl
  · rfl

/-- Only announcements change the list. -/
theorem handle_list (state : JobsState) (message : Incoming thingName) :
    (handle json thingName state message).awsJobIdList =
      receive json thingName state.awsJobIdList message := by
  unfold handle iotJobsEventCallback
  dsimp only
  by_cases isGet : message.topic = .getAccepted
  · have branch := getBranch_list json thingName message isGet
      { state with sincePublish := message.toPublishInfo :: state.sincePublish }
    split
    · exact branch
    · rw [updateBranch_list, startNextBranch_list]
      exact branch
  · have nothing : announcement json thingName message = none := by
      simp only [announcement]
    rw [getBranch_skips json thingName message isGet, if_neg Bool.false_ne_true,
      updateBranch_list, startNextBranch_list, receive, nothing]
    rfl

/-- So does a sequence of messages. -/
theorem messages_list (state : JobsState) (messages : List (Incoming thingName)) :
    (execute (handle json thingName) state messages).awsJobIdList =
      execute (receive json thingName) state.awsJobIdList messages :=
  execute_view (handle json thingName) (receive json thingName) JobsState.awsJobIdList
    (fun _ => True) (fun _ _ _ => True.intro)
    (fun state message _ => handle_list json thingName state message) state messages True.intro

/-- An occupied head stays. -/
theorem received_first (state : JobsState) (messages : List (Incoming thingName))
    (occupied : first state.awsJobIdList ≠ []) :
    first (execute (receive json thingName) state.awsJobIdList messages) =
      first state.awsJobIdList := by
  rw [← messages_list]
  exact (messages_handled json thingName state messages).head occupied

/-- Messages that fit offer the jobs they announce. -/
theorem messages_hold (list : JobIdList) (queue : JobIdQueue) (messages : List (Incoming thingName))
    (holds : Holds list queue)
    (fits : ∀ message ∈ messages, overruns json thingName message = false) :
    Holds (execute (receive json thingName) list messages)
      (execute OfferQueue.offer queue (announced json thingName messages)) := by
  induction messages generalizing list queue with
  | nil => exact holds
  | cons message rest inductionHypothesis =>
    obtain ⟨fitsFirst, fitsRest⟩ := List.forall_mem_cons.mp fits
    rw [execute, receive, announced]
    cases announces : announcement json thingName message with
    | none =>
      rw [List.filterMap_cons_none announces]
      exact inductionHypothesis list queue holds fitsRest
    | some jobId =>
      rw [List.filterMap_cons_some announces]
      exact inductionHypothesis (enter list jobId) (queue.offer jobId)
        (enter_holds list queue holds jobId
          (announcement_isJobId json thingName message jobId announces fitsFirst)) fitsRest

/-- The list after a request. -/
theorem request_list (flag : JobsState → Bool) (clear : JobsState → JobsState)
    (exchange : Exchange thingName) (state : JobsState)
    (kept : ∀ state, (clear state).awsJobIdList = state.awsJobIdList) :
    (request json thingName flag clear exchange state).2.awsJobIdList =
      execute (receive json thingName) state.awsJobIdList
        (handledIn json thingName flag exchange state) :=
  (request_view json thingName JobsState.awsJobIdList flag clear exchange state kept).trans
    (messages_list json thingName (published state) _)

/-- The flag of overrun buffers after a request. -/
theorem request_overrun (flag : JobsState → Bool) (clear : JobsState → JobsState)
    (exchange : Exchange thingName) (state : JobsState)
    (kept : ∀ state, (clear state).overrun = state.overrun) :
    (request json thingName flag clear exchange state).2.overrun =
      (state.overrun || (handledIn json thingName flag exchange state).any
        (overruns json thingName)) :=
  (request_view json thingName JobsState.overrun flag clear exchange state kept).trans
    (messages_handled json thingName (published state) _).overrun

/-- The messages handled while a document is executed and reported. -/
def documentHandled (inputs : DocumentInputs thingName) (state : JobsState) :
    List (Incoming thingName) :=
  startNextHandled json thingName abi inputs state ++
    ((started thingName inputs state).bind fun messages =>
      (execution json thingName misaligned coreHttp abi current inputs state messages).map
        (updateHandled json thingName misaligned abi inputs state messages)).getD []

/-- The job a call has finished: the one whose update was answered. -/
def finishedJob (result : ProcedureResult) : Option (List UInt8) :=
  result.carried.bind fun carried => if carried.updated then some carried.update.jobId else none

/-- What a call does to the list: it enters what its messages announce, and then deletes
the head if it has finished a job. -/
structure Entered (inputs : DocumentInputs thingName) (state : JobsState)
    (result : ProcedureResult) : Prop where
  overrun : result.state.overrun = (state.overrun ||
    (documentHandled json thingName misaligned coreHttp abi current inputs state).any
      (overruns json thingName))
  list : result.state.awsJobIdList =
    let entered := execute (receive json thingName) state.awsJobIdList
      (documentHandled json thingName misaligned coreHttp abi current inputs state)
    if (finishedJob result).isSome then delFirstJobId entered else entered
  finished : ∀ jobId, finishedJob result = some jobId →
    ∃ messages, started thingName inputs state = some messages ∧
      jobId = (delivered json thingName messages).jobId

/-- A call that starts no document. -/
theorem unstarted_entered (inputs : DocumentInputs thingName) (state : JobsState)
    (result : ProcedureResult) (unreached : started thingName inputs state = none)
    (returned : iotJobsStartJobDocumentProcedure json thingName misaligned coreHttp abi current
      inputs state = some result) :
    Entered json thingName misaligned coreHttp abi current inputs state result := by
  obtain ⟨other, same, carriesNothing, overrun, _⟩ := procedure_unstarted json thingName misaligned
    coreHttp abi current inputs state unreached
  rw [returned] at same
  cases same
  have nothing : finishedJob result = none := by
    rw [finishedJob, carriesNothing]
    rfl
  have handled : documentHandled json thingName misaligned coreHttp abi current inputs state =
      startNextHandled json thingName abi inputs state := by
    rw [documentHandled, unreached]
    exact List.append_nil _
  refine ⟨by rw [handled]; exact overrun, ?_, fun jobId finished => ?_⟩
  · rw [handled, nothing]
    simp only [started] at unreached
    simp only [iotJobsStartJobDocumentProcedure] at returned
    simp only [startNextHandled]
    cases found : getFirstJobId state.awsJobIdList with
    | none =>
      rw [found] at returned
      cases returned
      rfl
    | some jobId =>
      rw [found] at returned unreached
      dsimp only at returned
      split at returned
      next running =>
        cases returned
        rw [running]
        rfl
      next waiting =>
        have listed := request_list json thingName JobsState.recvedMqttStartNextJobAcceptMsg
          clearStartNext inputs.startNext (beforeStartNext abi state) fun _ => rfl
        have answered := request_returned json thingName JobsState.recvedMqttStartNextJobAcceptMsg
          clearStartNext inputs.startNext (beforeStartNext abi state)
        rw [Bool.eq_false_iff.mpr waiting] at unreached ⊢
        rw [answer_startNext] at answered
        rw [show startNextAnswer thingName (beforeStartNext abi state).recvedMqttStartNextJobAcceptMsg
          inputs.startNext = none from unreached] at answered
        simp only [iotJobsStartNextProcedure, answered, Option.isSome_none, Bool.false_eq_true,
          if_false] at returned
        cases returned
        exact listed
  · rw [nothing] at finished
    cases finished

/-- A call that starts a document. -/
theorem started_entered (inputs : DocumentInputs thingName) (state : JobsState)
    (messages : List (Incoming thingName)) (result : ProcedureResult)
    (reached : started thingName inputs state = some messages)
    (returned : iotJobsStartJobDocumentProcedure json thingName misaligned coreHttp abi current
      inputs state = some result) :
    Entered json thingName misaligned coreHttp abi current inputs state result := by
  obtain ⟨shape, ended⟩ := procedure_started json thingName misaligned coreHttp abi current
    inputs state messages reached
  rw [ended] at returned
  obtain ⟨document, executed, isResult⟩ := Option.map_eq_some_iff.mp returned
  obtain ⟨grown, reported⟩ := reportDocument_reported json thingName misaligned abi inputs
    state messages document shape
  rw [isResult] at reported
  obtain ⟨carried, reports, report, _⟩ := reported.carried
  have handled : documentHandled json thingName misaligned coreHttp abi current inputs state =
      messages ++ updateHandled json thingName misaligned abi inputs state messages document := by
    rw [documentHandled, reached, Option.bind_some, executed,
      startNextHandled_started json thingName abi inputs state messages reached]
    rfl
  have isFinished : finishedJob result =
      if carried.updated then some carried.update.jobId else none := by
    rw [finishedJob, reports]
    rfl
  refine ⟨by rw [handled]; exact reported.overrun, ?_, fun jobId finished => ?_⟩
  · have executing : (executing json thingName abi state messages).awsJobIdList =
        execute (receive json thingName) state.awsJobIdList messages :=
      messages_list json thingName (published (beforeStartNext abi state)) messages
    have listed := request_list json thingName JobsState.recvedMqttJobUpdateAcceptMsg
      clearUpdate inputs.update (updating json thingName misaligned abi state messages document)
      fun _ => rfl
    rw [show (updating json thingName misaligned abi state messages document).awsJobIdList =
      execute (receive json thingName) state.awsJobIdList messages from executing] at listed
    have answered := (request_returned json thingName JobsState.recvedMqttJobUpdateAcceptMsg
      clearUpdate inputs.update
      (updating json thingName misaligned abi state messages document)).trans report.updated.symm
    rw [handled, execute_append, isFinished, ← isResult]
    dsimp only [reportDocument]
    split
    next success =>
      rw [if_pos (answered.symm.trans success)]
      exact congrArg delFirstJobId listed
    next failure =>
      rw [if_neg fun updated => failure (answered.trans updated)]
      exact listed
  · rw [isFinished] at finished
    split at finished
    · cases finished
      exact ⟨messages, reached, report.jobId⟩
    · cases finished

/-- Every call enters its announcements and deletes the head for a finished job. -/
theorem procedure_entered (inputs : DocumentInputs thingName) (state : JobsState)
    (result : ProcedureResult)
    (returned : iotJobsStartJobDocumentProcedure json thingName misaligned coreHttp abi current
      inputs state = some result) :
    Entered json thingName misaligned coreHttp abi current inputs state result := by
  cases reached : started thingName inputs state with
  | none =>
    exact unstarted_entered json thingName misaligned coreHttp abi current inputs state result
      reached returned
  | some messages =>
    exact started_entered json thingName misaligned coreHttp abi current inputs state messages
      result reached returned

/-- A call can only be started on an occupied list. -/
theorem started_occupied (inputs : DocumentInputs thingName) (state : JobsState)
    (messages : List (Incoming thingName))
    (reached : started thingName inputs state = some messages) :
    first state.awsJobIdList ≠ [] := by
  simp only [started] at reached
  split at reached
  next entered =>
    rw [Bool.and_eq_true] at entered
    obtain ⟨jobId, found⟩ := Option.isSome_iff_exists.mp entered.1
    obtain ⟨isFirst, nonempty⟩ := getFirstJobId_some state.awsJobIdList jobId found
    rw [← isFirst]
    exact nonempty
  next => cases reached

/-- What happens in a session: the pending jobs are requested, a document is executed, or
messages come in while something else is awaited. -/
inductive Call (thingName : List UInt8) where
  | get (exchange : Exchange thingName)
  | document (inputs : DocumentInputs thingName)
  | receive (messages : List (Incoming thingName))

/-- The globals, the ids announced and the jobs finished so far, and whether the device
has rebooted. -/
structure Session where
  state : JobsState
  announced : List (List UInt8)
  finished : List (List UInt8)
  rebooted : Bool

def Session.begin (state : JobsState) : Session := ⟨state, [], [], false⟩

/-- A call in a session that goes on. -/
def serveCall (session : Session) : Call thingName → Option Session
  | .get exchange => some { session with
      state := (iotJobsGetProcedure json thingName exchange session.state).2
      announced := session.announced ++ announced json thingName
        (handledIn json thingName JobsState.recvedMqttGetJobAcceptMsg exchange session.state) }
  | .document inputs =>
    (iotJobsStartJobDocumentProcedure json thingName misaligned coreHttp abi current inputs
      session.state).map fun result =>
        { state := result.state
          announced := session.announced ++ announced json thingName
            (documentHandled json thingName misaligned coreHttp abi current inputs session.state)
          finished := session.finished ++ (finishedJob result).toList
          rebooted := result.reboot }
  | .receive messages => some { session with
      state := execute (handle json thingName) session.state messages
      announced := session.announced ++ announced json thingName messages }

/-- Nothing follows a reboot, or a document that stops in a null dereference. -/
def callStep (session : Option Session) (call : Call thingName) : Option Session :=
  session.bind fun session =>
    if session.rebooted then some session
    else serveCall json thingName misaligned coreHttp abi current session call

/-- The cloud hands out the job at the head of the list. -/
def handsOutHead (session : Option Session) : Call thingName → Bool
  | .document inputs => session.all fun session => session.rebooted ||
      (started thingName inputs session.state).all fun messages =>
        (delivered json thingName messages).jobId == first session.state.awsJobIdList
  | _ => true

/-- The list holds a queue whose ledger is balanced. -/
def Balanced (initial : List (List UInt8)) (session : Session) : Prop :=
  session.state.overrun = false →
    ∃ queue : JobIdQueue, Holds session.state.awsJobIdList queue ∧
      Ledger initial session.announced session.finished queue

/-- Messages keep the balance. -/
theorem messages_balanced (initial : List (List UInt8)) (session : Session)
    (messages : List (Incoming thingName)) (balanced : Balanced initial session)
    (list : JobIdList)
    (received : list = execute (receive json thingName) session.state.awsJobIdList messages)
    (fits : (session.state.overrun || messages.any (overruns json thingName)) = false) :
    ∃ queue : JobIdQueue, Holds list queue ∧
      Ledger initial (session.announced ++ announced json thingName messages) session.finished
        queue := by
  obtain ⟨intact, allFit⟩ := (fitting_iff json thingName session.state messages).mpr fits
  obtain ⟨queue, holds, ledger⟩ := balanced intact
  refine ⟨execute OfferQueue.offer queue (announced json thingName messages), ?_,
    ledger_offers initial _ _ queue _ ledger⟩
  rw [received]
  exact messages_hold json thingName _ queue messages holds allFit

/-- Nothing that happens in a session disturbs the balance. -/
theorem serveCall_balanced (initial : List (List UInt8)) (session reached : Session)
    (call : Call thingName) (balanced : Balanced initial session)
    (handsOut : session.rebooted = false →
      handsOutHead json thingName (some session) call = true)
    (going : session.rebooted = false)
    (served : serveCall json thingName misaligned coreHttp abi current session call =
      some reached) : Balanced initial reached := by
  intro intact
  cases call with
  | get exchange =>
    cases served
    dsimp only [iotJobsGetProcedure] at intact ⊢
    rw [request_overrun json thingName _ clearGetJob exchange session.state fun _ => rfl] at intact
    exact messages_balanced json thingName initial session _ balanced _
      (request_list json thingName _ clearGetJob exchange session.state fun _ => rfl) intact
  | receive messages =>
    cases served
    have overrun := (messages_handled json thingName session.state messages).overrun
    exact messages_balanced json thingName initial session messages balanced _
      (messages_list json thingName session.state messages) (overrun.symm.trans intact)
  | document inputs =>
    obtain ⟨result, returned, isReached⟩ := Option.map_eq_some_iff.mp served
    have entered := procedure_entered json thingName misaligned coreHttp abi current inputs
      session.state result returned
    rw [← isReached] at intact ⊢
    obtain ⟨queue, holds, ledger⟩ := messages_balanced json thingName initial session _ balanced _
      rfl (entered.overrun.symm.trans intact)
    dsimp only
    rw [entered.list]
    cases finished : finishedJob result with
    | none =>
      rw [Option.toList_none, List.append_nil]
      exact ⟨queue, holds, ledger⟩
    | some jobId =>
      obtain ⟨messages, reached, isJob⟩ := entered.finished jobId finished
      have occupied := started_occupied thingName inputs session.state messages reached
      have isHead : jobId = first session.state.awsJobIdList := by
        have handed := handsOut going
        rw [handsOutHead, Option.all_some, going, reached, Option.all_some, Bool.false_or,
          beq_iff_eq] at handed
        exact isJob.trans handed
      have head := received_first json thingName session.state
        (documentHandled json thingName misaligned coreHttp abi current inputs session.state)
        occupied
      have front := front_holds _ queue holds (by rw [head]; exact occupied)
      rw [head, ← isHead] at front
      exact ⟨queue.serve, delete_holds _ queue holds,
        ledger_serve initial _ _ queue jobId front ledger⟩

/-- A step keeps the balance of a session that goes on. -/
theorem callStep_balanced (initial : List (List UInt8)) (session : Option Session)
    (call : Call thingName)
    (balanced : ∀ before, session = some before → Balanced initial before)
    (handsOut : handsOutHead json thingName session call = true) (reached : Session)
    (step : callStep json thingName misaligned coreHttp abi current session call = some reached) :
    Balanced initial reached := by
  obtain ⟨before, isBefore, stepped⟩ := Option.bind_eq_some_iff.mp step
  rw [isBefore] at handsOut
  split at stepped
  next =>
    cases stepped
    exact balanced _ isBefore
  next going =>
    exact serveCall_balanced json thingName misaligned coreHttp abi current initial before reached
      call (balanced before isBefore) (fun _ => handsOut) (Bool.eq_false_iff.mpr going) stepped

/-- If the cloud hands out the head of the list whenever it is asked for a job, and no array
is overrun, then a session finishes the queued jobs and after them the announced ones, in
this order, each as often as it entered the queue. -/
theorem jobs_finished_in_order (calls : List (Call thingName)) (state : JobsState)
    (queue : JobIdQueue) (reached : Session) (holds : Holds state.awsJobIdList queue)
    (handsOut : Along (callStep json thingName misaligned coreHttp abi current)
      (fun session call => handsOutHead json thingName session call = true)
      (some (.begin state)) calls)
    (ran : execute (callStep json thingName misaligned coreHttp abi current)
      (some (.begin state)) calls = some reached)
    (intact : reached.state.overrun = false) :
    ∃ left : JobIdQueue, Holds reached.state.awsJobIdList left ∧
      ∃ admitted, admitted.Sublist reached.announced ∧
        reached.finished ++ left.items = queue.items ++ admitted :=
  execute_invariant (callStep json thingName misaligned coreHttp abi current)
    (fun session => ∀ before, session = some before → Balanced queue.items before)
    (fun session call => handsOutHead json thingName session call = true)
    (fun session call balanced handed reached step =>
      callStep_balanced json thingName misaligned coreHttp abi current queue.items session call
        balanced handed reached step)
    (some (.begin state)) calls
    (fun before isBegin _ => by
      cases isBegin
      exact ⟨queue, holds, ledger_start queue⟩)
    handsOut reached ran intact

/-- The first job is handed out. -/
def firstJob : Incoming (ascii "eaas") :=
  .on _ .startNextAccepted
    (ascii "\x7b\"execution\":\x7b\"jobId\":\"job-1\",\"jobDocument\":" ++
      ascii "\x7b\"jobType\":\"TEST\"\x7d\x7d\x7d")
    (by decide +kernel)

/-- A second job is announced while the first is pending. -/
def secondAnnounced : Incoming (ascii "eaas") :=
  .on _ .getAccepted (ascii "\x7b\"queuedJobs\":[\x7b\"jobId\":\"job-3\"\x7d]\x7d")
    (by decide +kernel)

/-- Then the first is handed out, and its update accepted. -/
def firstJobCalls : List (Call (ascii "eaas")) :=
  [.receive [secondAnnounced],
    .document ⟨⟨true, [[firstJob]]⟩, unreachable,
      ⟨true, [[.on _ (.updateAccepted (ascii "job-1")) (ascii "\x7b\x7d") (by decide +kernel)]]⟩⟩]

/-- A queue with one job. -/
def oneJob : JobIdQueue :=
  ⟨[ascii "job-1"], by decide, List.pairwise_singleton _ _⟩

theorem oneJob_holds : Holds pendingState.awsJobIdList oneJob := by
  refine ⟨rfl, ?_⟩
  intro jobId member
  rw [List.mem_singleton.mp member]
  exact ⟨by unfold IsText; decide +kernel, by decide +kernel, by decide +kernel⟩

/-- The first job is finished, and the second still queued. -/
theorem second_job_waits :
    ∃ (reached : Session) (left : JobIdQueue),
      execute (callStep nestedJson (ascii "eaas") (.ignored UInt8 256) exampleCoreHttp shortEnumAbi
        applicationVersion) (some (.begin pendingState)) firstJobCalls = some reached ∧
      Holds reached.state.awsJobIdList left ∧ reached.announced = [ascii "job-3"] ∧
      reached.finished = [ascii "job-1"] ∧
      ∃ admitted, admitted.Sublist reached.announced ∧
        reached.finished ++ left.items = oneJob.items ++ admitted := by
  have evaluated : (execute (callStep nestedJson (ascii "eaas") (.ignored UInt8 256)
      exampleCoreHttp shortEnumAbi applicationVersion) (some (.begin pendingState))
        firstJobCalls).map (fun reached =>
          (reached.state.overrun, reached.announced, reached.finished)) =
      some (false, [ascii "job-3"], [ascii "job-1"]) := by decide +kernel
  obtain ⟨reached, ran, values⟩ := Option.map_eq_some_iff.mp evaluated
  obtain ⟨left, holds, admitted⟩ := jobs_finished_in_order nestedJson (ascii "eaas")
    (.ignored UInt8 256) exampleCoreHttp shortEnumAbi applicationVersion firstJobCalls
    pendingState oneJob reached oneJob_holds (by decide +kernel) ran (congrArg Prod.fst values)
  exact ⟨reached, left, ran, holds, congrArg (fun value => value.2.1) values,
    congrArg (fun value => value.2.2) values, admitted⟩

end WiznetEaas.JobOrder
