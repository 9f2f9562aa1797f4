import Mathlib.Data.List.Chain
import WiznetEaas.JobQueue
import WiznetEaas.JobsTask
import WiznetEaas.ClockReadings

/-!
# How far apart the polls of a session start

The loop of `aws_iot_jobs_task` over true time. Both timers are stamped when the session
opens. The first is stamped again before each of its calls and keeps its calls apart. The
second is not, so from its first call on it has run out for the rest of the session, and
every iteration that comes to its test calls again.
-/

namespace WiznetEaas.PollingPace

open NorFlash ByteMemory CStrings FlashControl FlashRecords DeviceCommon HttpInterface JobDocument JobList
  JobMessages JobProcedures JobQueue JobsTask FirmwareArming ClockReadings Runs

/-- An iteration with the time that its parts take: the delay, the connection, the two
stamps after it, the sample, the stamp of the first timer, the call after it, the way to
the second test, and the rest of the iteration. -/
structure TimedIteration (thingName : List UInt8) where
  isLinkUp : Bool
  isRunAwsIotJobs : Bool
  connect : Bool
  getJob : Exchange thingName
  document : DocumentInputs thingName
  delayUs : Nat
  connectUs : Nat
  stampUs : Nat
  sampleUs : Nat
  getStampUs : Nat
  getUs : Nat
  testUs : Nat
  restUs : Nat

/-- A connected session, by its number and the time of its first stamp. -/
structure Session where
  number : Nat
  openedUs : Nat
  deriving DecidableEq

/-- A call of a procedure. -/
structure Call where
  session : Session
  startUs : Nat
  deriving DecidableEq

/-- The task at a time, with the calls it has made, the last one first. -/
structure TimedState where
  nowUs : Nat
  session : Session
  getCalls : List Call
  documentCalls : List Call
  task : Option TaskState

/-- The task when its loop starts. -/
def TimedState.initial (appCommon : Pointer) (flash : Contents UInt8) (timers : UInt32 × UInt32)
    (nowUs : Nat) : TimedState :=
  ⟨nowUs, ⟨0, 0⟩, [], [], some (.initial appCommon flash timers)⟩

variable (json : Json) (thingName : List UInt8) (misaligned : Misalignment UInt8 userFlashPageSize)
  (coreHttp : CoreHttp) (abi : Abi) (current : Version)

/-- The time of the first stamp of a session. -/
def stampedUs (input : TimedIteration thingName) (nowUs : Nat) : Nat :=
  nowUs + input.delayUs + input.connectUs

/-- The time of `currentTimeoutMs`. -/
def sampledUs (input : TimedIteration thingName) (isConnected : Bool) (nowUs : Nat) : Nat :=
  if isConnected then nowUs + input.delayUs + input.sampleUs
  else stampedUs thingName input nowUs + input.stampUs + input.sampleUs

/-- What the loop body reads from the clock. -/
def clocked (input : TimedIteration thingName) (isConnected : Bool) (nowUs : Nat) :
    Iteration thingName where
  isLinkUp := input.isLinkUp
  isRunAwsIotJobs := input.isRunAwsIotJobs
  connect := input.connect
  connectTimeMs := (clockMs (stampedUs thingName input nowUs),
    clockMs (stampedUs thingName input nowUs + input.stampUs))
  currentTimeoutMs := clockMs (sampledUs thingName input isConnected nowUs)
  getTimeMs := clockMs (sampledUs thingName input isConnected nowUs + input.getStampUs)
  getJob := input.getJob
  document := input.document

/-- The iteration comes to the tests of the timers. -/
def isServed (input : TimedIteration thingName) (task : TaskState) : Bool :=
  input.isLinkUp && input.isRunAwsIotJobs && (task.isConnected || input.connect)

/-- The session that is served. -/
def servedSession (input : TimedIteration thingName) (state : TimedState) (task : TaskState) :
    Session :=
  if task.isConnected then state.session
  else ⟨state.session.number + 1, stampedUs thingName input state.nowUs⟩

/-- The iteration of the task at a time. -/
def iterationAt (input : TimedIteration thingName) (state : TimedState) (task : TaskState) :
    Iteration thingName :=
  clocked thingName input task.isConnected state.nowUs

/-- The task at the tests of the timers. -/
def openedTask (input : TimedIteration thingName) (state : TimedState) (task : TaskState) :
    TaskState :=
  opened thingName (iterationAt thingName input state task) task

/-- The task after the first test. -/
def gotTask (input : TimedIteration thingName) (state : TimedState) (task : TaskState) :
    TaskState :=
  (getJobs json thingName (iterationAt thingName input state task)
    (openedTask thingName input state task)).2

/-- Whether `iot_jobs_get_procedure` is called. -/
def callsGet (input : TimedIteration thingName) (state : TimedState) (task : TaskState) : Bool :=
  isGetDue thingName (iterationAt thingName input state task)
    (openedTask thingName input state task)

/-- Whether `iot_jobs_start_job_document_procedure` is called. -/
def callsDocument (input : TimedIteration thingName) (state : TimedState) (task : TaskState) :
    Bool :=
  isDocumentDue thingName (iterationAt thingName input state task)
    (gotTask json thingName input state task)

variable (traceUs : Nat)

/-- The start of the first call. Between its stamp and the call stands the trace of a fixed
text, which takes its time. -/
def getStartUs (input : TimedIteration thingName) (state : TimedState) (task : TaskState) : Nat :=
  sampledUs thingName input task.isConnected state.nowUs + input.getStampUs + traceUs

/-- The time of the second test, at which the second call starts. -/
def testedUs (input : TimedIteration thingName) (state : TimedState) (task : TaskState) : Nat :=
  if callsGet thingName input state task then
    getStartUs thingName traceUs input state task + input.getUs + input.testUs
  else sampledUs thingName input task.isConnected state.nowUs + input.testUs

/-- The loop body of `aws_iot_jobs_task` with its calls. -/
def timedIterate (input : TimedIteration thingName) (state : TimedState) (task : TaskState) :
    TimedState :=
  let next := (iterate json thingName misaligned coreHttp abi current
    (iterationAt thingName input state task) task).2
  if isServed thingName input task then
    let session := servedSession thingName input state task
    { nowUs := testedUs thingName traceUs input state task + input.restUs
      session := session
      getCalls :=
        if callsGet thingName input state task then
          ⟨session, getStartUs thingName traceUs input state task⟩ :: state.getCalls
        else state.getCalls
      documentCalls :=
        if callsDocument json thingName input state task then
          ⟨session, testedUs thingName traceUs input state task⟩ :: state.documentCalls
        else state.documentCalls
      task := next }
  else { state with nowUs := state.nowUs + input.delayUs + input.restUs, task := next }

/-- An iteration of the task, if it still runs. -/
def timedStep (state : TimedState) (input : TimedIteration thingName) : TimedState :=
  match state.task with
  | none => state
  | some task =>
    timedIterate json thingName misaligned coreHttp abi current traceUs input state task

/-- The task after its iterations. -/
def ranFrom (start : TimedState) (inputs : List (TimedIteration thingName)) : TimedState :=
  execute (timedStep json thingName misaligned coreHttp abi current traceUs) start inputs

/-- Successive calls of a session whose clock has not wrapped start more than a limit
apart. -/
def Paced (limitMs : UInt32) (calls : List Call) : Prop :=
  calls.IsChain fun later earlier =>
    later.session.number = earlier.session.number →
      lap later.session.openedUs = lap later.startUs →
        earlier.startUs + limitMs.toNat * 1000 < later.startUs

/-- When the task comes to the second test, the latest call of the second procedure in the
session has started more than its period ago: the delays and calls since then have taken
that long. -/
def Waited (state : TimedState) (input : TimedIteration thingName) : Prop :=
  ∀ task ∈ state.task, isServed thingName input task = true →
    (gotTask json thingName input state task).isConnected = true →
      ∀ last ∈ state.documentCalls.head?,
        (servedSession thingName input state task).number = last.session.number →
        lap (servedSession thingName input state task).openedUs =
            lap (testedUs thingName traceUs input state task) →
          last.startUs + iotJobsStartJobDocumentTimeMs.toNat * 1000 <
            testedUs thingName traceUs input state task

/-- What the timers of a session record: the first its latest call, the second the opening,
since when its period was over at the latest call. -/
structure InSession (session : Session) (getCalls documentCalls : List Call) (nowUs : Nat)
    (task : TaskState) : Prop where
  get : ∃ stampUs, session.openedUs ≤ stampUs ∧ stampUs ≤ nowUs ∧
    task.startGetJobTimeoutMs = clockMs stampUs ∧
      ∀ last ∈ getCalls.head?, session.number = last.session.number →
        last.startUs = stampUs + traceUs
  document : ∃ stampUs, session.openedUs ≤ stampUs ∧ stampUs ≤ nowUs ∧
    task.startStartJobDocumentTimeoutMs = clockMs stampUs ∧
      ∀ last ∈ documentCalls.head?, session.number = last.session.number →
        ∃ sampleUs, stampUs ≤ sampleUs ∧ sampleUs ≤ nowUs ∧
          iotJobsStartJobDocumentTimeMs < clockMs sampleUs - clockMs stampUs

/-- Between two iterations: no call belongs to a later session, and an open session has its
timers. -/
structure Timed (state : TimedState) : Prop where
  getPast : ∀ call ∈ state.getCalls, call.session.number ≤ state.session.number
  documentPast : ∀ call ∈ state.documentCalls, call.session.number ≤ state.session.number
  running : ∀ task ∈ state.task, task.isConnected = true →
    InSession traceUs state.session state.getCalls state.documentCalls state.nowUs task

/-- A later time changes nothing for the timers of a session. -/
theorem InSession.later {session : Session} {getCalls documentCalls : List Call} {nowUs : Nat}
    {task : TaskState} (inSession : InSession traceUs session getCalls documentCalls nowUs task)
    (laterUs : Nat) (ordered : nowUs ≤ laterUs) :
    InSession traceUs session getCalls documentCalls laterUs task := by
  obtain ⟨getStamp, openedGet, beforeGet, getReads, getLast⟩ := inSession.get
  obtain ⟨documentStamp, openedDocument, beforeDocument, documentReads, documentLast⟩ :=
    inSession.document
  refine ⟨⟨getStamp, openedGet, Nat.le_trans beforeGet ordered, getReads, getLast⟩,
    ⟨documentStamp, openedDocument, Nat.le_trans beforeDocument ordered, documentReads, ?_⟩⟩
  intro last isLast same
  obtain ⟨sample, after, before, ended⟩ := documentLast last isLast same
  exact ⟨sample, after, Nat.le_trans before ordered, ended⟩

/-- An iteration that is not served calls nothing, and leaves the timers of an open session
as they are. -/
theorem iterate_unserved (iteration : Iteration thingName) (task : TaskState)
    (unserved : (iteration.isLinkUp && iteration.isRunAwsIotJobs &&
      (task.isConnected || iteration.connect)) = false) :
    ∃ next, (iterate json thingName misaligned coreHttp abi current iteration task).2 = some next ∧
      (next.isConnected = true → next = task) := by
  rw [iterate]
  split
  next up =>
    split
    next run =>
      rw [up, run, Bool.true_and, Bool.true_and, Bool.or_eq_false_iff] at unserved
      have closed : opened thingName iteration task = task := by
        rw [opened, if_neg (Bool.eq_false_iff.mp unserved.1),
          if_neg (Bool.eq_false_iff.mp unserved.2)]
      simp only [closed, unserved.1, Bool.false_eq_true, if_false]
      exact ⟨task, rfl, fun _ => rfl⟩
    next => exact ⟨_, rfl, nofun⟩
  next => exact ⟨task, rfl, fun _ => rfl⟩

/-- The first call stamps the first timer and leaves the second as it is. -/
theorem getJobs_timers (iteration : Iteration thingName) (task : TaskState) :
    (getJobs json thingName iteration task).2.startGetJobTimeoutMs =
        (if isGetDue thingName iteration task then iteration.getTimeMs
          else task.startGetJobTimeoutMs) ∧
      (getJobs json thingName iteration task).2.startStartJobDocumentTimeoutMs =
        task.startStartJobDocumentTimeoutMs := by
  rw [getJobs]
  split <;> exact ⟨rfl, rfl⟩

/-- After the first test a served iteration leaves both timers as they are. -/
theorem iterate_served (iteration : Iteration thingName) (task : TaskState)
    (served : (iteration.isLinkUp && iteration.isRunAwsIotJobs &&
      (task.isConnected || iteration.connect)) = true) :
    ∀ next ∈ (iterate json thingName misaligned coreHttp abi current iteration task).2,
      next.startGetJobTimeoutMs = (getJobs json thingName iteration
        (opened thingName iteration task)).2.startGetJobTimeoutMs ∧
      next.startStartJobDocumentTimeoutMs = (getJobs json thingName iteration
        (opened thingName iteration task)).2.startStartJobDocumentTimeoutMs := by
  rw [Bool.and_eq_true, Bool.and_eq_true, Bool.or_eq_true] at served
  obtain ⟨⟨up, run⟩, connected⟩ := served
  have isOpen : (opened thingName iteration task).isConnected = true := by
    rw [opened]
    split
    next before => exact before
    next before => rw [if_pos (connected.resolve_left before)]
  intro next reached
  simp only [iterate, up, run, isOpen, if_true, serve, startDocument] at reached
  split at reached
  next =>
    rw [Option.mem_def, Option.bind_eq_some_iff] at reached
    obtain ⟨result, _, reached⟩ := reached
    split at reached
    next => cases reached
    next =>
      cases reached
      exact ⟨rfl, rfl⟩
  next =>
    cases reached
    exact ⟨rfl, rfl⟩

/-- At the tests the timers of the session are those of the iterations before, or both new. -/
theorem openedTask_inSession (input : TimedIteration thingName) (state : TimedState)
    (task : TaskState) (running : state.task = some task) (timed : Timed traceUs state)
    (served : isServed thingName input task = true) :
    InSession traceUs (servedSession thingName input state task) state.getCalls state.documentCalls
      (sampledUs thingName input task.isConnected state.nowUs)
      (openedTask thingName input state task) := by
  rw [servedSession, sampledUs, openedTask, opened]
  split
  next connected =>
    exact (timed.running task running connected).later traceUs _ (by omega)
  next closed =>
    have connects : (iterationAt thingName input state task).connect = true := by
      rw [isServed, Bool.and_eq_true, Bool.or_eq_true] at served
      exact served.2.resolve_left closed
    rw [if_pos connects]
    refine ⟨⟨stampedUs thingName input state.nowUs, Nat.le_refl _, by omega, rfl, ?_⟩,
      ⟨stampedUs thingName input state.nowUs + input.stampUs, Nat.le_add_right _ _, by omega, rfl,
        ?_⟩⟩
    · intro last isLast same
      have past := timed.getPast last (List.mem_of_mem_head? isLast)
      simp only at same
      omega
    · intro last isLast same
      have past := timed.documentPast last (List.mem_of_mem_head? isLast)
      simp only at same
      omega

/-- The first timer has run out when its call is made, and so its calls are apart. -/
theorem get_apart (input : TimedIteration thingName) (state : TimedState) (task : TaskState)
    (inSession : InSession traceUs (servedSession thingName input state task) state.getCalls
      state.documentCalls (sampledUs thingName input task.isConnected state.nowUs)
      (openedTask thingName input state task))
    (calls : callsGet thingName input state task = true)
    (paced : Paced iotJobsGetJobTimeMs state.getCalls) :
    Paced iotJobsGetJobTimeMs (⟨servedSession thingName input state task,
      getStartUs thingName traceUs input state task⟩ :: state.getCalls) := by
  obtain ⟨stampUs, afterOpening, beforeSample, reads, last⟩ := inSession.get
  refine List.isChain_cons.mpr ⟨?_, paced⟩
  intro earlier isLast same sameLap
  have recorded : earlier.startUs = stampUs + traceUs := last earlier isLast same
  rw [callsGet, isGetDue, decide_eq_true_eq, reads, UInt32.lt_iff_toNat_lt] at calls
  have starts : getStartUs thingName traceUs input state task =
      sampledUs thingName input task.isConnected state.nowUs + input.getStampUs + traceUs := rfl
  simp only [lap, starts] at sameLap
  have sampleLap : lap stampUs = lap (sampledUs thingName input task.isConnected state.nowUs) := by
    simp only [lap]
    omega
  have passed := passed_of_exceeded _ _ _ beforeSample sampleLap calls
  calc earlier.startUs + iotJobsGetJobTimeMs.toNat * 1000
      = stampUs + iotJobsGetJobTimeMs.toNat * 1000 + traceUs := by rw [recorded]; ac_rfl
    _ < sampledUs thingName input task.isConnected state.nowUs + traceUs :=
      Nat.add_lt_add_right passed traceUs
    _ ≤ getStartUs thingName traceUs input state task := by rw [getStartUs]; omega

/-- Once its period has been over at a call, the second timer has run out at every later
test of the session. -/
theorem document_due (input : TimedIteration thingName) (state : TimedState) (task : TaskState)
    (inSession : InSession traceUs (servedSession thingName input state task) state.getCalls
      state.documentCalls (sampledUs thingName input task.isConnected state.nowUs)
      (openedTask thingName input state task))
    (connected : (gotTask json thingName input state task).isConnected = true) (last : Call)
    (isLast : last ∈ state.documentCalls.head?)
    (same : (servedSession thingName input state task).number = last.session.number)
    (sameLap : lap (servedSession thingName input state task).openedUs =
      lap (testedUs thingName traceUs input state task)) :
    callsDocument json thingName input state task = true := by
  obtain ⟨stampUs, afterOpening, beforeSample, reads, recorded⟩ := inSession.document
  obtain ⟨sampleUs, afterStamp, before, ended⟩ := recorded last isLast same
  have sampled : sampledUs thingName input task.isConnected state.nowUs ≤
      testedUs thingName traceUs input state task := by
    rw [testedUs, getStartUs]
    split <;> omega
  have sampleLap : lap stampUs = lap (sampledUs thingName input task.isConnected state.nowUs) := by
    simp only [lap] at sameLap ⊢
    omega
  have shown := elapsed_le stampUs sampleUs _ afterStamp before sampleLap
  have stamp : (gotTask json thingName input state task).startStartJobDocumentTimeoutMs =
      clockMs stampUs := (getJobs_timers json thingName _ _).2.trans reads
  rw [callsDocument, isDocumentDue, connected, stamp, Bool.true_and, decide_eq_true_eq,
    UInt32.lt_iff_toNat_lt]
  exact Nat.lt_of_lt_of_le (UInt32.lt_iff_toNat_lt.mp ended) shown

/-- The timers of the session after a served iteration. -/
theorem served_inSession (input : TimedIteration thingName) (state : TimedState)
    (task next : TaskState) (served : isServed thingName input task = true)
    (inSession : InSession traceUs (servedSession thingName input state task) state.getCalls
      state.documentCalls (sampledUs thingName input task.isConnected state.nowUs)
      (openedTask thingName input state task))
    (reached : next ∈ (timedIterate json thingName misaligned coreHttp abi current traceUs input
      state task).task) :
    let after := timedIterate json thingName misaligned coreHttp abi current traceUs input state task
    InSession traceUs after.session after.getCalls after.documentCalls after.nowUs next := by
  obtain ⟨getStamp, openedGet, beforeGet, getReads, getLast⟩ := inSession.get
  obtain ⟨documentStamp, openedDocument, beforeDocument, documentReads, documentLast⟩ :=
    inSession.document
  have tested : sampledUs thingName input task.isConnected state.nowUs ≤
      testedUs thingName traceUs input state task := by
    rw [testedUs, getStartUs]
    split <;> omega
  simp only [timedIterate, if_pos served] at reached ⊢
  obtain ⟨getKept, documentKept⟩ := iterate_served json thingName misaligned coreHttp abi current
    (iterationAt thingName input state task) task served next reached
  obtain ⟨getSet, documentSet⟩ := getJobs_timers json thingName
    (iterationAt thingName input state task) (openedTask thingName input state task)
  have getReading := getKept.trans getSet
  have documentReading := documentKept.trans (documentSet.trans documentReads)
  constructor
  · cases calls : callsGet thingName input state task with
    | true =>
      rw [← callsGet, if_pos calls] at getReading
      refine ⟨sampledUs thingName input task.isConnected state.nowUs + input.getStampUs, by omega, ?_,
        getReading, ?_⟩
      · rw [testedUs, if_pos calls, getStartUs]
        omega
      · rintro last isLast _
        rw [if_pos rfl, List.head?_cons, Option.mem_some_iff] at isLast
        rw [← isLast]
        rfl
    | false =>
      rw [← callsGet, calls, if_neg Bool.false_ne_true] at getReading
      exact ⟨getStamp, openedGet, by omega, getReading.trans getReads, getLast⟩
  · refine ⟨documentStamp, openedDocument, by omega, documentReading, ?_⟩
    cases calls : callsDocument json thingName input state task with
    | true =>
      intro last isLast _
      rw [callsDocument, isDocumentDue, Bool.and_eq_true, decide_eq_true_eq] at calls
      refine ⟨_, beforeDocument, by omega, ?_⟩
      rw [← documentReads, ← documentSet]
      exact calls.2
    | false =>
      intro last isLast same
      obtain ⟨sample, after, before, ended⟩ := documentLast last isLast same
      exact ⟨sample, after, by omega, ended⟩

/-- An iteration keeps the invariant. -/
theorem timedStep_timed (state : TimedState) (input : TimedIteration thingName)
    (timed : Timed traceUs state) :
    Timed traceUs
      (timedStep json thingName misaligned coreHttp abi current traceUs state input) := by
  rw [timedStep]
  cases running : state.task with
  | none => exact timed
  | some task =>
    cases served : isServed thingName input task with
    | false =>
      obtain ⟨next, reached, kept⟩ := iterate_unserved json thingName misaligned coreHttp abi
        current (iterationAt thingName input state task) task served
      simp only [timedIterate, served, Bool.false_eq_true, if_false]
      refine ⟨timed.getPast, timed.documentPast, ?_⟩
      intro after isNext connected
      have same : next = after := Option.some.inj (reached.symm.trans isNext)
      have unchanged : after = task := by
        rw [← same]
        exact kept (same ▸ connected)
      rw [unchanged] at connected ⊢
      exact (timed.running task running connected).later traceUs _ (by simp only; omega)
    | true =>
      have inSession := openedTask_inSession thingName traceUs input state task running timed served
      have newer : state.session.number ≤ (servedSession thingName input state task).number := by
        rw [servedSession]
        split
        · exact Nat.le_refl _
        · exact Nat.le_add_right _ _
      refine ⟨?_, ?_, fun next reached _ => served_inSession json thingName misaligned coreHttp abi
        current traceUs input state task next served inSession reached⟩
      · simp only [timedIterate, served, if_true]
        have past (call : Call) (member : call ∈ state.getCalls) :=
          Nat.le_trans (timed.getPast call member) newer
        split
        · exact List.forall_mem_cons.mpr ⟨Nat.le_refl _, past⟩
        · exact past
      · simp only [timedIterate, served, if_true]
        have past (call : Call) (member : call ∈ state.documentCalls) :=
          Nat.le_trans (timed.documentPast call member) newer
        split
        · exact List.forall_mem_cons.mpr ⟨Nat.le_refl _, past⟩
        · exact past

/-- The calls of the first procedure stay apart. -/
theorem timedStep_get (state : TimedState) (input : TimedIteration thingName)
    (timed : Timed traceUs state) (paced : Paced iotJobsGetJobTimeMs state.getCalls) :
    Paced iotJobsGetJobTimeMs
      (timedStep json thingName misaligned coreHttp abi current traceUs state input).getCalls := by
  rw [timedStep]
  cases running : state.task with
  | none => exact paced
  | some task =>
    simp only [timedIterate]
    split
    next served =>
      dsimp only
      split
      next calls =>
        exact get_apart thingName traceUs input state task
          (openedTask_inSession thingName traceUs input state task running timed served) calls paced
      next => exact paced
    next => exact paced

/-- The calls of the second procedure are apart after an iteration exactly when they were
before it and the iteration has waited. -/
theorem timedStep_document (state : TimedState) (input : TimedIteration thingName)
    (timed : Timed traceUs state) :
    Paced iotJobsStartJobDocumentTimeMs
        (timedStep json thingName misaligned coreHttp abi current traceUs state
          input).documentCalls ↔
      Paced iotJobsStartJobDocumentTimeMs state.documentCalls ∧
        Waited json thingName traceUs state input := by
  rw [timedStep, Waited]
  cases running : state.task with
  | none => exact (and_iff_left nofun).symm
  | some task =>
    simp only [Option.mem_some_iff, forall_eq', timedIterate]
    split
    next served =>
      have due := document_due json thingName traceUs input state task
        (openedTask_inSession thingName traceUs input state task running timed served)
      cases calls : callsDocument json thingName input state task with
      | true =>
        have connected : (gotTask json thingName input state task).isConnected = true := by
          rw [callsDocument, isDocumentDue, Bool.and_eq_true] at calls
          exact calls.1
        rw [if_pos rfl]
        refine List.isChain_cons.trans (and_comm.trans (and_congr_right fun _ => ?_))
        exact ⟨fun apart _ _ => apart, fun waited => waited served connected⟩
      | false =>
        -- A test that the timer does not pass is the first one of the session.
        refine (and_iff_left ?_).symm
        intro _ connected last isLast same sameLap
        have called := due connected last isLast same sameLap
        rw [calls] at called
        cases called
    next unserved => exact (and_iff_left fun served => absurd served unserved).symm

/-- In every run the calls of the first procedure are apart, and those of the second
exactly when every iteration that comes to the second test has waited. -/
theorem polling_paced_iff (appCommon : Pointer) (flash : Contents UInt8)
    (timers : UInt32 × UInt32) (nowUs : Nat) (inputs : List (TimedIteration thingName)) :
    let start := TimedState.initial appCommon flash timers nowUs
    let reached := ranFrom json thingName misaligned coreHttp abi current traceUs start inputs
    (Paced iotJobsGetJobTimeMs reached.getCalls ∧
        Paced iotJobsStartJobDocumentTimeMs reached.documentCalls) ↔
      Along (timedStep json thingName misaligned coreHttp abi current traceUs)
        (Waited json thingName traceUs) start inputs := by
  have general (state : TimedState) (timed : Timed traceUs state)
      (getPaced : Paced iotJobsGetJobTimeMs state.getCalls) :
      (Paced iotJobsGetJobTimeMs (ranFrom json thingName misaligned coreHttp abi current traceUs
          state inputs).getCalls ∧
        Paced iotJobsStartJobDocumentTimeMs (ranFrom json thingName misaligned coreHttp abi current
          traceUs state inputs).documentCalls) ↔
      Paced iotJobsStartJobDocumentTimeMs state.documentCalls ∧
        Along (timedStep json thingName misaligned coreHttp abi current traceUs)
          (Waited json thingName traceUs) state inputs := by
    induction inputs generalizing state with
    | nil => exact ⟨fun paced => ⟨paced.2, trivial⟩, fun paced => ⟨getPaced, paced.1⟩⟩
    | cons input rest inductionHypothesis =>
      have next := inductionHypothesis _
        (timedStep_timed json thingName misaligned coreHttp abi current traceUs state input timed)
        (timedStep_get json thingName misaligned coreHttp abi current traceUs state input timed
          getPaced)
      rw [timedStep_document json thingName misaligned coreHttp abi current traceUs state input
        timed, and_assoc] at next
      exact next
  intro start reached
  have timed : Timed traceUs start := ⟨nofun, nofun, by rintro _ ⟨⟩ ⟨⟩⟩
  exact (general start timed .nil).trans (and_iff_right .nil)

/-- An iteration in a session on a device without jobs, after a delay. -/
def quietIteration (delayUs : Nat) : TimedIteration (ascii "eaas") :=
  ⟨true, true, true, ⟨true, []⟩, ⟨⟨true, []⟩, unreachable, ⟨true, []⟩⟩, delayUs, 0, 0, 0, 0, 0, 0, 0⟩

/-- Two seconds after the connection the second procedure is called, and a tenth of a second
later again. -/
theorem calls_in_quick_succession :
    let reached := ranFrom nestedJson (ascii "eaas") (.ignored UInt8 256) exampleCoreHttp
      shortEnumAbi applicationVersion 0 (.initial (fun _ => 0) (fun _ => 0) (0, 0) 0)
      [quietIteration 100000, quietIteration 2000000, quietIteration 100000]
    reached.documentCalls.map Call.startUs = [2200000, 2100000] ∧
      ¬ (Paced iotJobsGetJobTimeMs reached.getCalls ∧
        Paced iotJobsStartJobDocumentTimeMs reached.documentCalls) := by
  intro reached
  have calls : reached.documentCalls = [⟨⟨1, 100000⟩, 2200000⟩, ⟨⟨1, 100000⟩, 2100000⟩] := by
    decide +kernel
  refine ⟨by rw [calls]; rfl, ?_⟩
  rintro ⟨_, paced⟩
  rw [calls] at paced
  have apart := (List.isChain_cons.mp paced).1 _ rfl rfl (by decide)
  exact absurd apart (by decide)

end WiznetEaas.PollingPace
