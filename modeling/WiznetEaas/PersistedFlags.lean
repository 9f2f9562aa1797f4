import WiznetEaas.SessionChanges
import WiznetEaas.StartUp
import WiznetEaas.TaskFlags
import WiznetEaas.TaskSystem
import WiznetEaas.UnreadComponents

/-!
# Flags that flash keeps across restarts

The configuration record holds run-time flags, and whatever stood in them when it was saved
is loaded with it. `clearAppFlags` clears five of them, and each task sets those it reads
before it enters its loop. No interleaving lets a task read a flag that is still the one
that was loaded, so two runs that begin with different flags do the same.
-/

namespace WiznetEaas.PersistedFlags

open ByteMemory FlashControl Runs UnreadComponents MqttSession SessionChanges IdleTask TaskFlags
  TaskSystem StartUp

section Idle
variable (outcomes : IdleOutcomes) (state : IdleState) (stamp : UInt32)

/-- The idle task with another time of the last lease. -/
def withStamp (stamp : UInt32) (state : IdleState) : IdleState :=
  { state with refreshDhcpTimeStamp := stamp }

/-- The steps make the same calls, and agree or still have no address. -/
def StampAlike (left right : IdleResult) : Prop :=
  left.calls = right.calls ∧
    (right.state = left.state ∨
      left.state.isDhcpDone = false ∧ right.state = withStamp stamp left.state)

theorem dhcpProcess_stamp (undone : state.isDhcpDone = false) :
    StampAlike stamp (dhcpProcess outcomes state)
      (dhcpProcess outcomes (withStamp stamp state)) := by
  simp only [dhcpProcess]
  split
  · exact ⟨rfl, .inr ⟨undone, rfl⟩⟩
  · exact ⟨rfl, .inl rfl⟩

theorem dhcpPass_stamp (startTimeStamp dhcpRetryCnt : UInt32) (undone : state.isDhcpDone = false) :
    StampAlike stamp (dhcpPass outcomes startTimeStamp dhcpRetryCnt state)
      (dhcpPass outcomes startTimeStamp dhcpRetryCnt (withStamp stamp state)) := by
  have still (left right : IdleResult) (calls : left.calls = right.calls)
      (kept : left.state.isDhcpDone = false) (same : right.state = withStamp stamp left.state) :
      StampAlike stamp left right := ⟨calls, .inr ⟨kept, same⟩⟩
  simp only [dhcpPass]
  split
  · exact still _ _ rfl undone rfl
  · split
    · exact still _ _ rfl undone rfl
    · split
      · exact still _ _ rfl undone rfl
      · split
        · exact still _ _ rfl undone rfl
        · exact ⟨rfl, .inl rfl⟩
        · exact still _ _ rfl undone rfl

/-- Without an address the idle task does not use the time of the last lease. -/
theorem idleStep_stamp (undone : state.isDhcpDone = false) :
    StampAlike stamp (idleStep outcomes state) (idleStep outcomes (withStamp stamp state)) := by
  have point : (withStamp stamp state).point = state.point := rfl
  cases located : state.point with
  | loopDelay =>
    simp only [idleStep, point, located]
    cases link : outcomes.isPhyLinkOn with
    | false =>
      rw [idleLinked_off _ _ (by simp [checkLink, link]), idleLinked_off _ _ (by simp [checkLink, link])]
      simp only [checkLink, link]
      exact ⟨rfl, .inr ⟨rfl, rfl⟩⟩
    | true =>
      have linked (before : IdleState) : checkLink outcomes before =
          { before with isWizChipLinkUp := true } := by
        simp [checkLink, link]
      rw [linked, linked, idleLinked_undone outcomes { state with isWizChipLinkUp := true } rfl undone,
        idleLinked_undone outcomes { withStamp stamp state with isWizChipLinkUp := true } rfl undone]
      exact dhcpProcess_stamp outcomes { state with isWizChipLinkUp := true } stamp undone
  | dhcpDelay startTimeStamp dhcpRetryCnt =>
    simp only [idleStep, point, located]
    exact dhcpPass_stamp outcomes state stamp startTimeStamp dhcpRetryCnt undone
  | dhcpRetryDelay startTimeStamp dhcpRetryCnt =>
    simp only [idleStep, point, located]
    exact ⟨rfl, .inr ⟨undone, rfl⟩⟩

end Idle

/-- The system with another session of its tasks. -/
def withSession (session : MqttSession.State) (system : System) : System :=
  { system with session := session }

/-- A step of the jobs task moves the request alike if it comes to the document alike. -/
theorem stepJobs_withSession (outcomes : Outcomes) (download : DownloadOutcomes) (system : System)
    (session : MqttSession.State)
    (reaches : (jobsStep { linked system outcomes with document := .pending } session).jobs =
      (jobsStep { linked system outcomes with document := .pending } system.session).jobs) :
    reachesDocument (withSession session system) outcomes = reachesDocument system outcomes ∧
      stepJobs outcomes download (withSession session system) =
        withSession (jobsStep (documented system outcomes download) session)
          (stepJobs outcomes download system) := by
  have alike : reachesDocument (withSession session system) outcomes =
      reachesDocument system outcomes :=
    congrArg (fun point => point == JobsPoint.jobDocument) reaches
  refine ⟨alike, ?_⟩
  simp only [stepJobs, alike]
  split <;> rfl

/-- What a step asks of the network stack on the socket of DHCP and HTTP. -/
structure SocketCalls where
  dhcp : List DhcpCall
  httpOpened : Bool
  deriving DecidableEq

/-- The calls of a step of a running system. -/
def socketCalls (system : System) : Label → SocketCalls
  | .idle outcomes => ⟨(idleStep outcomes system.idle).calls, false⟩
  | .awsIotJobs outcomes download =>
    ⟨[], reachesDocument system outcomes &&
      (documentStep system.download system.isHttpRunning download).opened⟩
  | .mainApp _ => ⟨[], false⟩

/-- A step with its calls. -/
def callingStep (system : System) (label : Label) : System × SocketCalls :=
  (TaskSystem.step system label,
    if system.session.jobs = .rebooted then ⟨[], false⟩ else socketCalls system label)

/-- What a label does while the device has not been rebooted. -/
def move (system : System) : Label → System
  | .idle outcomes => stepIdle outcomes system
  | .awsIotJobs outcomes download => stepJobs outcomes download system
  | .mainApp outcomes => stepMain outcomes system

/-- A component is unread if no move depends on it and the reboot is not hidden in it. -/
theorem unread_of_moves {Value : Type} (component : Component System Value)
    (reboots : ∀ value system, (component.set value system).session.jobs = system.session.jobs)
    (moves : ∀ system label value, ¬ component.written system →
      Alike component (move system label) (move (component.set value system) label) ∧
        socketCalls system label = socketCalls (component.set value system) label) :
    Unread component callingStep := by
  intro system label value unwritten
  simp only [callingStep, TaskSystem.step, reboots]
  split
  · exact ⟨alike_set component system value unwritten, rfl⟩
  · have moved := moves system label value unwritten
    cases label with
    | idle outcomes => exact moved
    | awsIotJobs outcomes download => exact moved
    | mainApp outcomes => exact moved

/-- The demand for new credentials, written when the main task starts. -/
def demand : Component System Bool where
  get system := system.session.enableRefreshProvisionedCert
  set refresh system := withSession (withRefresh refresh system.session) system
  written system := system.session.main ≠ .waitLink
  set_get _ := rfl

/-- The status of the jobs, written when the jobs task starts. -/
def status : Component System Bool where
  get system := system.session.isJobsConnected
  set connected system := withSession (withConnected connected system.session) system
  written system := system.session.jobs ≠ .waitLink
  set_get _ := rfl

/-- The time of the last lease, written when there is an address. -/
def leaseStart : Component System UInt32 where
  get system := system.idle.refreshDhcpTimeStamp
  set stamp system := { system with idle := withStamp stamp system.idle }
  written system := system.idle.isDhcpDone = true
  set_get _ := rfl

/-- Before the main task starts, no step depends on the demand. -/
theorem demand_unread : Unread demand callingStep := by
  refine unread_of_moves demand (fun _ _ => rfl) fun system label refresh waiting => ?_
  have starting : system.session.main = .waitLink := Decidable.not_not.mp waiting
  cases label with
  | idle outcomes => exact ⟨⟨refresh, rfl, fun written => absurd starting written⟩, rfl⟩
  | awsIotJobs outcomes download =>
    obtain ⟨_, pending⟩ := jobsStep_refresh refresh
      { linked system outcomes with document := .pending } system.session
    obtain ⟨demanded, moved⟩ := jobsStep_refresh refresh (documented system outcomes download)
      system.session
    obtain ⟨reaches, after⟩ := stepJobs_withSession outcomes download system
      (withRefresh refresh system.session) (by rw [pending]; rfl)
    have kept := (jobsStep_effect (documented system outcomes download) system.session).main
    constructor
    · refine ⟨demanded, ?_, fun written => absurd (kept.trans starting) ?_⟩
      · simp only [move, demand, after, moved, stepJobs_session]
      · simpa only [move, demand, stepJobs_session] using written
    · simp only [socketCalls, demand, reaches]
      rfl
  | mainApp outcomes =>
    refine ⟨?_, rfl⟩
    have moved (session : MqttSession.State) : move (withSession session system) (.mainApp outcomes) =
        withSession (mainStep (linked system outcomes) session) system := rfl
    have before : move system (.mainApp outcomes) =
        withSession (mainStep (linked system outcomes) system.session) system := rfl
    rw [show demand.set refresh system = withSession (withRefresh refresh system.session) system
      from rfl, moved, before]
    rcases mainStep_starts (linked system outcomes) system.session refresh starting with
      same | ⟨still, stays⟩
    · rw [same]
      exact alike_refl demand _
    · rw [still, stays]
      exact alike_set demand system refresh waiting

/-- Before the jobs task starts, no step depends on its status. -/
theorem status_unread : Unread status callingStep := by
  refine unread_of_moves status (fun _ _ => rfl) fun system label connected waiting => ?_
  have starting : system.session.jobs = .waitLink := Decidable.not_not.mp waiting
  cases label with
  | idle outcomes => exact ⟨⟨connected, rfl, fun written => absurd starting written⟩, rfl⟩
  | mainApp outcomes =>
    have kept := (mainStep_effect (linked system outcomes) system.session).2.jobs
    refine ⟨⟨connected, ?_, fun written => absurd (kept.trans starting) written⟩, rfl⟩
    exact congrArg (fun after => withSession after system)
      (mainStep_connected connected (linked system outcomes) system.session)
  | awsIotJobs outcomes download =>
    have pending := jobsStep_starts connected { linked system outcomes with document := .pending }
      system.session starting
    have reaches : (jobsStep { linked system outcomes with document := .pending }
        (withConnected connected system.session)).jobs =
        (jobsStep { linked system outcomes with document := .pending } system.session).jobs := by
      rcases pending with same | ⟨still, stays⟩
      · rw [same]
      · rw [still, stays]
        rfl
    obtain ⟨alike, after⟩ := stepJobs_withSession outcomes download system
      (withConnected connected system.session) reaches
    constructor
    · simp only [move, status, after]
      have session := stepJobs_session outcomes download system
      rcases jobsStep_starts connected (documented system outcomes download) system.session starting
        with same | ⟨still, stays⟩
      · rw [same, ← session]
        exact alike_refl status _
      · rw [stays]
        rw [still] at session
        refine ⟨connected, by simp only [session], fun written => absurd ?_ written⟩
        exact (congrArg State.jobs session).trans starting
    · simp only [socketCalls, status, alike]
      rfl

/-- Before there is an address, no step depends on the time of the last lease. -/
theorem leaseStart_unread : Unread leaseStart callingStep := by
  refine unread_of_moves leaseStart (fun _ _ => rfl) fun system label stamp waiting => ?_
  have undone : system.idle.isDhcpDone = false := Bool.eq_false_iff.mpr waiting
  cases label with
  | awsIotJobs outcomes download =>
    have frame : move (leaseStart.set stamp system) (.awsIotJobs outcomes download) =
        leaseStart.set stamp (move system (.awsIotJobs outcomes download)) := by
      have reaches : reachesDocument (leaseStart.set stamp system) outcomes =
          reachesDocument system outcomes := rfl
      simp only [move, stepJobs, reaches]
      split <;> rfl
    have kept : (move system (.awsIotJobs outcomes download)).idle = system.idle := by
      simp only [move, stepJobs]
      split <;> rfl
    refine ⟨⟨stamp, frame, fun written => absurd ?_ waiting⟩, rfl⟩
    exact (congrArg IdleState.isDhcpDone kept).symm.trans written
  | mainApp outcomes => exact ⟨⟨stamp, rfl, fun written => absurd written waiting⟩, rfl⟩
  | idle outcomes =>
    obtain ⟨calls, alike⟩ := idleStep_stamp outcomes system.idle stamp undone
    have moved : move (leaseStart.set stamp system) (.idle outcomes) =
        { move system (.idle outcomes) with
          idle := (idleStep outcomes (withStamp stamp system.idle)).state } := by
      have point : (idleStep outcomes (withStamp stamp system.idle)).state.point =
          (idleStep outcomes system.idle).state.point := by
        rcases alike with same | ⟨_, same⟩ <;> rw [same]
        rfl
      simp only [move, stepIdle, leaseStart, System.httpOpen, calls, point]
    constructor
    · rw [moved]
      rcases alike with same | ⟨kept, same⟩
      · rw [same]
        exact alike_refl leaseStart _
      · rw [same]
        refine alike_set leaseStart _ stamp ?_
        exact fun written => Bool.false_ne_true (kept.symm.trans written)
    · simp only [socketCalls, leaseStart, calls]

section Started
variable (abi : Abi) (netInfo : DefaultNetInfo abi)

/-- A flag of the record. -/
def loadedFlag (pAppCommon : Pointer) (index : Nat) : Bool :=
  pAppCommon (flagsOffset abi + index) != 0

/-- `AWS_IOT_JOBS_STATUS` of the record is `AWS_IOT_JOBS_CONNECTED`. -/
def loadedConnected (pAppCommon : Pointer) : Bool :=
  loadField pAppCommon (abi.otaInfoOffset + 12) abi.sizeofEnum == 1

/-- The tasks at the start of the scheduler, with the flags of the record they share. The
variable of the idle task is not initialised. -/
def startedSystem (pAppCommon : Pointer) (refreshDhcpTimeStamp : UInt32) : System where
  session := MqttSession.initial (loadedFlag abi pAppCommon 5) (loadedFlag abi pAppCommon 4)
    (loadedFlag abi pAppCommon 3) (loadedConnected abi pAppCommon)
  idle := { IdleState.initial refreshDhcpTimeStamp with
    isWizChipLinkUp := loadedFlag abi pAppCommon 0
    isDhcpDone := loadedFlag abi pAppCommon 1 }
  download := .outside
  isHttpRunning := false
  overlapped := false

theorem clearAppFlags_cleared (pAppCommon : Pointer) (index : Nat) (known : index < 6)
    (named : index ≠ 4) : loadedFlag abi (clearAppFlags abi pAppCommon) index = false := by
  have byte (memory : Pointer) (start position : Nat) : storeField memory start 1 0 position =
      if position = start then 0 else memory position := by
    simp only [storeField]
    by_cases here : position = start
    · rw [if_pos here, if_pos (by omega), Nat.zero_div]
      rfl
    · rw [if_neg here, if_neg (by omega)]
  have zero : clearAppFlags abi pAppCommon (flagsOffset abi + index) = 0 := by
    simp only [clearAppFlags, byte]
    rcases (by omega : index = 0 ∨ index = 1 ∨ index = 2 ∨ index = 3 ∨ index = 5) with
      rfl | rfl | rfl | rfl | rfl <;> simp
  simp only [loadedFlag, zero]
  rfl

/-- After `clearAppFlags` the system starts with two flags and a variable that nobody set. -/
theorem startedSystem_initial (pAppCommon : Pointer) (stamp : UInt32) :
    startedSystem abi (clearAppFlags abi pAppCommon) stamp =
      System.initial (loadedFlag abi (clearAppFlags abi pAppCommon) 4)
        (loadedConnected abi (clearAppFlags abi pAppCommon)) stamp := by
  simp only [startedSystem, clearAppFlags_cleared abi pAppCommon 5 (by decide) (by decide),
    clearAppFlags_cleared abi pAppCommon 3 (by decide) (by decide),
    clearAppFlags_cleared abi pAppCommon 1 (by decide) (by decide),
    clearAppFlags_cleared abi pAppCommon 0 (by decide) (by decide)]
  rfl

/-- The systems are equal but for what each task sets before it uses it. -/
structure AlikeButLoaded (left right : System) : Prop where
  others : right = leaseStart.set right.idle.refreshDhcpTimeStamp
    (status.set right.session.isJobsConnected
      (demand.set right.session.enableRefreshProvisionedCert left))
  refresh : left.session.main ≠ .waitLink →
    right.session.enableRefreshProvisionedCert = left.session.enableRefreshProvisionedCert
  connected : left.session.jobs ≠ .waitLink →
    right.session.isJobsConnected = left.session.isJobsConnected
  lease : left.idle.isDhcpDone = true →
    right.idle.refreshDhcpTimeStamp = left.idle.refreshDhcpTimeStamp

/-- Runs from two initial systems make the same calls and end alike. -/
theorem initial_alike (refresh connected refresh' connected' : Bool) (stamp stamp' : UInt32)
    (labels : List Label) :
    observe callingStep (System.initial refresh connected stamp) labels =
        observe callingStep (System.initial refresh' connected' stamp') labels ∧
      AlikeButLoaded (execute TaskSystem.step (System.initial refresh connected stamp) labels)
        (execute TaskSystem.step (System.initial refresh' connected' stamp') labels) := by
  have runs {Value : Type} (component : Component System Value)
      (unread : Unread component callingStep) (left right : System)
      (alike : Alike component left right) :
      observe callingStep left labels = observe callingStep right labels ∧
        Alike component (execute TaskSystem.step left labels)
          (execute TaskSystem.step right labels) :=
    runs_alike component callingStep unread left right labels alike
  obtain ⟨demandCalls, demanded, demandSet, refreshed⟩ := runs demand demand_unread
    (System.initial refresh connected stamp) (System.initial refresh' connected stamp)
    (alike_set demand _ refresh' fun started => started rfl)
  obtain ⟨statusCalls, joined, statusSet, connects⟩ := runs status status_unread
    (System.initial refresh' connected stamp) (System.initial refresh' connected' stamp)
    (alike_set status _ connected' fun started => started rfl)
  obtain ⟨leaseCalls, leased, leaseSet, leases⟩ := runs leaseStart leaseStart_unread
    (System.initial refresh' connected' stamp) (System.initial refresh' connected' stamp')
    (alike_set leaseStart _ stamp' Bool.false_ne_true)
  refine ⟨demandCalls.trans (statusCalls.trans leaseCalls), ?_⟩
  rw [demandSet] at statusSet connects
  rw [statusSet] at leaseSet leases
  rw [leaseSet]
  exact ⟨rfl, refreshed, connects, leases⟩

/-- Two devices that load different records, and whose memory differs, do the same from the
start of the scheduler on. What stood in the flags is never used. -/
theorem loaded_flags_unread (memory memory' : Pointer) (contents contents' : NorFlash.Contents UInt8)
    (stamp stamp' : UInt32) (labels : List Label) :
    observe callingStep
          (startedSystem abi (startedAppCommon abi netInfo memory contents) stamp) labels =
        observe callingStep
          (startedSystem abi (startedAppCommon abi netInfo memory' contents') stamp') labels ∧
      AlikeButLoaded
        (execute TaskSystem.step
          (startedSystem abi (startedAppCommon abi netInfo memory contents) stamp) labels)
        (execute TaskSystem.step
          (startedSystem abi (startedAppCommon abi netInfo memory' contents') stamp') labels) := by
  rw [startedAppCommon, startedAppCommon, startedSystem_initial, startedSystem_initial]
  exact initial_alike _ _ _ _ stamp stamp' labels

end Started

end WiznetEaas.PersistedFlags
