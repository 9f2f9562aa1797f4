import WiznetEaas.Recovery
import WiznetEaas.TaskSystem

/-!
# Recovery of the whole system

The application tasks also wait for the idle task, which may be anywhere in the DHCP
client, and a job may be in the middle of a download. Neither keeps the jobs from being
served again: the idle task gets an address in four steps once there is a link and the
server leases one, and a download ends with the request it waits in.
-/

namespace WiznetEaas.SystemRecovery

open Runs MqttSession IdleTask TaskSystem Recovery

/-- The link is up, and the address is static or leased at once. Seen from a time stamp, no
time has passed. -/
def leasing (isNetInfoDhcp : Bool) (stamp : UInt32) : IdleOutcomes where
  isPhyLinkOn := true
  currentTimeStamp := stamp
  startTimeStamp := stamp
  doneTimeStamp := stamp
  isNetInfoDhcp := isNetInfoDhcp
  dhcpRun := .dhcpIpLeased
  dhcpLeaseTimeS := 0

/-- A job is carried out without a further wait. -/
def downloading : DownloadOutcomes where
  isOta := false
  isHttpUrl := true
  isIpaddr := true
  dns := .done
  httpConnect := true
  isReceiving := false
  isCarriedOut := true

/-- The idle task reports the link and the address. -/
def Online (system : System) : Prop :=
  system.idle.isWizChipLinkUp = true ∧ system.idle.isDhcpDone = true

/-- Steps of the idle task, with one configuration, lead to a link and an address. -/
def Connectable (isNetInfoDhcp : Bool) (steps : Nat) (idle : IdleState) : Prop :=
  ∃ labels : List IdleOutcomes, (∀ outcomes ∈ labels, outcomes.isNetInfoDhcp = isNetInfoDhcp) ∧
    labels.length ≤ steps ∧
    (execute (fun state outcomes => (idleStep outcomes state).state) idle labels).isWizChipLinkUp =
        true ∧
      (execute (fun state outcomes => (idleStep outcomes state).state) idle labels).isDhcpDone = true

theorem connectable_step {isNetInfoDhcp : Bool} (steps : Nat) (idle : IdleState)
    (outcomes : IdleOutcomes) (configured : outcomes.isNetInfoDhcp = isNetInfoDhcp)
    (later : Connectable isNetInfoDhcp steps (idleStep outcomes idle).state) :
    Connectable isNetInfoDhcp (steps + 1) idle := by
  obtain ⟨labels, same, short, online⟩ := later
  exact ⟨outcomes :: labels, List.forall_mem_cons.mpr ⟨configured, same⟩, Nat.succ_le_succ short,
    online⟩

theorem connectable_mono {isNetInfoDhcp : Bool} {fewer steps : Nat} (more : fewer ≤ steps)
    (idle : IdleState) (connectable : Connectable isNetInfoDhcp fewer idle) :
    Connectable isNetInfoDhcp steps idle := by
  obtain ⟨labels, same, short, online⟩ := connectable
  exact ⟨labels, same, Nat.le_trans short more, online⟩

/-- The first pass of the DHCP client gets the address. -/
theorem fresh_connectable (idle : IdleState) (stamp : UInt32) (isNetInfoDhcp : Bool)
    (up : idle.isWizChipLinkUp = true) (point : idle.point = .dhcpDelay stamp 0) :
    Connectable isNetInfoDhcp 1 idle := by
  refine ⟨[leasing isNetInfoDhcp stamp], fun _ member => ?_, Nat.le_refl 1, ?_⟩
  · exact List.mem_singleton.mp member ▸ rfl
  · have leased : idleStep (leasing isNetInfoDhcp stamp) idle =
        ⟨[.dhcpRun], dhcpSucceeded (leasing isNetInfoDhcp stamp) idle⟩ := by
      simp [idleStep, point, dhcpPass, leasing]
    simp only [execute, leased]
    exact ⟨up, rfl⟩

/-- From the head of its loop the idle task asks for an address, unless it has one. -/
theorem looping_connectable (idle : IdleState) (isNetInfoDhcp : Bool)
    (point : idle.point = .loopDelay) : Connectable isNetInfoDhcp 2 idle := by
  have checked (outcomes : IdleOutcomes) (on : outcomes.isPhyLinkOn = true) :
      idleStep outcomes idle = idleLinked outcomes { idle with isWizChipLinkUp := true } := by
    simp [idleStep, point, checkLink, on]
  cases done : idle.isDhcpDone with
  | true =>
    refine ⟨[leasing isNetInfoDhcp idle.refreshDhcpTimeStamp], fun _ member => ?_,
      Nat.le_succ 1, ?_⟩
    · exact List.mem_singleton.mp member ▸ rfl
    · have held : isLeaseTimeOver (leasing isNetInfoDhcp idle.refreshDhcpTimeStamp)
          { idle with isWizChipLinkUp := true } = false := by
        simp [isLeaseTimeOver, leasing]
      simp only [execute, checked (leasing isNetInfoDhcp idle.refreshDhcpTimeStamp) rfl]
      rw [idleLinked_done _ { idle with isWizChipLinkUp := true } rfl done,
        if_neg (by rw [held]; exact Bool.false_ne_true)]
      exact ⟨rfl, done⟩
  | false =>
    have begins : idleStep (leasing isNetInfoDhcp 0) idle =
        dhcpProcess (leasing isNetInfoDhcp 0) { idle with isWizChipLinkUp := true } := by
      rw [checked (leasing isNetInfoDhcp 0) rfl,
        idleLinked_undone _ { idle with isWizChipLinkUp := true } rfl done]
    cases isNetInfoDhcp with
    | true =>
      apply connectable_step 1 idle (leasing true 0) rfl
      rw [begins]
      exact fresh_connectable _ 0 true rfl rfl
    | false =>
      refine ⟨[leasing false 0], fun _ member => ?_, by decide, ?_⟩
      · exact List.mem_singleton.mp member ▸ rfl
      · simp only [execute, begins]
        exact ⟨rfl, rfl⟩

/-- Wherever the idle task waits, an attempt that is under way runs out and the next one
succeeds. -/
theorem idle_connectable (idle : IdleState) (isNetInfoDhcp : Bool) :
    Connectable isNetInfoDhcp 4 idle := by
  have passes (waiting : IdleState) (startTimeStamp dhcpRetryCnt : UInt32)
      (point : waiting.point = .dhcpDelay startTimeStamp dhcpRetryCnt) :
      Connectable isNetInfoDhcp 3 waiting := by
    have late : dhcpRetryTimeoutMs < startTimeStamp + 10001 - startTimeStamp := by
      rw [UInt32.add_comm, UInt32.add_sub_cancel]
      decide
    have fails : idleStep (leasing isNetInfoDhcp (startTimeStamp + 10001)) waiting =
        ⟨[], dhcpFailed waiting⟩ := by
      have expired : dhcpRetryTimeoutMs <
          (leasing isNetInfoDhcp (startTimeStamp + 10001)).currentTimeStamp - startTimeStamp := late
      rw [idleStep, point]
      dsimp only
      rw [dhcpPass, if_neg (show ¬ (!(leasing isNetInfoDhcp (startTimeStamp + 10001)).isPhyLinkOn) =
        true from Bool.false_ne_true), if_pos expired]
    apply connectable_step 2 waiting (leasing isNetInfoDhcp (startTimeStamp + 10001)) rfl
    rw [fails]
    exact looping_connectable _ isNetInfoDhcp rfl
  cases point : idle.point with
  | loopDelay => exact connectable_mono (by decide) idle (looping_connectable idle isNetInfoDhcp point)
  | dhcpDelay startTimeStamp dhcpRetryCnt =>
    exact connectable_mono (by decide) idle (passes idle startTimeStamp dhcpRetryCnt point)
  | dhcpRetryDelay startTimeStamp dhcpRetryCnt =>
    have goes : idleStep (leasing isNetInfoDhcp 0) idle =
        ⟨[], { idle with point := .dhcpDelay startTimeStamp dhcpRetryCnt }⟩ := by
      simp only [idleStep, point]
    apply connectable_step 3 idle (leasing isNetInfoDhcp 0) rfl
    rw [goes]
    exact passes _ startTimeStamp dhcpRetryCnt rfl

/-- The configuration is the same in all steps: whether the address comes from DHCP, and
whether the end point is an address. -/
def Configured (isNetInfoDhcp isEndPointAddress : Bool) : Label → Prop
  | .idle outcomes => outcomes.isNetInfoDhcp = isNetInfoDhcp
  | .awsIotJobs outcomes _ => outcomes.isEndPointAddress = isEndPointAddress
  | .mainApp outcomes => outcomes.isEndPointAddress = isEndPointAddress

/-- Steps of the idle task leave the session. -/
theorem idle_run (system : System) (alive : system.session.jobs ≠ .rebooted)
    (labels : List IdleOutcomes) :
    (execute TaskSystem.step system (labels.map .idle)).session = system.session ∧
      (execute TaskSystem.step system (labels.map .idle)).idle =
        execute (fun state outcomes => (idleStep outcomes state).state) system.idle labels := by
  induction labels generalizing system with
  | nil => exact ⟨rfl, rfl⟩
  | cons outcomes rest ih =>
    have moved : TaskSystem.step system (.idle outcomes) = stepIdle outcomes system := by
      rw [TaskSystem.step, if_neg alive]
    simp only [List.map_cons, execute, moved]
    exact ih (stepIdle outcomes system) alive

section Lift
variable (isEndPointAddress isValid : Bool)

/-- The label of a task while the network cooperates. -/
def taskLabel (system : System) : Task → Label
  | .awsIotJobs =>
    .awsIotJobs (cooperative isEndPointAddress isValid system.session .awsIotJobs) downloading
  | .mainApp => .mainApp (cooperative isEndPointAddress isValid system.session .mainApp)

/-- With a link and an address the steps of the tasks are those of the session alone. -/
theorem taskLabel_cooperates (system : System) (online : Online system) (task : Task) :
    (TaskSystem.step system (taskLabel isEndPointAddress isValid system task)).session =
        cooperate isEndPointAddress isValid system.session task ∧
      Online (TaskSystem.step system (taskLabel isEndPointAddress isValid system task)) := by
  have linkedUp : (system.idle.isWizChipLinkUp && system.idle.isDhcpDone) = true := by
    rw [online.1, online.2]
    rfl
  have carried : (documentStep system.download system.isHttpRunning downloading).document =
      .done := by
    cases system.download <;> rfl
  have same (task : Task) : linked system (cooperative isEndPointAddress isValid system.session
      task) = cooperative isEndPointAddress isValid system.session task := by
    simp only [linked, linkedUp]
    rfl
  have documentedSame : documented system (cooperative isEndPointAddress isValid system.session
      .awsIotJobs) downloading = cooperative isEndPointAddress isValid system.session
        .awsIotJobs := by
    simp only [documented, same, carried]
    rfl
  cases task with
  | awsIotJobs =>
    constructor
    · rw [step_session]
      simp only [taskLabel, sessionLabel, documentedSame]
      rfl
    · simp only [TaskSystem.step, taskLabel, stepJobs]
      split
      · exact online
      · split <;> exact online
  | mainApp =>
    constructor
    · rw [step_session]
      simp only [taskLabel, sessionLabel, same]
      rfl
    · simp only [TaskSystem.step, taskLabel, stepMain]
      split <;> exact online

/-- A schedule of the session is one of the system. -/
theorem schedule_lifts (isNetInfoDhcp : Bool) (system : System) (online : Online system)
    (schedule : List Task) :
    ∃ labels : List Label, labels.length = schedule.length ∧
      (∀ label ∈ labels, Configured isNetInfoDhcp isEndPointAddress label) ∧
      (execute TaskSystem.step system labels).session =
        execute (cooperate isEndPointAddress isValid) system.session schedule := by
  induction schedule generalizing system with
  | nil => exact ⟨[], rfl, fun _ member => absurd member List.not_mem_nil, rfl⟩
  | cons task rest ih =>
    obtain ⟨session, stays⟩ := taskLabel_cooperates isEndPointAddress isValid system online task
    obtain ⟨labels, length, configured, ends⟩ := ih _ stays
    refine ⟨taskLabel isEndPointAddress isValid system task :: labels, congrArg Nat.succ length,
      List.forall_mem_cons.mpr ⟨?_, configured⟩, ?_⟩
    · cases task <;> rfl
    · simp only [execute, ends, session]

end Lift

/-- After any run of the three tasks, unless the device has been rebooted, the jobs task can be
served again exactly when the session is not stranded. Then fifteen steps with one configuration
are enough, once there is a link and the servers answer. -/
theorem system_served_again_iff (refresh connected : Bool) (stamp : UInt32) (labels : List Label)
    (isNetInfoDhcp isEndPointAddress : Bool)
    (alive : (execute TaskSystem.step (System.initial refresh connected stamp) labels).session.jobs ≠
      .rebooted) :
    let reached := execute TaskSystem.step (System.initial refresh connected stamp) labels
    ((∃ later, Served (execute TaskSystem.step reached later).session) ↔
        ¬ Stranded reached.session) ∧
      (¬ Stranded reached.session → ∃ later : List Label, later.length ≤ 15 ∧
        (∀ label ∈ later, Configured isNetInfoDhcp isEndPointAddress label) ∧
          Served (execute TaskSystem.step reached later).session) := by
  intro reached
  obtain ⟨moves, session⟩ := execute_session (System.initial refresh connected stamp) labels
  have consistent : Consistent reached.session := by
    have consistent := reached_consistent false refresh false connected moves
    rw [show reached.session = _ from session]
    exact consistent
  have recovers (free : ¬ Stranded reached.session) : ∃ later : List Label, later.length ≤ 15 ∧
      (∀ label ∈ later, Configured isNetInfoDhcp isEndPointAddress label) ∧
        Served (execute TaskSystem.step reached later).session := by
    obtain ⟨idles, same, short, online⟩ := idle_connectable reached.idle isNetInfoDhcp
    obtain ⟨kept, idle⟩ := idle_run reached alive idles
    have up : Online (execute TaskSystem.step reached (idles.map .idle)) := by
      rw [Online, idle]
      exact online
    obtain ⟨schedule, brief, served⟩ : Attainable isEndPointAddress true 11 Served reached.session :=
      free_served reached.session consistent free alive
    obtain ⟨labels, length, configured, ends⟩ :=
      schedule_lifts isEndPointAddress true isNetInfoDhcp _ up schedule
    refine ⟨idles.map .idle ++ labels, ?_, ?_, ?_⟩
    · rw [List.length_append, List.length_map]
      omega
    · intro label member
      rcases List.mem_append.mp member with early | late
      · obtain ⟨outcomes, among, rfl⟩ := List.mem_map.mp early
        exact same outcomes among
      · exact configured label late
    · rw [execute_append, ends, kept]
      exact served
  refine ⟨⟨?_, ?_⟩, recovers⟩
  · rintro ⟨later, served⟩ stranded
    obtain ⟨moves, last⟩ := execute_session reached later
    rw [last] at served
    exact stranded_forever reached.session consistent stranded moves served
  · intro free
    obtain ⟨later, _, _, served⟩ := recovers free
    exact ⟨later, served⟩

/-- A step of an application task, without a download. -/
def moveLabel : Task × Outcomes → Label
  | (.awsIotJobs, outcomes) => .awsIotJobs outcomes noDownload
  | (.mainApp, outcomes) => .mainApp outcomes

/-- The colliding run of the tasks, with an address. -/
def collidingRun : List Label :=
  .idle staticAddress :: SessionOwnership.seventhAttempt.map moveLabel

/-- The device recovers from the collision. -/
theorem collision_passes : ∃ later : List Label, later.length ≤ 15 ∧
    (∀ label ∈ later, Configured true false label) ∧
      Served (execute TaskSystem.step
        (execute TaskSystem.step (System.initial false false 0) collidingRun) later).session :=
  (system_served_again_iff false false 0 collidingRun true false (by decide +kernel)).2
    fun stranded => absurd stranded.undemanded (by decide +kernel)

end WiznetEaas.SystemRecovery
