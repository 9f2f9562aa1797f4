import WiznetEaas.MqttSession

/-!
# Exclusive ownership of the MQTT client

The state of the client is idle while a connection is being set up, so the test in
`mqtt_transport_init` protects only a finished connection. The schedules that touch
the other task's session are exactly those in which `main_app_task` enters fleet
provisioning while `aws_iot_jobs_task` waits inside its connect. The jobs task itself
raises the demand for provisioning right before it connects again.
-/

namespace WiznetEaas.SessionOwnership

open Runs MqttSession

/-- The delays inside `mqtt_transport_connect`. -/
def jobsConnecting : JobsPoint → Bool
  | .connectDns | .connectHandshake => true
  | _ => false

/-- The delays after the start-up and outside the connect. -/
def jobsServing : JobsPoint → Bool
  | .waitLink | .connectDns | .connectHandshake => false
  | _ => true

def mainConnecting : MainPoint → Bool
  | .connectDns | .connectHandshake => true
  | _ => false

/-- The delays of fleet provisioning with a finished connection. -/
def mainProvisioning : MainPoint → Bool
  | .waitCreate | .waitRegister => true
  | _ => false

/-- The delays of the jobs task with a finished connection, but for the loop's own. -/
def jobsWaiting (point : JobsPoint) : Bool :=
  jobsServing point && point != .loopDelay && point != .failDelay

/-- The status of the jobs task, which counts from its start-up on. -/
def jobsLinked (state : State) : Bool :=
  state.jobs != .waitLink && state.isJobsConnected

/-- The schedules that go wrong: fleet provisioning starts during the connect of the
jobs task. -/
def Collision (state : State) (label : Task × Outcomes) : Prop :=
  label.1 = .mainApp ∧ state.main = .loopDelay ∧ label.2.isLinkUp = true ∧
    state.enableRefreshProvisionedCert = true ∧ jobsConnecting state.jobs = true

/-- The sessions follow from the points of the tasks, at most one is open, and the
jobs task is stopped while the other provisions. -/
structure Exclusive (state : State) : Prop where
  jobsSession : state.jobsSession = (jobsConnecting state.jobs || jobsLinked state)
  mainSession : state.mainSession = (mainConnecting state.main || mainProvisioning state.main)
  running : state.isMqttRunning = (jobsLinked state || mainProvisioning state.main)
  unlinked : jobsConnecting state.jobs = true → state.isJobsConnected = false
  linked : jobsWaiting state.jobs = true → state.isJobsConnected = true
  apart : state.jobsSession = true → state.mainSession = false
  stopped : state.mainSession = true → state.isRunAwsIotJobs = false
  untouched : state.interfered = false

/-- The main task has no session. -/
structure MainAway (state : State) : Prop where
  closed : state.mainSession = false
  outside : (mainConnecting state.main || mainProvisioning state.main) = false
  untouched : state.interfered = false

/-- The jobs task has none. -/
structure JobsAway (state : State) : Prop where
  closed : state.jobsSession = false
  outside : jobsConnecting state.jobs = false ∧ jobsWaiting state.jobs = false
  unlinked : jobsLinked state = false
  untouched : state.interfered = false

/-- The jobs task holds a finished connection. -/
structure JobsOnline (state : State) : Prop where
  opened : state.jobsSession = true
  linked : state.isJobsConnected = true
  running : state.isMqttRunning = true

/-- The jobs task is setting up a connection. -/
structure JobsOpening (state : State) : Prop where
  opened : state.jobsSession = true
  unlinked : state.isJobsConnected = false
  idle : state.isMqttRunning = false

/-- The main task has stopped the jobs task and holds the session. -/
structure MainOpened (state : State) : Prop where
  opened : state.mainSession = true
  stopped : state.isRunAwsIotJobs = false

/-- How the functions behind a finished connection of the jobs task end a step. -/
inductive Serves (state : State) : State → Prop where
  | waits (point : JobsPoint) (serving : jobsServing point = true) :
      Serves state { state with jobs := point }
  | closes : Serves state (jobsClose state)

/-- The delays in which such a step ends. -/
def jobsInside : JobsPoint → Bool
  | .waitLink | .connectDns | .connectHandshake | .failDelay => false
  | _ => true

/-- The same ends with the delays told exactly. -/
inductive Continues (state : State) : State → Prop where
  | waits (point : JobsPoint) (inside : jobsInside point = true) :
      Continues state { state with jobs := point }
  | closes : Continues state (jobsClose state)

theorem continues_serves (before after : State) (continues : Continues before after) :
    Serves before after := by
  cases continues with
  | waits point inside =>
    refine .waits point ?_
    cases point <;> first | rfl | cases inside
  | closes => exact .closes

theorem jobsUpdated_continues (carriedOut : Bool) (outcomes : Outcomes) (state : State) :
    Continues state (jobsUpdated carriedOut outcomes state) := by
  simp only [jobsUpdated]
  split
  · split
    · exact .waits .rebooted rfl
    · exact .waits .loopDelay rfl
  · exact .closes

theorem jobsWaitUpdate_continues (carriedOut : Bool) (outcomes : Outcomes) (state : State) :
    Continues state (jobsWaitUpdate carriedOut outcomes state) := by
  simp only [jobsWaitUpdate]
  split
  · exact .waits (.waitUpdate carriedOut) rfl
  · exact jobsUpdated_continues carriedOut outcomes state

theorem jobsUpdate_continues (carriedOut : Bool) (outcomes : Outcomes) (state : State) :
    Continues state (jobsUpdate carriedOut outcomes state) := by
  simp only [jobsUpdate]
  split
  · exact jobsWaitUpdate_continues carriedOut outcomes state
  · exact jobsUpdated_continues carriedOut outcomes state

theorem jobsDocument_continues (outcomes : Outcomes) (state : State) :
    Continues state (jobsDocument outcomes state) := by
  simp only [jobsDocument]
  split
  · exact .waits .jobDocument rfl
  · exact jobsUpdate_continues true outcomes state
  · exact jobsUpdate_continues false outcomes state

theorem jobsWaitStartNext_continues (outcomes : Outcomes) (state : State) :
    Continues state (jobsWaitStartNext outcomes state) := by
  simp only [jobsWaitStartNext]
  split
  · exact .waits .waitStartNext rfl
  · exact jobsDocument_continues outcomes state
  · exact .closes

theorem jobsStartDocument_continues (outcomes : Outcomes) (state : State) :
    Continues state (jobsStartDocument outcomes state) := by
  simp only [jobsStartDocument]
  split
  · split
    · exact jobsWaitStartNext_continues outcomes state
    · exact .closes
  · exact .waits .loopDelay rfl

theorem jobsWaitGetJob_continues (outcomes : Outcomes) (state : State) :
    Continues state (jobsWaitGetJob outcomes state) := by
  simp only [jobsWaitGetJob]
  split
  · exact .waits .waitGetJob rfl
  · exact jobsStartDocument_continues outcomes state
  · exact .closes

theorem jobsServe_continues (outcomes : Outcomes) (state : State) :
    Continues state (jobsServe outcomes state) := by
  simp only [jobsServe]
  split
  · split
    · exact jobsWaitGetJob_continues outcomes state
    · exact .closes
  · exact jobsStartDocument_continues outcomes state

/-- How `mqtt_transport_connect` ends a step. -/
inductive Connects (task : Task) (state : State) : ConnectResult × State → Prop where
  | waitsDns : Connects task state (.waitsDns, state)
  | waitsHandshake : Connects task state (.waitsHandshake, state)
  | refused : Connects task state (.refused, mqttTransportClose task state)
  | connected : Connects task state (.connected, mqttConnected task state)

theorem connectHandshake_connects (task : Task) (outcomes : Outcomes) (state : State) :
    Connects task state (connectHandshake task outcomes state) := by
  simp only [connectHandshake]
  split
  · exact .waitsHandshake
  · exact .refused
  · split
    · exact .connected
    · cases task <;> exact .refused

theorem connectTls_connects (task : Task) (outcomes : Outcomes) (state : State) :
    Connects task state (connectTls task outcomes state) := by
  simp only [connectTls]
  split
  · exact connectHandshake_connects task outcomes state
  · exact .refused

theorem connectDns_connects (task : Task) (outcomes : Outcomes) (state : State) :
    Connects task state (connectDns task outcomes state) := by
  simp only [connectDns]
  split
  · exact .waitsDns
  · exact .refused
  · exact connectTls_connects task outcomes state

/-- An idle client lets the connect go on. -/
theorem mqttTransportConnect_connects (task : Task) (outcomes : Outcomes) (state : State)
    (idle : state.isMqttRunning = false) :
    Connects task state (mqttTransportConnect task outcomes state) := by
  simp only [mqttTransportConnect]
  rw [idle, if_neg Bool.false_ne_true]
  split
  · exact connectTls_connects task outcomes state
  · exact .waitsDns

/-- How fleet provisioning with a finished connection ends a step. -/
inductive Provisions (state : State) : State → Prop where
  | waits (point : MainPoint) (provisioning : mainProvisioning point = true) :
      Provisions state { state with main := point }
  | fails : Provisions state (mainFailed state)
  | succeeds : Provisions state (mainProvisioned state)

theorem mainWaitRegister_provisions (outcomes : Outcomes) (state : State) :
    Provisions state (mainWaitRegister outcomes state) := by
  simp only [mainWaitRegister]
  split
  · exact .waits .waitRegister rfl
  · exact .succeeds
  · exact .fails

theorem mainWaitCreate_provisions (outcomes : Outcomes) (state : State) :
    Provisions state (mainWaitCreate outcomes state) := by
  simp only [mainWaitCreate]
  split
  · exact .waits .waitCreate rfl
  · split
    · exact mainWaitRegister_provisions outcomes state
    · exact .fails
  · exact .fails

/-- The jobs task closes only its own session while the main task has none. -/
theorem jobsClose_exclusive (state : State) (away : MainAway state) (point : JobsPoint)
    (idle : jobsConnecting point = false ∧ jobsWaiting point = false) :
    Exclusive { jobsClose state with jobs := point } := by
  have outside := away.outside
  rw [Bool.or_eq_false_iff] at outside
  constructor <;>
    simp [jobsClose, mqttTransportClose, State.setSession, State.session, Task.other, jobsLinked,
      away.closed, away.untouched, outside, idle]

theorem serves_exclusive (before after : State) (away : MainAway before)
    (online : JobsOnline before) (serves : Serves before after) : Exclusive after := by
  cases serves with
  | waits point serving =>
    have outside := away.outside
    rw [Bool.or_eq_false_iff] at outside
    have apart : jobsConnecting point = false := by cases point <;> first | rfl | cases serving
    have started : point ≠ .waitLink := by
      rintro rfl
      cases serving
    constructor <;>
      simp [jobsLinked, away.closed, away.untouched, outside, apart, started, online.opened,
        online.linked, online.running]
  | closes => exact jobsClose_exclusive before away .loopDelay ⟨rfl, rfl⟩

theorem jobsConnectFailed_exclusive (state : State) (away : MainAway state) :
    Exclusive (jobsConnectFailed state) :=
  jobsClose_exclusive state away .failDelay ⟨rfl, rfl⟩

theorem jobsConnect_exclusive (outcomes : Outcomes) (before : State)
    (reached : ConnectResult × State) (away : MainAway before) (opening : JobsOpening before)
    (connects : Connects .awsIotJobs before reached) :
    Exclusive (jobsConnect outcomes reached) := by
  have outside := away.outside
  rw [Bool.or_eq_false_iff] at outside
  cases connects with
  | waitsDns =>
    constructor <;>
      simp [jobsConnect, jobsConnecting, jobsWaiting, jobsServing, jobsLinked, away.closed,
        away.untouched, outside, opening.opened, opening.unlinked, opening.idle]
  | waitsHandshake =>
    constructor <;>
      simp [jobsConnect, jobsConnecting, jobsWaiting, jobsServing, jobsLinked, away.closed,
        away.untouched, outside, opening.opened, opening.unlinked, opening.idle]
  | refused =>
    apply jobsConnectFailed_exclusive
    constructor
    · exact away.closed
    · exact away.outside
    · simp [mqttTransportClose, State.setSession, State.session, Task.other, away.untouched,
        away.closed]
  | connected =>
    simp only [jobsConnect]
    split
    · refine serves_exclusive _ _ ?_ ?_ (continues_serves _ _ (jobsServe_continues outcomes _))
      · exact ⟨away.closed, away.outside, away.untouched⟩
      · exact ⟨opening.opened, rfl, rfl⟩
    · exact jobsConnectFailed_exclusive _ ⟨away.closed, away.outside, away.untouched⟩

/-- The main task closes only its own session while the jobs task has none. -/
theorem mainClose_exclusive (state : State) (away : JobsAway state)
    (isRunAwsIotJobs enableRefreshProvisionedCert : Bool) (point : MainPoint)
    (outside : mainConnecting point = false ∧ mainProvisioning point = false) :
    Exclusive { mqttTransportClose .mainApp state with
      isRunAwsIotJobs := isRunAwsIotJobs
      enableRefreshProvisionedCert := enableRefreshProvisionedCert
      main := point } := by
  have unlinked := away.unlinked
  simp only [jobsLinked] at unlinked
  constructor <;>
    simp [mqttTransportClose, State.setSession, State.session, Task.other, jobsLinked,
      away.closed, away.outside, away.untouched, outside, unlinked]

theorem mainFailed_exclusive (state : State) (away : JobsAway state) :
    Exclusive (mainFailed state) :=
  mainClose_exclusive state away state.isRunAwsIotJobs state.enableRefreshProvisionedCert
    .retryDelay ⟨rfl, rfl⟩

theorem provisions_exclusive (before after : State) (away : JobsAway before)
    (opened : MainOpened before) (running : before.isMqttRunning = true)
    (provisions : Provisions before after) : Exclusive after := by
  cases provisions with
  | waits point provisioning =>
    have unlinked := away.unlinked
    simp only [jobsLinked] at unlinked
    constructor <;>
      simp [jobsLinked, away.closed, away.outside, away.untouched, unlinked, opened.opened,
        opened.stopped, running, provisioning]
  | fails => exact mainFailed_exclusive before away
  | succeeds => exact mainClose_exclusive before away true false .loopDelay ⟨rfl, rfl⟩

theorem mainConnect_exclusive (outcomes : Outcomes) (before : State)
    (reached : ConnectResult × State) (away : JobsAway before) (opened : MainOpened before)
    (idle : before.isMqttRunning = false) (connects : Connects .mainApp before reached) :
    Exclusive (mainConnect outcomes reached) := by
  have unlinked := away.unlinked
  simp only [jobsLinked] at unlinked
  cases connects with
  | waitsDns =>
    constructor <;>
      simp [mainConnect, mainConnecting, mainProvisioning, jobsLinked, away.closed, away.outside,
        away.untouched, unlinked, opened.opened, opened.stopped, idle]
  | waitsHandshake =>
    constructor <;>
      simp [mainConnect, mainConnecting, mainProvisioning, jobsLinked, away.closed, away.outside,
        away.untouched, unlinked, opened.opened, opened.stopped, idle]
  | refused =>
    apply mainFailed_exclusive
    constructor
    · exact away.closed
    · exact away.outside
    · exact away.unlinked
    · simp [mqttTransportClose, State.setSession, State.session, Task.other, away.untouched,
        away.closed]
  | connected =>
    simp only [mainConnect]
    have jobsAway : JobsAway (mqttConnected .mainApp before) :=
      ⟨away.closed, away.outside, away.unlinked, away.untouched⟩
    split
    · exact provisions_exclusive _ _ jobsAway ⟨opened.opened, opened.stopped⟩ rfl
        (mainWaitCreate_provisions outcomes (mqttConnected .mainApp before))
    · exact mainFailed_exclusive _ jobsAway

/-- While the jobs task has a session, or is not stopped, the main task has none. -/
theorem mainAway_of_exclusive (state : State) (exclusive : Exclusive state)
    (active : state.jobsSession = true ∨ state.isRunAwsIotJobs = true) : MainAway state := by
  have closed : state.mainSession = false := by
    cases active with
    | inl opened => exact exclusive.apart opened
    | inr running =>
      apply Bool.eq_false_iff.mpr
      intro opened
      rw [exclusive.stopped opened] at running
      cases running
  exact ⟨closed, exclusive.mainSession.symm.trans closed, exclusive.untouched⟩

/-- Outside its start-up the jobs task has a session when it connects or is connected. -/
theorem jobsAway_of_exclusive (state : State) (exclusive : Exclusive state)
    (closed : state.jobsSession = false) : JobsAway state := by
  have outside := exclusive.jobsSession.symm.trans closed
  rw [Bool.or_eq_false_iff] at outside
  have idle : jobsWaiting state.jobs = false := by
    apply Bool.eq_false_iff.mpr
    intro waiting
    have unlinked := outside.2
    simp only [jobsLinked] at unlinked
    rw [exclusive.linked waiting, Bool.and_true] at unlinked
    rw [bne_eq_false_iff_eq.mp unlinked] at waiting
    cases waiting
  exact ⟨closed, ⟨outside.1, idle⟩, outside.2, exclusive.untouched⟩

theorem jobsOnline_of_linked (state : State) (exclusive : Exclusive state)
    (linked : jobsLinked state = true) : JobsOnline state := by
  have connected := linked
  simp only [jobsLinked] at connected
  rw [Bool.and_eq_true] at connected
  constructor
  · rw [exclusive.jobsSession, linked, Bool.or_true]
  · exact connected.2
  · rw [exclusive.running, linked, Bool.true_or]

/-- A demand for new credentials does not touch the client. -/
theorem raiseRefresh_exclusive (state : State) (exclusive : Exclusive state) :
    Exclusive (raiseRefresh state) := by
  simp only [raiseRefresh]
  split
  · exact ⟨exclusive.jobsSession, exclusive.mainSession, exclusive.running, exclusive.unlinked,
      exclusive.linked, exclusive.apart, exclusive.stopped, exclusive.untouched⟩
  · exact exclusive

theorem raiseRefresh_jobs (state : State) : (raiseRefresh state).jobs = state.jobs := by
  simp only [raiseRefresh]
  split <;> rfl

/-- The init of the jobs task succeeds: a running client is its own or provisions. -/
theorem jobsOpen_exclusive (outcomes : Outcomes) (state : State) (exclusive : Exclusive state)
    (running : state.isRunAwsIotJobs = true) (unlinked : state.isJobsConnected = false) :
    Exclusive (jobsOpen outcomes state) := by
  have away := mainAway_of_exclusive state exclusive (.inr running)
  simp only [jobsOpen]
  cases initialised : mqttTransportInit .awsIotJobs state with
  | none => exact jobsConnectFailed_exclusive state away
  | some opened =>
    simp only [mqttTransportInit] at initialised
    split at initialised
    · cases initialised
    · cases initialised
      apply jobsConnect_exclusive outcomes _ _ _ _
        (mqttTransportConnect_connects .awsIotJobs outcomes _ rfl)
      · exact ⟨away.closed, away.outside, by
          simp [State.session, Task.other, away.untouched, away.closed]⟩
      · exact ⟨rfl, unlinked, rfl⟩

theorem jobsIterate_exclusive (outcomes : Outcomes) (state : State) (exclusive : Exclusive state)
    (looping : state.jobs = .loopDelay) : Exclusive (jobsIterate outcomes state) := by
  rw [jobsIterate]
  have raised := raiseRefresh_exclusive state exclusive
  have looping : (raiseRefresh state).jobs = .loopDelay := (raiseRefresh_jobs state).trans looping
  have linked : (raiseRefresh state).isJobsConnected = true →
      JobsOnline (raiseRefresh state) := by
    intro connected
    apply jobsOnline_of_linked _ raised
    simp [jobsLinked, looping, connected]
  split
  · dsimp only
    split
    next running =>
      split
      next connected =>
        exact serves_exclusive _ _ (mainAway_of_exclusive _ raised (.inr running))
          (linked connected) (continues_serves _ _ (jobsServe_continues outcomes _))
      next unlinked =>
        exact jobsOpen_exclusive outcomes _ raised running (Bool.eq_false_iff.mpr unlinked)
    next =>
      split
      next connected =>
        exact jobsClose_exclusive _ (mainAway_of_exclusive _ raised
          (.inl (linked connected).opened)) .loopDelay ⟨rfl, rfl⟩
      next => exact raised
  · exact exclusive

/-- The jobs task enters its loop once the link is up. -/
theorem linkUp_exclusive (state : State) (exclusive : Exclusive state)
    (point : state.jobs = .waitLink) :
    Exclusive { state with
      isJobsConnected := false, isRunAwsIotJobs := false, jobs := .loopDelay } := by
  have unlinked : jobsLinked state = false := by simp [jobsLinked, point]
  have closed := exclusive.jobsSession
  rw [unlinked, point] at closed
  have running := exclusive.running
  rw [unlinked, Bool.false_or] at running
  constructor <;>
    simp [jobsConnecting, jobsWaiting, jobsLinked, closed, running, exclusive.mainSession,
      exclusive.untouched]

/-- A failed connection is counted and the loop goes on. -/
theorem failDelay_exclusive (state : State) (exclusive : Exclusive state)
    (point : state.jobs = .failDelay) :
    Exclusive { state with
      connectFailCount := (state.connectFailCount + 1) % 65536, jobs := .loopDelay } := by
  have linked : jobsLinked { state with
      connectFailCount := (state.connectFailCount + 1) % 65536, jobs := .loopDelay } =
      jobsLinked state := by
    simp only [jobsLinked, point]
    rfl
  have opened := exclusive.jobsSession
  rw [point] at opened
  constructor
  · rw [linked]
    exact opened
  · exact exclusive.mainSession
  · rw [linked]
    exact exclusive.running
  · rintro ⟨⟩
  · rintro ⟨⟩
  · exact exclusive.apart
  · exact exclusive.stopped
  · exact exclusive.untouched

/-- Every step of the jobs task keeps the session with one task. -/
theorem jobsStep_exclusive (outcomes : Outcomes) (state : State) (exclusive : Exclusive state) :
    Exclusive (jobsStep outcomes state) := by
  have opening (connecting : jobsConnecting state.jobs = true) (after : ConnectResult × State)
      (connects : Connects .awsIotJobs state after) : Exclusive (jobsConnect outcomes after) := by
    have opened : state.jobsSession = true := by
      rw [exclusive.jobsSession, connecting, Bool.true_or]
    have away := mainAway_of_exclusive state exclusive (.inl opened)
    have outside := away.outside
    rw [Bool.or_eq_false_iff] at outside
    have unlinked := exclusive.unlinked connecting
    apply jobsConnect_exclusive outcomes state after away _ connects
    refine ⟨opened, unlinked, ?_⟩
    rw [exclusive.running, outside.2, jobsLinked, unlinked, Bool.and_false, Bool.or_false]
  have serving (waiting : jobsWaiting state.jobs = true) (after : State)
      (serves : Serves state after) : Exclusive after := by
    have started : state.jobs ≠ .waitLink := by
      intro unstarted
      rw [unstarted] at waiting
      cases waiting
    have online := jobsOnline_of_linked state exclusive (by
      simp [jobsLinked, started, exclusive.linked waiting])
    exact serves_exclusive state after (mainAway_of_exclusive state exclusive (.inl online.opened))
      online serves
  simp only [jobsStep]
  cases point : state.jobs with
  | waitLink =>
    dsimp only
    split
    · exact linkUp_exclusive state exclusive point
    · exact exclusive
  | loopDelay => exact jobsIterate_exclusive outcomes state exclusive point
  | connectDns =>
    exact opening (by rw [point]; rfl) _ (connectDns_connects .awsIotJobs outcomes state)
  | connectHandshake =>
    exact opening (by rw [point]; rfl) _ (connectHandshake_connects .awsIotJobs outcomes state)
  | failDelay =>
    exact failDelay_exclusive state exclusive point
  | waitGetJob =>
    exact serving (by rw [point]; rfl) _
      (continues_serves _ _ (jobsWaitGetJob_continues outcomes state))
  | waitStartNext =>
    exact serving (by rw [point]; rfl) _
      (continues_serves _ _ (jobsWaitStartNext_continues outcomes state))
  | jobDocument =>
    exact serving (by rw [point]; rfl) _
      (continues_serves _ _ (jobsDocument_continues outcomes state))
  | waitUpdate carriedOut =>
    exact serving (by rw [point]; rfl) _
      (continues_serves _ _ (jobsWaitUpdate_continues carriedOut outcomes state))
  | rebooted => exact exclusive

/-- Fleet provisioning is refused while the jobs task is connected, and begins well
unless the jobs task is connecting. -/
theorem fleetProvisioningHandle_exclusive (outcomes : Outcomes) (state : State)
    (exclusive : Exclusive state) (looping : state.main = .loopDelay)
    (apart : jobsConnecting state.jobs = false) :
    Exclusive (fleetProvisioningHandle outcomes { state with isRunAwsIotJobs := false }) := by
  have provisioning : mainProvisioning state.main = false := by rw [looping]; rfl
  have owner : state.isMqttRunning = jobsLinked state := by
    rw [exclusive.running, provisioning, Bool.or_false]
  have closed : state.mainSession = false := by rw [exclusive.mainSession, looping]; rfl
  have refused : Exclusive { state with isRunAwsIotJobs := false, main := .retryDelay } := by
    constructor
    · exact exclusive.jobsSession
    · exact closed
    · rw [mainProvisioning, Bool.or_false]
      · exact owner
      all_goals
        rintro ⟨⟩
    · exact exclusive.unlinked
    · exact exclusive.linked
    · exact exclusive.apart
    · intro _
      rfl
    · exact exclusive.untouched
  simp only [fleetProvisioningHandle]
  cases initialised : mqttTransportInit .mainApp { state with isRunAwsIotJobs := false } with
  | none => exact refused
  | some opened =>
    simp only [mqttTransportInit] at initialised
    split at initialised
    · cases initialised
    next idle =>
      cases initialised
      have away := jobsAway_of_exclusive state exclusive (by
        rw [exclusive.jobsSession, apart, ← owner, Bool.eq_false_iff.mpr idle, Bool.false_or])
      apply mainConnect_exclusive outcomes _ _ _ _ rfl
        (mqttTransportConnect_connects .mainApp outcomes _ rfl)
      · exact ⟨away.closed, away.outside, away.unlinked, by
          simp [State.session, Task.other, away.untouched, away.closed]⟩
      · exact ⟨rfl, rfl⟩

theorem mainIterate_exclusive (outcomes : Outcomes) (state : State) (exclusive : Exclusive state)
    (looping : state.main = .loopDelay)
    (apart : ¬ Collision state (.mainApp, outcomes)) :
    Exclusive (mainIterate outcomes state) := by
  simp only [mainIterate]
  split
  next linkUp =>
    split
    next enabled =>
      apply fleetProvisioningHandle_exclusive outcomes state exclusive looping
      apply Bool.eq_false_iff.mpr
      intro connecting
      exact apart ⟨rfl, looping, linkUp, enabled, connecting⟩
    next =>
      split
      · have closed : state.mainSession = false := by rw [exclusive.mainSession, looping]; rfl
        refine ⟨exclusive.jobsSession, exclusive.mainSession, exclusive.running,
          exclusive.unlinked, exclusive.linked, exclusive.apart, ?_, exclusive.untouched⟩
        intro opened
        rw [closed] at opened
        cases opened
      · exact exclusive
  next => exact exclusive

theorem mainStep_exclusive (outcomes : Outcomes) (state : State) (exclusive : Exclusive state)
    (apart : ¬ Collision state (.mainApp, outcomes)) :
    Exclusive (mainStep outcomes state) := by
  have opened (holding : (mainConnecting state.main || mainProvisioning state.main) = true) :
      MainOpened state ∧ JobsAway state := by
    have session := exclusive.mainSession.trans holding
    refine ⟨⟨session, exclusive.stopped session⟩, jobsAway_of_exclusive state exclusive ?_⟩
    apply Bool.eq_false_iff.mpr
    intro both
    rw [exclusive.apart both] at session
    cases session
  have opening (connecting : mainConnecting state.main = true)
      (outside : mainProvisioning state.main = false) (after : ConnectResult × State)
      (connects : Connects .mainApp state after) : Exclusive (mainConnect outcomes after) := by
    obtain ⟨held, away⟩ := opened (by rw [connecting, Bool.true_or])
    refine mainConnect_exclusive outcomes state after away held ?_ connects
    rw [exclusive.running, outside, away.unlinked, Bool.or_false]
  have provisioning (holding : mainProvisioning state.main = true) (after : State)
      (provisions : Provisions state after) : Exclusive after := by
    obtain ⟨held, away⟩ := opened (by rw [holding, Bool.or_true])
    refine provisions_exclusive state after away held ?_ provisions
    rw [exclusive.running, holding, Bool.or_true]
  have idle (point : MainPoint)
      (before : mainConnecting state.main = false ∧ mainProvisioning state.main = false)
      (after : mainConnecting point = false ∧ mainProvisioning point = false)
      (isValid enabled : Bool) : Exclusive { state with
        isValidProvisionedCertInfo := isValid
        enableRefreshProvisionedCert := enabled
        main := point } := by
    have closed := exclusive.mainSession
    have running := exclusive.running
    rw [before.1, before.2] at closed
    rw [before.2] at running
    exact ⟨exclusive.jobsSession, by rw [after.1, after.2]; exact closed,
      by rw [after.2]; exact running, exclusive.unlinked, exclusive.linked, exclusive.apart,
      exclusive.stopped, exclusive.untouched⟩
  simp only [mainStep]
  cases point : state.main with
  | waitLink =>
    dsimp only
    split
    · exact idle .loopDelay (by rw [point]; exact ⟨rfl, rfl⟩) ⟨rfl, rfl⟩ _ _
    · exact exclusive
  | loopDelay => exact mainIterate_exclusive outcomes state exclusive point apart
  | connectDns =>
    exact opening (by rw [point]; rfl) (by rw [point]; rfl) _
      (connectDns_connects .mainApp outcomes state)
  | connectHandshake =>
    exact opening (by rw [point]; rfl) (by rw [point]; rfl) _
      (connectHandshake_connects .mainApp outcomes state)
  | waitCreate =>
    exact provisioning (by rw [point]; rfl) _ (mainWaitCreate_provisions outcomes state)
  | waitRegister =>
    exact provisioning (by rw [point]; rfl) _ (mainWaitRegister_provisions outcomes state)
  | retryDelay => exact idle .loopDelay (by rw [point]; exact ⟨rfl, rfl⟩) ⟨rfl, rfl⟩ _ _

/-- Every step but a collision keeps the sessions apart. -/
theorem step_exclusive (state : State) (label : Task × Outcomes) (exclusive : Exclusive state)
    (apart : ¬ Collision state label) : Exclusive (step state label) := by
  obtain ⟨task, outcomes⟩ := label
  simp only [step]
  split
  · exact exclusive
  · cases task with
    | awsIotJobs => exact jobsStep_exclusive outcomes state exclusive
    | mainApp => exact mainStep_exclusive outcomes state exclusive apart

theorem initial_exclusive (isRun enabled isValid connected : Bool) :
    Exclusive (initial isRun enabled isValid connected) := by
  constructor <;> intros <;> first | rfl | contradiction

/-- An interference stays recorded. -/
def Recorded (before after : State) : Prop :=
  before.interfered = true → after.interfered = true

theorem mqttTransportClose_recorded (task : Task) (state : State) :
    Recorded state (mqttTransportClose task state) := by
  intro up
  simp [mqttTransportClose, up]

theorem jobsClose_recorded (state : State) : Recorded state (jobsClose state) :=
  mqttTransportClose_recorded .awsIotJobs state

theorem mainFailed_recorded (state : State) : Recorded state (mainFailed state) :=
  mqttTransportClose_recorded .mainApp state

theorem serves_recorded (before after : State) (serves : Serves before after) :
    Recorded before after := by
  cases serves with
  | waits point serving => exact id
  | closes => exact jobsClose_recorded before

theorem provisions_recorded (before after : State) (provisions : Provisions before after) :
    Recorded before after := by
  cases provisions with
  | waits point provisioning => exact id
  | fails => exact mainFailed_recorded before
  | succeeds => exact mqttTransportClose_recorded .mainApp before

theorem connects_recorded (task : Task) (before : State) (reached : ConnectResult × State)
    (connects : Connects task before reached) : Recorded before reached.2 := by
  cases connects with
  | waitsDns => exact id
  | waitsHandshake => exact id
  | refused => exact mqttTransportClose_recorded task before
  | connected => exact id

theorem jobsConnect_recorded (outcomes : Outcomes) (reached : ConnectResult × State) :
    Recorded reached.2 (jobsConnect outcomes reached) := by
  obtain ⟨result, state⟩ := reached
  cases result with
  | waitsDns => exact id
  | waitsHandshake => exact id
  | refused =>
    intro up
    exact jobsClose_recorded _ (mqttTransportClose_recorded .awsIotJobs state up)
  | connected =>
    simp only [jobsConnect]
    split
    · intro up
      refine serves_recorded _ _ (continues_serves _ _ (jobsServe_continues outcomes _)) ?_
      exact up
    · exact jobsClose_recorded state

theorem mainConnect_recorded (outcomes : Outcomes) (reached : ConnectResult × State) :
    Recorded reached.2 (mainConnect outcomes reached) := by
  obtain ⟨result, state⟩ := reached
  cases result with
  | waitsDns => exact id
  | waitsHandshake => exact id
  | refused => exact mainFailed_recorded state
  | connected =>
    simp only [mainConnect]
    split
    · exact provisions_recorded _ _ (mainWaitCreate_provisions outcomes state)
    · exact mainFailed_recorded state

/-- A successful init leaves the client idle and records what it interrupts. -/
theorem mqttTransportInit_some (task : Task) (before after : State)
    (initialised : mqttTransportInit task before = some after) :
    after.isMqttRunning = false ∧
      after.interfered = (before.interfered || before.session task.other) := by
  simp only [mqttTransportInit] at initialised
  split at initialised
  · cases initialised
  · cases initialised
    exact ⟨rfl, rfl⟩

theorem jobsOpen_recorded (outcomes : Outcomes) (state : State) :
    Recorded state (jobsOpen outcomes state) := by
  intro up
  simp only [jobsOpen]
  cases initialised : mqttTransportInit .awsIotJobs state with
  | none => exact jobsClose_recorded state up
  | some opened =>
    obtain ⟨idle, record⟩ := mqttTransportInit_some .awsIotJobs state opened initialised
    apply jobsConnect_recorded
    apply connects_recorded _ _ _ (mqttTransportConnect_connects .awsIotJobs outcomes opened idle)
    rw [record, up, Bool.true_or]

/-- Fleet provisioning on an idle client records that the jobs task had a session. -/
theorem fleetProvisioningHandle_records (outcomes : Outcomes) (state : State)
    (idle : state.isMqttRunning = false)
    (up : (state.interfered || state.jobsSession) = true) :
    (fleetProvisioningHandle outcomes state).interfered = true := by
  simp only [fleetProvisioningHandle]
  cases initialised : mqttTransportInit .mainApp state with
  | none =>
    simp only [mqttTransportInit] at initialised
    rw [idle, if_neg Bool.false_ne_true] at initialised
    cases initialised
  | some opened =>
    obtain ⟨running, record⟩ := mqttTransportInit_some .mainApp state opened initialised
    apply mainConnect_recorded
    apply connects_recorded _ _ _ (mqttTransportConnect_connects .mainApp outcomes opened running)
    rw [record]
    exact up

theorem fleetProvisioningHandle_recorded (outcomes : Outcomes) (state : State) :
    Recorded state (fleetProvisioningHandle outcomes state) := by
  intro up
  cases running : state.isMqttRunning with
  | false =>
    apply fleetProvisioningHandle_records outcomes state running
    rw [up, Bool.true_or]
  | true =>
    simp only [fleetProvisioningHandle, mqttTransportInit]
    rw [running, if_pos rfl]
    exact up

theorem raiseRefresh_interfered (state : State) :
    (raiseRefresh state).interfered = state.interfered := by
  simp only [raiseRefresh]
  split <;> rfl

theorem jobsStep_recorded (outcomes : Outcomes) (state : State) :
    Recorded state (jobsStep outcomes state) := by
  intro up
  simp only [jobsStep]
  cases state.jobs with
  | waitLink =>
    dsimp only
    split <;> exact up
  | loopDelay =>
    have raised := (raiseRefresh_interfered state).trans up
    simp only [jobsIterate]
    split
    · split
      · split
        · exact serves_recorded _ _ (continues_serves _ _ (jobsServe_continues outcomes _)) raised
        · exact jobsOpen_recorded outcomes _ raised
      · split
        · exact jobsClose_recorded _ raised
        · exact raised
    · exact up
  | connectDns =>
    exact jobsConnect_recorded outcomes _ (connects_recorded _ _ _
      (connectDns_connects .awsIotJobs outcomes state) up)
  | connectHandshake =>
    exact jobsConnect_recorded outcomes _ (connects_recorded _ _ _
      (connectHandshake_connects .awsIotJobs outcomes state) up)
  | failDelay => exact up
  | waitGetJob =>
    exact serves_recorded _ _ (continues_serves _ _ (jobsWaitGetJob_continues outcomes state)) up
  | waitStartNext =>
    exact serves_recorded _ _ (continues_serves _ _ (jobsWaitStartNext_continues outcomes state)) up
  | jobDocument =>
    exact serves_recorded _ _ (continues_serves _ _ (jobsDocument_continues outcomes state)) up
  | waitUpdate carriedOut =>
    exact serves_recorded _ _
      (continues_serves _ _ (jobsWaitUpdate_continues carriedOut outcomes state)) up
  | rebooted => exact up

theorem mainStep_recorded (outcomes : Outcomes) (state : State) :
    Recorded state (mainStep outcomes state) := by
  intro up
  simp only [mainStep]
  cases state.main with
  | waitLink =>
    dsimp only
    split <;> exact up
  | loopDelay =>
    simp only [mainIterate]
    split
    · split
      · exact fleetProvisioningHandle_recorded outcomes _ up
      · split <;> exact up
    · exact up
  | connectDns =>
    exact mainConnect_recorded outcomes _ (connects_recorded _ _ _
      (connectDns_connects .mainApp outcomes state) up)
  | connectHandshake =>
    exact mainConnect_recorded outcomes _ (connects_recorded _ _ _
      (connectHandshake_connects .mainApp outcomes state) up)
  | waitCreate => exact provisions_recorded _ _ (mainWaitCreate_provisions outcomes state) up
  | waitRegister => exact provisions_recorded _ _ (mainWaitRegister_provisions outcomes state) up
  | retryDelay => exact up

theorem step_recorded (state : State) (label : Task × Outcomes) :
    Recorded state (step state label) := by
  obtain ⟨task, outcomes⟩ := label
  intro up
  simp only [step]
  split
  · exact up
  · cases task with
    | awsIotJobs => exact jobsStep_recorded outcomes state up
    | mainApp => exact mainStep_recorded outcomes state up

/-- A collision re-initialises the client in the middle of the other task's session. -/
theorem step_collision (state : State) (label : Task × Outcomes) (exclusive : Exclusive state)
    (collision : Collision state label) : (step state label).interfered = true := by
  obtain ⟨task, outcomes⟩ := label
  obtain ⟨acting, looping, linkUp, enabled, connecting⟩ := collision
  have alive : state.jobs ≠ .rebooted := by
    intro rebooted
    rw [rebooted] at connecting
    cases connecting
  have opened : state.jobsSession = true := by
    rw [exclusive.jobsSession, connecting, Bool.true_or]
  have idle : state.isMqttRunning = false := by
    rw [exclusive.running, jobsLinked, exclusive.unlinked connecting, looping, Bool.and_false]
    rfl
  dsimp only at acting linkUp
  subst acting
  rw [step, if_neg alive]
  have enters : mainStep outcomes state =
      fleetProvisioningHandle outcomes { state with isRunAwsIotJobs := false } := by
    simp only [mainStep, looping, mainIterate, if_pos linkUp, if_pos enabled]
  dsimp only
  rw [enters]
  apply fleetProvisioningHandle_records outcomes { state with isRunAwsIotJobs := false } idle
  rw [Bool.or_eq_true]
  exact .inr opened

/-- No task ever touches the client during the other's session exactly in those runs
in which fleet provisioning never starts while the jobs task is connecting. -/
theorem exclusive_iff_no_collision
    (isRun enabled isValid connected : Bool) (labels : List (Task × Outcomes)) :
    (execute step (initial isRun enabled isValid connected) labels).interfered = false ↔
      Along step (fun state label => ¬ Collision state label)
        (initial isRun enabled isValid connected) labels := by
  apply execute_flag_iff step State.interfered Exclusive
  · exact step_recorded
  · exact step_exclusive
  · intro state exclusive
    exact exclusive.untouched
  · intro state label exclusive collides
    exact step_collision state label exclusive (Classical.not_not.mp collides)
  · exact initial_exclusive isRun enabled isValid connected

/-- The link is up, the credentials are valid, and nothing else answers. -/
def silent : Outcomes where
  isLinkUp := true
  isEndPointAddress := false
  dns := .pending
  tlsInit := false
  handshake := .pending
  mqttConnect := false
  subscribe := false
  isGetDue := false
  publishGet := false
  getJob := .pending
  isStartDue := false
  hasJob := false
  publishStartNext := false
  startNext := .pending
  document := .pending
  publishUpdate := false
  update := .pending
  enableReboot := false
  isValidCert := true
  isValidPrivateKey := true
  createCert := .pending
  subscribeRegister := false
  registerThing := .pending

/-- One attempt of the jobs task whose DNS query fails. -/
def failedAttempt : List (Task × Outcomes) :=
  [(.awsIotJobs, silent), (.awsIotJobs, { silent with dns := .failed }), (.awsIotJobs, silent)]

/-- Both tasks start, six attempts fail, and at the beginning of the seventh the main
task meets the demand for new credentials. -/
def seventhAttempt : List (Task × Outcomes) :=
  [(.awsIotJobs, silent), (.mainApp, silent), (.mainApp, silent)] ++
    (List.replicate 6 failedAttempt).flatten ++ [(.awsIotJobs, silent), (.mainApp, silent)]

/-- The main task then re-initialises the client while the jobs task waits for DNS. -/
theorem seventh_attempt_interferes :
    (execute step (initial false false false false) seventhAttempt).interfered = true := by
  decide

end WiznetEaas.SessionOwnership
