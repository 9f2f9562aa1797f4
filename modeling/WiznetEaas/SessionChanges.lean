import WiznetEaas.MqttSession

/-!
# Changes of the session that a task does not notice

The jobs task raises the demand for new credentials and never reads it, and the main task
does not use the status of the jobs. So the steps of each commute with a change of what it
does not read.
-/

namespace WiznetEaas.SessionChanges

open MqttSession

/-- The session with another demand for new credentials. -/
def withRefresh (refresh : Bool) (state : State) : State :=
  { state with enableRefreshProvisionedCert := refresh }

/-- The session with another status of the jobs. -/
def withConnected (connected : Bool) (state : State) : State :=
  { state with isJobsConnected := connected }

/-- A change of the session that the MQTT client does not notice. -/
structure Foreign (change : State → State) : Prop where
  running : ∀ state, (change state).isMqttRunning = state.isMqttRunning
  opens : ∀ task state,
    mqttTransportInit task (change state) = (mqttTransportInit task state).map change
  closes : ∀ task state,
    mqttTransportClose task (change state) = change (mqttTransportClose task state)
  selects : ∀ task state, { change state with mqttTlsContext := some task } =
    change { state with mqttTlsContext := some task }
  connects : ∀ task state, mqttConnected task (change state) = change (mqttConnected task state)

theorem foreign_refresh (refresh : Bool) : Foreign (withRefresh refresh) where
  running _ := rfl
  opens task state := by
    rw [mqttTransportInit, mqttTransportInit, show (withRefresh refresh state).isMqttRunning =
      state.isMqttRunning from rfl]
    split
    · rfl
    · cases task <;> rfl
  closes task _ := by cases task <;> rfl
  selects _ _ := rfl
  connects _ _ := rfl

theorem foreign_connected (connected : Bool) : Foreign (withConnected connected) where
  running _ := rfl
  opens task state := by
    rw [mqttTransportInit, mqttTransportInit, show (withConnected connected state).isMqttRunning =
      state.isMqttRunning from rfl]
    split
    · rfl
    · cases task <;> rfl
  closes task _ := by cases task <;> rfl
  selects _ _ := rfl
  connects _ _ := rfl

section Connect
variable {change : State → State} (foreign : Foreign change)
  (task : Task) (outcomes : Outcomes) (state : State)
include foreign

theorem Foreign.handshakes : connectHandshake task outcomes (change state) =
    (connectHandshake task outcomes state).map id change := by
  simp only [connectHandshake, foreign.connects, foreign.selects, foreign.closes]
  split
  · rfl
  · rfl
  · split <;> rfl

theorem Foreign.initialises : connectTls task outcomes (change state) =
    (connectTls task outcomes state).map id change := by
  simp only [connectTls, foreign.closes, foreign.handshakes]
  split <;> rfl

theorem Foreign.queries : connectDns task outcomes (change state) =
    (connectDns task outcomes state).map id change := by
  simp only [connectDns, foreign.closes, foreign.initialises]
  split <;> rfl

theorem Foreign.transports : mqttTransportConnect task outcomes (change state) =
    (mqttTransportConnect task outcomes state).map id change := by
  simp only [mqttTransportConnect, foreign.running, foreign.initialises]
  split
  · rfl
  · split <;> rfl

end Connect

section Jobs
variable (refresh : Bool) (outcomes : Outcomes) (state : State)

theorem jobsClose_refresh :
    jobsClose (withRefresh refresh state) = withRefresh refresh (jobsClose state) := rfl

theorem jobsUpdated_refresh (carriedOut : Bool) :
    jobsUpdated carriedOut outcomes (withRefresh refresh state) =
      withRefresh refresh (jobsUpdated carriedOut outcomes state) := by
  simp only [jobsUpdated, jobsClose_refresh]
  split
  · split <;> rfl
  · rfl

theorem jobsWaitUpdate_refresh (carriedOut : Bool) :
    jobsWaitUpdate carriedOut outcomes (withRefresh refresh state) =
      withRefresh refresh (jobsWaitUpdate carriedOut outcomes state) := by
  simp only [jobsWaitUpdate, jobsUpdated_refresh]
  split <;> rfl

theorem jobsUpdate_refresh (carriedOut : Bool) :
    jobsUpdate carriedOut outcomes (withRefresh refresh state) =
      withRefresh refresh (jobsUpdate carriedOut outcomes state) := by
  simp only [jobsUpdate, jobsWaitUpdate_refresh, jobsUpdated_refresh]
  split <;> rfl

theorem jobsDocument_refresh : jobsDocument outcomes (withRefresh refresh state) =
    withRefresh refresh (jobsDocument outcomes state) := by
  simp only [jobsDocument, jobsUpdate_refresh]
  split <;> rfl

theorem jobsWaitStartNext_refresh : jobsWaitStartNext outcomes (withRefresh refresh state) =
    withRefresh refresh (jobsWaitStartNext outcomes state) := by
  simp only [jobsWaitStartNext, jobsDocument_refresh, jobsClose_refresh]
  split <;> rfl

theorem jobsStartDocument_refresh : jobsStartDocument outcomes (withRefresh refresh state) =
    withRefresh refresh (jobsStartDocument outcomes state) := by
  simp only [jobsStartDocument, jobsWaitStartNext_refresh, jobsClose_refresh]
  split
  · split <;> rfl
  · rfl

theorem jobsWaitGetJob_refresh : jobsWaitGetJob outcomes (withRefresh refresh state) =
    withRefresh refresh (jobsWaitGetJob outcomes state) := by
  simp only [jobsWaitGetJob, jobsStartDocument_refresh, jobsClose_refresh]
  split <;> rfl

theorem jobsServe_refresh : jobsServe outcomes (withRefresh refresh state) =
    withRefresh refresh (jobsServe outcomes state) := by
  simp only [jobsServe, jobsWaitGetJob_refresh, jobsStartDocument_refresh, jobsClose_refresh]
  split
  · split <;> rfl
  · rfl

theorem jobsConnect_refresh (result : ConnectResult × State) :
    jobsConnect outcomes (result.map id (withRefresh refresh)) =
      withRefresh refresh (jobsConnect outcomes result) := by
  obtain ⟨answer, after⟩ := result
  cases answer with
  | waitsDns => rfl
  | waitsHandshake => rfl
  | refused => rfl
  | connected =>
    simp only [jobsConnect, Prod.map, id]
    split
    · exact jobsServe_refresh refresh outcomes
        { after with connectFailCount := 0, isJobsConnected := true }
    · rfl

theorem jobsOpen_refresh : jobsOpen outcomes (withRefresh refresh state) =
    withRefresh refresh (jobsOpen outcomes state) := by
  simp only [jobsOpen, (foreign_refresh refresh).opens]
  cases mqttTransportInit .awsIotJobs state with
  | none => rfl
  | some opened =>
    simp only [Option.map_some, (foreign_refresh refresh).transports, jobsConnect_refresh]

/-- Only the demand itself can differ after a loop body. -/
theorem jobsIterate_refresh : ∃ demanded, jobsIterate outcomes (withRefresh refresh state) =
    withRefresh demanded (jobsIterate outcomes state) := by
  have raised : raiseRefresh (withRefresh refresh state) =
      withRefresh (raiseRefresh (withRefresh refresh state)).enableRefreshProvisionedCert
        (raiseRefresh state) := by
    simp only [raiseRefresh, show (withRefresh refresh state).connectFailCount =
      state.connectFailCount from rfl]
    split <;> rfl
  simp only [jobsIterate]
  rw [raised]
  generalize (raiseRefresh (withRefresh refresh state)).enableRefreshProvisionedCert = demanded
  generalize raiseRefresh state = before
  split
  · refine ⟨demanded, ?_⟩
    simp only [show (withRefresh demanded before).isRunAwsIotJobs = before.isRunAwsIotJobs from rfl,
      show (withRefresh demanded before).isJobsConnected = before.isJobsConnected from rfl,
      jobsServe_refresh, jobsOpen_refresh, jobsClose_refresh]
    split
    · split <;> rfl
    · split <;> rfl
  · exact ⟨refresh, rfl⟩

theorem jobsStep_refresh : ∃ demanded, jobsStep outcomes (withRefresh refresh state) =
    withRefresh demanded (jobsStep outcomes state) := by
  have point : (withRefresh refresh state).jobs = state.jobs := rfl
  cases at_point : state.jobs with
  | waitLink =>
    refine ⟨refresh, ?_⟩
    simp only [jobsStep, point, at_point]
    split <;> rfl
  | loopDelay =>
    simp only [jobsStep, point, at_point]
    exact jobsIterate_refresh refresh outcomes state
  | connectDns =>
    refine ⟨refresh, ?_⟩
    simp only [jobsStep, point, at_point, (foreign_refresh refresh).queries, jobsConnect_refresh]
  | connectHandshake =>
    refine ⟨refresh, ?_⟩
    simp only [jobsStep, point, at_point, (foreign_refresh refresh).handshakes,
      jobsConnect_refresh]
  | failDelay => exact ⟨refresh, by simp only [jobsStep, point, at_point]; rfl⟩
  | waitGetJob =>
    exact ⟨refresh, by simp only [jobsStep, point, at_point, jobsWaitGetJob_refresh]⟩
  | waitStartNext =>
    exact ⟨refresh, by simp only [jobsStep, point, at_point, jobsWaitStartNext_refresh]⟩
  | jobDocument =>
    exact ⟨refresh, by simp only [jobsStep, point, at_point, jobsDocument_refresh]⟩
  | waitUpdate carriedOut =>
    exact ⟨refresh, by simp only [jobsStep, point, at_point, jobsWaitUpdate_refresh]⟩
  | rebooted => exact ⟨refresh, by simp only [jobsStep, point, at_point]⟩

end Jobs

section Main
variable (connected : Bool) (outcomes : Outcomes) (state : State)

theorem mainFailed_connected :
    mainFailed (withConnected connected state) = withConnected connected (mainFailed state) := rfl

theorem mainWaitRegister_connected : mainWaitRegister outcomes (withConnected connected state) =
    withConnected connected (mainWaitRegister outcomes state) := by
  simp only [mainWaitRegister]
  split <;> rfl

theorem mainWaitCreate_connected : mainWaitCreate outcomes (withConnected connected state) =
    withConnected connected (mainWaitCreate outcomes state) := by
  simp only [mainWaitCreate, mainWaitRegister_connected, mainFailed_connected]
  split
  · rfl
  · split <;> rfl
  · rfl

theorem mainConnect_connected (result : ConnectResult × State) :
    mainConnect outcomes (result.map id (withConnected connected)) =
      withConnected connected (mainConnect outcomes result) := by
  obtain ⟨answer, after⟩ := result
  cases answer with
  | waitsDns => rfl
  | waitsHandshake => rfl
  | refused => rfl
  | connected =>
    simp only [mainConnect, Prod.map, id, mainWaitCreate_connected, mainFailed_connected]
    split <;> rfl

theorem fleetProvisioningHandle_connected :
    fleetProvisioningHandle outcomes (withConnected connected state) =
      withConnected connected (fleetProvisioningHandle outcomes state) := by
  simp only [fleetProvisioningHandle, (foreign_connected connected).opens]
  cases mqttTransportInit .mainApp state with
  | none => rfl
  | some opened =>
    simp only [Option.map_some, (foreign_connected connected).transports, mainConnect_connected]

theorem mainIterate_connected : mainIterate outcomes (withConnected connected state) =
    withConnected connected (mainIterate outcomes state) := by
  simp only [mainIterate, show (withConnected connected state).enableRefreshProvisionedCert =
      state.enableRefreshProvisionedCert from rfl,
    show (withConnected connected state).isValidProvisionedCertInfo =
      state.isValidProvisionedCertInfo from rfl]
  split
  · split
    · exact fleetProvisioningHandle_connected connected outcomes
        { state with isRunAwsIotJobs := false }
    · split <;> rfl
  · rfl

/-- The main task never uses the status of the jobs. -/
theorem mainStep_connected : mainStep outcomes (withConnected connected state) =
    withConnected connected (mainStep outcomes state) := by
  have point : (withConnected connected state).main = state.main := rfl
  cases at_point : state.main with
  | waitLink =>
    simp only [mainStep, point, at_point]
    split <;> rfl
  | loopDelay =>
    simp only [mainStep, point, at_point, mainIterate_connected]
  | connectDns =>
    simp only [mainStep, point, at_point, (foreign_connected connected).queries,
      mainConnect_connected]
  | connectHandshake =>
    simp only [mainStep, point, at_point, (foreign_connected connected).handshakes,
      mainConnect_connected]
  | waitCreate => simp only [mainStep, point, at_point, mainWaitCreate_connected]
  | waitRegister => simp only [mainStep, point, at_point, mainWaitRegister_connected]
  | retryDelay =>
    simp only [mainStep, point, at_point]
    rfl

/-- The main task writes the demand when it starts, and waits until then. -/
theorem mainStep_starts (refresh : Bool) (starting : state.main = .waitLink) :
    mainStep outcomes (withRefresh refresh state) = mainStep outcomes state ∨
      mainStep outcomes state = state ∧
        mainStep outcomes (withRefresh refresh state) = withRefresh refresh state := by
  have point : (withRefresh refresh state).main = .waitLink := starting
  simp only [mainStep, starting, point]
  by_cases link : outcomes.isLinkUp = true
  · simp only [if_pos link]
    exact .inl rfl
  · simp only [if_neg link]
    exact .inr ⟨trivial, trivial⟩

/-- The jobs task writes its status when it starts, and waits until then. -/
theorem jobsStep_starts (starting : state.jobs = .waitLink) :
    jobsStep outcomes (withConnected connected state) = jobsStep outcomes state ∨
      jobsStep outcomes state = state ∧
        jobsStep outcomes (withConnected connected state) = withConnected connected state := by
  have point : (withConnected connected state).jobs = .waitLink := starting
  simp only [jobsStep, starting, point]
  by_cases link : outcomes.isLinkUp = true
  · simp only [if_pos link]
    exact .inl rfl
  · simp only [if_neg link]
    exact .inr ⟨trivial, trivial⟩

end Main

end WiznetEaas.SessionChanges
