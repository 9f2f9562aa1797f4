import WiznetEaas.SessionOwnership

/-!
# What a step does to the shared flags

Three flags of `APP_COMMON` decide whether the jobs run, and the failure counter of the
jobs task drives one of them. A step of the jobs task can lower `isRunAwsIotJobs` only
where it starts up, and raise the demand for new credentials only at the head of its
loop. The main task answers the demand, and sets all three flags where it starts up.
-/

namespace WiznetEaas.TaskFlags

open MqttSession SessionOwnership

/-- A call of `iot_jobs_connect_procedure` is under way, or its failure is not counted yet. -/
def connectPending : JobsPoint → Bool
  | .connectDns | .connectHandshake | .failDelay => true
  | _ => false

/-- The step begins a call of `iot_jobs_connect_procedure`. -/
def connectBegins (outcomes : Outcomes) (state : State) : Bool :=
  state.jobs == .loopDelay && outcomes.isLinkUp && state.isRunAwsIotJobs && !state.isJobsConnected

/-- The result of `iot_jobs_connect_procedure` that a result of the connection leads to. -/
def connectReturned (outcomes : Outcomes) : ConnectResult → Option Bool
  | .waitsDns | .waitsHandshake => none
  | .refused => some false
  | .connected => some outcomes.subscribe

/-- The result of a call that the step begins. -/
def openReturns (outcomes : Outcomes) (state : State) : Option Bool :=
  match mqttTransportInit .awsIotJobs state with
  | none => some false
  | some opened => connectReturned outcomes (mqttTransportConnect .awsIotJobs outcomes opened).1

/-- The result of `iot_jobs_connect_procedure`, if it returns in the step. -/
def connectReturns (outcomes : Outcomes) (state : State) : Option Bool :=
  match state.jobs with
  | .loopDelay =>
    if connectBegins outcomes state then openReturns outcomes (raiseRefresh state) else none
  | .connectDns => connectReturned outcomes (connectDns .awsIotJobs outcomes state).1
  | .connectHandshake => connectReturned outcomes (connectHandshake .awsIotJobs outcomes state).1
  | _ => none

/-- The step finds the counter above its limit. -/
def demandsRefresh (outcomes : Outcomes) (state : State) : Bool :=
  state.jobs == .loopDelay && outcomes.isLinkUp &&
    decide (iotJobsMaxConnectFailCount < state.connectFailCount)

/-- The flags and the point of the main task are left alone. -/
structure FlagsKept (before after : State) : Prop where
  main : after.main = before.main
  isRun : after.isRunAwsIotJobs = before.isRunAwsIotJobs
  refresh : after.enableRefreshProvisionedCert = before.enableRefreshProvisionedCert
  isValid : after.isValidProvisionedCertInfo = before.isValidProvisionedCertInfo

/-- The jobs task's part of the state is left alone. -/
structure JobsKept (before after : State) : Prop where
  jobs : after.jobs = before.jobs
  count : after.connectFailCount = before.connectFailCount

theorem flagsKept_trans (first second third : State) (left : FlagsKept first second)
    (right : FlagsKept second third) : FlagsKept first third :=
  ⟨right.main.trans left.main, right.isRun.trans left.isRun, right.refresh.trans left.refresh,
    right.isValid.trans left.isValid⟩

/-- What a step of the jobs task does. -/
structure JobsEffect (outcomes : Outcomes) (state after : State) : Prop where
  main : after.main = state.main
  isValid : after.isValidProvisionedCertInfo = state.isValidProvisionedCertInfo
  isRun : after.isRunAwsIotJobs =
    if state.jobs = .waitLink ∧ outcomes.isLinkUp = true then false else state.isRunAwsIotJobs
  refresh : after.enableRefreshProvisionedCert =
    (state.enableRefreshProvisionedCert || demandsRefresh outcomes state)
  count : after.connectFailCount =
    if state.jobs = .failDelay then (state.connectFailCount + 1) % 65536
    else if connectReturns outcomes state = some true then 0
    else state.connectFailCount
  pending : connectPending after.jobs = true →
    connectBegins outcomes state = true ∨ state.jobs = .connectDns ∨ state.jobs = .connectHandshake

theorem mqttTransportClose_kept (task : Task) (state : State) :
    FlagsKept state (mqttTransportClose task state) := by
  cases task <;> exact ⟨rfl, rfl, rfl, rfl⟩

theorem jobsClose_kept (state : State) : FlagsKept state (jobsClose state) :=
  ⟨rfl, rfl, rfl, rfl⟩

/-- Behind a finished connection a step leaves the flags and the counter, and ends in no
connect. -/
theorem continues_kept (before after : State) (continues : Continues before after) :
    FlagsKept before after ∧ after.connectFailCount = before.connectFailCount ∧
      connectPending after.jobs = false := by
  cases continues with
  | waits point inside =>
    refine ⟨⟨rfl, rfl, rfl, rfl⟩, rfl, ?_⟩
    cases point <;> first | rfl | cases inside
  | closes => exact ⟨jobsClose_kept before, rfl, rfl⟩

/-- Connecting leaves the flags and the counter. -/
theorem connects_kept (task : Task) (before : State) (reached : ConnectResult × State)
    (connects : Connects task before reached) :
    FlagsKept before reached.2 ∧ reached.2.connectFailCount = before.connectFailCount := by
  cases connects with
  | waitsDns | waitsHandshake => exact ⟨⟨rfl, rfl, rfl, rfl⟩, rfl⟩
  | refused =>
    refine ⟨mqttTransportClose_kept task before, ?_⟩
    cases task <;> rfl
  | connected => exact ⟨⟨rfl, rfl, rfl, rfl⟩, rfl⟩

/-- A returned connect leaves the flags, and resets the counter if it succeeded. -/
theorem jobsConnect_kept (outcomes : Outcomes) (reached : ConnectResult × State) :
    FlagsKept reached.2 (jobsConnect outcomes reached) ∧
      (jobsConnect outcomes reached).connectFailCount =
        if connectReturned outcomes reached.1 = some true then 0
        else reached.2.connectFailCount := by
  obtain ⟨result, state⟩ := reached
  cases result with
  | waitsDns | waitsHandshake => exact ⟨⟨rfl, rfl, rfl, rfl⟩, rfl⟩
  | refused => exact ⟨⟨rfl, rfl, rfl, rfl⟩, rfl⟩
  | connected =>
    cases subscribed : outcomes.subscribe with
    | true =>
      have served := continues_kept _ _ (jobsServe_continues outcomes
        { state with connectFailCount := 0, isJobsConnected := true })
      simp only [jobsConnect, connectReturned, subscribed, if_true]
      exact ⟨⟨served.1.main, served.1.isRun, served.1.refresh, served.1.isValid⟩, served.2.1⟩
    | false =>
      simp only [jobsConnect, connectReturned, subscribed, Option.some.injEq, Bool.false_eq_true,
        if_false]
      exact ⟨⟨rfl, rfl, rfl, rfl⟩, rfl⟩

/-- The step of a connect that was begun before. -/
theorem connecting_effect (outcomes : Outcomes) (state : State) (reached : ConnectResult × State)
    (connecting : state.jobs = .connectDns ∨ state.jobs = .connectHandshake)
    (connects : Connects .awsIotJobs state reached)
    (returns : connectReturns outcomes state = connectReturned outcomes reached.1) :
    JobsEffect outcomes state (jobsConnect outcomes reached) := by
  have going := (connects_kept .awsIotJobs state reached connects)
  have done := jobsConnect_kept outcomes reached
  have flags := flagsKept_trans _ _ _ going.1 done.1
  have notLooping : state.jobs ≠ .loopDelay := by
    rcases connecting with point | point <;> rw [point] <;> decide
  have notStarting : ¬ (state.jobs = .waitLink ∧ outcomes.isLinkUp = true) := by
    rcases connecting with point | point <;> rw [point] <;> simp
  have notFailed : state.jobs ≠ .failDelay := by
    rcases connecting with point | point <;> rw [point] <;> decide
  refine ⟨flags.main, flags.isValid, ?_, ?_, ?_, fun _ => .inr connecting⟩
  · rw [if_neg notStarting]
    exact flags.isRun
  · rw [flags.refresh, demandsRefresh, beq_eq_false_iff_ne.mpr notLooping, Bool.false_and,
      Bool.false_and, Bool.or_false]
  · rw [if_neg notFailed, done.2, going.2, returns]

/-- The step of a delay behind a finished connection. -/
theorem serving_effect (outcomes : Outcomes) (state after : State)
    (serving : state.jobs ≠ .waitLink ∧ state.jobs ≠ .loopDelay ∧ state.jobs ≠ .failDelay)
    (returns : connectReturns outcomes state = none) (continues : Continues state after) :
    JobsEffect outcomes state after := by
  obtain ⟨flags, count, finished⟩ := continues_kept state after continues
  obtain ⟨started, working, counted⟩ := serving
  refine ⟨flags.main, flags.isValid, ?_, ?_, ?_, fun pending => ?_⟩
  · rw [if_neg fun starting => started starting.1]
    exact flags.isRun
  · rw [flags.refresh, demandsRefresh, beq_eq_false_iff_ne.mpr working, Bool.false_and,
      Bool.false_and, Bool.or_false]
  · rw [if_neg counted, returns, count]
    rfl
  · rw [finished] at pending
    cases pending

/-- The demand for new credentials changes one flag only. -/
theorem raiseRefresh_eq (state : State) :
    raiseRefresh state = { state with
      enableRefreshProvisionedCert := (state.enableRefreshProvisionedCert ||
        decide (iotJobsMaxConnectFailCount < state.connectFailCount)) } := by
  simp only [raiseRefresh]
  split
  next beyond => simp [beyond]
  next within => simp [within]

/-- The init keeps the flags and the counter, and succeeds on an idle client only. -/
theorem mqttTransportInit_kept (task : Task) (before after : State)
    (initialised : mqttTransportInit task before = some after) :
    FlagsKept before after ∧ JobsKept before after ∧ after.isMqttRunning = false := by
  simp only [mqttTransportInit] at initialised
  split at initialised
  · cases initialised
  · cases initialised
    cases task <;> exact ⟨⟨rfl, rfl, rfl, rfl⟩, ⟨rfl, rfl⟩, rfl⟩

/-- A begun connect leaves the flags, and resets the counter if it succeeds at once. -/
theorem jobsOpen_kept (outcomes : Outcomes) (state : State) :
    FlagsKept state (jobsOpen outcomes state) ∧
      (jobsOpen outcomes state).connectFailCount =
        if openReturns outcomes state = some true then 0 else state.connectFailCount := by
  cases initialised : mqttTransportInit .awsIotJobs state with
  | none =>
    simp only [jobsOpen, openReturns, initialised]
    exact ⟨⟨rfl, rfl, rfl, rfl⟩, rfl⟩
  | some opened =>
    obtain ⟨flags, ⟨_, count⟩, idle⟩ := mqttTransportInit_kept .awsIotJobs state opened initialised
    have going := connects_kept .awsIotJobs opened _
      (mqttTransportConnect_connects .awsIotJobs outcomes opened idle)
    have done := jobsConnect_kept outcomes (mqttTransportConnect .awsIotJobs outcomes opened)
    simp only [jobsOpen, openReturns, initialised]
    refine ⟨flagsKept_trans _ _ _ flags (flagsKept_trans _ _ _ going.1 done.1), ?_⟩
    rw [done.2, going.2, count]

/-- A step of the loop that keeps the flags but for the demand. -/
theorem quiet_effect (outcomes : Outcomes) (state after : State) (looping : state.jobs = .loopDelay)
    (flags : FlagsKept
      { state with enableRefreshProvisionedCert :=
          (state.enableRefreshProvisionedCert || demandsRefresh outcomes state) } after)
    (count : after.connectFailCount =
      if connectReturns outcomes state = some true then 0 else state.connectFailCount)
    (pending : connectPending after.jobs = true → connectBegins outcomes state = true) :
    JobsEffect outcomes state after := by
  have notStarting : ¬ (state.jobs = .waitLink ∧ outcomes.isLinkUp = true) := by simp [looping]
  have notFailed : state.jobs ≠ .failDelay := by simp [looping]
  refine ⟨flags.main, flags.isValid, ?_, flags.refresh, ?_, fun up => .inl (pending up)⟩
  · rw [if_neg notStarting]
    exact flags.isRun
  · rw [if_neg notFailed]
    exact count

theorem connectBegins_looping (outcomes : Outcomes) (state : State)
    (looping : state.jobs = .loopDelay) :
    connectBegins outcomes state =
      (outcomes.isLinkUp && state.isRunAwsIotJobs && !state.isJobsConnected) := by
  simp [connectBegins, looping]

theorem connectReturns_looping (outcomes : Outcomes) (state : State)
    (looping : state.jobs = .loopDelay) :
    connectReturns outcomes state =
      if connectBegins outcomes state then openReturns outcomes (raiseRefresh state) else none := by
  simp only [connectReturns, looping]

/-- Without a call nothing is returned. -/
theorem connectReturns_quiet (outcomes : Outcomes) (state : State)
    (looping : state.jobs = .loopDelay) (quiet : connectBegins outcomes state = false) :
    connectReturns outcomes state = none := by
  rw [connectReturns_looping outcomes state looping, quiet]
  rfl

/-- With a link the loop begins with the test of the counter. -/
theorem raiseRefresh_looping (outcomes : Outcomes) (state : State)
    (looping : state.jobs = .loopDelay) (up : outcomes.isLinkUp = true) :
    raiseRefresh state = { state with
      enableRefreshProvisionedCert :=
        (state.enableRefreshProvisionedCert || demandsRefresh outcomes state) } := by
  rw [raiseRefresh_eq, demandsRefresh, looping, up]
  rfl

/-- The loop without a link. -/
theorem offline_effect (outcomes : Outcomes) (state : State) (looping : state.jobs = .loopDelay)
    (down : outcomes.isLinkUp = false) : JobsEffect outcomes state state := by
  have quiet : connectBegins outcomes state = false := by
    simp [connectBegins_looping outcomes state looping, down]
  have calm : demandsRefresh outcomes state = false := by simp [demandsRefresh, down]
  refine quiet_effect outcomes state _ looping ⟨rfl, rfl, ?_, rfl⟩ ?_ ?_
  · rw [calm, Bool.or_false]
  · rw [connectReturns_quiet outcomes state looping quiet]
    rfl
  · intro pending
    rw [looping] at pending
    cases pending

/-- The step from the head of the loop of the jobs task. -/
theorem looping_effect (outcomes : Outcomes) (state : State) (looping : state.jobs = .loopDelay) :
    JobsEffect outcomes state (jobsIterate outcomes state) := by
  have begins := connectBegins_looping outcomes state looping
  rw [jobsIterate]
  split
  next up =>
    have raised := raiseRefresh_looping outcomes state looping up
    have count : (raiseRefresh state).connectFailCount = state.connectFailCount := by rw [raised]
    have run : (raiseRefresh state).isRunAwsIotJobs = state.isRunAwsIotJobs := by rw [raised]
    have linked : (raiseRefresh state).isJobsConnected = state.isJobsConnected := by rw [raised]
    dsimp only
    split
    next running =>
      rw [run] at running
      split
      next connected =>
        rw [linked] at connected
        have quiet : connectBegins outcomes state = false := by simp [begins, connected]
        have served := continues_kept _ _ (jobsServe_continues outcomes (raiseRefresh state))
        refine quiet_effect outcomes state _ looping (raised ▸ served.1) ?_ ?_
        · rw [connectReturns_quiet outcomes state looping quiet, served.2.1, count]
          rfl
        · intro pending
          rw [served.2.2] at pending
          cases pending
      next unconnected =>
        rw [linked] at unconnected
        have calls : connectBegins outcomes state = true := by
          simp [begins, up, running, unconnected]
        have opened := jobsOpen_kept outcomes (raiseRefresh state)
        refine quiet_effect outcomes state _ looping (raised ▸ opened.1) ?_ fun _ => calls
        rw [opened.2, count, connectReturns_looping outcomes state looping, if_pos calls]
    next stopped =>
      rw [run] at stopped
      have quiet : connectBegins outcomes state = false := by simp [begins, stopped]
      have silent := connectReturns_quiet outcomes state looping quiet
      split
      next connected =>
        refine quiet_effect outcomes state _ looping (raised ▸ jobsClose_kept _) ?_ ?_
        · rw [silent]
          exact count
        · intro pending
          exact absurd pending Bool.false_ne_true
      next unconnected =>
        refine quiet_effect outcomes state _ looping (raised ▸ ⟨rfl, rfl, rfl, rfl⟩) ?_ ?_
        · rw [silent]
          exact count
        · intro pending
          rw [raiseRefresh_jobs, looping] at pending
          cases pending
  next down =>
    exact offline_effect outcomes state looping (Bool.not_eq_true _ ▸ down)

/-- The task before its session, where only the link counts. -/
theorem waitLink_effect (outcomes : Outcomes) (state : State) (point : state.jobs = .waitLink) :
    JobsEffect outcomes state (jobsStep outcomes state) := by
  have quiet : connectReturns outcomes state = none := by rw [connectReturns, point]
  have calm : demandsRefresh outcomes state = false := by simp [demandsRefresh, point]
  simp only [jobsStep, point]
  split
  next up =>
    refine ⟨rfl, rfl, ?_, ?_, ?_, ?_⟩
    · rw [if_pos ⟨point, up⟩]
    · rw [calm, Bool.or_false]
    · rw [quiet, point]
      rfl
    · intro pending
      exact absurd pending Bool.false_ne_true
  next down =>
    refine ⟨rfl, rfl, ?_, ?_, ?_, ?_⟩
    · rw [if_neg fun starting => down starting.2]
    · rw [calm, Bool.or_false]
    · rw [quiet, point]
      rfl
    · intro pending
      rw [point] at pending
      cases pending

/-- The task after a failed connection. -/
theorem failDelay_effect (outcomes : Outcomes) (state : State) (point : state.jobs = .failDelay) :
    JobsEffect outcomes state (jobsStep outcomes state) := by
  have calm : demandsRefresh outcomes state = false := by simp [demandsRefresh, point]
  simp only [jobsStep, point]
  refine ⟨rfl, rfl, ?_, ?_, ?_, ?_⟩
  · simp [point]
  · rw [calm, Bool.or_false]
  · rw [if_pos point]
  · intro pending
    exact absurd pending Bool.false_ne_true

/-- A step of the jobs task. -/
theorem jobsStep_effect (outcomes : Outcomes) (state : State) :
    JobsEffect outcomes state (jobsStep outcomes state) := by
  have serving (point : JobsPoint) (located : state.jobs = point)
      (inside : jobsWaiting point = true) (after : State) (continues : Continues state after) :
      JobsEffect outcomes state after := by
    refine serving_effect outcomes state after ?_ ?_ continues
    · rw [located]
      cases point <;> first | (cases inside; done) | exact ⟨nofun, nofun, nofun⟩
    · rw [connectReturns, located]
      cases point <;> first | rfl | cases inside
  cases point : state.jobs with
  | waitLink => exact waitLink_effect outcomes state point
  | failDelay => exact failDelay_effect outcomes state point
  | loopDelay =>
    rw [jobsStep, point]
    exact looping_effect outcomes state point
  | connectDns =>
    rw [jobsStep, point]
    exact connecting_effect outcomes state _ (.inl point)
      (connectDns_connects .awsIotJobs outcomes state) (by rw [connectReturns, point])
  | connectHandshake =>
    rw [jobsStep, point]
    exact connecting_effect outcomes state _ (.inr point)
      (connectHandshake_connects .awsIotJobs outcomes state) (by rw [connectReturns, point])
  | waitGetJob =>
    rw [jobsStep, point]
    exact serving _ point rfl _ (jobsWaitGetJob_continues outcomes state)
  | waitStartNext =>
    rw [jobsStep, point]
    exact serving _ point rfl _ (jobsWaitStartNext_continues outcomes state)
  | jobDocument =>
    rw [jobsStep, point]
    exact serving _ point rfl _ (jobsDocument_continues outcomes state)
  | waitUpdate carriedOut =>
    rw [jobsStep, point]
    exact serving _ point rfl _ (jobsWaitUpdate_continues carriedOut outcomes state)
  | rebooted =>
    rw [jobsStep, point]
    exact serving _ point rfl state (by
      have same : state = { state with jobs := .rebooted } := by rw [← point]
      rw [same]
      exact .waits .rebooted rfl)

/-- The main task is between its loop's delays: in fleet provisioning, or after a failed one. -/
def mainEngaged : MainPoint → Bool
  | .waitLink | .loopDelay => false
  | _ => true

/-- What a step of the main task does: it waits for the link, starts up, provisions or
fails to, comes back to its loop, succeeds, or starts the jobs. -/
inductive MainEffect (state after : State) : Prop where
  | waits (same : FlagsKept state after)
  | starts (starting : state.main = .waitLink) (looping : after.main = .loopDelay)
      (isRun : after.isRunAwsIotJobs = state.isRunAwsIotJobs)
      (refresh : after.enableRefreshProvisionedCert = !after.isValidProvisionedCertInfo)
  | provisions (demanded : state.main = .loopDelay ∧ state.enableRefreshProvisionedCert = true ∨
        mainEngaged state.main = true)
      (engaged : mainEngaged after.main = true)
      (refresh : after.enableRefreshProvisionedCert = state.enableRefreshProvisionedCert)
      (isValid : after.isValidProvisionedCertInfo = state.isValidProvisionedCertInfo)
  | retries (failed : state.main = .retryDelay) (looping : after.main = .loopDelay)
      (isRun : after.isRunAwsIotJobs = state.isRunAwsIotJobs)
      (refresh : after.enableRefreshProvisionedCert = state.enableRefreshProvisionedCert)
      (isValid : after.isValidProvisionedCertInfo = state.isValidProvisionedCertInfo)
  | succeeds (demanded : state.main = .loopDelay ∧ state.enableRefreshProvisionedCert = true ∨
        mainEngaged state.main = true)
      (looping : after.main = .loopDelay) (isRun : after.isRunAwsIotJobs = true)
      (refresh : after.enableRefreshProvisionedCert = false)
      (isValid : after.isValidProvisionedCertInfo = state.isValidProvisionedCertInfo)
  | runs (looping : state.main = .loopDelay) (same : after = { state with isRunAwsIotJobs := true })

/-- Where fleet provisioning is after a step, and what it did to the flags. -/
structure Provisioned (state after : State) : Prop where
  kept : JobsKept state after
  isValid : after.isValidProvisionedCertInfo = state.isValidProvisionedCertInfo
  ended : mainEngaged after.main = true ∧
      after.enableRefreshProvisionedCert = state.enableRefreshProvisionedCert ∨
    after.main = .loopDelay ∧ after.isRunAwsIotJobs = true ∧
      after.enableRefreshProvisionedCert = false

theorem provisions_provisioned (before after : State) (provisions : Provisions before after) :
    Provisioned before after := by
  cases provisions with
  | waits point provisioning =>
    refine ⟨⟨rfl, rfl⟩, rfl, .inl ⟨?_, rfl⟩⟩
    cases point <;> first | rfl | cases provisioning
  | fails => exact ⟨⟨rfl, rfl⟩, rfl, .inl ⟨rfl, rfl⟩⟩
  | succeeds => exact ⟨⟨rfl, rfl⟩, rfl, .inr ⟨rfl, rfl, rfl⟩⟩

theorem mainConnect_provisioned (outcomes : Outcomes) (before : State)
    (reached : ConnectResult × State) (connects : Connects .mainApp before reached) :
    Provisioned before (mainConnect outcomes reached) := by
  cases connects with
  | waitsDns => exact ⟨⟨rfl, rfl⟩, rfl, .inl ⟨rfl, rfl⟩⟩
  | waitsHandshake => exact ⟨⟨rfl, rfl⟩, rfl, .inl ⟨rfl, rfl⟩⟩
  | refused => exact ⟨⟨rfl, rfl⟩, rfl, .inl ⟨rfl, rfl⟩⟩
  | connected =>
    simp only [mainConnect]
    split
    · have done := provisions_provisioned _ _ (mainWaitCreate_provisions outcomes
        (mqttConnected .mainApp before))
      exact ⟨⟨done.kept.jobs, done.kept.count⟩, done.isValid, done.ended⟩
    · exact ⟨⟨rfl, rfl⟩, rfl, .inl ⟨rfl, rfl⟩⟩

theorem fleetProvisioningHandle_provisioned (outcomes : Outcomes) (state : State) :
    Provisioned state (fleetProvisioningHandle outcomes state) := by
  simp only [fleetProvisioningHandle]
  cases initialised : mqttTransportInit .mainApp state with
  | none => exact ⟨⟨rfl, rfl⟩, rfl, .inl ⟨rfl, rfl⟩⟩
  | some opened =>
    obtain ⟨flags, kept, idle⟩ := mqttTransportInit_kept .mainApp state opened initialised
    have done := mainConnect_provisioned outcomes opened _
      (mqttTransportConnect_connects .mainApp outcomes opened idle)
    refine ⟨⟨done.kept.jobs.trans kept.jobs, done.kept.count.trans kept.count⟩,
      done.isValid.trans flags.isValid, ?_⟩
    rw [← flags.refresh]
    exact done.ended

/-- Fleet provisioning as a step of the main task. -/
theorem provisioned_effect (state after : State)
    (demanded : state.main = .loopDelay ∧ state.enableRefreshProvisionedCert = true ∨
      mainEngaged state.main = true)
    (provisioned : Provisioned state after) : MainEffect state after := by
  rcases provisioned.ended with ⟨engaged, refresh⟩ | ⟨looping, isRun, refresh⟩
  · exact .provisions demanded engaged refresh provisioned.isValid
  · exact .succeeds demanded looping isRun refresh provisioned.isValid

/-- A step of the main task. -/
theorem mainStep_effect (outcomes : Outcomes) (state : State) :
    MainEffect state (mainStep outcomes state) ∧ JobsKept state (mainStep outcomes state) := by
  have engaged (point : MainPoint) (located : state.main = point)
      (inside : mainEngaged point = true) (after : State) (provisioned : Provisioned state after) :
      MainEffect state after ∧ JobsKept state after :=
    ⟨provisioned_effect state after (.inr (located ▸ inside)) provisioned, provisioned.kept⟩
  have same : MainEffect state state ∧ JobsKept state state :=
    ⟨.waits ⟨rfl, rfl, rfl, rfl⟩, rfl, rfl⟩
  simp only [mainStep]
  cases point : state.main with
  | waitLink =>
    dsimp only
    split
    · exact ⟨.starts point rfl rfl rfl, rfl, rfl⟩
    · exact same
  | loopDelay =>
    simp only [mainIterate]
    split
    · split
      next demand =>
        have done := fleetProvisioningHandle_provisioned outcomes
          { state with isRunAwsIotJobs := false }
        have provisioned : Provisioned state (fleetProvisioningHandle outcomes
            { state with isRunAwsIotJobs := false }) :=
          ⟨⟨done.kept.jobs, done.kept.count⟩, done.isValid, done.ended⟩
        exact ⟨provisioned_effect state _ (.inl ⟨point, demand⟩) provisioned, provisioned.kept⟩
      next =>
        split
        · exact ⟨.runs point rfl, rfl, rfl⟩
        · exact same
    · exact same
  | connectDns =>
    exact engaged _ point rfl _ (mainConnect_provisioned outcomes state _
      (connectDns_connects .mainApp outcomes state))
  | connectHandshake =>
    exact engaged _ point rfl _ (mainConnect_provisioned outcomes state _
      (connectHandshake_connects .mainApp outcomes state))
  | waitCreate =>
    exact engaged _ point rfl _ (provisions_provisioned _ _
      (mainWaitCreate_provisions outcomes state))
  | waitRegister =>
    exact engaged _ point rfl _ (provisions_provisioned _ _
      (mainWaitRegister_provisions outcomes state))
  | retryDelay => exact ⟨.retries point rfl rfl rfl rfl, rfl, rfl⟩

theorem step_jobs (outcomes : Outcomes) (state : State) (alive : state.jobs ≠ .rebooted) :
    step state (.awsIotJobs, outcomes) = jobsStep outcomes state := by
  rw [step, if_neg alive]

theorem step_main (outcomes : Outcomes) (state : State) (alive : state.jobs ≠ .rebooted) :
    step state (.mainApp, outcomes) = mainStep outcomes state := by
  rw [step, if_neg alive]

/-- All that fleet provisioning asks for is answered at once. -/
def answered : Outcomes :=
  { silent with
    isEndPointAddress := true
    tlsInit := true
    handshake := .done
    mqttConnect := true
    subscribe := true
    createCert := .done
    subscribeRegister := true
    registerThing := .done }

end WiznetEaas.TaskFlags
