import WiznetEaas.SessionChanges
import WiznetEaas.TaskFlags

/-!
# Which states of the two tasks can still be served

Connections fail, the tasks disturb each other's sessions, and the client may be closed
under a task that still counts on it. All of this passes: once the network answers, a
short schedule connects the jobs task again. The one exception is a start signal that was
lost, after which neither task ever acts again.
-/

namespace WiznetEaas.Recovery

open Runs MqttSession SessionChanges SessionOwnership TaskFlags

/-- The jobs task runs at the head of its loop and is connected by a client that runs. -/
structure Served (state : State) : Prop where
  looping : state.jobs = .loopDelay
  isRun : state.isRunAwsIotJobs = true
  connected : state.isJobsConnected = true
  running : state.isMqttRunning = true

/-- The main task sees no reason to start the jobs, and they are not started. -/
structure Stranded (state : State) : Prop where
  looping : state.main = .loopDelay
  undemanded : state.enableRefreshProvisionedCert = false
  invalid : state.isValidProvisionedCertInfo = false
  stopped : state.jobs = .waitLink ∨ state.isRunAwsIotJobs = false

/-- A running client is the session of a task that knows it. -/
def Carried (state : State) : Prop :=
  state.isMqttRunning = true → jobsLinked state = true ∨ mainProvisioning state.main = true

/-- What every run keeps, whether or not the sessions collide. -/
structure Consistent (state : State) : Prop where
  carried : Carried state
  demanded : mainEngaged state.main = true → state.enableRefreshProvisionedCert = true
  uncounted : state.jobs = .waitLink → state.connectFailCount = 0
  quiet : Stranded state → state.jobs ≠ .waitLink →
    state.jobs = .loopDelay ∧ state.isJobsConnected = false ∧ state.connectFailCount = 0

theorem carried_idle (state : State) (idle : state.isMqttRunning = false) : Carried state :=
  fun running => absurd (idle.symm.trans running) Bool.false_ne_true

/-- Behind a finished connection the client stays with its owner. -/
theorem continues_carried (before after : State) (continues : Continues before after)
    (carried : Carried before) : Carried after := by
  cases continues with
  | waits point inside =>
    intro running
    rcases carried running with linked | provisioning
    · left
      have later : point ≠ .waitLink := by
        rintro rfl
        cases inside
      rw [jobsLinked, Bool.and_eq_true] at linked
      rw [jobsLinked, Bool.and_eq_true]
      exact ⟨bne_iff_ne.mpr later, linked.2⟩
    · exact .inr provisioning
  | closes => exact carried_idle _ rfl

theorem jobsConnect_carried (outcomes : Outcomes) (before : State)
    (reached : ConnectResult × State) (carried : Carried before) (started : before.jobs ≠ .waitLink)
    (connects : Connects .awsIotJobs before reached) :
    Carried (jobsConnect outcomes reached) := by
  have waits (point : JobsPoint) (later : point ≠ .waitLink) :
      Carried { before with jobs := point } := by
    intro running
    rcases carried running with linked | provisioning
    · left
      rw [jobsLinked, Bool.and_eq_true] at linked
      rw [jobsLinked, Bool.and_eq_true]
      exact ⟨bne_iff_ne.mpr later, linked.2⟩
    · exact .inr provisioning
  cases connects with
  | waitsDns => exact waits .connectDns (by decide)
  | waitsHandshake => exact waits .connectHandshake (by decide)
  | refused => exact carried_idle _ rfl
  | connected =>
    simp only [jobsConnect]
    split
    · refine continues_carried _ _ (jobsServe_continues outcomes _) fun _ => .inl ?_
      rw [jobsLinked, Bool.and_eq_true]
      exact ⟨bne_iff_ne.mpr started, rfl⟩
    · exact carried_idle _ rfl

theorem jobsOpen_carried (outcomes : Outcomes) (state : State) (started : state.jobs ≠ .waitLink) :
    Carried (jobsOpen outcomes state) := by
  simp only [jobsOpen]
  cases initialised : mqttTransportInit .awsIotJobs state with
  | none => exact carried_idle _ rfl
  | some opened =>
    simp only [mqttTransportInit] at initialised
    split at initialised
    · cases initialised
    · cases initialised
      refine jobsConnect_carried outcomes _ _ ?_ ?_
        (mqttTransportConnect_connects .awsIotJobs outcomes _ rfl)
      · exact carried_idle _ rfl
      · exact started

theorem jobsStep_carried (outcomes : Outcomes) (state : State) (carried : Carried state) :
    Carried (jobsStep outcomes state) := by
  have serving (point : JobsPoint) (_ : state.jobs = point) (after : State)
      (continues : Continues state after) : Carried after :=
    continues_carried state after continues carried
  simp only [jobsStep]
  cases point : state.jobs with
  | waitLink =>
    dsimp only
    split
    · intro running
      rcases carried running with linked | provisioning
      · rw [jobsLinked, point] at linked
        cases linked
      · exact .inr provisioning
    · exact carried
  | loopDelay =>
    have raised : Carried (raiseRefresh state) := by
      simp only [raiseRefresh]
      split <;> exact carried
    have started : (raiseRefresh state).jobs ≠ .waitLink := by
      rw [raiseRefresh_jobs, point]
      decide
    simp only [jobsIterate]
    split
    · split
      · split
        · exact continues_carried _ _ (jobsServe_continues outcomes _) raised
        · exact jobsOpen_carried outcomes _ started
      · split
        · exact carried_idle _ rfl
        · exact raised
    · exact carried
  | connectDns =>
    exact jobsConnect_carried outcomes state _ carried (by rw [point]; decide)
      (connectDns_connects .awsIotJobs outcomes state)
  | connectHandshake =>
    exact jobsConnect_carried outcomes state _ carried (by rw [point]; decide)
      (connectHandshake_connects .awsIotJobs outcomes state)
  | failDelay =>
    intro running
    rcases carried running with linked | provisioning
    · left
      rw [jobsLinked, Bool.and_eq_true] at linked
      rw [jobsLinked, Bool.and_eq_true]
      exact ⟨rfl, linked.2⟩
    · exact .inr provisioning
  | waitGetJob => exact serving _ point _ (jobsWaitGetJob_continues outcomes state)
  | waitStartNext => exact serving _ point _ (jobsWaitStartNext_continues outcomes state)
  | jobDocument => exact serving _ point _ (jobsDocument_continues outcomes state)
  | waitUpdate carriedOut =>
    exact serving _ point _ (jobsWaitUpdate_continues carriedOut outcomes state)
  | rebooted => exact carried

theorem provisions_carried (before after : State) (provisions : Provisions before after) :
    Carried after := by
  cases provisions with
  | waits point provisioning => exact fun _ => .inr provisioning
  | fails => exact carried_idle _ rfl
  | succeeds => exact carried_idle _ rfl

theorem mainConnect_carried (outcomes : Outcomes) (before : State)
    (reached : ConnectResult × State) (carried : Carried before)
    (outside : mainProvisioning before.main = false)
    (connects : Connects .mainApp before reached) : Carried (mainConnect outcomes reached) := by
  have waits (point : MainPoint) : Carried { before with main := point } := by
    intro running
    rcases carried running with linked | provisioning
    · exact .inl linked
    · rw [outside] at provisioning
      cases provisioning
  cases connects with
  | waitsDns => exact waits .connectDns
  | waitsHandshake => exact waits .connectHandshake
  | refused => exact carried_idle _ rfl
  | connected =>
    simp only [mainConnect]
    split
    · exact provisions_carried _ _ (mainWaitCreate_provisions outcomes _)
    · exact carried_idle _ rfl

theorem mainStep_carried (outcomes : Outcomes) (state : State) (carried : Carried state) :
    Carried (mainStep outcomes state) := by
  simp only [mainStep]
  cases point : state.main with
  | waitLink =>
    dsimp only
    split
    · intro running
      rcases carried running with linked | provisioning
      · exact .inl linked
      · rw [point] at provisioning
        cases provisioning
    · exact carried
  | loopDelay =>
    have outside : mainProvisioning state.main = false := by rw [point]; rfl
    simp only [mainIterate]
    split
    · split
      · simp only [fleetProvisioningHandle]
        cases initialised : mqttTransportInit .mainApp { state with isRunAwsIotJobs := false } with
        | none =>
          intro running
          rcases carried running with linked | provisioning
          · exact .inl linked
          · rw [outside] at provisioning
            cases provisioning
        | some opened =>
          simp only [mqttTransportInit] at initialised
          split at initialised
          · cases initialised
          · cases initialised
            refine mainConnect_carried outcomes _ _ ?_ ?_
              (mqttTransportConnect_connects .mainApp outcomes _ rfl)
            · exact carried_idle _ rfl
            · exact outside
      · split <;> exact carried
    · exact carried
  | connectDns =>
    exact mainConnect_carried outcomes state _ carried (by rw [point]; rfl)
      (connectDns_connects .mainApp outcomes state)
  | connectHandshake =>
    exact mainConnect_carried outcomes state _ carried (by rw [point]; rfl)
      (connectHandshake_connects .mainApp outcomes state)
  | waitCreate => exact provisions_carried _ _ (mainWaitCreate_provisions outcomes state)
  | waitRegister => exact provisions_carried _ _ (mainWaitRegister_provisions outcomes state)
  | retryDelay =>
    intro running
    rcases carried running with linked | provisioning
    · exact .inl linked
    · rw [point] at provisioning
      cases provisioning

/-- Where the jobs are not started and nothing demands it, a step of the jobs task does
nothing. -/
theorem jobsStep_quiet (outcomes : Outcomes) (state : State) (looping : state.jobs = .loopDelay)
    (stopped : state.isRunAwsIotJobs = false) (unlinked : state.isJobsConnected = false)
    (uncounted : state.connectFailCount = 0) : jobsStep outcomes state = state := by
  have calm : raiseRefresh state = state := by
    rw [raiseRefresh, uncounted]
    rfl
  simp only [jobsStep, looping, jobsIterate, calm, stopped, unlinked]
  split <;> rfl

/-- The jobs task starts with a count of zero, without a connection. -/
theorem jobsStep_starting (outcomes : Outcomes) (state : State) (waiting : state.jobs = .waitLink) :
    jobsStep outcomes state = state ∨
      jobsStep outcomes state =
        { state with isJobsConnected := false, isRunAwsIotJobs := false, jobs := .loopDelay } := by
  simp only [jobsStep, waiting]
  split
  · exact .inr rfl
  · exact .inl rfl

theorem continues_started (before after : State) (continues : Continues before after) :
    after.jobs ≠ .waitLink := by
  cases continues with
  | waits point inside =>
    rintro rfl
    cases inside
  | closes => exact JobsPoint.noConfusion

theorem jobsConnect_started (outcomes : Outcomes) (before : State)
    (reached : ConnectResult × State) (connects : Connects .awsIotJobs before reached) :
    (jobsConnect outcomes reached).jobs ≠ .waitLink := by
  cases connects with
  | waitsDns => exact JobsPoint.noConfusion
  | waitsHandshake => exact JobsPoint.noConfusion
  | refused => exact JobsPoint.noConfusion
  | connected =>
    simp only [jobsConnect]
    split
    · exact continues_started _ _ (jobsServe_continues outcomes _)
    · exact JobsPoint.noConfusion

/-- The jobs task does not return to its start-up. -/
theorem jobsStep_started (outcomes : Outcomes) (state : State) (started : state.jobs ≠ .waitLink) :
    (jobsStep outcomes state).jobs ≠ .waitLink := by
  simp only [jobsStep]
  cases point : state.jobs with
  | waitLink => exact absurd point started
  | loopDelay =>
    simp only [jobsIterate]
    split
    · split
      · split
        · exact continues_started _ _ (jobsServe_continues outcomes _)
        · simp only [jobsOpen]
          split
          · exact JobsPoint.noConfusion
          next opened initialised =>
            have idle := (mqttTransportInit_some .awsIotJobs _ opened initialised).1
            exact jobsConnect_started outcomes _ _
              (mqttTransportConnect_connects .awsIotJobs outcomes opened idle)
      · split
        · exact JobsPoint.noConfusion
        · rw [raiseRefresh_jobs, point]
          exact JobsPoint.noConfusion
    · rw [point]
      exact JobsPoint.noConfusion
  | connectDns =>
    exact jobsConnect_started outcomes state _ (connectDns_connects .awsIotJobs outcomes state)
  | connectHandshake =>
    exact jobsConnect_started outcomes state _
      (connectHandshake_connects .awsIotJobs outcomes state)
  | failDelay => exact JobsPoint.noConfusion
  | waitGetJob => exact continues_started _ _ (jobsWaitGetJob_continues outcomes state)
  | waitStartNext => exact continues_started _ _ (jobsWaitStartNext_continues outcomes state)
  | jobDocument => exact continues_started _ _ (jobsDocument_continues outcomes state)
  | waitUpdate carriedOut =>
    exact continues_started _ _ (jobsWaitUpdate_continues carriedOut outcomes state)
  | rebooted =>
    rw [point]
    exact JobsPoint.noConfusion

theorem jobsStep_consistent (outcomes : Outcomes) (state : State) (consistent : Consistent state) :
    Consistent (jobsStep outcomes state) := by
  have effect := jobsStep_effect outcomes state
  by_cases waiting : state.jobs = .waitLink
  · rcases jobsStep_starting outcomes state waiting with same | starts
    · rw [same]
      exact consistent
    · refine ⟨jobsStep_carried outcomes state consistent.carried, ?_, ?_, ?_⟩
      · intro engaged
        rw [starts] at engaged ⊢
        exact consistent.demanded engaged
      · intro still
        rw [starts] at still
        cases still
      · intro _ _
        rw [starts]
        exact ⟨rfl, rfl, consistent.uncounted waiting⟩
  · have isRun := effect.isRun
    rw [if_neg (fun starting => waiting starting.1)] at isRun
    refine ⟨jobsStep_carried outcomes state consistent.carried, ?_, ?_, ?_⟩
    · intro engaged
      rw [effect.main] at engaged
      rw [effect.refresh, consistent.demanded engaged, Bool.true_or]
    · exact fun still => absurd still (jobsStep_started outcomes state waiting)
    · intro stranded started
      have undemanded := stranded.undemanded
      rw [effect.refresh, Bool.or_eq_false_iff] at undemanded
      have stopped : state.isRunAwsIotJobs = false := by
        rcases stranded.stopped with still | stopped
        · exact absurd still started
        · exact isRun.symm.trans stopped
      have before : Stranded state := ⟨effect.main.symm.trans stranded.looping, undemanded.1,
        effect.isValid.symm.trans stranded.invalid, .inr stopped⟩
      obtain ⟨looping, unlinked, uncounted⟩ := consistent.quiet before waiting
      rw [jobsStep_quiet outcomes state looping stopped unlinked uncounted]
      exact ⟨looping, unlinked, uncounted⟩

theorem mainStep_consistent (outcomes : Outcomes) (state : State) (consistent : Consistent state) :
    Consistent (mainStep outcomes state) := by
  obtain ⟨effect, kept⟩ := mainStep_effect outcomes state
  have carried := mainStep_carried outcomes state consistent.carried
  have demand (demanded : state.main = .loopDelay ∧ state.enableRefreshProvisionedCert = true ∨
      mainEngaged state.main = true) : state.enableRefreshProvisionedCert = true := by
    rcases demanded with ⟨_, demand⟩ | engaged
    · exact demand
    · exact consistent.demanded engaged
  have connected : (mainStep outcomes state).isJobsConnected = state.isJobsConnected := by
    have unnoticed := congrArg State.isJobsConnected
      (mainStep_connected state.isJobsConnected outcomes state)
    exact unnoticed
  generalize mainStep outcomes state = after at effect kept carried connected
  have uncounted (waiting : after.jobs = .waitLink) : after.connectFailCount = 0 :=
    kept.count.trans (consistent.uncounted (kept.jobs.symm.trans waiting))
  cases effect with
  | waits same =>
    refine ⟨carried, ?_, uncounted, ?_⟩
    · intro engaged
      rw [same.main] at engaged
      exact same.refresh.trans (consistent.demanded engaged)
    · intro stranded started
      have before : Stranded state := ⟨same.main.symm.trans stranded.looping,
        same.refresh.symm.trans stranded.undemanded, same.isValid.symm.trans stranded.invalid, by
          rw [← kept.jobs, ← same.isRun]
          exact stranded.stopped⟩
      rw [kept.jobs, connected, kept.count]
      exact consistent.quiet before (kept.jobs ▸ started)
  | starts starting looping isRun refresh =>
    refine ⟨carried, ?_, uncounted, ?_⟩
    · intro engaged
      rw [looping] at engaged
      cases engaged
    · intro stranded _
      have undemanded := stranded.undemanded
      rw [refresh, stranded.invalid] at undemanded
      cases undemanded
  | provisions demanded engaged refresh isValid =>
    refine ⟨carried, fun _ => refresh.trans (demand demanded), uncounted, ?_⟩
    intro stranded _
    rw [stranded.looping] at engaged
    cases engaged
  | retries failed looping isRun refresh isValid =>
    have standing : state.enableRefreshProvisionedCert = true :=
      consistent.demanded (by rw [failed]; rfl)
    refine ⟨carried, fun _ => refresh.trans standing, uncounted, ?_⟩
    intro stranded _
    rw [stranded.undemanded, standing] at refresh
    cases refresh
  | succeeds demanded looping isRun refresh isValid =>
    refine ⟨carried, ?_, uncounted, ?_⟩
    · intro engaged
      rw [looping] at engaged
      cases engaged
    · intro stranded started
      rcases stranded.stopped with waiting | stopped
      · exact absurd waiting started
      · rw [isRun] at stopped
        cases stopped
  | runs looping same =>
    subst same
    refine ⟨carried, consistent.demanded, uncounted, ?_⟩
    intro stranded started
    rcases stranded.stopped with waiting | stopped
    · exact absurd waiting started
    · cases stopped

/-- Every step keeps what a run keeps. -/
theorem step_consistent (state : State) (label : Task × Outcomes) (consistent : Consistent state) :
    Consistent (step state label) := by
  obtain ⟨task, outcomes⟩ := label
  simp only [step]
  split
  · exact consistent
  · cases task with
    | awsIotJobs => exact jobsStep_consistent outcomes state consistent
    | mainApp => exact mainStep_consistent outcomes state consistent

/-- Nothing leads out of a stranded state. -/
theorem step_stranded (state : State) (label : Task × Outcomes) (consistent : Consistent state)
    (stranded : Stranded state) : Stranded (step state label) := by
  obtain ⟨task, outcomes⟩ := label
  simp only [step]
  split
  · exact stranded
  · cases task with
    | awsIotJobs =>
      dsimp only
      by_cases waiting : state.jobs = .waitLink
      · rcases jobsStep_starting outcomes state waiting with same | starts
        · rw [same]
          exact stranded
        · rw [starts]
          exact ⟨stranded.looping, stranded.undemanded, stranded.invalid, .inr rfl⟩
      · obtain ⟨looping, unlinked, uncounted⟩ := consistent.quiet stranded waiting
        have stopped := stranded.stopped.resolve_left waiting
        rw [jobsStep_quiet outcomes state looping stopped unlinked uncounted]
        exact stranded
    | mainApp =>
      have same : mainStep outcomes state = state := by
        simp only [mainStep, stranded.looping, mainIterate, stranded.undemanded, stranded.invalid]
        split <;> rfl
      dsimp only
      rw [same]
      exact stranded

/-- The task waits behind a connection that is no longer there. -/
def isLost (state : State) : Task → Bool
  | .awsIotJobs => state.isJobsConnected && !state.isMqttRunning
  | .mainApp => mainProvisioning state.main && !state.isMqttRunning

def reply (answered : Bool) : Poll := if answered then .done else .failed

theorem reply_ends (answered : Bool) : reply answered ≠ .pending := by
  cases answered <;> exact Poll.noConfusion

/-- The link is up, the network answers, the jobs task polls, and there is no job. Nothing
is sent or received on a client that is closed. -/
def cooperative (isEndPointAddress isValid : Bool) (state : State) (task : Task) : Outcomes where
  isLinkUp := true
  isEndPointAddress := isEndPointAddress
  dns := .done
  tlsInit := true
  handshake := .done
  mqttConnect := true
  subscribe := true
  isGetDue := state.jobs == .loopDelay && state.isJobsConnected
  publishGet := !isLost state task
  getJob := reply !isLost state task
  isStartDue := false
  hasJob := false
  publishStartNext := !isLost state task
  startNext := reply !isLost state task
  document := .done
  publishUpdate := !isLost state task
  update := reply !isLost state task
  enableReboot := false
  isValidCert := isValid
  isValidPrivateKey := isValid
  createCert := reply !isLost state task
  subscribeRegister := !isLost state task
  registerThing := reply !isLost state task

section Schedule
variable (isEndPointAddress isValid : Bool)

/-- A step of a task while the network cooperates. -/
def cooperate (state : State) (task : Task) : State :=
  step state (task, cooperative isEndPointAddress isValid state task)

/-- A short schedule leads to a state. -/
def Attainable (steps : Nat) (reached : State → Prop) (state : State) : Prop :=
  ∃ schedule : List Task, schedule.length ≤ steps ∧
    reached (execute (cooperate isEndPointAddress isValid) state schedule)

variable {isEndPointAddress isValid}

theorem attainable_now (steps : Nat) (reached : State → Prop) (state : State)
    (here : reached state) : Attainable isEndPointAddress isValid steps reached state :=
  ⟨[], Nat.zero_le steps, here⟩

theorem attainable_step (steps : Nat) (reached : State → Prop) (state : State) (task : Task)
    (later : Attainable isEndPointAddress isValid steps reached
      (cooperate isEndPointAddress isValid state task)) :
    Attainable isEndPointAddress isValid (steps + 1) reached state := by
  obtain ⟨schedule, short, there⟩ := later
  exact ⟨task :: schedule, Nat.succ_le_succ short, there⟩

theorem attainable_mono {fewer steps : Nat} (more : fewer ≤ steps) (reached : State → Prop)
    (state : State) (attainable : Attainable isEndPointAddress isValid fewer reached state) :
    Attainable isEndPointAddress isValid steps reached state := by
  obtain ⟨schedule, short, there⟩ := attainable
  exact ⟨schedule, Nat.le_trans short more, there⟩

theorem cooperate_jobs (state : State) (alive : state.jobs ≠ .rebooted) :
    cooperate isEndPointAddress isValid state .awsIotJobs =
      jobsStep (cooperative isEndPointAddress isValid state .awsIotJobs) state := by
  rw [cooperate, step, if_neg alive]

theorem cooperate_main (state : State) (alive : state.jobs ≠ .rebooted) :
    cooperate isEndPointAddress isValid state .mainApp =
      mainStep (cooperative isEndPointAddress isValid state .mainApp) state := by
  rw [cooperate, step, if_neg alive]

section Cooperation
variable (before state : State) (actor task : Task)

/-- A connect of an idle client is done at once or waits for the DNS answer. -/
theorem connect_begun (idle : state.isMqttRunning = false) :
    mqttTransportConnect task (cooperative isEndPointAddress isValid before actor) state =
      if isEndPointAddress then (.connected, mqttConnected task state) else (.waitsDns, state) := by
  simp only [mqttTransportConnect, idle, Bool.false_eq_true, if_false]
  rfl

/-- Where no jobs are polled the jobs task goes back to its loop. -/
theorem serve_quiet (undue : (before.jobs == .loopDelay && before.isJobsConnected) = false) :
    jobsServe (cooperative isEndPointAddress isValid before actor) state =
      { state with jobs := .loopDelay } := by
  simp only [jobsServe, jobsStartDocument, cooperative, undue]
  rfl

end Cooperation

/-- A connect of the jobs task that has begun is finished. -/
theorem connect_finishes (state : State)
    (connecting : state.jobs = .connectDns ∨ state.jobs = .connectHandshake) :
    cooperate isEndPointAddress isValid state .awsIotJobs =
      { mqttConnected .awsIotJobs state with
        connectFailCount := 0, isJobsConnected := true, jobs := .loopDelay } := by
  have undue : (state.jobs == .loopDelay && state.isJobsConnected) = false := by
    rcases connecting with point | point <;> rw [point] <;> rfl
  have alive : state.jobs ≠ .rebooted := by
    rcases connecting with point | point <;> rw [point] <;> exact JobsPoint.noConfusion
  have serves := @serve_quiet isEndPointAddress isValid state
    { mqttConnected .awsIotJobs state with connectFailCount := 0, isJobsConnected := true }
    .awsIotJobs undue
  rw [← serves, cooperate_jobs state alive]
  rcases connecting with point | point
  · rw [jobsStep, point]
    rfl
  · rw [jobsStep, point]
    rfl

theorem connecting_served (state : State)
    (connecting : state.jobs = .connectDns ∨ state.jobs = .connectHandshake)
    (isRun : state.isRunAwsIotJobs = true) :
    Served (cooperate isEndPointAddress isValid state .awsIotJobs) := by
  rw [connect_finishes state connecting]
  exact ⟨rfl, isRun, rfl, rfl⟩

/-- From the head of its loop the jobs task opens a connection. -/
theorem open_begun (before state : State) (idle : state.isMqttRunning = false)
    (isRun : state.isRunAwsIotJobs = true)
    (undue : (before.jobs == .loopDelay && before.isJobsConnected) = false) :
    Attainable isEndPointAddress isValid 1 Served
      (jobsOpen (cooperative isEndPointAddress isValid before .awsIotJobs) state) := by
  obtain ⟨opened, initialised, openedRun, openedIdle⟩ : ∃ opened,
      mqttTransportInit .awsIotJobs state = some opened ∧ opened.isRunAwsIotJobs = true ∧
        opened.isMqttRunning = false := by
    rw [mqttTransportInit, idle]
    exact ⟨_, rfl, isRun, rfl⟩
  simp only [jobsOpen, initialised, connect_begun before opened .awsIotJobs .awsIotJobs openedIdle]
  cases isEndPointAddress with
  | true =>
    have served := @serve_quiet true isValid before
      { mqttConnected .awsIotJobs opened with connectFailCount := 0, isJobsConnected := true }
      .awsIotJobs undue
    apply attainable_now
    rw [if_pos rfl, jobsConnect, if_pos (show (cooperative true isValid before .awsIotJobs).subscribe
      = true from rfl), served]
    exact ⟨rfl, openedRun, rfl, rfl⟩
  | false =>
    apply attainable_step 0 Served _ .awsIotJobs
    apply attainable_now
    exact connecting_served _ (.inl rfl) openedRun

/-- A jobs task that is to run and has no connection connects. -/
theorem unlinked_served (state : State) (looping : state.jobs = .loopDelay)
    (isRun : state.isRunAwsIotJobs = true) (unlinked : state.isJobsConnected = false)
    (idle : state.isMqttRunning = false) :
    Attainable isEndPointAddress isValid 2 Served state := by
  have alive : state.jobs ≠ .rebooted := by rw [looping]; exact JobsPoint.noConfusion
  have undue : (state.jobs == .loopDelay && state.isJobsConnected) = false := by
    rw [unlinked, Bool.and_false]
  have raised : (raiseRefresh state).isRunAwsIotJobs = true ∧
      (raiseRefresh state).isJobsConnected = false ∧
        (raiseRefresh state).isMqttRunning = false := by
    rw [raiseRefresh]
    split <;> exact ⟨isRun, unlinked, idle⟩
  have opens : cooperate isEndPointAddress isValid state .awsIotJobs =
      jobsOpen (cooperative isEndPointAddress isValid state .awsIotJobs) (raiseRefresh state) := by
    rw [cooperate_jobs state alive]
    simp only [jobsStep, looping, jobsIterate, raised.1, raised.2.1]
    rfl
  apply attainable_step 1 Served state .awsIotJobs
  rw [opens]
  exact open_begun state (raiseRefresh state) raised.2.2 raised.1 undue

/-- Where the jobs are to run and the main task has no session, three steps are enough. -/
theorem run_served (state : State) (carried : Carried state) (looping : state.jobs = .loopDelay)
    (outside : mainProvisioning state.main = false) (isRun : state.isRunAwsIotJobs = true) :
    Attainable isEndPointAddress isValid 3 Served state := by
  have alive : state.jobs ≠ .rebooted := by rw [looping]; exact JobsPoint.noConfusion
  cases linked : state.isJobsConnected with
  | false =>
    have idle : state.isMqttRunning = false := by
      apply Bool.eq_false_iff.mpr
      intro running
      rcases carried running with known | provisioning
      · rw [jobsLinked, linked, Bool.and_false] at known
        cases known
      · rw [outside] at provisioning
        cases provisioning
    exact attainable_mono (by decide) Served state (unlinked_served state looping isRun linked idle)
  | true =>
    cases running : state.isMqttRunning with
    | true => exact attainable_now 3 Served state ⟨looping, isRun, linked, running⟩
    | false =>
      -- The client was closed under the task, which finds out when it polls.
      have closes : cooperate isEndPointAddress isValid state .awsIotJobs =
          jobsClose (raiseRefresh state) := by
        have raised : (raiseRefresh state).isRunAwsIotJobs = true ∧
            (raiseRefresh state).isJobsConnected = true := by
          rw [raiseRefresh]
          split <;> exact ⟨isRun, linked⟩
        rw [cooperate_jobs state alive]
        simp only [jobsStep, looping, jobsIterate, raised.1, raised.2, jobsServe, cooperative, linked,
          running, isLost]
        rfl
      have kept : (jobsClose (raiseRefresh state)).isRunAwsIotJobs = true := by
        rw [raiseRefresh]
        split <;> exact isRun
      apply attainable_step 2 Served state .awsIotJobs
      rw [closes]
      exact unlinked_served _ rfl kept rfl rfl

/-- Fleet provisioning ends well on a client that is still there. -/
theorem main_answered (before state : State) (found : isLost before .mainApp = false) :
    mainWaitCreate (cooperative isEndPointAddress isValid before .mainApp) state =
        mainProvisioned state ∧
      mainWaitRegister (cooperative isEndPointAddress isValid before .mainApp) state =
        mainProvisioned state := by
  simp only [mainWaitCreate, mainWaitRegister, cooperative, reply, found]
  exact ⟨rfl, rfl⟩

theorem provisioned_served (state : State) (looping : state.jobs = .loopDelay) :
    Attainable isEndPointAddress isValid 3 Served (mainProvisioned state) :=
  run_served (mainProvisioned state) (carried_idle _ rfl) looping rfl rfl

theorem provisioning_served (state : State) (looping : state.jobs = .loopDelay)
    (connecting : state.main = .connectDns ∨ state.main = .connectHandshake) :
    Attainable isEndPointAddress isValid 4 Served state := by
  have found : isLost state .mainApp = false := by
    rcases connecting with point | point <;> rw [isLost, point] <;> rfl
  have provisions : cooperate isEndPointAddress isValid state .mainApp =
      mainProvisioned (mqttConnected .mainApp state) := by
    rw [cooperate_main state (by rw [looping]; exact JobsPoint.noConfusion),
      ← (@main_answered isEndPointAddress isValid state
        (mqttConnected .mainApp state) found).1]
    rcases connecting with point | point
    · rw [mainStep, point]
      rfl
    · rw [mainStep, point]
      rfl
  apply attainable_step 3 Served state .mainApp
  rw [provisions]
  exact provisioned_served _ looping

/-- A demand makes the main task provision, and stops the jobs first. -/
theorem demand_enters (state : State) (looping : state.jobs = .loopDelay)
    (main : state.main = .loopDelay) (demanded : state.enableRefreshProvisionedCert = true) :
    cooperate isEndPointAddress isValid state .mainApp =
      fleetProvisioningHandle (cooperative isEndPointAddress isValid state .mainApp)
        { state with isRunAwsIotJobs := false } := by
  have iterates (outcomes : Outcomes) : mainStep outcomes state = mainIterate outcomes state := by
    rw [mainStep, main]
  rw [cooperate_main state (by rw [looping]; exact JobsPoint.noConfusion), iterates, mainIterate]
  exact (if_pos rfl).trans (if_pos demanded)

/-- A demanded certificate is fetched where the client is idle. -/
theorem demanded_served (state : State) (looping : state.jobs = .loopDelay)
    (main : state.main = .loopDelay) (demanded : state.enableRefreshProvisionedCert = true)
    (idle : state.isMqttRunning = false) :
    Attainable isEndPointAddress isValid 5 Served state := by
  have found : isLost state .mainApp = false := by rw [isLost, main]; rfl
  obtain ⟨opened, initialised, openedIdle, openedJobs⟩ : ∃ opened,
      mqttTransportInit .mainApp { state with isRunAwsIotJobs := false } = some opened ∧
        opened.isMqttRunning = false ∧ opened.jobs = .loopDelay := by
    rw [mqttTransportInit, if_neg (show ¬ ({ state with isRunAwsIotJobs := false } : State).isMqttRunning
      = true from Bool.eq_false_iff.mp idle)]
    exact ⟨_, rfl, rfl, looping⟩
  have begins : cooperate isEndPointAddress isValid state .mainApp =
      mainConnect (cooperative isEndPointAddress isValid state .mainApp)
        (mqttTransportConnect .mainApp (cooperative isEndPointAddress isValid state .mainApp)
          opened) := by
    rw [demand_enters state looping main demanded, fleetProvisioningHandle, initialised]
  apply attainable_step 4 Served state .mainApp
  rw [begins, connect_begun state opened .mainApp .mainApp openedIdle]
  cases isEndPointAddress with
  | true =>
    have provisions : mainConnect (cooperative true isValid state .mainApp)
        (.connected, mqttConnected .mainApp opened) =
          mainProvisioned (mqttConnected .mainApp opened) :=
      (@main_answered true isValid state
        (mqttConnected .mainApp opened) found).1
    rw [if_pos rfl, provisions]
    exact attainable_mono (by decide) Served _ (provisioned_served _ openedJobs)
  | false =>
    exact provisioning_served { opened with main := .connectDns } openedJobs (.inl rfl)

/-- The refused attempt of the main task makes the jobs task close the client first. -/
theorem refused_served (state : State) (carried : Carried state) (looping : state.jobs = .loopDelay)
    (main : state.main = .loopDelay) (demanded : state.enableRefreshProvisionedCert = true)
    (running : state.isMqttRunning = true) :
    Attainable isEndPointAddress isValid 8 Served state := by
  have linked : state.isJobsConnected = true := by
    rcases carried running with known | provisioning
    · rw [jobsLinked, Bool.and_eq_true] at known
      exact known.2
    · rw [main] at provisioning
      cases provisioning
  have refused : cooperate isEndPointAddress isValid state .mainApp =
      { state with isRunAwsIotJobs := false, main := .retryDelay } := by
    rw [demand_enters state looping main demanded, fleetProvisioningHandle, mqttTransportInit,
      if_pos running]
  have alive : ({ state with isRunAwsIotJobs := false, main := .retryDelay } : State).jobs ≠
      .rebooted := by
    rw [show State.jobs _ = state.jobs from rfl, looping]
    exact JobsPoint.noConfusion
  apply attainable_step 7 Served state .mainApp
  rw [refused]
  generalize stopped : ({ state with isRunAwsIotJobs := false, main := .retryDelay } : State) =
    retrying at alive
  have closes : cooperate isEndPointAddress isValid retrying .awsIotJobs =
      jobsClose (raiseRefresh retrying) := by
    have raised : (raiseRefresh retrying).isRunAwsIotJobs = false ∧
        (raiseRefresh retrying).isJobsConnected = true := by
      rw [← stopped, raiseRefresh]
      split <;> exact ⟨rfl, linked⟩
    rw [cooperate_jobs retrying alive, jobsStep, show retrying.jobs = .loopDelay by
      rw [← stopped]; exact looping]
    simp only [jobsIterate, raised.1, raised.2]
    rfl
  have closed : (jobsClose (raiseRefresh retrying)).main = .retryDelay ∧
      (jobsClose (raiseRefresh retrying)).enableRefreshProvisionedCert = true := by
    rw [← stopped, raiseRefresh]
    split
    · exact ⟨rfl, rfl⟩
    · exact ⟨rfl, demanded⟩
  have retries : cooperate isEndPointAddress isValid (jobsClose (raiseRefresh retrying)) .mainApp =
      { jobsClose (raiseRefresh retrying) with main := .loopDelay } := by
    rw [cooperate_main _ (show (jobsClose (raiseRefresh retrying)).jobs ≠ .rebooted from
      JobsPoint.noConfusion), mainStep, closed.1]
  apply attainable_step 6 Served retrying .awsIotJobs
  rw [closes]
  apply attainable_step 5 Served _ .mainApp
  rw [retries]
  exact demanded_served { jobsClose (raiseRefresh retrying) with main := .loopDelay } rfl rfl
    closed.2 rfl

/-- At the head of both loops a signal is enough. -/
theorem signalled_served (state : State) (carried : Carried state)
    (looping : state.jobs = .loopDelay) (main : state.main = .loopDelay)
    (signalled : state.isRunAwsIotJobs = true ∨ state.enableRefreshProvisionedCert = true ∨
      state.isValidProvisionedCertInfo = true) :
    Attainable isEndPointAddress isValid 8 Served state := by
  have outside : mainProvisioning state.main = false := by rw [main]; rfl
  by_cases isRun : state.isRunAwsIotJobs = true
  · exact attainable_mono (by decide) Served state
      (run_served state carried looping outside isRun)
  by_cases demanded : state.enableRefreshProvisionedCert = true
  · cases running : state.isMqttRunning with
    | true => exact refused_served state carried looping main demanded running
    | false =>
      exact attainable_mono (by decide) Served state
        (demanded_served state looping main demanded running)
  · have valid := (signalled.resolve_left isRun).resolve_left demanded
    have starts : cooperate isEndPointAddress isValid state .mainApp =
        { state with isRunAwsIotJobs := true } := by
      have iterates (outcomes : Outcomes) :
          mainStep outcomes state = mainIterate outcomes state := by
        rw [mainStep, main]
      rw [cooperate_main state (by rw [looping]; exact JobsPoint.noConfusion), iterates, mainIterate]
      exact (if_pos rfl).trans ((if_neg demanded).trans (if_pos valid))
    apply attainable_mono (show 4 ≤ 8 by decide) Served state
    apply attainable_step 3 Served state .mainApp
    rw [starts]
    exact run_served { state with isRunAwsIotJobs := true } carried looping outside rfl

/-- After a failed attempt the main task asks for the certificate again. -/
theorem retried_served (state : State) (looping : state.jobs = .loopDelay) (carried : Carried state)
    (failed : state.main = .retryDelay) (demanded : state.enableRefreshProvisionedCert = true) :
    Attainable isEndPointAddress isValid 9 Served state := by
  have retries : cooperate isEndPointAddress isValid state .mainApp =
      { state with main := .loopDelay } := by
    rw [cooperate_main state (by rw [looping]; exact JobsPoint.noConfusion), mainStep, failed]
  have kept : Carried { state with main := .loopDelay } := by
    intro running
    rcases carried running with known | provisioning
    · exact .inl known
    · rw [failed] at provisioning
      cases provisioning
  apply attainable_step 8 Served state .mainApp
  rw [retries]
  exact signalled_served _ kept looping rfl (.inr (.inl demanded))

/-- A wait of the provisioning is answered, or fails and is tried again. -/
theorem awaited_served (state : State) (consistent : Consistent state)
    (looping : state.jobs = .loopDelay)
    (waiting : state.main = .waitCreate ∨ state.main = .waitRegister) :
    Attainable isEndPointAddress isValid 10 Served state := by
  have steps := @cooperate_main isEndPointAddress isValid state
    (by rw [looping]; exact JobsPoint.noConfusion)
  have engaged : mainEngaged state.main = true := by
    rcases waiting with point | point <;> rw [point] <;> rfl
  cases running : state.isMqttRunning with
  | true =>
    have found : isLost state .mainApp = false := by
      rw [isLost, running, Bool.not_true, Bool.and_false]
    have replies := @main_answered isEndPointAddress isValid
      state state found
    have provisions : cooperate isEndPointAddress isValid state .mainApp =
        mainProvisioned state := by
      rcases waiting with point | point
      · rw [steps, mainStep, point]
        exact replies.1
      · rw [steps, mainStep, point]
        exact replies.2
    apply attainable_step 9 Served state .mainApp
    rw [provisions]
    exact attainable_mono (by decide) Served _ (provisioned_served state looping)
  | false =>
    -- The client was closed under the main task, whose wait then fails.
    have fails : cooperate isEndPointAddress isValid state .mainApp = mainFailed state := by
      rcases waiting with point | point
      · rw [steps, mainStep, point]
        simp only [mainWaitCreate, cooperative, reply, isLost, point, running]
        rfl
      · rw [steps, mainStep, point]
        simp only [mainWaitRegister, cooperative, reply, isLost, point, running]
        rfl
    apply attainable_step 9 Served state .mainApp
    rw [fails]
    exact retried_served (mainFailed state) looping (carried_idle _ rfl) rfl
      (consistent.demanded engaged)

/-- Wherever the main task is, the jobs task at the head of its loop is served unless the
start signal was lost. -/
theorem looping_served (state : State) (consistent : Consistent state)
    (free : ¬ Stranded state) (looping : state.jobs = .loopDelay) :
    Attainable isEndPointAddress isValid 10 Served state := by
  have steps := @cooperate_main isEndPointAddress isValid state
    (by rw [looping]; exact JobsPoint.noConfusion)
  cases point : state.main with
  | waitLink =>
    have starts : cooperate isEndPointAddress isValid state .mainApp =
        { state with
          isValidProvisionedCertInfo := isValid && isValid
          enableRefreshProvisionedCert := !(isValid && isValid)
          main := .loopDelay } := by
      rw [steps, mainStep, point]
      rfl
    have kept (running : state.isMqttRunning = true) : jobsLinked state = true := by
      rcases consistent.carried running with known | provisioning
      · exact known
      · rw [point] at provisioning
        cases provisioning
    apply attainable_step 9 Served state .mainApp
    rw [starts]
    refine attainable_mono (by decide) Served _
      (signalled_served _ (fun running => .inl (kept running)) looping rfl ?_)
    cases isValid with
    | true => exact .inr (.inr rfl)
    | false => exact .inr (.inl rfl)
  | loopDelay =>
    refine attainable_mono (by decide) Served state
      (signalled_served state consistent.carried looping point ?_)
    refine Decidable.byContradiction fun unsignalled => ?_
    simp only [not_or, Bool.not_eq_true] at unsignalled
    exact free ⟨point, unsignalled.2.1, unsignalled.2.2, .inr unsignalled.1⟩
  | connectDns =>
    exact attainable_mono (by decide) Served state
      (provisioning_served state looping (.inl point))
  | connectHandshake =>
    exact attainable_mono (by decide) Served state
      (provisioning_served state looping (.inr point))
  | waitCreate => exact awaited_served state consistent looping (.inl point)
  | waitRegister => exact awaited_served state consistent looping (.inr point)
  | retryDelay =>
    exact attainable_mono (by decide) Served state
      (retried_served state looping consistent.carried point
        (consistent.demanded (by rw [point]; rfl)))

/-- A job that is carried out is reported, and the jobs task comes back to its loop. -/
theorem document_returns (before state : State) (carriedOut : Bool) :
    (jobsWaitUpdate carriedOut (cooperative isEndPointAddress isValid before .awsIotJobs)
        state).jobs = .loopDelay ∧
      (jobsDocument (cooperative isEndPointAddress isValid before .awsIotJobs) state).jobs =
        .loopDelay := by
  simp only [jobsDocument, jobsUpdate, jobsWaitUpdate, jobsUpdated, cooperative, reply]
  cases isLost before .awsIotJobs <;> cases carriedOut <;> exact ⟨rfl, rfl⟩

/-- From any of its other delays the jobs task comes back to the head of its loop. -/
theorem jobs_return (state : State) (alive : state.jobs ≠ .rebooted)
    (away : state.jobs ≠ .loopDelay) :
    (cooperate isEndPointAddress isValid state .awsIotJobs).jobs = .loopDelay := by
  have steps := @cooperate_jobs isEndPointAddress isValid state
    alive
  cases point : state.jobs with
  | waitLink => rw [steps, jobsStep, point]; rfl
  | loopDelay => exact absurd point away
  | connectDns => rw [connect_finishes state (.inl point)]
  | connectHandshake => rw [connect_finishes state (.inr point)]
  | failDelay => rw [steps, jobsStep, point]
  | waitGetJob =>
    rw [steps, jobsStep, point]
    dsimp only
    rw [jobsWaitGetJob]
    split
    next pending => exact absurd pending (reply_ends _)
    · rfl
    · rfl
  | waitStartNext =>
    rw [steps, jobsStep, point]
    dsimp only
    rw [jobsWaitStartNext]
    split
    next pending => exact absurd pending (reply_ends _)
    · exact (document_returns state state true).2
    · rfl
  | jobDocument =>
    rw [steps, jobsStep, point]
    exact (document_returns state state true).2
  | waitUpdate carriedOut =>
    rw [steps, jobsStep, point]
    exact (document_returns state state carriedOut).1
  | rebooted => exact absurd point alive

/-- A step of the jobs task away from the head of its loop loses no signal. -/
theorem jobs_step_free (state : State) (alive : state.jobs ≠ .rebooted) (free : ¬ Stranded state)
    (away : state.jobs ≠ .loopDelay) :
    ¬ Stranded (cooperate isEndPointAddress isValid state .awsIotJobs) := by
  rw [cooperate_jobs state alive]
  have effect := jobsStep_effect (cooperative isEndPointAddress isValid state .awsIotJobs) state
  have started : (jobsStep (cooperative isEndPointAddress isValid state .awsIotJobs) state).jobs ≠
      .waitLink := by
    have back := @jobs_return isEndPointAddress isValid state
      alive away
    rw [cooperate_jobs state alive] at back
    rw [back]
    exact JobsPoint.noConfusion
  intro stranded
  have undemanded := stranded.undemanded
  rw [effect.refresh, Bool.or_eq_false_iff] at undemanded
  refine free ⟨effect.main.symm.trans stranded.looping, undemanded.1,
    effect.isValid.symm.trans stranded.invalid, ?_⟩
  by_cases waiting : state.jobs = .waitLink
  · exact .inl waiting
  · have isRun := effect.isRun
    rw [if_neg (fun starting => waiting starting.1)] at isRun
    exact .inr (isRun.symm.trans (stranded.stopped.resolve_left started))

/-- Any state that is not stranded leads to a served jobs task. -/
theorem free_served (state : State) (consistent : Consistent state) (free : ¬ Stranded state)
    (alive : state.jobs ≠ .rebooted) :
    Attainable isEndPointAddress isValid 11 Served state := by
  by_cases looping : state.jobs = .loopDelay
  · exact attainable_mono (by decide) Served state (looping_served state consistent free looping)
  · apply attainable_step 10 Served state .awsIotJobs
    refine looping_served _ ?_ (jobs_step_free state alive free looping)
      (jobs_return state alive looping)
    exact step_consistent state _ consistent

end Schedule

theorem initial_consistent (isRun demanded isValid connected : Bool) :
    Consistent (initial isRun demanded isValid connected) :=
  ⟨carried_idle _ rfl, fun engaged => absurd engaged Bool.false_ne_true, fun _ => rfl,
    fun _ started => absurd rfl started⟩

theorem reached_consistent (isRun demanded isValid connected : Bool)
    (labels : List (Task × Outcomes)) :
    Consistent (execute step (initial isRun demanded isValid connected) labels) :=
  execute_invariant step Consistent (fun _ _ => True)
    (fun state label consistent _ => step_consistent state label consistent) _ labels
    (initial_consistent isRun demanded isValid connected) (along_true step _ labels)

/-- No run leads out of a stranded state. -/
theorem stranded_forever (state : State) (consistent : Consistent state)
    (stranded : Stranded state) (labels : List (Task × Outcomes)) :
    ¬ Served (execute step state labels) := by
  have stays := execute_invariant step (fun state => Consistent state ∧ Stranded state)
    (fun _ _ => True)
    (fun state label before _ =>
      ⟨step_consistent state label before.1, step_stranded state label before.1 before.2⟩)
    state labels ⟨consistent, stranded⟩ (along_true step state labels)
  intro served
  rcases stays.2.stopped with waiting | stopped
  · rw [served.looping] at waiting
    cases waiting
  · rw [served.isRun] at stopped
    cases stopped

/-- A jobs task that starts after the first certificate was fetched is stranded. -/
example : Stranded (execute step (initial false false false false)
    [(.mainApp, { answered with isValidCert := false }), (.mainApp, answered),
      (.awsIotJobs, answered)]) :=
  ⟨by decide, by decide, by decide, .inr (by decide)⟩

end WiznetEaas.Recovery
