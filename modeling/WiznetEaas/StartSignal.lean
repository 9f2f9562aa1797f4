import WiznetEaas.TaskFlags
import WiznetEaas.TaskSystem

/-!
# Whether the jobs are started

The main task starts the jobs by a flag that the jobs task lowers when it starts up itself.
A device whose stored certificate is valid raises the flag again in each iteration. One that
has just fetched a certificate does not, so the jobs task must have started up before.
-/

namespace WiznetEaas.StartSignal

open Runs MqttSession SessionOwnership TaskFlags IdleTask TaskSystem

/-- The jobs run, a new certificate is demanded, or the stored one is valid. -/
def Signalled (state : State) : Prop :=
  state.isRunAwsIotJobs = true ∨ state.enableRefreshProvisionedCert = true ∨
    state.isValidProvisionedCertInfo = true

/-- At the head of its loop the main task finds a signal. -/
def SignalKept (system : System) : Prop :=
  system.session.main = .loopDelay → Signalled system.session

/-- The link and the address are reported. -/
def isOnline (system : System) : Bool := system.idle.isWizChipLinkUp && system.idle.isDhcpDone

/-- The jobs task leaves its start-up wait. -/
def jobsStarts (system : System) : Label → Bool
  | .awsIotJobs _ _ => system.session.jobs == .waitLink && isOnline system
  | _ => false

/-- Where the jobs task starts up the main task has not finished its first provisioning: it
waits for the link, or has a valid certificate, or the demand stands. -/
def StartsInTime (system : System) (label : Label) : Prop :=
  jobsStarts system label = true → system.session.main = .loopDelay →
    system.session.enableRefreshProvisionedCert = true ∨
      system.session.isValidProvisionedCertInfo = true

/-- A signal at the head of the loop, and the demand while the main task provisions. -/
structure Guarded (state : State) : Prop where
  signalled : state.main = .loopDelay → Signalled state
  demanded : mainEngaged state.main = true → state.enableRefreshProvisionedCert = true

/-- The main task keeps the signal. -/
theorem main_guarded (state after : State) (effect : MainEffect state after)
    (guarded : Guarded state) : Guarded after := by
  have refreshing (demanded : state.main = .loopDelay ∧ state.enableRefreshProvisionedCert = true ∨
      mainEngaged state.main = true) : state.enableRefreshProvisionedCert = true := by
    rcases demanded with ⟨_, demand⟩ | engaged
    · exact demand
    · exact guarded.demanded engaged
  cases effect with
  | waits same =>
    constructor
    · intro looping
      rw [Signalled, same.isRun, same.refresh, same.isValid]
      exact guarded.signalled (same.main ▸ looping)
    · intro engaged
      rw [same.refresh]
      exact guarded.demanded (same.main ▸ engaged)
  | starts starting looping isRun refresh =>
    constructor
    · intro _
      cases valid : after.isValidProvisionedCertInfo with
      | true => exact .inr (.inr valid)
      | false => exact .inr (.inl (by rw [refresh, valid]; rfl))
    · intro engaged
      rw [looping] at engaged
      cases engaged
  | provisions demanded engaged refresh isValid =>
    have demand : after.enableRefreshProvisionedCert = true := refresh.trans (refreshing demanded)
    exact ⟨fun _ => .inr (.inl demand), fun _ => demand⟩
  | retries failed looping isRun refresh isValid =>
    have demand : after.enableRefreshProvisionedCert = true :=
      refresh.trans (guarded.demanded (by rw [failed]; rfl))
    exact ⟨fun _ => .inr (.inl demand), fun _ => demand⟩
  | succeeds demanded looping isRun refresh isValid =>
    constructor
    · intro _
      exact .inl isRun
    · intro engaged
      rw [looping] at engaged
      cases engaged
  | runs looping same =>
    subst same
    constructor
    · intro _
      exact .inl rfl
    · intro engaged
      rw [show State.main _ = state.main from rfl, looping] at engaged
      cases engaged

/-- The jobs task lowers a signal only where it starts up. -/
theorem jobs_guarded (outcomes : Outcomes) (state after : State)
    (effect : JobsEffect outcomes state after) (guarded : Guarded state)
    (inTime : state.jobs = .waitLink → outcomes.isLinkUp = true → state.main = .loopDelay →
      state.enableRefreshProvisionedCert = true ∨ state.isValidProvisionedCertInfo = true) :
    Guarded after := by
  have demand (raised : state.enableRefreshProvisionedCert = true) :
      after.enableRefreshProvisionedCert = true := by
    rw [effect.refresh, raised, Bool.true_or]
  constructor
  · intro looping
    rw [effect.main] at looping
    by_cases starting : state.jobs = .waitLink ∧ outcomes.isLinkUp = true
    · rcases inTime starting.1 starting.2 looping with raised | valid
      · exact .inr (.inl (demand raised))
      · exact .inr (.inr (effect.isValid.trans valid))
    · rcases guarded.signalled looping with running | raised | valid
      · refine .inl ?_
        rw [effect.isRun, if_neg starting]
        exact running
      · exact .inr (.inl (demand raised))
      · exact .inr (.inr (effect.isValid.trans valid))
  · intro engaged
    rw [effect.main] at engaged
    exact demand (guarded.demanded engaged)

/-- A step keeps the signal unless the jobs task starts up too late. -/
theorem step_guarded (system : System) (label : Label) (guarded : Guarded system.session)
    (inTime : StartsInTime system label) : Guarded (TaskSystem.step system label).session := by
  rw [step_session]
  cases label with
  | idle outcomes => exact guarded
  | awsIotJobs outcomes download =>
    simp only [sessionLabel, MqttSession.step]
    split
    · exact guarded
    · refine jobs_guarded _ _ _ (jobsStep_effect _ system.session) guarded ?_
      intro waiting up
      apply inTime
      simp only [jobsStarts, waiting, beq_self_eq_true, Bool.true_and]
      exact up
  | mainApp outcomes =>
    simp only [sessionLabel, MqttSession.step]
    split
    · exact guarded
    · exact main_guarded _ _ (mainStep_effect _ system.session).1 guarded

/-- A step that leaves a signal was in time. -/
theorem startsInTime_of_kept (system : System) (label : Label)
    (kept : SignalKept (TaskSystem.step system label)) : StartsInTime system label := by
  intro starts looping
  cases label with
  | idle outcomes => cases starts
  | mainApp outcomes => cases starts
  | awsIotJobs outcomes download =>
    simp only [jobsStarts, Bool.and_eq_true, beq_iff_eq] at starts
    obtain ⟨waiting, up⟩ := starts
    have effect := jobsStep_effect (documented system outcomes download) system.session
    have calm : demandsRefresh (documented system outcomes download) system.session = false := by
      simp [demandsRefresh, waiting]
    have moves : (TaskSystem.step system (.awsIotJobs outcomes download)).session =
        jobsStep (documented system outcomes download) system.session := by
      rw [step_session]
      simp [sessionLabel, MqttSession.step, waiting]
    have lowered : (jobsStep (documented system outcomes download)
        system.session).isRunAwsIotJobs = false := by
      rw [effect.isRun, if_pos ⟨waiting, up⟩]
    rw [SignalKept, moves] at kept
    rcases kept (effect.main.trans looping) with running | raised | valid
    · rw [lowered] at running
      cases running
    · rw [effect.refresh, calm, Bool.or_false] at raised
      exact .inl raised
    · exact .inr (effect.isValid.symm.trans valid)

/-- In every state of a run the main task finds a signal at the head of its loop exactly
when the jobs task starts up in time. -/
theorem start_signal_kept_iff (enabled connected : Bool) (timeStamp : UInt32)
    (labels : List Label) :
    (∀ reached ∈ visited TaskSystem.step (.initial enabled connected timeStamp) labels,
        SignalKept reached) ↔
      Along TaskSystem.step StartsInTime (.initial enabled connected timeStamp) labels := by
  rw [forall_visited]
  constructor
  · rintro ⟨_, kept⟩
    refine along_invariant TaskSystem.step (fun _ => True) _ StartsInTime
      (fun _ _ _ _ => True.intro) ?_ _ labels True.intro kept
    intro system label _ keptAfter
    exact startsInTime_of_kept system label keptAfter
  · intro inTime
    refine ⟨nofun, ?_⟩
    refine along_invariant TaskSystem.step (fun system => Guarded system.session) StartsInTime _
      step_guarded ?_ _ labels ⟨nofun, nofun⟩ inTime
    intro system label guarded allowed
    exact (step_guarded system label guarded allowed).signalled

/-- No signal, and both tasks at the heads of their loops. -/
structure Lost (state : State) : Prop where
  jobs : state.jobs = .loopDelay
  main : state.main = .loopDelay
  stopped : state.isRunAwsIotJobs = false
  calm : state.enableRefreshProvisionedCert = false
  invalid : state.isValidProvisionedCertInfo = false
  unconnected : state.isJobsConnected = false
  few : state.connectFailCount ≤ iotJobsMaxConnectFailCount

/-- A lost signal does not come back: neither task does anything again. -/
theorem lost_stays (state : State) (move : Task × Outcomes) (lost : Lost state) :
    MqttSession.step state move = state := by
  obtain ⟨task, outcomes⟩ := move
  have within : ¬ iotJobsMaxConnectFailCount < state.connectFailCount := by
    have few := lost.few
    omega
  cases task with
  | awsIotJobs =>
    simp [MqttSession.step, jobsStep, jobsIterate, raiseRefresh, lost.jobs, lost.stopped,
      lost.unconnected, within]
  | mainApp =>
    simp [MqttSession.step, mainStep, mainIterate, lost.jobs, lost.main, lost.calm, lost.invalid]

/-- A late start-up of the jobs task, whose counter then is zero, loses the signal. -/
theorem late_start_loses (system : System) (label : Label)
    (fresh : system.session.connectFailCount = 0) (late : ¬ StartsInTime system label) :
    Lost (TaskSystem.step system label).session := by
  simp only [StartsInTime, Classical.not_imp, not_or, Bool.not_eq_true] at late
  obtain ⟨starts, looping, calm, invalid⟩ := late
  cases label with
  | idle outcomes => cases starts
  | mainApp outcomes => cases starts
  | awsIotJobs outcomes download =>
    simp only [jobsStarts, Bool.and_eq_true, beq_iff_eq] at starts
    obtain ⟨waiting, up⟩ := starts
    have moves : (TaskSystem.step system (.awsIotJobs outcomes download)).session =
        { system.session with
          isJobsConnected := false, isRunAwsIotJobs := false, jobs := .loopDelay } := by
      rw [step_session]
      simp only [sessionLabel, MqttSession.step, waiting, jobsStep]
      exact if_pos up
    rw [moves]
    exact ⟨rfl, looping, rfl, calm, invalid, rfl, by simp [fresh]⟩

/-- Then no job is ever run. -/
theorem lost_forever (system : System) (labels : List Label) (lost : Lost system.session) :
    (execute TaskSystem.step system labels).session = system.session := by
  obtain ⟨moves, same⟩ := execute_session system labels
  rw [same]
  refine execute_invariant MqttSession.step (· = system.session) (fun _ _ => True) ?_
    system.session moves rfl (along_true _ _ moves)
  rintro _ move rfl _
  exact lost_stays system.session move lost

instance (system : System) (label : Label) : Decidable (StartsInTime system label) :=
  inferInstanceAs (Decidable (_ → _ → _ ∨ _))

instance (system : System) : Decidable (SignalKept system) :=
  inferInstanceAs (Decidable (_ → _ ∨ _ ∨ _))

/-- The main task starts up without a certificate. The jobs task polls while the link is
off, and after that the main task fetches a certificate. -/
def lateStart : List Label :=
  [.idle staticAddress, .mainApp { silent with isValidCert := false },
    .idle { staticAddress with isPhyLinkOn := false }, .awsIotJobs silent noDownload,
    .idle staticAddress, .mainApp answered, .awsIotJobs silent noDownload]

/-- Then the jobs task starts up, and lowers the flag that the main task has just raised. -/
theorem late_start_loses_signal :
    ¬ ∀ reached ∈ visited TaskSystem.step (.initial false false 0) lateStart,
      SignalKept reached := by
  decide +kernel

end WiznetEaas.StartSignal
