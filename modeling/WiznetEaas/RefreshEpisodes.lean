import WiznetEaas.TaskFlags

/-!
# How often failures ask for new credentials

The counter of failed connects is a variable of the jobs task. It starts anew after a
successful connect only, so after the main task has fetched new credentials it still holds
the failures that had asked for them. The failures after the last success are recorded
beside the state: a demand is deserved when more of them than the limit were counted.
-/

namespace WiznetEaas.RefreshEpisodes

open Runs MqttSession SessionOwnership TaskFlags

/-- The main task clears the demand after a successful `fleet_provisioning_handle`. -/
def clears (state : State) (label : Task × Outcomes) : Bool :=
  label.1 == .mainApp && state.main != .waitLink && state.enableRefreshProvisionedCert &&
    !(step state label).enableRefreshProvisionedCert

/-- The demand is raised. -/
def raises (state : State) (label : Task × Outcomes) : Bool :=
  !state.enableRefreshProvisionedCert && (step state label).enableRefreshProvisionedCert

/-- The system with the failed calls of `iot_jobs_connect_procedure` in a row that were made
and counted after the last success of the main task, and whether the last call was made
after it. -/
structure Episode where
  state : State
  failures : Option Nat
  madeAfter : Bool

/-- The record of the failures after a step. -/
def failuresAfter (episode : Episode) (label : Task × Outcomes) : Option Nat :=
  if clears episode.state label then some 0
  else if label.1 = .awsIotJobs ∧ episode.state.jobs = .failDelay then
    if episode.madeAfter then episode.failures.map (· + 1) else episode.failures
  else if label.1 = .awsIotJobs ∧ connectReturns label.2 episode.state = some true then
    episode.failures.map fun _ => 0
  else episode.failures

def stepEpisode (episode : Episode) (label : Task × Outcomes) : Episode where
  state := step episode.state label
  failures := failuresAfter episode label
  madeAfter := !clears episode.state label &&
    (episode.madeAfter || label.1 == .awsIotJobs && connectBegins label.2 episode.state)

/-- Before the tasks run. -/
def Episode.initial (isRunAwsIotJobs enableRefreshProvisionedCert isValidProvisionedCertInfo
    isJobsConnected : Bool) : Episode where
  state := MqttSession.initial isRunAwsIotJobs enableRefreshProvisionedCert
    isValidProvisionedCertInfo isJobsConnected
  failures := none
  madeAfter := false

/-- After a success the demand is raised only for more failures than the limit. -/
def Deserved (episode : Episode) (label : Task × Outcomes) : Prop :=
  raises episode.state label = true →
    ∀ count ∈ episode.failures, iotJobsMaxConnectFailCount < count

/-- A success finds the counter at zero and no connect under way. -/
def FreshCounter (episode : Episode) (label : Task × Outcomes) : Prop :=
  clears episode.state label = true →
    episode.state.connectFailCount = 0 ∧ connectPending episode.state.jobs = false

/-- After a success the counter holds no other failures than those recorded. -/
structure Counted (episode : Episode) : Prop where
  started : ∀ count ∈ episode.failures, episode.state.main ≠ .waitLink
  bounded : ∀ count ∈ episode.failures, episode.state.connectFailCount ≤ count
  pending : episode.failures ≠ none → connectPending episode.state.jobs = true →
    episode.madeAfter = true

/-- A started main task stays started. -/
theorem started_kept (state after : State) (effect : MainEffect state after)
    (started : state.main ≠ .waitLink) : after.main ≠ .waitLink := by
  cases effect with
  | waits same => exact same.main ▸ started
  | starts starting => exact absurd starting started
  | provisions demanded engaged refresh isValid =>
    intro stopped
    rw [stopped] at engaged
    cases engaged
  | retries failed looping => simp [looping]
  | succeeds demanded looping => simp [looping]
  | runs looping same =>
    rw [same]
    exact started

/-- A started main task does not raise the demand. -/
theorem main_raises_nothing (state after : State) (effect : MainEffect state after)
    (started : state.main ≠ .waitLink) (calm : state.enableRefreshProvisionedCert = false) :
    after.enableRefreshProvisionedCert = false := by
  cases effect with
  | waits same => exact same.refresh.trans calm
  | starts starting => exact absurd starting started
  | provisions demanded engaged refresh isValid => exact refresh.trans calm
  | retries failed looping isRun refresh isValid => exact refresh.trans calm
  | succeeds demanded looping isRun refresh isValid => exact refresh
  | runs looping same =>
    rw [same]
    exact calm

/-- What a step of the jobs task does to the record. -/
theorem jobs_recorded (episode : Episode) (outcomes : Outcomes) :
    (stepEpisode episode (.awsIotJobs, outcomes)).failures =
      if episode.state.jobs = .failDelay then
        if episode.madeAfter then episode.failures.map (· + 1) else episode.failures
      else if connectReturns outcomes episode.state = some true then episode.failures.map fun _ => 0
      else episode.failures := by
  have unclear : clears episode.state (.awsIotJobs, outcomes) = false := rfl
  simp [stepEpisode, failuresAfter, unclear]

/-- A step of the jobs task begins no record. -/
theorem jobs_record_begun (episode : Episode) (outcomes : Outcomes)
    (recorded : (stepEpisode episode (.awsIotJobs, outcomes)).failures ≠ none) :
    ∃ failures, episode.failures = some failures := by
  cases held : episode.failures with
  | none =>
    rw [jobs_recorded, held] at recorded
    split at recorded
    · split at recorded <;> exact absurd rfl recorded
    · split at recorded <;> exact absurd rfl recorded
  | some failures => exact ⟨failures, rfl⟩

/-- The counter stays within the record: both count a failure, or both start anew. -/
theorem jobs_bounded (episode : Episode) (outcomes : Outcomes) (counted : Counted episode)
    (alive : episode.state.jobs ≠ .rebooted) :
    ∀ count ∈ (stepEpisode episode (.awsIotJobs, outcomes)).failures,
      (stepEpisode episode (.awsIotJobs, outcomes)).state.connectFailCount ≤ count := by
  intro count member
  obtain ⟨failures, held⟩ := jobs_record_begun episode outcomes (by simp [Option.mem_def.mp member])
  have within : episode.state.connectFailCount ≤ failures := counted.bounded failures held
  have counter : (stepEpisode episode (.awsIotJobs, outcomes)).state.connectFailCount = _ :=
    (congrArg State.connectFailCount (step_jobs outcomes episode.state alive)).trans
      (jobsStep_effect outcomes episode.state).count
  rw [counter]
  rw [jobs_recorded, held] at member
  split at member
  next failed =>
    have made : episode.madeAfter = true :=
      counted.pending (by simp [held]) (by rw [failed]; rfl)
    rw [if_pos made] at member
    cases member
    rw [if_pos failed]
    have wraps : (episode.state.connectFailCount + 1) % 65536 ≤
        episode.state.connectFailCount + 1 := Nat.mod_le _ _
    exact Nat.le_trans wraps (Nat.succ_le_succ within)
  next going =>
    rw [if_neg going]
    split at member
    next connected =>
      rw [if_pos connected]
      exact Nat.zero_le count
    next unconnected =>
      rw [if_neg unconnected]
      cases member
      exact within

/-- A call under way after a step was made after the success, or is begun in the step. -/
theorem jobs_pending (episode : Episode) (outcomes : Outcomes) (counted : Counted episode)
    (alive : episode.state.jobs ≠ .rebooted)
    (recorded : (stepEpisode episode (.awsIotJobs, outcomes)).failures ≠ none)
    (pending : connectPending (stepEpisode episode (.awsIotJobs, outcomes)).state.jobs = true) :
    (stepEpisode episode (.awsIotJobs, outcomes)).madeAfter = true := by
  obtain ⟨failures, held⟩ := jobs_record_begun episode outcomes recorded
  have under := (jobsStep_effect outcomes episode.state).pending
    (step_jobs outcomes episode.state alive ▸ pending)
  have earlier (inside : connectPending episode.state.jobs = true) : episode.madeAfter = true :=
    counted.pending (by simp [held]) inside
  have made : episode.madeAfter = true ∨ connectBegins outcomes episode.state = true := by
    rcases under with begins | point | point
    · exact .inr begins
    · exact .inl (earlier (by rw [point]; rfl))
    · exact .inl (earlier (by rw [point]; rfl))
  have unclear : clears episode.state (.awsIotJobs, outcomes) = false := rfl
  rcases made with made | begins
  · simp [stepEpisode, unclear, made]
  · simp [stepEpisode, unclear, begins]

/-- A step of the jobs task counts the failures it records. -/
theorem jobs_counted (episode : Episode) (outcomes : Outcomes) (counted : Counted episode)
    (alive : episode.state.jobs ≠ .rebooted) :
    Counted (stepEpisode episode (.awsIotJobs, outcomes)) := by
  constructor
  · intro count member
    obtain ⟨failures, held⟩ :=
      jobs_record_begun episode outcomes (by simp [Option.mem_def.mp member])
    have main : (stepEpisode episode (.awsIotJobs, outcomes)).state.main = episode.state.main :=
      (congrArg State.main (step_jobs outcomes episode.state alive)).trans
        (jobsStep_effect outcomes episode.state).main
    rw [main]
    exact counted.started failures held
  · exact jobs_bounded episode outcomes counted alive
  · exact jobs_pending episode outcomes counted alive

/-- A success at a fresh counter begins a new record. -/
theorem success_counted (episode : Episode) (outcomes : Outcomes)
    (success : clears episode.state (.mainApp, outcomes) = true)
    (fresh : FreshCounter episode (.mainApp, outcomes))
    (started : (stepEpisode episode (.mainApp, outcomes)).state.main ≠ .waitLink)
    (kept : JobsKept episode.state (stepEpisode episode (.mainApp, outcomes)).state) :
    Counted (stepEpisode episode (.mainApp, outcomes)) := by
  obtain ⟨zero, idle⟩ := fresh success
  constructor
  · intro failures _
    exact started
  · intro failures _
    rw [kept.count, zero]
    exact Nat.zero_le failures
  · intro _ pending
    rw [kept.jobs, idle] at pending
    cases pending

/-- A step of the main task that clears the demand at a fresh counter begins a new record. -/
theorem main_counted (episode : Episode) (outcomes : Outcomes) (counted : Counted episode)
    (fresh : FreshCounter episode (.mainApp, outcomes))
    (alive : episode.state.jobs ≠ .rebooted) :
    Counted (stepEpisode episode (.mainApp, outcomes)) := by
  have moves : (stepEpisode episode (.mainApp, outcomes)).state = mainStep outcomes episode.state :=
    step_main outcomes episode.state alive
  obtain ⟨effect, kept⟩ := mainStep_effect outcomes episode.state
  rw [← moves] at effect kept
  by_cases success : clears episode.state (.mainApp, outcomes) = true
  · have before : episode.state.main ≠ .waitLink := by
      have holds := success
      simp only [clears, Bool.and_eq_true, bne_iff_ne] at holds
      exact holds.1.1.2
    exact success_counted episode outcomes success fresh (started_kept _ _ effect before) kept
  · have recorded : (stepEpisode episode (.mainApp, outcomes)).failures = episode.failures := by
      simp [stepEpisode, failuresAfter, success]
    have made : (stepEpisode episode (.mainApp, outcomes)).madeAfter = episode.madeAfter := by
      simp [stepEpisode, success]
    constructor
    · intro failures member
      rw [recorded] at member
      exact started_kept _ _ effect (counted.started failures member)
    · intro failures member
      rw [recorded] at member
      rw [kept.count]
      exact counted.bounded failures member
    · intro some pending
      rw [recorded] at some
      rw [kept.jobs] at pending
      rw [made]
      exact counted.pending some pending

theorem step_counted (episode : Episode) (label : Task × Outcomes) (counted : Counted episode)
    (fresh : FreshCounter episode label) : Counted (stepEpisode episode label) := by
  obtain ⟨task, outcomes⟩ := label
  by_cases rebooted : episode.state.jobs = .rebooted
  · have still : step episode.state (task, outcomes) = episode.state := by rw [step, if_pos rebooted]
    have unclear : clears episode.state (task, outcomes) = false := by
      rw [clears, still]
      cases episode.state.enableRefreshProvisionedCert <;> simp
    have silent : connectReturns outcomes episode.state = none := by rw [connectReturns, rebooted]
    have same : (stepEpisode episode (task, outcomes)).failures = episode.failures := by
      simp [stepEpisode, failuresAfter, unclear, silent, rebooted]
    have state : (stepEpisode episode (task, outcomes)).state = episode.state := still
    constructor
    · intro count member
      rw [same] at member
      rw [state]
      exact counted.started count member
    · intro count member
      rw [same] at member
      rw [state]
      exact counted.bounded count member
    · intro some pending
      rw [state, rebooted] at pending
      cases pending
  · cases task with
    | awsIotJobs => exact jobs_counted episode outcomes counted rebooted
    | mainApp => exact main_counted episode outcomes counted fresh rebooted

/-- A demand that counts only what was recorded is deserved. -/
theorem counted_deserved (episode : Episode) (label : Task × Outcomes) (counted : Counted episode) :
    Deserved episode label := by
  obtain ⟨task, outcomes⟩ := label
  intro raised count member
  simp only [raises, Bool.and_eq_true, Bool.not_eq_true'] at raised
  obtain ⟨calm, up⟩ := raised
  by_cases rebooted : episode.state.jobs = .rebooted
  · rw [step, if_pos rebooted, calm] at up
    cases up
  · rw [step, if_neg rebooted] at up
    cases task with
    | awsIotJobs =>
      rw [(jobsStep_effect outcomes episode.state).refresh, calm, Bool.false_or, demandsRefresh,
        Bool.and_eq_true, decide_eq_true_iff] at up
      exact Nat.lt_of_lt_of_le up.2 (counted.bounded count member)
    | mainApp =>
      rw [main_raises_nothing _ _ (mainStep_effect outcomes episode.state).1
        (counted.started count member) calm] at up
      cases up

/-- In a run whose successes all find the counter at zero and no connect under way, the
demand is raised again only after more failures than the limit, made and counted after the
success. -/
theorem refresh_once_an_episode
    (isRun enabled isValid connected : Bool) (labels : List (Task × Outcomes))
    (fresh : Along stepEpisode FreshCounter (.initial isRun enabled isValid connected) labels) :
    Along stepEpisode Deserved (.initial isRun enabled isValid connected) labels := by
  apply along_invariant stepEpisode Counted FreshCounter Deserved step_counted _ _ _ _ fresh
  · intro episode label counted _
    exact counted_deserved episode label counted
  · exact ⟨nofun, nofun, fun some _ => absurd rfl some⟩

/-- A success that finds the counter above its limit, with the jobs task in its loop, is
followed by a demand for which nothing was recorded. -/
theorem stale_counter_raises (episode : Episode) (label : Task × Outcomes) (outcomes : Outcomes)
    (success : clears episode.state label = true)
    (looping : episode.state.jobs = .loopDelay) (up : outcomes.isLinkUp = true)
    (beyond : iotJobsMaxConnectFailCount < episode.state.connectFailCount) :
    ¬ Along stepEpisode Deserved episode [label, (.awsIotJobs, outcomes)] := by
  obtain ⟨task, provisioning⟩ := label
  rintro ⟨_, deserved, _⟩
  have alive : episode.state.jobs ≠ .rebooted := by simp [looping]
  have cleared := success
  simp only [clears, Bool.and_eq_true, beq_iff_eq, Bool.not_eq_true'] at cleared
  obtain ⟨⟨⟨rfl, _⟩, _⟩, down⟩ := cleared
  obtain ⟨_, kept⟩ := mainStep_effect provisioning episode.state
  have moves := step_main provisioning episode.state alive
  have later : (step episode.state (.mainApp, provisioning)).jobs = .loopDelay := by
    rw [moves, kept.jobs, looping]
  have demand : demandsRefresh outcomes (step episode.state (.mainApp, provisioning)) = true := by
    simp only [demandsRefresh, later, up, beq_self_eq_true, Bool.true_and, decide_eq_true_iff]
    rw [moves, kept.count]
    exact beyond
  have raised : raises (stepEpisode episode (.mainApp, provisioning)).state
      (.awsIotJobs, outcomes) = true := by
    have next := step_jobs outcomes (step episode.state (.mainApp, provisioning)) (by simp [later])
    simp only [raises, stepEpisode, down, Bool.not_false, Bool.true_and]
    rw [next, (jobsStep_effect outcomes _).refresh, demand, Bool.or_true]
  have none := deserved raised 0 (by simp [stepEpisode, failuresAfter, success])
  exact absurd none (by decide)

instance (episode : Episode) (label : Task × Outcomes) : Decidable (Deserved episode label) :=
  inferInstanceAs (Decidable (_ → ∀ count ∈ episode.failures, iotJobsMaxConnectFailCount < count))

instance (episode : Episode) (label : Task × Outcomes) : Decidable (FreshCounter episode label) :=
  inferInstanceAs (Decidable (_ → _ ∧ _))

/-- The device starts without a certificate and fetches one. Then six connects fail, and the
next iteration asks for another. -/
theorem first_certificate_deserved :
    Along stepEpisode Deserved (.initial false false false false)
      ([(.mainApp, { silent with isValidCert := false }), (.mainApp, answered),
        (.awsIotJobs, silent), (.mainApp, { silent with isValidCert := false })] ++
        (List.replicate 6 failedAttempt).flatten ++ [(.awsIotJobs, silent)]) :=
  refresh_once_an_episode false false false false _ (by decide +kernel)

/-- Six connects fail, and the first instruction of a seventh iteration raises the demand.
Its connect fails too, then the main task fetches new credentials. The jobs task counts the
seventh failure and asks again at once. -/
theorem demand_follows_success :
    ¬ Along stepEpisode Deserved (.initial false false false false)
      ([(.awsIotJobs, silent), (.mainApp, silent), (.mainApp, silent)] ++
        (List.replicate 6 failedAttempt).flatten ++
        [(.awsIotJobs, { silent with isEndPointAddress := true }), (.mainApp, answered),
          (.awsIotJobs, silent), (.awsIotJobs, silent)]) := by
  decide +kernel

end WiznetEaas.RefreshEpisodes
