import WiznetEaas.IdleTask
import WiznetEaas.MqttSession

/-!
# The three tasks together

The two application tasks go on only while the idle task reports a link and an address.
Where `aws_iot_jobs_task` carries out a job document it may download firmware, and then it
waits inside `http_get`: for the DNS answer before it opens `SOCKET_HTTP`, and for the
server until it closes the socket again. `SOCKET_HTTP` and `SOCKET_DHCP` are one socket, so
whether it was ever in both uses is recorded beside the state.
-/

namespace WiznetEaas.TaskSystem

open Runs MqttSession IdleTask

/-- Where `http_get` of the jobs task waits. In `receiving` the socket is open. -/
inductive DownloadPoint where
  | outside
  | dns
  | receiving
  deriving DecidableEq

/-- What `start_job_document` learns from outside: whether the document is an accepted OTA
job, what its URL names, how the connection goes, whether the request callback still waits,
and whether the job is carried out in the end. -/
structure DownloadOutcomes where
  isOta : Bool
  isHttpUrl : Bool
  isIpaddr : Bool
  dns : Poll
  httpConnect : Bool
  isReceiving : Bool
  isCarriedOut : Bool

/-- A step of `start_job_document`: whether it opens `SOCKET_HTTP`, where `http_get` is
then, its `http_state`, and whether the document is done. -/
structure DownloadResult where
  opened : Bool
  point : DownloadPoint
  isHttpRunning : Bool
  document : Poll
  deriving DecidableEq

def jobResult (isCarriedOut : Bool) : Poll := if isCarriedOut then .done else .failed

/-- `http_get` in the request callback, and its `http_close` when that returns. -/
def httpCallback (outcomes : DownloadOutcomes) : DownloadResult :=
  if outcomes.isReceiving then ⟨false, .receiving, true, .pending⟩
  else ⟨false, .outside, false, jobResult outcomes.isCarriedOut⟩

/-- `http_get` from `http_connect` on, which is closed if the server is not reached. The
download forces HTTP, so `https_connect` is not called. -/
def httpConnect (outcomes : DownloadOutcomes) : DownloadResult :=
  if outcomes.httpConnect then { httpCallback outcomes with opened := true }
  else ⟨true, .outside, false, jobResult outcomes.isCarriedOut⟩

/-- `http_get` from a round of the DNS query on. -/
def httpDns (outcomes : DownloadOutcomes) : DownloadResult :=
  match outcomes.dns with
  | .pending => ⟨false, .dns, true, .pending⟩
  | .failed => ⟨false, .outside, false, .failed⟩
  | .done => httpConnect outcomes

/-- `http_get`, which an earlier request that did not close has blocked. The DNS query
begins with a delay. -/
def httpGet (isHttpRunning : Bool) (outcomes : DownloadOutcomes) : DownloadResult :=
  if isHttpRunning then ⟨false, .outside, true, .failed⟩
  else if !outcomes.isHttpUrl then ⟨false, .outside, true, .failed⟩
  else if outcomes.isIpaddr then httpConnect outcomes
  else ⟨false, .dns, true, .pending⟩

/-- `start_job_document`. Only an OTA job makes a request. -/
def startJobDocument (isHttpRunning : Bool) (outcomes : DownloadOutcomes) : DownloadResult :=
  if outcomes.isOta then httpGet isHttpRunning outcomes
  else ⟨false, .outside, isHttpRunning, jobResult outcomes.isCarriedOut⟩

/-- The document goes on where it waits. -/
def documentStep (point : DownloadPoint) (isHttpRunning : Bool) (outcomes : DownloadOutcomes) :
    DownloadResult :=
  match point with
  | .outside => startJobDocument isHttpRunning outcomes
  | .dns => httpDns outcomes
  | .receiving => httpCallback outcomes

/-- The tasks, the request of the jobs task, and whether the shared socket was ever used
for DHCP and HTTP at once. -/
structure System where
  session : MqttSession.State
  idle : IdleState
  download : DownloadPoint
  isHttpRunning : Bool
  overlapped : Bool
  deriving DecidableEq

/-- The task that runs to its next delay, with what it learns. -/
inductive Label where
  | idle (outcomes : IdleOutcomes)
  | awsIotJobs (outcomes : Outcomes) (download : DownloadOutcomes)
  | mainApp (outcomes : Outcomes)

/-- The application tasks read the link and the address from the flags of the idle task. -/
def linked (system : System) (outcomes : Outcomes) : Outcomes :=
  { outcomes with isLinkUp := system.idle.isWizChipLinkUp && system.idle.isDhcpDone }

/-- The step of the jobs task comes to `start_job_document`, or goes on in it: it would end
there if the document were not done. -/
def reachesDocument (system : System) (outcomes : Outcomes) : Bool :=
  (jobsStep { linked system outcomes with document := .pending } system.session).jobs ==
    .jobDocument

/-- The socket is open while the request callback waits. -/
def System.httpOpen (system : System) : Bool := system.download == .receiving

/-- `dhcp_process` has called `DHCP_init` and waits for the address. -/
def System.dhcpInside (system : System) : Bool := system.idle.point.inDhcpProcess

/-- A step of the idle task. The socket is shared if DHCP works on an open one. -/
def stepIdle (outcomes : IdleOutcomes) (system : System) : System :=
  let result := idleStep outcomes system.idle
  { system with
    idle := result.state
    overlapped := (system.overlapped ||
      system.httpOpen && (!result.calls.isEmpty || result.state.point.inDhcpProcess)) }

/-- What the jobs task learns, the progress of the document among it. -/
def documented (system : System) (outcomes : Outcomes) (download : DownloadOutcomes) : Outcomes :=
  { linked system outcomes with
    document := (documentStep system.download system.isHttpRunning download).document }

/-- A step of the jobs task. The socket is shared if `http_get` opens it while
`dhcp_process` waits. -/
def stepJobs (outcomes : Outcomes) (download : DownloadOutcomes) (system : System) : System :=
  let session := jobsStep (documented system outcomes download) system.session
  if reachesDocument system outcomes then
    let result := documentStep system.download system.isHttpRunning download
    { system with
      session := session
      download := result.point
      isHttpRunning := result.isHttpRunning
      overlapped := (system.overlapped || result.opened && system.dhcpInside) }
  else { system with session := session }

/-- A step of the main task. -/
def stepMain (outcomes : Outcomes) (system : System) : System :=
  { system with session := mainStep (linked system outcomes) system.session }

/-- The scheduler picks a task. After the reboot nothing runs. -/
def step (system : System) (label : Label) : System :=
  if system.session.jobs = .rebooted then system
  else match label with
    | .idle outcomes => stepIdle outcomes system
    | .awsIotJobs outcomes download => stepJobs outcomes download system
    | .mainApp outcomes => stepMain outcomes system

/-- The system at the start of the scheduler, after `clearAppFlags`. The flags that
it does not clear come from flash. -/
def System.initial (enableRefreshProvisionedCert isJobsConnected : Bool)
    (refreshDhcpTimeStamp : UInt32) : System where
  session := MqttSession.initial false enableRefreshProvisionedCert false isJobsConnected
  idle := .initial refreshDhcpTimeStamp
  download := .outside
  isHttpRunning := false
  overlapped := false

/-- What a label makes the application tasks do. -/
def sessionLabel (system : System) : Label → Option (Task × Outcomes)
  | .idle _ => none
  | .awsIotJobs outcomes download => some (.awsIotJobs, documented system outcomes download)
  | .mainApp outcomes => some (.mainApp, linked system outcomes)

theorem stepJobs_session (outcomes : Outcomes) (download : DownloadOutcomes) (system : System) :
    (stepJobs outcomes download system).session =
      jobsStep (documented system outcomes download) system.session := by
  simp only [stepJobs]
  split <;> rfl

/-- The session moves by its own steps. -/
theorem step_session (system : System) (label : Label) :
    (step system label).session =
      match sessionLabel system label with
      | none => system.session
      | some move => MqttSession.step system.session move := by
  simp only [step]
  split
  next rebooted => cases label <;> simp [sessionLabel, MqttSession.step, rebooted]
  next alive =>
    cases label with
    | idle outcomes => rfl
    | awsIotJobs outcomes download =>
      simp only [sessionLabel, MqttSession.step, if_neg alive]
      exact stepJobs_session outcomes download system
    | mainApp outcomes =>
      simp only [sessionLabel, MqttSession.step, if_neg alive]
      rfl

/-- So a run of the three tasks is one of the two application tasks. -/
theorem execute_session (system : System) (labels : List Label) :
    ∃ moves, (execute step system labels).session =
      execute MqttSession.step system.session moves := by
  induction labels generalizing system with
  | nil => exact ⟨[], rfl⟩
  | cons label rest ih =>
    obtain ⟨moves, later⟩ := ih (step system label)
    have first := step_session system label
    cases moved : sessionLabel system label with
    | none =>
      rw [moved] at first
      exact ⟨moves, by rw [execute, later, first]⟩
    | some move =>
      rw [moved] at first
      exact ⟨move :: moves, by rw [execute, later, first, execute]⟩

/-- The link is on and the address is static. -/
def staticAddress : IdleOutcomes where
  isPhyLinkOn := true
  currentTimeStamp := 0
  startTimeStamp := 0
  doneTimeStamp := 0
  isNetInfoDhcp := false
  dhcpRun := .other
  dhcpLeaseTimeS := 4294967295

/-- No document is worked on. -/
def noDownload : DownloadOutcomes where
  isOta := false
  isHttpUrl := false
  isIpaddr := false
  dns := .pending
  httpConnect := false
  isReceiving := false
  isCarriedOut := true

end WiznetEaas.TaskSystem
