import WiznetEaas.TaskFlags
import WiznetEaas.TaskSystem

/-!
# One socket for DHCP and HTTP

`SOCKET_HTTP` and `SOCKET_DHCP` have one number because the chip has four sockets. The
application tasks look for an address at the heads of their loops only, and the idle task
looks for no request at all. So the socket is in both uses exactly when DHCP becomes due
during a download, or a download opens the socket while `dhcp_process` waits.
-/

namespace WiznetEaas.SocketSharing

open Runs MqttSession SessionOwnership TaskFlags IdleTask TaskSystem

/-- DHCP becomes due, by the end of the lease or a new link, while the socket is open. -/
def DhcpIntrudes (system : System) : Label → Prop
  | .idle outcomes => system.httpOpen = true ∧ DhcpDue outcomes system.idle
  | _ => False

/-- The request is to a known address, or its DNS query is answered. -/
def requestsServer (point : DownloadPoint) (isHttpRunning : Bool) (outcomes : DownloadOutcomes) :
    Bool :=
  match point with
  | .outside => outcomes.isOta && !isHttpRunning && outcomes.isHttpUrl && outcomes.isIpaddr
  | .dns => outcomes.dns == .done
  | .receiving => false

/-- A download opens the socket while `dhcp_process` waits. -/
def HttpIntrudes (system : System) : Label → Prop
  | .awsIotJobs outcomes download =>
    system.dhcpInside = true ∧ reachesDocument system outcomes = true ∧
      requestsServer system.download system.isHttpRunning download = true
  | _ => False

/-- Neither use breaks into the other. -/
def KeptApart (system : System) (label : Label) : Prop :=
  system.session.jobs ≠ .rebooted → ¬ DhcpIntrudes system label ∧ ¬ HttpIntrudes system label

/-- At most one use of the socket is in progress. -/
structure Separate (system : System) : Prop where
  untouched : system.overlapped = false
  apart : system.httpOpen = true → system.dhcpInside = false

theorem httpConnect_opens (outcomes : DownloadOutcomes) :
    (httpConnect outcomes).opened = true := by
  simp only [httpConnect]
  split <;> rfl

/-- A document opens the socket exactly with its request. -/
theorem documentStep_opens (point : DownloadPoint) (isHttpRunning : Bool)
    (outcomes : DownloadOutcomes) :
    (documentStep point isHttpRunning outcomes).opened =
      requestsServer point isHttpRunning outcomes := by
  cases point with
  | outside =>
    simp only [documentStep, startJobDocument, httpGet, requestsServer]
    cases outcomes.isOta <;> cases isHttpRunning <;> cases outcomes.isHttpUrl <;>
      cases outcomes.isIpaddr <;> first | rfl | exact httpConnect_opens outcomes
  | dns =>
    simp only [documentStep, httpDns, requestsServer]
    cases outcomes.dns <;> first | rfl | exact httpConnect_opens outcomes
  | receiving =>
    simp only [documentStep, httpCallback, requestsServer]
    split <;> rfl

/-- Only a document that has opened the socket comes to wait for the server. -/
theorem documentStep_receives (point : DownloadPoint) (isHttpRunning : Bool)
    (outcomes : DownloadOutcomes) (elsewhere : point ≠ .receiving)
    (closed : (documentStep point isHttpRunning outcomes).opened = false) :
    (documentStep point isHttpRunning outcomes).point ≠ .receiving := by
  cases point with
  | outside =>
    revert closed
    simp only [documentStep, startJobDocument, httpGet]
    cases outcomes.isOta <;> cases isHttpRunning <;> cases outcomes.isHttpUrl <;>
      cases outcomes.isIpaddr <;> simp [httpConnect_opens]
  | dns =>
    revert closed
    simp only [documentStep, httpDns]
    cases outcomes.dns <;> simp [httpConnect_opens]
  | receiving => exact absurd rfl elsewhere

/-- A shared socket stays on record. -/
theorem step_keeps_record (system : System) (label : Label) (shared : system.overlapped = true) :
    (TaskSystem.step system label).overlapped = true := by
  simp only [TaskSystem.step]
  split
  · exact shared
  · cases label with
    | idle outcomes => simp [stepIdle, shared]
    | awsIotJobs outcomes download =>
      simp only [stepJobs]
      split <;> simp [shared]
    | mainApp outcomes => exact shared

/-- During a download the idle task is at the head of its loop. -/
theorem looping_of_open (system : System) (separate : Separate system)
    (opened : system.httpOpen = true) : system.idle.point = .loopDelay := by
  have outside := separate.apart opened
  rw [System.dhcpInside] at outside
  cases point : system.idle.point with
  | loopDelay => rfl
  | dhcpDelay startTimeStamp dhcpRetryCnt =>
    rw [point] at outside
    cases outside
  | dhcpRetryDelay startTimeStamp dhcpRetryCnt =>
    rw [point] at outside
    cases outside

/-- A step of the idle task shares no socket when DHCP is not due during a download. -/
theorem stepIdle_separate (outcomes : IdleOutcomes) (system : System) (separate : Separate system)
    (apart : ¬ (system.httpOpen = true ∧ DhcpDue outcomes system.idle)) :
    Separate (stepIdle outcomes system) := by
  by_cases opened : system.httpOpen = true
  · obtain ⟨works, waits⟩ := idleStep_works outcomes system.idle
      (looping_of_open system separate opened)
    have notDue : ¬ DhcpDue outcomes system.idle := fun due => apart ⟨opened, due⟩
    have silent : (idleStep outcomes system.idle).calls = [] :=
      Classical.not_not.mp fun calls => notDue (works.mp calls)
    have outside : (idleStep outcomes system.idle).state.point.inDhcpProcess = false :=
      Bool.not_eq_true _ ▸ fun inside => notDue (waits inside)
    constructor
    · simp [stepIdle, separate.untouched, silent, outside]
    · intro _
      exact outside
  · constructor
    · rw [Bool.not_eq_true] at opened
      simp [stepIdle, separate.untouched, opened]
    · intro stays
      exact absurd stays opened

/-- DHCP that becomes due during a download shares the socket. -/
theorem stepIdle_shares (outcomes : IdleOutcomes) (system : System)
    (opened : system.httpOpen = true) (due : DhcpDue outcomes system.idle) :
    (stepIdle outcomes system).overlapped = true := by
  have calls := (idleStep_works outcomes system.idle due.1).1.mpr due
  simp [stepIdle, opened, calls]

/-- A step of the jobs task shares no socket when it opens none in `dhcp_process`. -/
theorem stepJobs_separate (outcomes : Outcomes) (download : DownloadOutcomes) (system : System)
    (separate : Separate system)
    (apart : ¬ (system.dhcpInside = true ∧ reachesDocument system outcomes = true ∧
      requestsServer system.download system.isHttpRunning download = true)) :
    Separate (stepJobs outcomes download system) := by
  simp only [stepJobs]
  split
  next reached =>
    have opens := documentStep_opens system.download system.isHttpRunning download
    by_cases inside : system.dhcpInside = true
    · have closed : (documentStep system.download system.isHttpRunning download).opened = false := by
        rw [opens, ← Bool.not_eq_true]
        exact fun requests => apart ⟨inside, reached, requests⟩
      have elsewhere : system.download ≠ .receiving := by
        intro receiving
        have outside := separate.apart (by rw [System.httpOpen, receiving]; rfl)
        rw [inside] at outside
        cases outside
      have waits := documentStep_receives system.download system.isHttpRunning download elsewhere
        closed
      constructor
      · simp [separate.untouched, closed]
      · intro opened
        exact absurd (beq_iff_eq.mp opened) waits
    · rw [Bool.not_eq_true] at inside
      exact ⟨by simp [separate.untouched, inside], fun _ => inside⟩
  next elsewhere => exact ⟨separate.untouched, separate.apart⟩

/-- A request that opens the socket in `dhcp_process` shares it. -/
theorem stepJobs_shares (outcomes : Outcomes) (download : DownloadOutcomes) (system : System)
    (inside : system.dhcpInside = true) (reached : reachesDocument system outcomes = true)
    (requests : requestsServer system.download system.isHttpRunning download = true) :
    (stepJobs outcomes download system).overlapped = true := by
  simp [stepJobs, reached, documentStep_opens, requests, inside]

theorem step_separate (system : System) (label : Label) (separate : Separate system)
    (kept : KeptApart system label) : Separate (TaskSystem.step system label) := by
  simp only [TaskSystem.step]
  split
  · exact separate
  next alive =>
    obtain ⟨dhcp, http⟩ := kept alive
    cases label with
    | idle outcomes => exact stepIdle_separate outcomes system separate dhcp
    | awsIotJobs outcomes download =>
      exact stepJobs_separate outcomes download system separate http
    | mainApp outcomes => exact ⟨separate.untouched, separate.apart⟩

/-- An intrusion shares the socket. -/
theorem step_shares (system : System) (label : Label) (intrudes : ¬ KeptApart system label) :
    (TaskSystem.step system label).overlapped = true := by
  simp only [KeptApart, Classical.not_imp] at intrudes
  obtain ⟨alive, intrudes⟩ := intrudes
  simp only [TaskSystem.step, if_neg alive]
  cases label with
  | idle outcomes =>
    have due : DhcpIntrudes system (.idle outcomes) :=
      Classical.not_not.mp fun quiet => intrudes ⟨quiet, id⟩
    exact stepIdle_shares outcomes system due.1 due.2
  | awsIotJobs outcomes download =>
    have opens : HttpIntrudes system (.awsIotJobs outcomes download) :=
      Classical.not_not.mp fun quiet => intrudes ⟨id, quiet⟩
    exact stepJobs_shares outcomes download system opens.1 opens.2.1 opens.2.2
  | mainApp outcomes => exact absurd ⟨id, id⟩ intrudes

/-- After any run the socket was in one use at a time exactly when DHCP never became due
during a download, and no download opened the socket while `dhcp_process` waited. -/
theorem socket_apart_iff (enabled connected : Bool) (timeStamp : UInt32) (labels : List Label) :
    (execute TaskSystem.step (.initial enabled connected timeStamp) labels).overlapped = false ↔
      Along TaskSystem.step KeptApart (.initial enabled connected timeStamp) labels := by
  apply execute_flag_iff TaskSystem.step System.overlapped Separate
  · exact step_keeps_record
  · exact step_separate
  · intro system separate
    exact separate.untouched
  · intro system label _ intrudes
    exact step_shares system label intrudes
  · exact ⟨rfl, nofun⟩

/-- The library has no socket, and the idle task does not wait for it. -/
structure Static (state : IdleState) : Prop where
  unset : state.isDhcpSocketSet = false
  looping : state.point = .loopDelay

/-- An idle label sets up a static address. -/
def SetsStatic (label : Label) : Prop :=
  ∀ outcomes, label = .idle outcomes → outcomes.isNetInfoDhcp = false

/-- With a static address the library gets no socket. -/
theorem idleStep_static (outcomes : IdleOutcomes) (state : IdleState) (still : Static state)
    (address : outcomes.isNetInfoDhcp = false) : Static (idleStep outcomes state).state := by
  have unset (linked : IdleState) (same : linked.isDhcpSocketSet = false) :
      Static (idleLinked outcomes linked).state := by
    simp only [idleLinked, dhcpProcess, address]
    split
    · exact ⟨same, rfl⟩
    · split
      · split <;> exact ⟨same, rfl⟩
      · exact ⟨same, rfl⟩
  simp only [idleStep, still.looping]
  apply unset
  simp only [checkLink]
  split <;> exact still.unset

/-- Then neither use can break into the other. -/
theorem static_apart (system : System) (label : Label) (still : Static system.idle)
    (address : SetsStatic label) : KeptApart system label := by
  intro _
  cases label with
  | idle outcomes =>
    refine ⟨?_, id⟩
    rintro ⟨_, _, _, ⟨_, dhcp⟩ | ⟨_, _, dhcp | set⟩⟩
    · rw [address outcomes rfl] at dhcp
      cases dhcp
    · rw [address outcomes rfl] at dhcp
      cases dhcp
    · rw [still.unset] at set
      cases set
  | awsIotJobs outcomes download =>
    refine ⟨id, ?_⟩
    rintro ⟨inside, _⟩
    rw [System.dhcpInside, still.looping] at inside
    cases inside
  | mainApp outcomes => exact ⟨id, id⟩

theorem step_static (system : System) (label : Label) (still : Static system.idle)
    (address : SetsStatic label) : Static (TaskSystem.step system label).idle := by
  simp only [TaskSystem.step]
  split
  · exact still
  · cases label with
    | idle outcomes => exact idleStep_static outcomes system.idle still (address outcomes rfl)
    | awsIotJobs outcomes download =>
      simp only [stepJobs]
      split <;> exact still
    | mainApp outcomes => exact still

/-- So a device with a static address never shares the socket. -/
theorem static_address_apart (enabled connected : Bool) (timeStamp : UInt32) (labels : List Label)
    (address : ∀ label ∈ labels, SetsStatic label) :
    (execute TaskSystem.step (.initial enabled connected timeStamp) labels).overlapped = false := by
  have kept : ∀ system label, Separate system ∧ Static system.idle → SetsStatic label →
      Separate (TaskSystem.step system label) ∧ Static (TaskSystem.step system label).idle := by
    rintro system label ⟨separate, still⟩ allowed
    have apart : KeptApart system label := static_apart system label still allowed
    exact ⟨step_separate system label separate apart, step_static system label still allowed⟩
  have reached := execute_invariant TaskSystem.step
    (fun system => Separate system ∧ Static system.idle) (fun _ label => SetsStatic label) kept
    (.initial enabled connected timeStamp) labels ⟨⟨rfl, nofun⟩, rfl, rfl⟩
    (along_of_forall _ _ _ labels address)
  exact reached.1.untouched

/-- The address is leased for a minute, from the first second on. -/
def leased : IdleOutcomes :=
  { staticAddress with
    isNetInfoDhcp := true
    dhcpRun := .dhcpIpLeased
    doneTimeStamp := 1000
    dhcpLeaseTimeS := 60 }

/-- A firmware download from a known address that goes on. -/
def longDownload : DownloadOutcomes :=
  { noDownload with
    isOta := true
    isHttpUrl := true
    isIpaddr := true
    httpConnect := true
    isReceiving := true }

/-- The idle task leases an address, both tasks start up with a valid certificate, the jobs
task connects and begins a download, and the lease runs out. -/
def leaseEnds : List Label :=
  [.idle leased, .idle leased, .mainApp silent, .awsIotJobs silent noDownload, .mainApp silent,
    .awsIotJobs answered noDownload,
    .awsIotJobs { silent with
      isStartDue := true
      hasJob := true
      publishStartNext := true
      startNext := .done } longDownload,
    .idle { leased with currentTimeStamp := 61001 }]

/-- Then `DHCP_stop` and `DHCP_init` work on the socket of the download. -/
theorem lease_end_shares_socket :
    (execute TaskSystem.step (.initial false false 0) leaseEnds).overlapped = true := by
  decide +kernel

end WiznetEaas.SocketSharing
