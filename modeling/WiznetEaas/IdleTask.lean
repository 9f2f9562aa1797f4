/-!
# The idle task and the DHCP client

`idle_task` watches the link, and asks for an address when there is none or its lease is
over. `dhcp_process` is called from its loop and waits there. The DHCP library is not part
of the repository, so its answers are outcomes of a step. A step is the code from one delay
to the next, and tells which calls of the library it makes on `SOCKET_DHCP`.
-/

namespace WiznetEaas.IdleTask

@[simp] abbrev dhcpRetryCount : UInt32 := 5

@[simp] abbrev dhcpRetryTimeoutMs : UInt32 := 10000

/-- What a call of `DHCP_run` returns, as far as `dhcp_process` tells it apart. -/
inductive DhcpRunResult where
  | dhcpFailed
  | dhcpIpLeased
  | other
  deriving DecidableEq

/-- The calls of the DHCP library that work on its socket. -/
inductive DhcpCall where
  | dhcpInit
  | dhcpRun
  | dhcpStop
  deriving DecidableEq

/-- The delays of `idle_task`, and those of `dhcp_process` with its two variables. The
first iteration begins without a delay. -/
inductive IdlePoint where
  | loopDelay
  | dhcpDelay (startTimeStamp dhcpRetryCnt : UInt32)
  | dhcpRetryDelay (startTimeStamp dhcpRetryCnt : UInt32)
  deriving DecidableEq

/-- What a step learns from outside: the link, the clock at three places, the network
configuration, and the answers of the DHCP library. -/
structure IdleOutcomes where
  isPhyLinkOn : Bool
  currentTimeStamp : UInt32
  startTimeStamp : UInt32
  doneTimeStamp : UInt32
  isNetInfoDhcp : Bool
  dhcpRun : DhcpRunResult
  dhcpLeaseTimeS : UInt32

/-- The two flags of `APP_COMMON` that the task owns, its variable, whether the library
knows its socket, and where the task is. -/
structure IdleState where
  isWizChipLinkUp : Bool
  isDhcpDone : Bool
  refreshDhcpTimeStamp : UInt32
  isDhcpSocketSet : Bool
  point : IdlePoint
  deriving DecidableEq

/-- A step with its calls on `SOCKET_DHCP`. -/
structure IdleResult where
  calls : List DhcpCall
  state : IdleState

/-- The task waits in `dhcp_process`. -/
def IdlePoint.inDhcpProcess : IdlePoint → Bool
  | .loopDelay => false
  | .dhcpDelay _ _ | .dhcpRetryDelay _ _ => true

/-- `DHCP_stop` closes the socket that `DHCP_init` has named to the library. -/
def dhcpStop (state : IdleState) : List DhcpCall :=
  if state.isDhcpSocketSet then [.dhcpStop] else []

/-- The loop body after `dhcp_process` has succeeded. -/
def dhcpSucceeded (outcomes : IdleOutcomes) (state : IdleState) : IdleState :=
  { state with
    isDhcpDone := true
    refreshDhcpTimeStamp := outcomes.doneTimeStamp
    point := .loopDelay }

/-- The loop body after `dhcp_process` has failed. -/
def dhcpFailed (state : IdleState) : IdleState := { state with point := .loopDelay }

/-- `dhcp_process` from its start. A static address is set up at once. -/
def dhcpProcess (outcomes : IdleOutcomes) (state : IdleState) : IdleResult :=
  if outcomes.isNetInfoDhcp then
    ⟨[.dhcpInit], { state with
      isDhcpSocketSet := true
      point := .dhcpDelay outcomes.startTimeStamp 0 }⟩
  else ⟨[], dhcpSucceeded outcomes state⟩

/-- A pass of the loop of `dhcp_process`. -/
def dhcpPass (outcomes : IdleOutcomes) (startTimeStamp dhcpRetryCnt : UInt32)
    (state : IdleState) : IdleResult :=
  if !outcomes.isPhyLinkOn then ⟨[], dhcpFailed state⟩
  else if dhcpRetryTimeoutMs < outcomes.currentTimeStamp - startTimeStamp then
    ⟨[], dhcpFailed state⟩
  else if dhcpRetryCount < dhcpRetryCnt then ⟨[.dhcpRun], dhcpFailed state⟩
  else match outcomes.dhcpRun with
    | .dhcpFailed =>
      ⟨.dhcpRun :: dhcpStop state,
        { state with point := .dhcpRetryDelay startTimeStamp (dhcpRetryCnt + 1) }⟩
    | .dhcpIpLeased => ⟨[.dhcpRun], dhcpSucceeded outcomes state⟩
    | .other => ⟨[.dhcpRun], { state with point := .dhcpDelay startTimeStamp dhcpRetryCnt }⟩

/-- The test of the link at the head of the loop. -/
def checkLink (outcomes : IdleOutcomes) (state : IdleState) : IdleState :=
  if outcomes.isPhyLinkOn then { state with isWizChipLinkUp := true }
  else { state with isWizChipLinkUp := false, isDhcpDone := false }

/-- The lease is measured from the last success, in a product of 32 bits. -/
def isLeaseTimeOver (outcomes : IdleOutcomes) (state : IdleState) : Bool :=
  decide (outcomes.dhcpLeaseTimeS * 1000 < outcomes.currentTimeStamp - state.refreshDhcpTimeStamp)

/-- The loop body from the test of the link on. -/
def idleLinked (outcomes : IdleOutcomes) (state : IdleState) : IdleResult :=
  if state.isDhcpDone = false ∧ state.isWizChipLinkUp = true then dhcpProcess outcomes state
  else if state.isDhcpDone = true ∧ state.isWizChipLinkUp = true then
    if isLeaseTimeOver outcomes state then
      let result := dhcpProcess outcomes { state with isDhcpDone := false }
      ⟨dhcpStop state ++ result.calls, result.state⟩
    else ⟨[], { state with point := .loopDelay }⟩
  else ⟨[], { state with point := .loopDelay }⟩

/-- `idle_task` from a delay to the next. -/
def idleStep (outcomes : IdleOutcomes) (state : IdleState) : IdleResult :=
  match state.point with
  | .loopDelay => idleLinked outcomes (checkLink outcomes state)
  | .dhcpDelay startTimeStamp dhcpRetryCnt => dhcpPass outcomes startTimeStamp dhcpRetryCnt state
  | .dhcpRetryDelay startTimeStamp dhcpRetryCnt =>
    ⟨[], { state with point := .dhcpDelay startTimeStamp dhcpRetryCnt }⟩

/-- The task before its first iteration, after `clearAppFlags`. The variable is not
initialised. -/
def IdleState.initial (refreshDhcpTimeStamp : UInt32) : IdleState where
  isWizChipLinkUp := false
  isDhcpDone := false
  refreshDhcpTimeStamp := refreshDhcpTimeStamp
  isDhcpSocketSet := false
  point := .loopDelay

/-- At the head of the loop: the link is on, and there is no address, or its lease is over.
Then DHCP works on its socket if the configuration asks for it, or if it must be stopped. -/
def DhcpDue (outcomes : IdleOutcomes) (state : IdleState) : Prop :=
  state.point = .loopDelay ∧ outcomes.isPhyLinkOn = true ∧
    (state.isDhcpDone = false ∧ outcomes.isNetInfoDhcp = true ∨
      state.isDhcpDone = true ∧ isLeaseTimeOver outcomes state = true ∧
        (outcomes.isNetInfoDhcp = true ∨ state.isDhcpSocketSet = true))

instance (outcomes : IdleOutcomes) (state : IdleState) : Decidable (DhcpDue outcomes state) :=
  inferInstanceAs (Decidable (_ ∧ _ ∧ _))

/-- `dhcp_process` begins to wait exactly when it has called `DHCP_init`. -/
theorem dhcpProcess_waits (outcomes : IdleOutcomes) (state : IdleState) :
    (dhcpProcess outcomes state).state.point.inDhcpProcess = outcomes.isNetInfoDhcp ∧
      ((dhcpProcess outcomes state).calls = [] ↔ outcomes.isNetInfoDhcp = false) := by
  simp only [dhcpProcess]
  cases outcomes.isNetInfoDhcp with
  | true => exact ⟨rfl, nofun, nofun⟩
  | false => exact ⟨rfl, fun _ => rfl, fun _ => rfl⟩

theorem dhcpStop_eq_nil (state : IdleState) :
    dhcpStop state = [] ↔ state.isDhcpSocketSet = false := by
  cases socket : state.isDhcpSocketSet <;> simp [dhcpStop, socket]

/-- Without a link the flags fall and nothing else happens. -/
theorem idleLinked_off (outcomes : IdleOutcomes) (state : IdleState)
    (off : state.isWizChipLinkUp = false) :
    idleLinked outcomes state = ⟨[], { state with point := .loopDelay }⟩ := by
  simp [idleLinked, off]

theorem idleLinked_undone (outcomes : IdleOutcomes) (state : IdleState)
    (up : state.isWizChipLinkUp = true) (undone : state.isDhcpDone = false) :
    idleLinked outcomes state = dhcpProcess outcomes state := by
  simp [idleLinked, up, undone]

theorem idleLinked_done (outcomes : IdleOutcomes) (state : IdleState)
    (up : state.isWizChipLinkUp = true) (done : state.isDhcpDone = true) :
    idleLinked outcomes state =
      if isLeaseTimeOver outcomes state then
        ⟨dhcpStop state ++ (dhcpProcess outcomes { state with isDhcpDone := false }).calls,
          (dhcpProcess outcomes { state with isDhcpDone := false }).state⟩
      else ⟨[], { state with point := .loopDelay }⟩ := by
  simp [idleLinked, up, done]

/-- From the head of its loop the task works on the socket exactly when DHCP is due, and
only then does it come to wait in `dhcp_process`. -/
theorem idleStep_works (outcomes : IdleOutcomes) (state : IdleState)
    (looping : state.point = .loopDelay) :
    ((idleStep outcomes state).calls ≠ [] ↔ DhcpDue outcomes state) ∧
      ((idleStep outcomes state).state.point.inDhcpProcess = true → DhcpDue outcomes state) := by
  simp only [idleStep, looping]
  cases link : outcomes.isPhyLinkOn with
  | false =>
    rw [idleLinked_off _ _ (by simp [checkLink, link])]
    exact ⟨by simp [DhcpDue, link], nofun⟩
  | true =>
    have linked : checkLink outcomes state = { state with isWizChipLinkUp := true } := by
      simp [checkLink, link]
    rw [linked]
    by_cases done : state.isDhcpDone = true
    · rw [idleLinked_done outcomes { state with isWizChipLinkUp := true } rfl done]
      split
      next ended =>
        have process := dhcpProcess_waits outcomes
          { state with isWizChipLinkUp := true, isDhcpDone := false }
        have due : DhcpDue outcomes state ↔
            outcomes.isNetInfoDhcp = true ∨ state.isDhcpSocketSet = true := by
          have elapsed : isLeaseTimeOver outcomes state = true := ended
          simp [DhcpDue, looping, link, done, elapsed]
        rw [due]
        constructor
        · rw [ne_eq, List.append_eq_nil_iff, dhcpStop_eq_nil, process.2]
          cases state.isDhcpSocketSet <;> cases outcomes.isNetInfoDhcp <;> simp
        · intro waiting
          rw [process.1] at waiting
          exact .inl waiting
      next within =>
        have running : ¬ isLeaseTimeOver outcomes state = true := within
        exact ⟨by simp [DhcpDue, done, running], nofun⟩
    · rw [Bool.not_eq_true] at done
      have process := dhcpProcess_waits outcomes { state with isWizChipLinkUp := true }
      have due : DhcpDue outcomes state ↔ outcomes.isNetInfoDhcp = true := by
        simp [DhcpDue, looping, link, done]
      rw [idleLinked_undone outcomes { state with isWizChipLinkUp := true } rfl done, due, ne_eq,
        process.2, process.1, Bool.not_eq_false]
      exact ⟨Iff.rfl, id⟩

end WiznetEaas.IdleTask
