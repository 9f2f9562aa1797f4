import WiznetEaas.IdleTask
import WiznetEaas.JobQueue
import WiznetEaas.ProvisionedRecord
import WiznetEaas.TimedLoops

/-!
# The waits of the firmware end

All loops of the two clients that wait for the network compare the clock with its reading
at their start. They differ in what they poll, in the side of the poll the test stands on,
and in whether the limit itself is still waited for. What they poll belongs to libraries
and is given to each pass. None of them hangs, wherever the counter wraps, and inside a
lap of the counter none of them times out early.
-/

namespace WiznetEaas.FirmwareWaits

open ByteMemory CStrings FlashControl JobDocument MqttMessages JobMessages JobProcedures
  FleetProvisioning IdleTask ClockReadings Polling TimedLoops
open ProvisionedRecord (textMapCbor templateName registeredMessage)
open JobQueue (nestedJson)

/-- A loop of the firmware, and the elapsed milliseconds at which its test is true. -/
structure TimedWait where
  State : Type
  Input : Type
  Result : Type
  loop : TimedLoop State Input Result
  thresholdMs : Nat

/-- The wait from its first reading of the clock. -/
def TimedWait.runFrom (wait : TimedWait) (startUs : Nat) (state : wait.State)
    (passes : List (Pass wait.Input)) : Option (Ended wait.State wait.Result) :=
  wait.loop.run (expired startUs wait.thresholdMs) state passes

@[simp] abbrev mqttReadTimeoutMs : Nat := 1000
@[simp] abbrev mqttConnectTimeoutMs : Nat := 30000
@[simp] abbrev httpTimeout : Nat := 10000
@[simp] abbrev sslRecvTimeout : Nat := 5000
@[simp] abbrev dnsTimeout : Nat := 1000

/-- A poll of a socket: the bytes it has received, and what `recv` or the TLS library
returns for them. -/
structure SocketPoll where
  rxSize : Nat
  received : Int

/-- The loop of `mqtt_read`, `http_read` and `https_read`, with `size`. -/
def readLoop : TimedLoop Int SocketPoll Int where
  before size poll :=
    let size := if 0 < poll.rxSize then poll.received else size
    (size, if size ≠ 0 then some size else none)
  behind size _ := (size, none)
  atTimeout size := size

def mqttRead : TimedWait := ⟨_, _, _, readLoop, mqttReadTimeoutMs + 1⟩

def httpRead : TimedWait := ⟨_, _, _, readLoop, httpTimeout + 1⟩

def httpsRead : TimedWait := ⟨_, _, _, readLoop, httpTimeout + 1⟩

/-- The loop of `recv_timeout`, which returns what `recv` returns, and 0 in the end. -/
def recvLoop : TimedLoop Unit SocketPoll Int where
  before _ poll := ((), if 0 < poll.rxSize then some poll.received else none)
  behind _ _ := ((), none)
  atTimeout _ := 0

/-- The last millisecond is not waited for. -/
def recvTimeout (timeout : Nat) : TimedWait := ⟨_, _, _, recvLoop, timeout⟩

/-- What a step of the TLS handshake returns, as far as the loop tells it apart. -/
inductive HandshakeRun where
  | done
  | wantReadOrWrite
  | failed
  deriving DecidableEq

/-- The loop of `tls_socket_connect_timeout`. -/
def handshakeLoop : TimedLoop Unit HandshakeRun Int where
  before _ run := ((), match run with
    | .done => some 0
    | .failed => some (-1)
    | .wantReadOrWrite => none)
  behind _ _ := ((), none)
  atTimeout _ := -1

def tlsSocketConnectTimeout (timeout : Nat) : TimedWait := ⟨_, _, _, handshakeLoop, timeout + 1⟩

/-- What `DNS_run` returns, as far as the loop tells it apart. -/
inductive DnsRun where
  | dnsRetSuccess
  | dnsRetFailed
  | other
  deriving DecidableEq

/-- The results of `get_ipaddr_from_dns`. -/
inductive DnsRet where
  | dnsRetSuccess
  | dnsRetFailed
  | dnsRetTimeout
  deriving DecidableEq

/-- Its loop. A pass reads the clock before it asks, and tests it afterwards. -/
def dnsLoop : TimedLoop Unit DnsRun DnsRet where
  before _ run := ((), match run with
    | .dnsRetSuccess => some .dnsRetSuccess
    | .dnsRetFailed => some .dnsRetFailed
    | .other => none)
  behind _ _ := ((), none)
  atTimeout _ := .dnsRetTimeout

def getIpaddrFromDns (timeoutMs : Nat) : TimedWait := ⟨_, _, _, dnsLoop, timeoutMs + 1⟩

/-- A pass of `dhcp_process`: the link, and what `DHCP_run` returns. -/
structure DhcpPoll where
  isPhyLinkOn : Bool
  dhcpRun : DhcpRunResult

/-- The loop of `dhcp_process`, with `dhcpRetryCnt`. The link is tested before the clock. -/
def dhcpLoop : TimedLoop UInt32 DhcpPoll Bool where
  before dhcpRetryCnt poll := (dhcpRetryCnt, if poll.isPhyLinkOn then none else some false)
  behind dhcpRetryCnt poll :=
    if dhcpRetryCount < dhcpRetryCnt then (dhcpRetryCnt, some false)
    else match poll.dhcpRun with
      | .dhcpFailed => (dhcpRetryCnt + 1, none)
      | .dhcpIpLeased => (dhcpRetryCnt, some true)
      | .other => (dhcpRetryCnt, none)
  atTimeout _ := false

def dhcpProcess : TimedWait := ⟨_, _, _, dhcpLoop, dhcpRetryTimeoutMs.toNat + 1⟩

variable {Value : Type} (cbor : TinyCbor Value) (awsTemplateName : List UInt8) (json : Json)
  (thingName : List UInt8)

/-- A wait for an answer of AWS. -/
def flagWait {State Message : Type} (handle : State → Message → State) (flag : State → Bool)
    (clear : State → State) (timeoutMs : Nat) : TimedWait :=
  ⟨_, _, _, flagLoop handle flag clear, timeoutMs + 1⟩

def waitRecvCreateCertAndKeyAcceptMsg (timeoutMs : Nat) : TimedWait :=
  flagWait (fleetProvisioningEventCallback cbor awsTemplateName)
    FleetProvisioning.State.recvedMqttCreateKeyAndCertAcceptMsg
    (fun state => { state with recvedMqttCreateKeyAndCertAcceptMsg := false }) timeoutMs

def waitRegisterThingAcceptMsg (timeoutMs : Nat) : TimedWait :=
  flagWait (fleetProvisioningEventCallback cbor awsTemplateName)
    FleetProvisioning.State.recvedMqttRegisterThingAcceptMsg
    (fun state => { state with recvedMqttRegisterThingAcceptMsg := false }) timeoutMs

def iotJobsMqttWaitRecvGetJob (timeoutMs : Nat) : TimedWait :=
  flagWait (handle json thingName) JobsState.recvedMqttGetJobAcceptMsg clearGetJob timeoutMs

def iotJobsMqttWaitRecvStartNextJob (timeoutMs : Nat) : TimedWait :=
  flagWait (handle json thingName) JobsState.recvedMqttStartNextJobAcceptMsg clearStartNext
    timeoutMs

def iotJobsMqttWaitRecvJobUpdateAccepted (timeoutMs : Nat) : TimedWait :=
  flagWait (handle json thingName) JobsState.recvedMqttJobUpdateAcceptMsg clearUpdate timeoutMs

/-- The waits of the firmware, with the timeouts their callers give. -/
inductive IsFirmwareWait : TimedWait → Prop
  | mqttRead : IsFirmwareWait mqttRead
  | httpRead : IsFirmwareWait httpRead
  | httpsRead : IsFirmwareWait httpsRead
  | recvTimeout : IsFirmwareWait (recvTimeout sslRecvTimeout)
  | mqttConnect : IsFirmwareWait (tlsSocketConnectTimeout mqttConnectTimeoutMs)
  | httpsConnect : IsFirmwareWait (tlsSocketConnectTimeout httpTimeout)
  | getIpaddrFromDns : IsFirmwareWait (getIpaddrFromDns dnsTimeout)
  | dhcpProcess : IsFirmwareWait dhcpProcess
  | waitRecvCreateCertAndKeyAcceptMsg {Value : Type} (cbor : TinyCbor Value)
    (awsTemplateName : List UInt8) :
    IsFirmwareWait (waitRecvCreateCertAndKeyAcceptMsg cbor awsTemplateName 5000)
  | waitRegisterThingAcceptMsg {Value : Type} (cbor : TinyCbor Value)
    (awsTemplateName : List UInt8) :
    IsFirmwareWait (waitRegisterThingAcceptMsg cbor awsTemplateName 5000)
  | iotJobsMqttWaitRecvGetJob (json : Json) (thingName : List UInt8) :
    IsFirmwareWait (iotJobsMqttWaitRecvGetJob json thingName 1000)
  | iotJobsMqttWaitRecvStartNextJob (json : Json) (thingName : List UInt8) :
    IsFirmwareWait (iotJobsMqttWaitRecvStartNextJob json thingName 1000)
  | iotJobsMqttWaitRecvJobUpdateAccepted (json : Json) (thingName : List UInt8) :
    IsFirmwareWait (iotJobsMqttWaitRecvJobUpdateAccepted json thingName 1000)

/-- No wait is longer than that for the TLS handshake of the MQTT session. -/
theorem threshold_le (wait : TimedWait) (isWait : IsFirmwareWait wait) :
    wait.thresholdMs ≤ mqttConnectTimeoutMs + 1 := by
  cases isWait <;> exact Nat.le_of_ble_eq_true rfl

/-- How a wait ends that started at a time: only its last pass may read the clock behind
the deadline, and if it times out, that pass does so but for a millisecond, or the counter
has wrapped. -/
structure EndsInTime (wait : TimedWait) (startUs : Nat) (passes : List (Pass wait.Input))
    (ended : Ended wait.State wait.Result) : Prop where
  inTime : ∀ pass ∈ passes.take ended.earlier, pass.readUs < startUs + wait.thresholdMs * 1000
  notEarly : ended.timedOut = true → ∃ last, passes[ended.earlier]? = some last ∧
    (startUs + wait.thresholdMs * 1000 < last.readUs + 1000 ∨ lap startUs ≠ lap last.readUs)

/-- Readings are not before the start. -/
theorem started_of_paced (gapUs lastUs : Nat) (readings : List Nat)
    (paced : Paced gapUs lastUs readings) : ∀ readUs ∈ readings, lastUs ≤ readUs := by
  induction readings generalizing lastUs with
  | nil => exact fun _ member => absurd member List.not_mem_nil
  | cons first rest inductionHypothesis =>
    rw [List.forall_mem_cons]
    refine ⟨paced.1, fun readUs member => ?_⟩
    exact Nat.le_trans paced.1 (inductionHypothesis first paced.2.2 readUs member)

/-- A wait of the firmware ends, at any value of the counter, when its passes follow each
other within an hour and one of them reads the clock behind the deadline. -/
theorem firmware_waits_end (wait : TimedWait) (isWait : IsFirmwareWait wait) (startUs : Nat)
    (state : wait.State) (passes : List (Pass wait.Input))
    (paced : Paced 3600000000 startUs (passes.map Pass.readUs))
    (reaches : ∃ pass ∈ passes, startUs + wait.thresholdMs * 1000 ≤ pass.readUs) :
    ∃ ended, wait.runFrom startUs state passes = some ended ∧
      EndsInTime wait startUs passes ended := by
  have short := threshold_le wait isWait
  have room : wait.thresholdMs * 1000 + 3600000000 ≤ 4294966000 :=
    Nat.le_trans (Nat.add_le_add_right (Nat.mul_le_mul_right 1000 short) 3600000000) (by decide)
  obtain ⟨ended, ran, inTime⟩ := run_ends wait.loop startUs wait.thresholdMs 3600000000 room startUs
    state passes (Nat.le_refl _) (Nat.le_add_right _ _) paced reaches
  refine ⟨ended, ran, inTime, ?_⟩
  intro timedOut
  obtain ⟨last, position, late⟩ := wait.loop.timedOut_expired _ state passes ended ran timedOut
  refine ⟨last, position, ?_⟩
  by_cases sameLap : lap startUs = lap last.readUs
  · left
    have started := started_of_paced 3600000000 startUs _ paced last.readUs
      (List.mem_map_of_mem (List.mem_of_getElem? position))
    exact passed_of_expired startUs wait.thresholdMs last.readUs started sameLap late
  · exact .inr sameLap

/-- A read that begins a second before the counter wraps. No data come in, and the
reading behind the wrap ends it. -/
def readAtWrap : List (Pass SocketPoll) :=
  [⟨4294500000, ⟨0, 0⟩⟩, ⟨4294967296, ⟨0, 0⟩⟩, ⟨4295101000, ⟨0, 0⟩⟩]

theorem readAtWrap_ends :
    ∃ ended, mqttRead.runFrom 4294000000 (0 : Int) readAtWrap = some ended ∧
      EndsInTime mqttRead 4294000000 readAtWrap ended :=
  firmware_waits_end mqttRead .mqttRead 4294000000 (0 : Int) readAtWrap (by decide)
    ⟨⟨4295101000, ⟨0, 0⟩⟩, List.mem_cons_of_mem _ (List.mem_cons_of_mem _ List.mem_cons_self),
      by decide⟩

/-- A pass in the loop of `dhcp_process` ends it when the step of the idle task leaves the
function, and with the result the task sees. -/
theorem dhcpPass_ended (outcomes : IdleOutcomes) (startUs readUs : Nat) (dhcpRetryCnt : UInt32)
    (state : IdleState) (undone : state.isDhcpDone = false)
    (read : outcomes.currentTimeStamp = clockMs readUs) :
    let after := (dhcpPass outcomes (clockMs startUs) dhcpRetryCnt state).state
    (dhcpLoop.run (expired startUs dhcpProcess.thresholdMs) dhcpRetryCnt
      [⟨readUs, ⟨outcomes.isPhyLinkOn, outcomes.dhcpRun⟩⟩]).map Ended.result =
        if after.point.inDhcpProcess then none else some after.isDhcpDone := by
  have test : expired startUs dhcpProcess.thresholdMs readUs = true ↔
      dhcpRetryTimeoutMs < outcomes.currentTimeStamp - clockMs startUs := by
    rw [expired, decide_eq_true_iff, read, UInt32.lt_iff_toNat_lt]
    rfl
  obtain ⟨isPhyLinkOn, currentTimeStamp, _, _, _, dhcpRun, _⟩ := outcomes
  dsimp only at test ⊢
  cases isPhyLinkOn with
  | false => simp [TimedLoop.run, dhcpLoop, dhcpPass, dhcpFailed, IdlePoint.inDhcpProcess, undone]
  | true =>
    by_cases late : dhcpRetryTimeoutMs < currentTimeStamp - clockMs startUs
    · simp [TimedLoop.run, dhcpLoop, dhcpPass, test.mpr late, late, dhcpFailed,
        IdlePoint.inDhcpProcess, undone]
    · have inTime : expired startUs dhcpProcess.thresholdMs readUs = false :=
        Bool.eq_false_iff.mpr fun expired => late (test.mp expired)
      by_cases tired : dhcpRetryCount < dhcpRetryCnt
      · simp [TimedLoop.run, dhcpLoop, dhcpPass, inTime, late, tired, dhcpFailed,
          IdlePoint.inDhcpProcess, undone]
      · cases dhcpRun <;> simp [TimedLoop.run, dhcpLoop, dhcpPass, inTime, late, tired,
          dhcpSucceeded, IdlePoint.inDhcpProcess]

/-- Under the clock, the waits of the two handlers give what the untimed ones give for the
rounds that are in time. -/
structure AnswersRefined {Value : Type} (cbor : TinyCbor Value) (awsTemplateName : List UInt8)
    (json : Json) (thingName : List UInt8) (startUs : Nat) : Prop where
  createCertAndKey : ∀ state passes ended,
    (waitRecvCreateCertAndKeyAcceptMsg cbor awsTemplateName 5000).runFrom startUs state passes =
      some ended →
    FleetProvisioning.waitRecvCreateCertAndKeyAcceptMsg cbor awsTemplateName state
      (inTime (expired startUs 5001) passes) = (ended.result, ended.state)
  registerThing : ∀ state passes ended,
    (waitRegisterThingAcceptMsg cbor awsTemplateName 5000).runFrom startUs state passes =
      some ended →
    FleetProvisioning.waitRegisterThingAcceptMsg cbor awsTemplateName state
      (inTime (expired startUs 5001) passes) = (ended.result, ended.state)
  getJob : ∀ state passes ended,
    (iotJobsMqttWaitRecvGetJob json thingName 1000).runFrom startUs (published state) passes =
      some ended →
    iotJobsGetProcedure json thingName ⟨true, inTime (expired startUs 1001) passes⟩ state =
      (ended.result, ended.state)
  startNextJob : ∀ state passes ended,
    (iotJobsMqttWaitRecvStartNextJob json thingName 1000).runFrom startUs (published state) passes =
      some ended →
    iotJobsStartNextProcedure json thingName ⟨true, inTime (expired startUs 1001) passes⟩ state =
      (ended.result, ended.state)
  jobUpdateAccepted : ∀ state passes ended,
    (iotJobsMqttWaitRecvJobUpdateAccepted json thingName 1000).runFrom startUs
      (published { state with isJobIdSetForEventCallback := true }) passes = some ended →
    iotJobsUpdateJobStatusProcedure json thingName ⟨true, inTime (expired startUs 1001) passes⟩
      state = (ended.result, ended.state)

theorem answers_refined {Value : Type} (cbor : TinyCbor Value) (awsTemplateName : List UInt8)
    (json : Json) (thingName : List UInt8) (startUs : Nat) :
    AnswersRefined cbor awsTemplateName json thingName startUs where
  createCertAndKey state passes ended ran := flagLoop_refines _ _ _ _ state passes ended ran
  registerThing state passes ended ran := flagLoop_refines _ _ _ _ state passes ended ran
  getJob state passes ended ran := flagLoop_refines _ _ _ _ (published state) passes ended ran
  startNextJob state passes ended ran := flagLoop_refines _ _ _ _ (published state) passes ended ran
  jobUpdateAccepted _ passes ended ran := flagLoop_refines _ _ _ _ _ passes ended ran

/-- The passes of a wait for a registration. The answer comes in with the second one. -/
def answeredSecond : List (Pass (List PublishInfo)) :=
  [⟨1100000, []⟩, ⟨1300000, [registeredMessage]⟩, ⟨1500000, []⟩]

theorem registration_answered :
    ∃ ended : Ended FleetProvisioning.State Bool,
      (waitRegisterThingAcceptMsg textMapCbor templateName 5000).runFrom 1000000
        FleetProvisioning.initial answeredSecond = some ended ∧
      ended.earlier = 1 ∧ ended.result = true ∧
      FleetProvisioning.waitRegisterThingAcceptMsg textMapCbor templateName
        FleetProvisioning.initial
        (inTime (expired 1000000 5001) answeredSecond) = (true, ended.state) := by
  let run : Option (Ended FleetProvisioning.State Bool) :=
    (waitRegisterThingAcceptMsg textMapCbor templateName 5000).runFrom 1000000
      FleetProvisioning.initial answeredSecond
  have answered : run.map (fun ended => (ended.earlier, ended.result)) = some (1, true) := by
    decide +kernel
  obtain ⟨ended, ran, shape⟩ := Option.map_eq_some_iff.mp answered
  obtain ⟨earlier, result⟩ := Prod.mk.inj shape
  have refined := (answers_refined textMapCbor templateName nestedJson [] 1000000).registerThing
    FleetProvisioning.initial answeredSecond ended ran
  rw [result] at refined
  exact ⟨ended, ran, earlier, result, refined⟩

end WiznetEaas.FirmwareWaits
