import WiznetEaas.Runs

/-!
# The two users of the MQTT client

The tasks run with equal priority and without time slicing, so a step is the code
of one task between two delays. A point names the delay a task is in, and a
step continues from there to the next delay. What the network, the library and
the clock answer during a step is a record of outcomes.

The record of the session is kept by two ghost fields: whether each task is between
its successful `mqtt_transport_init` and the matching close, and whether a task ever
re-initialised or closed the client during the other's session.
-/

namespace WiznetEaas.MqttSession

@[simp] abbrev iotJobsMaxConnectFailCount : Nat := 5

/-- The tasks that use the MQTT client. -/
inductive Task where
  | awsIotJobs
  | mainApp
  deriving DecidableEq

/-- One round of a wait: not yet, done, or failed or timed out. -/
inductive Poll where
  | pending
  | done
  | failed
  deriving DecidableEq

/-- The delays of `aws_iot_jobs_task`, with those of the functions it calls. After
the reboot nothing runs. -/
inductive JobsPoint where
  | waitLink
  | loopDelay
  | connectDns
  | connectHandshake
  | failDelay
  | waitGetJob
  | waitStartNext
  | jobDocument
  | waitUpdate (carriedOut : Bool)
  | rebooted
  deriving DecidableEq

/-- The delays of `main_app_task`. -/
inductive MainPoint where
  | waitLink
  | loopDelay
  | connectDns
  | connectHandshake
  | waitCreate
  | waitRegister
  | retryDelay
  deriving DecidableEq

/-- What a step learns from outside: the link and the end point, the polls of the
connection, the results of the client library, and which jobs are due. -/
structure Outcomes where
  isLinkUp : Bool
  isEndPointAddress : Bool
  dns : Poll
  tlsInit : Bool
  handshake : Poll
  mqttConnect : Bool
  subscribe : Bool
  isGetDue : Bool
  publishGet : Bool
  getJob : Poll
  isStartDue : Bool
  hasJob : Bool
  publishStartNext : Bool
  startNext : Poll
  document : Poll
  publishUpdate : Bool
  update : Poll
  enableReboot : Bool
  isValidCert : Bool
  isValidPrivateKey : Bool
  createCert : Poll
  subscribeRegister : Bool
  registerThing : Poll

/-- The shared flags of `APP_COMMON`, the MQTT client, the local counter of the jobs
task, and where the tasks are. -/
structure State where
  isRunAwsIotJobs : Bool
  enableRefreshProvisionedCert : Bool
  isValidProvisionedCertInfo : Bool
  isJobsConnected : Bool
  isMqttRunning : Bool
  mqttTlsContext : Option Task
  connectFailCount : Nat
  jobs : JobsPoint
  main : MainPoint
  jobsSession : Bool
  mainSession : Bool
  interfered : Bool
  deriving DecidableEq

/-- Whether a task is between its init and its close. -/
def State.session (state : State) : Task → Bool
  | .awsIotJobs => state.jobsSession
  | .mainApp => state.mainSession

def State.setSession (state : State) (task : Task) (opened : Bool) : State :=
  match task with
  | .awsIotJobs => { state with jobsSession := opened }
  | .mainApp => { state with mainSession := opened }

def Task.other : Task → Task
  | .awsIotJobs => .mainApp
  | .mainApp => .awsIotJobs

/-- `mqtt_transport_init`: refused unless idle, and otherwise it clears the client. -/
def mqttTransportInit (task : Task) (state : State) : Option State :=
  if state.isMqttRunning then none
  else some { state.setSession task true with
    isMqttRunning := false
    interfered := state.interfered || state.session task.other }

/-- `mqtt_transport_close`, which does not test whose session it closes. -/
def mqttTransportClose (task : Task) (state : State) : State :=
  { state.setSession task false with
    mqttTlsContext := none
    isMqttRunning := false
    interfered := state.interfered || state.session task.other }

/-- Where `mqtt_transport_connect` is after a step. -/
inductive ConnectResult where
  | waitsDns
  | waitsHandshake
  | refused
  | connected
  deriving DecidableEq

/-- The end of `mqtt_transport_connect`: the client runs on the TLS context of the task. -/
def mqttConnected (task : Task) (state : State) : State :=
  { state with mqttTlsContext := some task, isMqttRunning := true }

/-- `mqtt_transport_connect` from the TLS handshake on. -/
def connectHandshake (task : Task) (outcomes : Outcomes) (state : State) : ConnectResult × State :=
  match outcomes.handshake with
  | .pending => (.waitsHandshake, state)
  | .failed => (.refused, mqttTransportClose task state)
  | .done =>
    if outcomes.mqttConnect then (.connected, mqttConnected task state)
    else (.refused, mqttTransportClose task { state with mqttTlsContext := some task })

/-- `mqtt_transport_connect` from the initialisation of TLS on. -/
def connectTls (task : Task) (outcomes : Outcomes) (state : State) : ConnectResult × State :=
  if outcomes.tlsInit then connectHandshake task outcomes state
  else (.refused, mqttTransportClose task state)

/-- `mqtt_transport_connect` from a round of the DNS query on. -/
def connectDns (task : Task) (outcomes : Outcomes) (state : State) : ConnectResult × State :=
  match outcomes.dns with
  | .pending => (.waitsDns, state)
  | .failed => (.refused, mqttTransportClose task state)
  | .done => connectTls task outcomes state

/-- `mqtt_transport_connect`. The DNS query begins with a delay. -/
def mqttTransportConnect (task : Task) (outcomes : Outcomes) (state : State) :
    ConnectResult × State :=
  if state.isMqttRunning then (.refused, state)
  else if outcomes.isEndPointAddress then connectTls task outcomes state
  else (.waitsDns, state)

/-- `iot_jobs_close_procedure` and the new status, then the loop again. -/
def jobsClose (state : State) : State :=
  { mqttTransportClose .awsIotJobs state with isJobsConnected := false, jobs := .loopDelay }

/-- The end of `iot_jobs_start_job_document_procedure` after the status update,
whose result is not returned. -/
def jobsUpdated (carriedOut : Bool) (outcomes : Outcomes) (state : State) : State :=
  if carriedOut then
    if outcomes.enableReboot then { state with jobs := .rebooted }
    else { state with jobs := .loopDelay }
  else jobsClose state

/-- A round of the wait in `iot_jobs_update_job_status_procedure`. -/
def jobsWaitUpdate (carriedOut : Bool) (outcomes : Outcomes) (state : State) : State :=
  match outcomes.update with
  | .pending => { state with jobs := .waitUpdate carriedOut }
  | _ => jobsUpdated carriedOut outcomes state

/-- `iot_jobs_update_job_status_procedure`. -/
def jobsUpdate (carriedOut : Bool) (outcomes : Outcomes) (state : State) : State :=
  if outcomes.publishUpdate then jobsWaitUpdate carriedOut outcomes state
  else jobsUpdated carriedOut outcomes state

/-- `start_job_document` up to its next delay. -/
def jobsDocument (outcomes : Outcomes) (state : State) : State :=
  match outcomes.document with
  | .pending => { state with jobs := .jobDocument }
  | .done => jobsUpdate true outcomes state
  | .failed => jobsUpdate false outcomes state

/-- A round of the wait in `iot_jobs_start_next_procedure`. -/
def jobsWaitStartNext (outcomes : Outcomes) (state : State) : State :=
  match outcomes.startNext with
  | .pending => { state with jobs := .waitStartNext }
  | .done => jobsDocument outcomes state
  | .failed => jobsClose state

/-- The loop body from the second timer on. -/
def jobsStartDocument (outcomes : Outcomes) (state : State) : State :=
  if outcomes.isStartDue && outcomes.hasJob then
    if outcomes.publishStartNext then jobsWaitStartNext outcomes state else jobsClose state
  else { state with jobs := .loopDelay }

/-- A round of the wait in `iot_jobs_get_procedure`. -/
def jobsWaitGetJob (outcomes : Outcomes) (state : State) : State :=
  match outcomes.getJob with
  | .pending => { state with jobs := .waitGetJob }
  | .done => jobsStartDocument outcomes state
  | .failed => jobsClose state

/-- The loop body from the first timer on. -/
def jobsServe (outcomes : Outcomes) (state : State) : State :=
  if outcomes.isGetDue then
    if outcomes.publishGet then jobsWaitGetJob outcomes state else jobsClose state
  else jobsStartDocument outcomes state

/-- The loop body after a failed `iot_jobs_connect_procedure`. -/
def jobsConnectFailed (state : State) : State :=
  { jobsClose state with jobs := .failDelay }

/-- The loop body after `iot_jobs_mqtt_connect`, which closes after a refusal. -/
def jobsConnect (outcomes : Outcomes) : ConnectResult × State → State
  | (.waitsDns, state) => { state with jobs := .connectDns }
  | (.waitsHandshake, state) => { state with jobs := .connectHandshake }
  | (.refused, state) => jobsConnectFailed (mqttTransportClose .awsIotJobs state)
  | (.connected, state) =>
    if outcomes.subscribe then
      jobsServe outcomes { state with connectFailCount := 0, isJobsConnected := true }
    else jobsConnectFailed state

/-- `iot_jobs_mqtt_connect` from its start. -/
def jobsOpen (outcomes : Outcomes) (state : State) : State :=
  match mqttTransportInit .awsIotJobs state with
  | none => jobsConnectFailed state
  | some opened => jobsConnect outcomes (mqttTransportConnect .awsIotJobs outcomes opened)

/-- The demand for new credentials after repeated failures. -/
def raiseRefresh (state : State) : State :=
  if iotJobsMaxConnectFailCount < state.connectFailCount then
    { state with enableRefreshProvisionedCert := true }
  else state

/-- The loop body of `aws_iot_jobs_task`. -/
def jobsIterate (outcomes : Outcomes) (state : State) : State :=
  if outcomes.isLinkUp then
    let state := raiseRefresh state
    if state.isRunAwsIotJobs then
      if state.isJobsConnected then jobsServe outcomes state else jobsOpen outcomes state
    else if state.isJobsConnected then jobsClose state
    else state
  else state

/-- `aws_iot_jobs_task` from a delay to the next. -/
def jobsStep (outcomes : Outcomes) (state : State) : State :=
  match state.jobs with
  | .waitLink =>
    if outcomes.isLinkUp then
      { state with isJobsConnected := false, isRunAwsIotJobs := false, jobs := .loopDelay }
    else state
  | .loopDelay => jobsIterate outcomes state
  | .connectDns => jobsConnect outcomes (connectDns .awsIotJobs outcomes state)
  | .connectHandshake => jobsConnect outcomes (connectHandshake .awsIotJobs outcomes state)
  | .failDelay =>
    { state with connectFailCount := (state.connectFailCount + 1) % 65536, jobs := .loopDelay }
  | .waitGetJob => jobsWaitGetJob outcomes state
  | .waitStartNext => jobsWaitStartNext outcomes state
  | .jobDocument => jobsDocument outcomes state
  | .waitUpdate carriedOut => jobsWaitUpdate carriedOut outcomes state
  | .rebooted => state

/-- A failed `fleet_provisioning_handle` with an open session. -/
def mainFailed (state : State) : State :=
  { mqttTransportClose .mainApp state with main := .retryDelay }

/-- The end of `fleet_provisioning_handle` and of the loop body after a success. -/
def mainProvisioned (state : State) : State :=
  { mqttTransportClose .mainApp state with
    enableRefreshProvisionedCert := false, isRunAwsIotJobs := true, main := .loopDelay }

/-- A round of the wait in `processRegisterThing`. -/
def mainWaitRegister (outcomes : Outcomes) (state : State) : State :=
  match outcomes.registerThing with
  | .pending => { state with main := .waitRegister }
  | .done => mainProvisioned state
  | .failed => mainFailed state

/-- A round of the wait in `processCreateCertAndKey`, and `processRegisterThing`. -/
def mainWaitCreate (outcomes : Outcomes) (state : State) : State :=
  match outcomes.createCert with
  | .pending => { state with main := .waitCreate }
  | .done =>
    if outcomes.subscribeRegister then mainWaitRegister outcomes state else mainFailed state
  | .failed => mainFailed state

/-- `fleet_provisioning_handle` after `mqtt_transport_connect`. -/
def mainConnect (outcomes : Outcomes) : ConnectResult × State → State
  | (.waitsDns, state) => { state with main := .connectDns }
  | (.waitsHandshake, state) => { state with main := .connectHandshake }
  | (.refused, state) => mainFailed state
  | (.connected, state) =>
    if outcomes.subscribe then mainWaitCreate outcomes state else mainFailed state

/-- `fleet_provisioning_handle` from its start. -/
def fleetProvisioningHandle (outcomes : Outcomes) (state : State) : State :=
  match mqttTransportInit .mainApp state with
  | none => { state with main := .retryDelay }
  | some opened => mainConnect outcomes (mqttTransportConnect .mainApp outcomes opened)

/-- The loop body of `main_app_task`. -/
def mainIterate (outcomes : Outcomes) (state : State) : State :=
  if outcomes.isLinkUp then
    if state.enableRefreshProvisionedCert then
      fleetProvisioningHandle outcomes { state with isRunAwsIotJobs := false }
    else if state.isValidProvisionedCertInfo then { state with isRunAwsIotJobs := true }
    else state
  else state

/-- `main_app_task` from a delay to the next. -/
def mainStep (outcomes : Outcomes) (state : State) : State :=
  match state.main with
  | .waitLink =>
    if outcomes.isLinkUp then
      { state with
        isValidProvisionedCertInfo := outcomes.isValidCert && outcomes.isValidPrivateKey
        enableRefreshProvisionedCert := !(outcomes.isValidCert && outcomes.isValidPrivateKey)
        main := .loopDelay }
    else state
  | .loopDelay => mainIterate outcomes state
  | .connectDns => mainConnect outcomes (connectDns .mainApp outcomes state)
  | .connectHandshake => mainConnect outcomes (connectHandshake .mainApp outcomes state)
  | .waitCreate => mainWaitCreate outcomes state
  | .waitRegister => mainWaitRegister outcomes state
  | .retryDelay => { state with main := .loopDelay }

/-- The scheduler picks a task, which runs to its next delay. -/
def step (state : State) (label : Task × Outcomes) : State :=
  if state.jobs = .rebooted then state
  else match label.1 with
    | .awsIotJobs => jobsStep label.2 state
    | .mainApp => mainStep label.2 state

/-- The state before the tasks run. The four values of `APP_COMMON` come from flash. -/
def initial (isRunAwsIotJobs enableRefreshProvisionedCert isValidProvisionedCertInfo
    isJobsConnected : Bool) : State where
  isRunAwsIotJobs := isRunAwsIotJobs
  enableRefreshProvisionedCert := enableRefreshProvisionedCert
  isValidProvisionedCertInfo := isValidProvisionedCertInfo
  isJobsConnected := isJobsConnected
  isMqttRunning := false
  mqttTlsContext := none
  connectFailCount := 0
  jobs := .waitLink
  main := .waitLink
  jobsSession := false
  mainSession := false
  interfered := false

end WiznetEaas.MqttSession
