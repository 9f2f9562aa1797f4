import Mathlib.Logic.Function.Basic
import WiznetEaas.MqttSession

/-!
# How often each TLS context is released

The calls of the MQTT client with TLS by its two owners. `mqtt_transport_connect` yields in
the wait for the name's address and between the rounds of the handshake, and there the other
owner can make its calls. Only `mqtt_transport_close` releases a context, and it finds it by
a global pointer that `mqtt_transport_connect` sets after the handshake. So a context is
left for good in two ways: its connection fails before the pointer is set, or another
connection sets the pointer to its own context while this one is in use.
-/

namespace WiznetEaas.TlsContexts

open MqttSession Runs

/-- The results of the calls in `tls_socket_init`, each of which may end it. -/
structure TlsInit where
  parseRootCa : Bool
  setHostname : Bool
  parseClientCert : Bool
  parsePrivateKey : Bool
  configDefaults : Bool
  confOwnCert : Bool
  sslSetup : Bool

/-- The results of the calls in `tls_socket_connect_timeout`; the handshake is tried in
rounds, with a delay between them. -/
structure TlsConnect where
  socket : Bool
  connect : Bool
  handshake : Poll

/-- The results of the calls in `mqtt_transport_connect`, as far as they are made before
its next delay. -/
structure ConnectCalls where
  isIpaddr : Bool
  dns : Poll
  tlsInit : TlsInit
  tlsConnect : TlsConnect
  mqttInit : Bool
  mqttInitStatefulQoS : Bool
  mqttConnect : Bool

/-- `tls_socket_init` returns 0. Both options are set by the owners. -/
def tlsSocketInit (calls : TlsInit) : Bool :=
  calls.parseRootCa && calls.setHostname && calls.parseClientCert && calls.parsePrivateKey &&
    calls.configDefaults && calls.confOwnCert && calls.sslSetup

/-- `tls_socket_connect_timeout` up to the first delay of its handshake. -/
def tlsSocketConnectTimeout (calls : TlsConnect) : Poll :=
  if calls.socket && calls.connect then calls.handshake else .failed

/-- The delays inside `mqtt_transport_connect`. -/
inductive Delay where
  | dns
  | handshake
  deriving DecidableEq

/-- The client, and for each owner the delay of its connect, if it is in one, and how often
each of its contexts has been freed, the latest context first. -/
structure Client where
  isMqttRunning : Bool
  mqttTlsContextPtr : Option Task
  delayed : Task → Option Delay
  freed : Task → List Nat

def Client.initial : Client := ⟨false, none, fun _ => none, fun _ => []⟩

/-- The initialisation of the parts of a context, with which `tls_socket_init` begins. -/
def Client.setUp (client : Client) (owner : Task) : Client :=
  { client with freed := Function.update client.freed owner (0 :: client.freed owner) }

/-- One more release of the latest context. -/
def freeLatest : List Nat → List Nat
  | [] => []
  | times :: earlier => (times + 1) :: earlier

/-- The release of the parts of a context. -/
def Client.free (client : Client) (owner : Task) : Client :=
  { client with freed := Function.update client.freed owner (freeLatest (client.freed owner)) }

/-- `mqtt_transport_init` with a client id. -/
def mqttTransportInit (client : Client) : Bool × Client :=
  if client.isMqttRunning then (false, client) else (true, { client with isMqttRunning := false })

/-- `mqtt_transport_close`. -/
def mqttTransportClose (client : Client) : Client :=
  match client.mqttTlsContextPtr with
  | none => { client with isMqttRunning := false }
  | some owner =>
    { client.free owner with mqttTlsContextPtr := none, isMqttRunning := false }

/-- `mqtt_transport_connect` from `MQTT_Init` on. -/
def connectMqtt (calls : ConnectCalls) (client : Client) : ConnectResult × Client :=
  if calls.mqttInit then
    if calls.mqttInitStatefulQoS then
      if calls.mqttConnect then (.connected, { client with isMqttRunning := true })
      else (.refused, mqttTransportClose client)
    else (.refused, mqttTransportClose client)
  else (.refused, mqttTransportClose client)

/-- `mqtt_transport_connect` from a round of the handshake on. -/
def connectHandshake (owner : Task) (handshake : Poll) (calls : ConnectCalls) (client : Client) :
    ConnectResult × Client :=
  match handshake with
  | .pending => (.waitsHandshake, client)
  | .failed => (.refused, mqttTransportClose client)
  | .done => connectMqtt calls { client with mqttTlsContextPtr := some owner }

/-- `mqtt_transport_connect` from `tls_socket_init` on. -/
def connectTls (owner : Task) (calls : ConnectCalls) (client : Client) : ConnectResult × Client :=
  let client := client.setUp owner
  if tlsSocketInit calls.tlsInit then
    connectHandshake owner (tlsSocketConnectTimeout calls.tlsConnect) calls client
  else (.refused, mqttTransportClose client)

/-- `mqtt_transport_connect` from a round of the DNS query on. -/
def connectDns (owner : Task) (calls : ConnectCalls) (client : Client) : ConnectResult × Client :=
  match calls.dns with
  | .pending => (.waitsDns, client)
  | .failed => (.refused, mqttTransportClose client)
  | .done => connectTls owner calls client

/-- `mqtt_transport_connect` with `ssl_flag` 1. The DNS query begins with a delay. -/
def mqttTransportConnect (owner : Task) (calls : ConnectCalls) (client : Client) :
    ConnectResult × Client :=
  if client.isMqttRunning then (.refused, client)
  else if calls.isIpaddr then connectTls owner calls client
  else (.waitsDns, client)

/-- The call an owner makes when it is in no connect. -/
inductive SessionCall where
  | mqttTransportInit
  | mqttTransportConnect
  | mqttTransportClose
  deriving DecidableEq

/-- The scheduler picks an owner. -/
structure Turn where
  owner : Task
  call : SessionCall
  calls : ConnectCalls

/-- The delay in which a connect is left. -/
def delayOf : ConnectResult → Option Delay
  | .waitsDns => some .dns
  | .waitsHandshake => some .handshake
  | .refused | .connected => none

/-- A connect up to its next delay or its end. -/
def Client.connect (owner : Task) (reached : ConnectResult × Client) : Client :=
  { reached.2 with delayed := Function.update reached.2.delayed owner (delayOf reached.1) }

/-- The owner goes on with its connect to the next delay, or makes its next call. -/
def step (client : Client) (turn : Turn) : Client :=
  match client.delayed turn.owner with
  | some .dns => Client.connect turn.owner (connectDns turn.owner turn.calls client)
  | some .handshake =>
    Client.connect turn.owner
      (connectHandshake turn.owner turn.calls.tlsConnect.handshake turn.calls client)
  | none =>
    match turn.call with
    | .mqttTransportInit => (mqttTransportInit client).2
    | .mqttTransportConnect =>
      Client.connect turn.owner (mqttTransportConnect turn.owner turn.calls client)
    | .mqttTransportClose => mqttTransportClose client

/-- The contexts of an owner, but for one whose handshake goes on. -/
def Client.contexts (client : Client) (owner : Task) : List Nat :=
  if client.delayed owner = some .handshake then (client.freed owner).tail
  else client.freed owner

/-- Every context whose connect has ended has been freed exactly once. -/
def Released (client : Client) : Prop :=
  ∀ owner, ∀ times ∈ client.contexts owner, times = 1

/-- How `tls_socket_init` and the first round of the handshake come out. -/
def tlsSetUp (calls : ConnectCalls) : Poll :=
  if tlsSocketInit calls.tlsInit then tlsSocketConnectTimeout calls.tlsConnect else .failed

/-- How a turn comes out of its TLS connection, if it comes to it. -/
def tlsOutcome (client : Client) (turn : Turn) : Option Poll :=
  match client.delayed turn.owner with
  | some .dns => if turn.calls.dns = .done then some (tlsSetUp turn.calls) else none
  | some .handshake => some turn.calls.tlsConnect.handshake
  | none =>
    if turn.call = .mqttTransportConnect ∧ client.isMqttRunning = false ∧
        turn.calls.isIpaddr = true then some (tlsSetUp turn.calls)
    else none

/-- The turn does not fail between `tls_socket_init` and the end of the handshake, and it
does not end its handshake while the client runs. -/
structure Settles (client : Client) (turn : Turn) : Prop where
  passes : tlsOutcome client turn ≠ some .failed
  alone : tlsOutcome client turn = some .done → client.isMqttRunning = false

theorem unsettled_iff (client : Client) (turn : Turn) : ¬ Settles client turn ↔
    tlsOutcome client turn = some .failed ∨
      tlsOutcome client turn = some .done ∧ client.isMqttRunning = true := by
  constructor
  · intro fails
    by_cases failed : tlsOutcome client turn = some .failed
    · exact .inl failed
    · by_cases done : tlsOutcome client turn = some .done
      · exact .inr ⟨done, eq_true_of_ne_false fun stopped => fails ⟨failed, fun _ => stopped⟩⟩
      · exact absurd ⟨failed, fun done' => absurd done' done⟩ fails
  · rintro (failed | ⟨done, running⟩) settles
    · exact settles.passes failed
    · rw [settles.alone done] at running
      cases running

section Closing

@[simp] theorem close_running (client : Client) :
    (mqttTransportClose client).isMqttRunning = false := by
  rw [mqttTransportClose]
  split <;> rfl

@[simp] theorem close_pointer (client : Client) :
    (mqttTransportClose client).mqttTlsContextPtr = none := by
  rw [mqttTransportClose]
  split
  next unset => exact unset
  next => rfl

@[simp] theorem close_delayed (client : Client) :
    (mqttTransportClose client).delayed = client.delayed := by
  rw [mqttTransportClose]
  split <;> rfl

@[simp] theorem connect_running (owner : Task) (reached : ConnectResult × Client) :
    (Client.connect owner reached).isMqttRunning = reached.2.isMqttRunning := rfl

@[simp] theorem connect_pointer (owner : Task) (reached : ConnectResult × Client) :
    (Client.connect owner reached).mqttTlsContextPtr = reached.2.mqttTlsContextPtr := rfl

@[simp] theorem connect_freed (owner : Task) (reached : ConnectResult × Client) :
    (Client.connect owner reached).freed = reached.2.freed := rfl

@[simp] theorem connect_delayed (owner : Task) (reached : ConnectResult × Client) :
    (Client.connect owner reached).delayed owner = delayOf reached.1 := Function.update_self ..

theorem connect_delayed_other (owner other : Task) (reached : ConnectResult × Client)
    (different : other ≠ owner) :
    (Client.connect owner reached).delayed other = reached.2.delayed other :=
  Function.update_of_ne different ..

/-- A close leaves the delays alone. -/
theorem connect_close (owner : Task) (result : ConnectResult) (client : Client) :
    Client.connect owner (result, mqttTransportClose client) =
      mqttTransportClose (Client.connect owner (result, client)) := by
  simp only [Client.connect, mqttTransportClose]
  cases client.mqttTlsContextPtr <;> rfl

/-- A close does not read whether the client runs. -/
theorem close_congr (client : Client) (running : Bool) :
    mqttTransportClose { client with isMqttRunning := running } = mqttTransportClose client := by
  simp only [mqttTransportClose]
  cases client.mqttTlsContextPtr <;> rfl

/-- A close frees the latest context of the owner that is pointed to. -/
theorem close_freed (client : Client) (owner : Task) :
    (mqttTransportClose client).freed owner =
      if client.mqttTlsContextPtr = some owner then freeLatest (client.freed owner)
      else client.freed owner := by
  rw [mqttTransportClose]
  split
  next unset => rw [unset, if_neg nofun]
  next holder pointed =>
    rw [pointed]
    by_cases same : owner = holder
    · rw [same, if_pos rfl]
      exact Function.update_self ..
    · rw [if_neg fun other => same (Option.some.inj other).symm]
      exact Function.update_of_ne same ..

end Closing

/-- The context of an owner is in use by the client or by the owner's handshake. -/
def InUse (client : Client) (owner : Task) : Prop :=
  client.mqttTlsContextPtr = some owner ∨ client.delayed owner = some .handshake

section Accounts
variable (counted : Nat → Prop)

/-- The latest context of an owner has not been freed, and the earlier ones are counted. -/
def Pending (client : Client) (owner : Task) : Prop :=
  ∃ earlier, client.freed owner = 0 :: earlier ∧ ∀ times ∈ earlier, counted times

/-- What the turns keep: the client points to a context exactly while it runs, its owner is
in no connect, and only contexts in use are left out of the count. -/
structure Accounted (client : Client) : Prop where
  running : client.isMqttRunning = client.mqttTlsContextPtr.isSome
  outside : ∀ owner, client.mqttTlsContextPtr = some owner → client.delayed owner = none
  used : ∀ owner, InUse client owner → Pending counted client owner
  unused : ∀ owner, ¬ InUse client owner → ∀ times ∈ client.freed owner, counted times

/-- The same in the course of a connect that has set up its context. -/
structure Opening (client : Client) (owner : Task) : Prop where
  running : client.isMqttRunning = client.mqttTlsContextPtr.isSome
  outside : ∀ other, client.mqttTlsContextPtr = some other →
    other ≠ owner ∧ client.delayed other = none
  pending : Pending counted client owner
  used : ∀ other, other ≠ owner → InUse client other → Pending counted client other
  unused : ∀ other, other ≠ owner → ¬ InUse client other →
    ∀ times ∈ client.freed other, counted times

/-- A freed context is counted when one release is. -/
theorem pending_freed (client : Client) (owner : Task) (once : counted 1)
    (pending : Pending counted client owner) :
    ∀ times ∈ freeLatest (client.freed owner), counted times := by
  obtain ⟨earlier, latest, rest⟩ := pending
  rw [latest, freeLatest]
  exact List.forall_mem_cons.mpr ⟨once, rest⟩

theorem close_accounted (client : Client) (once : counted 1)
    (accounted : Accounted counted client) : Accounted counted (mqttTransportClose client) := by
  constructor
  · rw [close_running, close_pointer]
    rfl
  · intro owner pointed
    rw [close_pointer] at pointed
    cases pointed
  · intro owner inUse
    have connecting : client.delayed owner = some .handshake := by
      rcases inUse with pointed | connecting
      · rw [close_pointer] at pointed
        cases pointed
      · rwa [close_delayed] at connecting
    have other : client.mqttTlsContextPtr ≠ some owner := fun pointed => by
      rw [accounted.outside owner pointed] at connecting
      cases connecting
    rw [Pending, close_freed, if_neg other]
    exact accounted.used owner (.inr connecting)
  · intro owner free
    rw [close_freed]
    split
    next pointed =>
      exact pending_freed counted client owner once (accounted.used owner (.inl pointed))
    next other =>
      refine accounted.unused owner fun inUse => free ?_
      rw [InUse, close_delayed]
      exact .inr (inUse.resolve_left other)

/-- The end of a connect in a delay or outside, without a handshake before or after. -/
theorem connect_accounted (client : Client) (owner : Task) (result : ConnectResult)
    (before : client.delayed owner ≠ some .handshake) (after : delayOf result ≠ some .handshake)
    (apart : client.mqttTlsContextPtr ≠ some owner) (accounted : Accounted counted client) :
    Accounted counted (Client.connect owner (result, client)) := by
  have same (other : Task) :
      InUse (Client.connect owner (result, client)) other ↔ InUse client other := by
    rw [InUse, InUse, connect_pointer]
    by_cases isOwner : other = owner
    · rw [isOwner, connect_delayed]
      simp only [before, after]
    · rw [connect_delayed_other owner other _ isOwner]
  refine ⟨accounted.running, fun other pointed => ?_, fun other inUse => ?_, fun other free => ?_⟩
  · have different : other ≠ owner := fun isOwner => apart (isOwner ▸ pointed)
    rw [connect_delayed_other owner other _ different]
    exact accounted.outside other pointed
  · exact accounted.used other ((same other).mp inUse)
  · exact accounted.unused other fun inUse => free ((same other).mpr inUse)

/-- A connect opens with the set-up of its context. -/
theorem setUp_opening (client : Client) (owner : Task)
    (before : client.delayed owner ≠ some .handshake)
    (apart : client.mqttTlsContextPtr ≠ some owner) (accounted : Accounted counted client) :
    Opening counted (client.setUp owner) owner := by
  have unused : ¬ InUse client owner := fun inUse => inUse.elim apart before
  have others (other : Task) (different : other ≠ owner) :
      (client.setUp owner).freed other = client.freed other := Function.update_of_ne different ..
  refine ⟨accounted.running, fun other pointed => ?_, ?_, fun other different inUse => ?_,
    fun other different free => ?_⟩
  · exact ⟨fun isOwner => apart (isOwner ▸ pointed), accounted.outside other pointed⟩
  · exact ⟨client.freed owner, Function.update_self .., accounted.unused owner unused⟩
  · rw [Pending, others other different]
    exact accounted.used other inUse
  · rw [others other different]
    exact accounted.unused other free

/-- A connect in its handshake has set up its context. -/
theorem delayed_opening (client : Client) (owner : Task)
    (connecting : client.delayed owner = some .handshake)
    (accounted : Accounted counted client) : Opening counted client owner := by
  refine ⟨accounted.running, fun other pointed => ⟨?_, accounted.outside other pointed⟩,
    accounted.used owner (.inr connecting), fun other _ => accounted.used other,
    fun other _ => accounted.unused other⟩
  rintro rfl
  rw [accounted.outside other pointed] at connecting
  cases connecting

/-- The handshake goes on. -/
theorem waits_accounted (client : Client) (owner : Task)
    (opening : Opening counted client owner) :
    Accounted counted (Client.connect owner (.waitsHandshake, client)) := by
  refine ⟨opening.running, fun other pointed => ?_, fun other inUse => ?_, fun other free => ?_⟩
  · obtain ⟨different, outside⟩ := opening.outside other pointed
    rw [connect_delayed_other owner other _ different]
    exact outside
  · by_cases isOwner : other = owner
    · subst isOwner
      exact opening.pending
    · rw [InUse, connect_delayed_other owner other _ isOwner] at inUse
      exact opening.used other isOwner inUse
  · have different : other ≠ owner := by
      rintro rfl
      exact free (.inr (connect_delayed _ _))
    rw [InUse, connect_delayed_other owner other _ different] at free
    exact opening.unused other different free

/-- The context of a connect that is given up is not in use any more. -/
theorem refused_unused (client : Client) (owner : Task) (opening : Opening counted client owner) :
    ¬ InUse (Client.connect owner (.refused, client)) owner := by
  rintro (pointed | connecting)
  · exact (opening.outside owner pointed).1 rfl
  · rw [connect_delayed] at connecting
    cases connecting

/-- A connect that is given up leaves its context. -/
theorem refused_accounted (client : Client) (owner : Task) (never : counted 0)
    (opening : Opening counted client owner) :
    Accounted counted (Client.connect owner (.refused, client)) := by
  have outside := refused_unused counted client owner opening
  refine ⟨opening.running, fun other pointed => ?_, fun other inUse => ?_, fun other free => ?_⟩
  · obtain ⟨different, outside⟩ := opening.outside other pointed
    rw [connect_delayed_other owner other _ different]
    exact outside
  · have different : other ≠ owner := by
      rintro rfl
      exact outside inUse
    rw [InUse, connect_delayed_other owner other _ different] at inUse
    exact opening.used other different inUse
  · by_cases isOwner : other = owner
    · obtain ⟨earlier, latest, rest⟩ := opening.pending
      rw [isOwner, connect_freed, latest]
      exact List.forall_mem_cons.mpr ⟨never, rest⟩
    · rw [InUse, connect_delayed_other owner other _ isOwner] at free
      exact opening.unused other isOwner free

/-- A connect that is through its handshake is pointed to. A context that was pointed to
before is left. -/
theorem connected_accounted (client : Client) (owner : Task)
    (alone : client.isMqttRunning = true → counted 0) (opening : Opening counted client owner) :
    Accounted counted (Client.connect owner
      (.connected, { client with mqttTlsContextPtr := some owner, isMqttRunning := true })) := by
  refine ⟨rfl, fun other pointed => ?_, fun other inUse => ?_, fun other free => ?_⟩
  · cases pointed
    exact connect_delayed _ _
  · by_cases isOwner : other = owner
    · subst isOwner
      exact opening.pending
    · rcases inUse with pointed | connecting
      · cases pointed
        exact absurd rfl isOwner
      · rw [connect_delayed_other owner other _ isOwner] at connecting
        exact opening.used other isOwner (.inr connecting)
  · have different : other ≠ owner := by
      rintro rfl
      exact free (.inl rfl)
    by_cases pointed : client.mqttTlsContextPtr = some other
    · have running : client.isMqttRunning = true := by
        rw [opening.running, pointed]
        rfl
      obtain ⟨earlier, latest, rest⟩ := opening.used other different (.inl pointed)
      rw [connect_freed, latest]
      exact List.forall_mem_cons.mpr ⟨alone running, rest⟩
    · refine opening.unused other different fun inUse => free (.inr ?_)
      rw [connect_delayed_other owner other _ different]
      exact inUse.resolve_left pointed

/-- From `MQTT_Init` on, a connect runs the client, or closes it. -/
theorem connectMqtt_cases (owner : Task) (calls : ConnectCalls) (client : Client) :
    let connected := Client.connect owner
      (.connected, { client with mqttTlsContextPtr := some owner, isMqttRunning := true })
    let reached := Client.connect owner
      (connectMqtt calls { client with mqttTlsContextPtr := some owner })
    reached = connected ∨ reached = mqttTransportClose connected := by
  intro connected reached
  have closed : Client.connect owner
      (.refused, mqttTransportClose { client with mqttTlsContextPtr := some owner }) =
        mqttTransportClose connected := by
    rw [connect_close, ← close_congr _ true]
    rfl
  simp only [reached, connectMqtt]
  split
  · split
    · split
      · exact .inl rfl
      · exact .inr closed
    · exact .inr closed
  · exact .inr closed

/-- `tls_socket_init` and what follows are a round of the handshake on a new context. -/
theorem connectTls_handshake (owner : Task) (calls : ConnectCalls) (client : Client) :
    connectTls owner calls client =
      connectHandshake owner (tlsSetUp calls) calls (client.setUp owner) := by
  rw [connectTls, tlsSetUp]
  split <;> rfl

/-- A round of the handshake keeps the account, if a context that it leaves is counted. -/
theorem handshake_accounted (owner : Task) (handshake : Poll) (calls : ConnectCalls)
    (client : Client) (once : counted 1)
    (leaves : handshake = .failed ∨ handshake = .done ∧ client.isMqttRunning = true → counted 0)
    (opening : Opening counted client owner) :
    Accounted counted (Client.connect owner (connectHandshake owner handshake calls client)) := by
  cases handshake with
  | pending => exact waits_accounted counted client owner opening
  | failed =>
    rw [connectHandshake, connect_close]
    exact close_accounted counted _ once
      (refused_accounted counted client owner (leaves (.inl rfl)) opening)
  | done =>
    have connected := connected_accounted counted client owner
      (fun running => leaves (.inr ⟨rfl, running⟩)) opening
    rcases connectMqtt_cases owner calls client with runs | closed
    · rw [connectHandshake, runs]
      exact connected
    · rw [connectHandshake, closed]
      exact close_accounted counted _ once connected

/-- A turn keeps the account, or it is a round of the handshake of a connect that has set up
its context. -/
theorem step_cases (client : Client) (turn : Turn) (once : counted 1)
    (accounted : Accounted counted client) :
    (tlsOutcome client turn = none ∧ Accounted counted (step client turn)) ∨
    ∃ handshake opened, tlsOutcome client turn = some handshake ∧
      opened.isMqttRunning = client.isMqttRunning ∧ Opening counted opened turn.owner ∧
      step client turn = Client.connect turn.owner
        (connectHandshake turn.owner handshake turn.calls opened) := by
  have closed := close_accounted counted client once accounted
  cases delay : client.delayed turn.owner with
  | some delay' =>
    have apart : client.mqttTlsContextPtr ≠ some turn.owner := fun pointed => by
      rw [accounted.outside _ pointed] at delay
      cases delay
    cases delay' with
    | dns =>
      have before : client.delayed turn.owner ≠ some .handshake := by
        rw [delay]
        nofun
      cases dns : turn.calls.dns with
      | pending =>
        left
        simp only [tlsOutcome, step, delay, connectDns, dns]
        exact ⟨if_neg nofun, connect_accounted counted client _ _ before nofun apart accounted⟩
      | failed =>
        left
        simp only [tlsOutcome, step, delay, connectDns, dns]
        refine ⟨if_neg nofun, connect_accounted counted _ _ _ ?_ nofun ?_ closed⟩
        · rwa [close_delayed]
        · rw [close_pointer]
          nofun
      | done =>
        right
        simp only [tlsOutcome, step, delay, connectDns, dns, if_true, connectTls_handshake]
        exact ⟨_, client.setUp turn.owner, rfl, rfl,
          setUp_opening counted client _ before apart accounted, rfl⟩
    | handshake =>
      right
      simp only [tlsOutcome, step, delay]
      exact ⟨_, _, rfl, rfl, delayed_opening counted client _ delay accounted, rfl⟩
  | none =>
    have before : client.delayed turn.owner ≠ some .handshake := by
      rw [delay]
      nofun
    cases call : turn.call with
    | mqttTransportInit =>
      left
      simp only [tlsOutcome, step, delay, call, reduceCtorEq, false_and, if_false, true_and]
      rw [mqttTransportInit]
      split
      next => exact accounted
      next stopped =>
        have same : ({ client with isMqttRunning := false } : Client) = client := by
          rw [← eq_false_of_ne_true stopped]
        rw [same]
        exact accounted
    | mqttTransportConnect =>
      cases running : client.isMqttRunning with
      | true =>
        left
        have apart : Client.connect turn.owner (.refused, client) = client := by
          rw [Client.connect]
          dsimp only [delayOf]
          rw [← delay, Function.update_eq_self]
        simp only [tlsOutcome, step, delay, call, running, mqttTransportConnect, if_true, apart]
        exact ⟨if_neg nofun, accounted⟩
      | false =>
        have apart : client.mqttTlsContextPtr ≠ some turn.owner := fun pointed => by
          have set := accounted.running
          rw [running, pointed] at set
          cases set
        cases address : turn.calls.isIpaddr with
        | true =>
          right
          simp only [tlsOutcome, step, delay, call, running, address, mqttTransportConnect,
            and_self, if_true, Bool.false_eq_true, if_false, connectTls_handshake]
          exact ⟨_, client.setUp turn.owner, rfl, running,
            setUp_opening counted client _ before apart accounted, rfl⟩
        | false =>
          left
          simp only [tlsOutcome, step, delay, call, running, address, mqttTransportConnect,
            Bool.false_eq_true, and_false, if_false, true_and]
          exact connect_accounted counted client _ _ before nofun apart accounted
    | mqttTransportClose =>
      left
      simp only [tlsOutcome, step, delay, call, reduceCtorEq, false_and, if_false, true_and]
      exact closed

theorem step_accounted (client : Client) (turn : Turn) (once : counted 1)
    (leaves : ¬ Settles client turn → counted 0) (accounted : Accounted counted client) :
    Accounted counted (step client turn) := by
  rcases step_cases counted client turn once accounted with
    ⟨_, kept⟩ | ⟨handshake, opened, outcome, running, opening, shape⟩
  · exact kept
  · rw [shape]
    refine handshake_accounted counted turn.owner handshake turn.calls opened once
      (fun spoilt => leaves ((unsettled_iff client turn).mpr ?_)) opening
    rw [outcome, ← running]
    exact spoilt.imp (congrArg some) (And.imp_left (congrArg some))

end Accounts

/-- A context that is neither in use nor freed is left by a close, too. -/
theorem left_unreleased (client : Client) (owner : Task) (earlier : List Nat)
    (latest : client.freed owner = 0 :: earlier) (free : ¬ InUse client owner) :
    ¬ Released (mqttTransportClose client) := by
  obtain ⟨apart, outside⟩ := not_or.mp free
  intro released
  have once := released owner 0 (by
    rw [Client.contexts, close_delayed, if_neg outside, close_freed, if_neg apart, latest]
    exact List.mem_cons_self)
  cases once

/-- The same after one more close. -/
theorem left_unreleased_closed (client : Client) (owner : Task) (earlier : List Nat)
    (latest : client.freed owner = 0 :: earlier) (free : ¬ InUse client owner) :
    ¬ Released (mqttTransportClose (mqttTransportClose client)) := by
  obtain ⟨apart, outside⟩ := not_or.mp free
  apply left_unreleased _ owner earlier
  · rw [close_freed, if_neg apart]
    exact latest
  · rw [InUse, close_pointer, close_delayed]
    exact not_or.mpr ⟨nofun, outside⟩

/-- A round of the handshake that fails, or ends while the client runs, leaves a context
that no close releases. -/
theorem handshake_leaks (counted : Nat → Prop) (owner : Task) (handshake : Poll)
    (calls : ConnectCalls) (client : Client)
    (spoilt : handshake = .failed ∨ handshake = .done ∧ client.isMqttRunning = true)
    (opening : Opening counted client owner) :
    ¬ Released (mqttTransportClose
      (Client.connect owner (connectHandshake owner handshake calls client))) := by
  rcases spoilt with rfl | ⟨rfl, running⟩
  · obtain ⟨earlier, latest, _⟩ := opening.pending
    rw [connectHandshake, connect_close]
    exact left_unreleased_closed (Client.connect owner (.refused, client)) owner earlier latest
      (refused_unused counted client owner opening)
  · have set := opening.running
    rw [running] at set
    obtain ⟨other, pointed⟩ := Option.isSome_iff_exists.mp set.symm
    obtain ⟨different, outside⟩ := opening.outside other pointed
    obtain ⟨earlier, latest, _⟩ := opening.used other different (.inl pointed)
    have free : ¬ InUse (Client.connect owner
        (.connected, { client with mqttTlsContextPtr := some owner, isMqttRunning := true }))
        other := by
      rintro (own | connecting)
      · exact different (Option.some.inj own).symm
      · rw [connect_delayed_other owner other _ different] at connecting
        rw [outside] at connecting
        cases connecting
    rcases connectMqtt_cases owner calls client with runs | closed
    · rw [connectHandshake, runs]
      exact left_unreleased _ other earlier latest free
    · rw [connectHandshake, closed]
      exact left_unreleased_closed _ other earlier latest free

/-- A turn that does not settle leaves a context that no close releases. -/
theorem step_leaks (counted : Nat → Prop) (client : Client) (turn : Turn) (once : counted 1)
    (accounted : Accounted counted client) (fails : ¬ Settles client turn) :
    ¬ Released (mqttTransportClose (step client turn)) := by
  have spoilt := (unsettled_iff client turn).mp fails
  rcases step_cases counted client turn once accounted with
    ⟨outcome, _⟩ | ⟨handshake, opened, outcome, running, opening, shape⟩
  · rw [outcome] at spoilt
    rcases spoilt with failed | ⟨done, _⟩
    · cases failed
    · cases done
  · rw [outcome, ← running] at spoilt
    rw [shape]
    exact handshake_leaks counted turn.owner handshake turn.calls opened
      (spoilt.imp Option.some.inj (And.imp_left Option.some.inj)) opening

/-- With every context counted that is not in use, a close releases all. -/
theorem close_released (client : Client) (accounted : Accounted (· = 1) client) :
    Released (mqttTransportClose client) ∧ (client.isMqttRunning = false → Released client) := by
  have every (reached : Client) (kept : Accounted (· = 1) reached)
      (unset : reached.mqttTlsContextPtr = none) : Released reached := by
    intro owner times member
    by_cases connecting : reached.delayed owner = some .handshake
    · obtain ⟨earlier, latest, rest⟩ := kept.used owner (.inr connecting)
      rw [Client.contexts, if_pos connecting, latest] at member
      exact rest times member
    · rw [Client.contexts, if_neg connecting] at member
      refine kept.unused owner (fun inUse => inUse.elim (fun pointed => ?_) connecting) times member
      rw [unset] at pointed
      cases pointed
  refine ⟨every _ (close_accounted _ client rfl accounted) (close_pointer client), ?_⟩
  intro stopped
  have set := accounted.running
  rw [stopped] at set
  exact every client accounted (Option.isNone_iff_eq_none.mp (by rw [← Option.not_isSome, ← set]; rfl))

theorem initial_accounted (counted : Nat → Prop) : Accounted counted .initial :=
  ⟨rfl, nofun, fun _ inUse => inUse.elim nofun nofun, fun _ _ _ member => nomatch member⟩

/-- No context is freed twice, however the turns come out. -/
theorem never_freed_twice (turns : List Turn) (owner : Task) (times : Nat)
    (context : times ∈ (execute step .initial turns).freed owner) : times ≤ 1 := by
  have accounted := execute_invariant step (Accounted (· ≤ 1)) (fun _ _ => True)
    (fun client turn kept _ =>
      step_accounted _ client turn (Nat.le_refl 1) (fun _ => Nat.zero_le 1) kept)
    .initial turns (initial_accounted _) (along_true _ _ turns)
  by_cases inUse : InUse (execute step .initial turns) owner
  · obtain ⟨earlier, latest, rest⟩ := accounted.used owner inUse
    rw [latest] at context
    rcases List.mem_cons.mp context with zero | later
    · omega
    · exact rest times later
  · exact accounted.unused owner inUse times context

/-- In every state of a run a close leaves each context freed exactly once whose connect has
ended, and so the idle client has done, if and only if no turn fails between
`tls_socket_init` and the end of the handshake or ends its handshake while the client
runs. -/
theorem contexts_released_iff (turns : List Turn) :
    (∀ client ∈ visited step .initial turns, Released (mqttTransportClose client) ∧
      (client.isMqttRunning = false → Released client)) ↔
      Along step Settles .initial turns := by
  have general (client : Client) (accounted : Accounted (· = 1) client) :
      (∀ reached ∈ visited step client turns, Released (mqttTransportClose reached) ∧
        (reached.isMqttRunning = false → Released reached)) ↔
        Along step Settles client turns := by
    induction turns generalizing client with
    | nil =>
      simp only [visited, Along, List.forall_mem_singleton, iff_true]
      exact close_released client accounted
    | cons turn rest inductionHypothesis =>
      rw [visited, List.forall_mem_cons, Along]
      by_cases settles : Settles client turn
      · rw [inductionHypothesis _ (step_accounted _ client turn rfl
          (fun fails => absurd settles fails) accounted)]
        exact and_congr_left fun _ =>
          ⟨fun _ => settles, fun _ => close_released client accounted⟩
      · have left := step_leaks (· = 1) client turn rfl accounted settles
        have next : step client turn ∈ visited step (step client turn) rest := by
          cases rest <;> exact List.mem_cons_self
        exact ⟨fun released => absurd (released.2 _ next).1 left,
          fun every => absurd every.1 settles⟩
  exact general .initial (initial_accounted _)

section Sessions
variable (owner : Task) (outcomes : Outcomes) (calls : ConnectCalls) (state : State)
  (client : Client)

/-- The sessions of the tasks and the client agree on the fields they share. -/
def Agree (state : State) (client : Client) : Prop :=
  state.isMqttRunning = client.isMqttRunning ∧ state.mqttTlsContext = client.mqttTlsContextPtr

/-- Two parts of a connect end alike. -/
def EndAlike (session : ConnectResult × State) (reached : ConnectResult × Client) : Prop :=
  session.1 = reached.1 ∧ Agree session.2 reached.2

theorem close_agrees :
    EndAlike (.refused, MqttSession.mqttTransportClose owner state)
      (.refused, mqttTransportClose client) :=
  ⟨rfl, (close_running client).symm, (close_pointer client).symm⟩

/-- A round of the handshake is the step of the sessions. -/
theorem connectHandshake_agrees
    (mqttConnect : outcomes.mqttConnect =
      (calls.mqttInit && calls.mqttInitStatefulQoS && calls.mqttConnect))
    (agree : Agree state client) :
    EndAlike (MqttSession.connectHandshake owner outcomes state)
      (connectHandshake owner outcomes.handshake calls client) := by
  rw [MqttSession.connectHandshake]
  cases outcomes.handshake with
  | pending => exact ⟨rfl, agree⟩
  | failed => exact close_agrees owner state client
  | done =>
    simp only [mqttConnect, connectHandshake, connectMqtt]
    cases calls.mqttInit with
    | false => exact close_agrees owner _ _
    | true =>
      cases calls.mqttInitStatefulQoS with
      | false => exact close_agrees owner _ _
      | true =>
        cases calls.mqttConnect with
        | false => exact close_agrees owner _ _
        | true => exact ⟨rfl, rfl, rfl⟩

/-- So is the part from `tls_socket_init` on. -/
theorem connectTls_agrees (tlsInit : outcomes.tlsInit = tlsSocketInit calls.tlsInit)
    (handshake : outcomes.handshake = tlsSocketConnectTimeout calls.tlsConnect)
    (mqttConnect : outcomes.mqttConnect =
      (calls.mqttInit && calls.mqttInitStatefulQoS && calls.mqttConnect))
    (agree : Agree state client) :
    EndAlike (MqttSession.connectTls owner outcomes state) (connectTls owner calls client) := by
  rw [MqttSession.connectTls, connectTls, tlsInit]
  split
  · rw [← handshake]
    exact connectHandshake_agrees owner outcomes calls state (client.setUp owner) mqttConnect agree
  · exact close_agrees owner state _

/-- So are a round of the DNS query and the connect from its start. -/
theorem connect_agrees (isIpaddr : outcomes.isEndPointAddress = calls.isIpaddr)
    (dns : outcomes.dns = calls.dns)
    (tlsInit : outcomes.tlsInit = tlsSocketInit calls.tlsInit)
    (handshake : outcomes.handshake = tlsSocketConnectTimeout calls.tlsConnect)
    (mqttConnect : outcomes.mqttConnect =
      (calls.mqttInit && calls.mqttInitStatefulQoS && calls.mqttConnect))
    (agree : Agree state client) :
    EndAlike (MqttSession.connectDns owner outcomes state) (connectDns owner calls client) ∧
      EndAlike (MqttSession.mqttTransportConnect owner outcomes state)
        (mqttTransportConnect owner calls client) := by
  have tls := connectTls_agrees owner outcomes calls state client tlsInit handshake mqttConnect
    agree
  constructor
  · rw [MqttSession.connectDns, connectDns, dns]
    cases calls.dns with
    | pending => exact ⟨rfl, agree⟩
    | failed => exact close_agrees owner state client
    | done => exact tls
  · rw [MqttSession.mqttTransportConnect, mqttTransportConnect, isIpaddr, agree.1]
    split
    · exact ⟨rfl, agree⟩
    · split
      · exact tls
      · exact ⟨rfl, agree⟩

end Sessions

/-- A connection whose handshake fails. -/
def failedHandshake : ConnectCalls :=
  ⟨true, .done, ⟨true, true, true, true, true, true, true⟩, ⟨true, true, .failed⟩,
    true, true, true⟩

/-- The calls of `iot_jobs_mqtt_connect` with such a connection, after which it closes. -/
def failedConnect : List Turn :=
  [⟨.awsIotJobs, .mqttTransportInit, failedHandshake⟩,
    ⟨.awsIotJobs, .mqttTransportConnect, failedHandshake⟩,
    ⟨.awsIotJobs, .mqttTransportClose, failedHandshake⟩]

/-- The context of the jobs task is never freed. -/
theorem failed_handshake_leaks :
    (execute step .initial failedConnect).isMqttRunning = false ∧
      (execute step .initial failedConnect).freed .awsIotJobs = [0] ∧
      ¬ ∀ client ∈ visited step .initial failedConnect, client.isMqttRunning = false →
        Released client := by
  have stopped : (execute step .initial failedConnect).isMqttRunning = false := by decide
  have left : (execute step .initial failedConnect).freed .awsIotJobs = [0] := by decide
  refine ⟨stopped, left, fun released => ?_⟩
  have once := released _ (execute_visited step _ failedConnect) stopped .awsIotJobs 0
    (by decide)
  exact absurd once (by decide)

/-- A turn that succeeds as far as it comes. -/
def goodTurn (owner : Task) (call : SessionCall) (handshake : Poll) : Turn :=
  ⟨owner, call, { failedHandshake with tlsConnect := ⟨true, true, handshake⟩ }⟩

/-- The main task connects while the jobs task waits in its handshake. Then the jobs task is
through, and both close: the context of the main task is left. -/
example :
    (execute step .initial
      [goodTurn .awsIotJobs .mqttTransportConnect .pending,
        goodTurn .mainApp .mqttTransportConnect .done,
        goodTurn .awsIotJobs .mqttTransportConnect .done,
        goodTurn .mainApp .mqttTransportClose .done,
        goodTurn .awsIotJobs .mqttTransportClose .done]).freed .mainApp = [0] := by decide

end WiznetEaas.TlsContexts
