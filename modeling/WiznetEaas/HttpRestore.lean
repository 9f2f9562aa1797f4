import WiznetEaas.HttpInterface

/-!
# What a request leaves behind

A request has to leave the configuration idle, because a later one is refused
otherwise. Its exits differ: one returns without closing, and the closing path goes
through the stored TLS context, which only a connected TLS session has set.
-/

namespace WiznetEaas.HttpRestore

open CStrings DeviceCommon HttpInterface

deriving instance DecidableEq for UrlInfo

/-- The arguments of one call of `http_get`, and what the network and the request
callback answer. -/
structure Request where
  httpUrl : List UInt8
  tlsContext : Bool
  forceHttp : Bool
  network : HttpNetwork
  callbackRet : Int

/-- `ssl_flag` once the port and `force_http` are known. -/
def Request.usesTls (request : Request) (info : UrlInfo) : Bool :=
  !request.forceHttp && info.port == 443

/-- The address is known, a TLS context is given where one is needed, and the server
is reached. -/
def Request.connects (request : Request) (info : UrlInfo) : Bool :=
  (isIpaddr info.address || request.network.dns == dnsRetSuccess) &&
    (!request.usesTls info || request.tlsContext) && request.network.connected

variable (coreHttp : CoreHttp)

def Request.get (globals : HttpGlobals) (request : Request) : Option HttpGetResult :=
  httpGet coreHttp globals request.httpUrl request.tlsContext request.forceHttp request.network
    request.callbackRet

/-- The call returns, so no null pointer was followed; it leaves the state idle; and
a connection was opened only for a URL the parser accepted. -/
structure Restores (globals : HttpGlobals) (request : Request) (info : UrlInfo)
    (result : HttpGetResult) : Prop where
  returned : request.get coreHttp globals = some result
  idle : result.globals.httpRunning = false
  accepted : result.requested = true → info.accepted = true

/-- The URL has one of the two schemes, a TLS request connects unless an earlier
session is still stored, and the parser accepts what connects. -/
structure Restorable (globals : HttpGlobals) (request : Request) (info : UrlInfo) : Prop where
  scheme : info.port = 443 ∨ info.port = 80
  closable : request.usesTls info = true →
    globals.tlsContextPtr = true ∨ request.connects info = true
  accepted : request.connects info = true → info.accepted = true

/-- Closing a TLS session needs a stored context. -/
theorem httpClose_some (sslFlag : Bool) (globals closed : HttpGlobals)
    (returned : httpClose sslFlag globals = some closed) :
    closed.httpRunning = false ∧ (sslFlag = true → globals.tlsContextPtr = true) := by
  cases sslFlag with
  | false =>
    cases returned
    exact ⟨rfl, by rintro ⟨⟩⟩
  | true =>
    rw [httpClose, if_pos rfl] at returned
    split at returned
    next stored =>
      cases returned
      exact ⟨rfl, fun _ => stored⟩
    next => cases returned

theorem httpClose_returns (sslFlag : Bool) (globals : HttpGlobals)
    (stored : sslFlag = true → globals.tlsContextPtr = true) :
    ∃ closed, httpClose sslFlag globals = some closed ∧ closed.httpRunning = false := by
  cases sslFlag with
  | false => exact ⟨_, rfl, rfl⟩
  | true =>
    rw [httpClose, if_pos rfl, if_pos (stored rfl)]
    exact ⟨_, rfl, rfl⟩

/-- `http_get` on an idle state: another scheme returns at once, and what does not
connect is closed without a new session. -/
theorem get_cases (globals : HttpGlobals) (request : Request) (info : UrlInfo)
    (idle : globals.httpRunning = false)
    (parsed : parseUrlInfo request.httpUrl httpDomainMaxSize httpPathMaxSize = some info) :
    (info.port ≠ 443 ∧ info.port ≠ 80 ∧
      request.get coreHttp globals = some ⟨-1, { globals with httpRunning := true }, false⟩) ∨
    ((info.port = 443 ∨ info.port = 80) ∧ request.connects info = false ∧
      ∃ ret, request.get coreHttp globals =
        (httpClose (request.usesTls info) { globals with httpRunning := true }).map
          fun closed => ⟨ret, closed, false⟩) ∨
    ((info.port = 443 ∨ info.port = 80) ∧ request.connects info = true ∧
      request.get coreHttp globals =
        (httpClose (request.usesTls info)
          ⟨true, globals.tlsContextPtr || request.usesTls info⟩).map
          fun closed => ⟨request.callbackRet, closed, true⟩) := by
  have notRunning : ¬ globals.httpRunning = true := by simp [idle]
  have flag : (if request.forceHttp then false else info.port == 443) = request.usesTls info := by
    rw [Request.usesTls]
    cases request.forceHttp <;> rfl
  simp only [Request.get, httpGet, if_neg notRunning, parsed, Option.bind_eq_bind,
    Option.bind_some, flag]
  by_cases other : info.port ≠ 443 ∧ info.port ≠ 80
  · exact Or.inl ⟨other.1, other.2, if_pos other⟩
  · have scheme : info.port = 443 ∨ info.port = 80 := by omega
    refine Or.inr ?_
    simp only [if_neg other]
    by_cases unresolved : ¬ isIpaddr info.address = true ∧ request.network.dns ≠ dnsRetSuccess
    · refine Or.inl ⟨scheme, ?_, -1, ?_⟩
      · simp [Request.connects, unresolved]
      · rw [if_pos unresolved, Option.map_eq_bind]
        rfl
    · by_cases noContext : request.usesTls info = true ∧ ¬ request.tlsContext = true
      · refine Or.inl ⟨scheme, ?_, -1, ?_⟩
        · simp [Request.connects, noContext]
        · rw [if_neg unresolved, if_pos noContext, Option.map_eq_bind]
          rfl
      · by_cases unreached : ¬ request.network.connected = true
        · refine Or.inl ⟨scheme, ?_, coreHttp.networkError, ?_⟩
          · simp [Request.connects, unreached]
          · rw [if_neg unresolved, if_neg noContext, if_pos unreached, Option.map_eq_bind]
            rfl
        · refine Or.inr ⟨scheme, ?_, ?_⟩
          · simp only [Request.connects, Bool.and_eq_true, Bool.or_eq_true, Bool.not_eq_true',
              beq_iff_eq]
            grind
          · rw [if_neg unresolved, if_neg noContext, if_neg unreached, Option.map_eq_bind]
            rfl

/-- A call that ends in `http_close` restores the state exactly when that finds the stored
context it needs, and what it requested was accepted. -/
theorem closing_restores (globals opened : HttpGlobals) (request : Request) (info : UrlInfo)
    (tls requested : Bool) (ret : Int)
    (returned : request.get coreHttp globals =
      (httpClose tls opened).map fun closed => ⟨ret, closed, requested⟩) :
    (∃ result, Restores coreHttp globals request info result) ↔
      (tls = true → opened.tlsContextPtr = true) ∧
        (requested = true → info.accepted = true) := by
  constructor
  · rintro ⟨result, restores⟩
    have same := restores.returned
    rw [returned, Option.map_eq_some_iff] at same
    obtain ⟨closed, closes, opens⟩ := same
    refine ⟨(httpClose_some _ _ _ closes).2, fun requests => restores.accepted ?_⟩
    rw [← opens]
    exact requests
  · rintro ⟨stored, accepted⟩
    obtain ⟨closed, closes, idleAgain⟩ := httpClose_returns tls opened stored
    refine ⟨⟨ret, closed, requested⟩, ?_, idleAgain, accepted⟩
    rw [returned, closes]
    rfl

/-- A request restores the state exactly when it is restorable. -/
theorem restores_iff (globals : HttpGlobals) (request : Request) (info : UrlInfo)
    (idle : globals.httpRunning = false)
    (parsed : parseUrlInfo request.httpUrl httpDomainMaxSize httpPathMaxSize = some info) :
    (∃ result, Restores coreHttp globals request info result) ↔
      Restorable globals request info := by
  rcases get_cases coreHttp globals request info idle parsed with
    ⟨notTls, notPlain, returned⟩ | ⟨scheme, unconnected, ret, returned⟩ |
      ⟨scheme, connected, returned⟩
  · constructor
    · rintro ⟨result, restores⟩
      have same := restores.returned
      rw [returned] at same
      cases same
      have running := restores.idle
      cases running
    · intro restorable
      exact absurd restorable.scheme (by omega)
  · rw [closing_restores coreHttp _ _ request info _ _ _ returned]
    constructor
    · rintro ⟨stored, _⟩
      refine ⟨scheme, fun tls => Or.inl (stored tls), ?_⟩
      intro connects
      rw [unconnected] at connects
      cases connects
    · intro restorable
      refine ⟨?_, by rintro ⟨⟩⟩
      intro tls
      rcases restorable.closable tls with stored | connects
      · exact stored
      · rw [unconnected] at connects
        cases connects
  · rw [closing_restores coreHttp _ _ request info _ _ _ returned]
    constructor
    · rintro ⟨_, accepted⟩
      exact ⟨scheme, fun _ => Or.inr connected, fun _ => accepted rfl⟩
    · intro restorable
      refine ⟨?_, fun _ => restorable.accepted connected⟩
      intro tls
      simp only [tls, Bool.or_true]

/-- The globals before the first request. -/
def initialGlobals : HttpGlobals := ⟨false, false⟩

/-- A request that restores the initial globals leaves exactly these. -/
theorem restored_globals (request : Request) (info : UrlInfo) (result : HttpGetResult)
    (parsed : parseUrlInfo request.httpUrl httpDomainMaxSize httpPathMaxSize = some info)
    (restores : Restores coreHttp initialGlobals request info result) :
    result.globals = initialGlobals := by
  have returned := restores.returned
  have closed_initial (globals closed : HttpGlobals)
      (stored : globals.tlsContextPtr = request.usesTls info ∨ globals.tlsContextPtr = false)
      (closes : httpClose (request.usesTls info) globals = some closed) :
      closed = initialGlobals := by
    cases tls : request.usesTls info with
    | false =>
      rw [tls] at closes stored
      cases closes
      simpa [initialGlobals] using stored
    | true =>
      rw [tls, httpClose, if_pos rfl] at closes
      split at closes
      next =>
        cases closes
        rfl
      next => cases closes
  rcases get_cases coreHttp initialGlobals request info rfl parsed with
    ⟨_, _, same⟩ | ⟨_, _, ret, same⟩ | ⟨_, _, same⟩
  · rw [same] at returned
    cases returned
    have running := restores.idle
    cases running
  · rw [same, Option.map_eq_some_iff] at returned
    obtain ⟨closed, closes, rfl⟩ := returned
    exact closed_initial _ _ (Or.inr rfl) closes
  · rw [same, Option.map_eq_some_iff] at returned
    obtain ⟨closed, closes, rfl⟩ := returned
    exact closed_initial _ _ (Or.inl (Bool.false_or _)) closes

/-- Requests one after the other, each on the globals the last one left. -/
def requests (globals : HttpGlobals) : List Request → Option HttpGlobals
  | [] => some globals
  | request :: rest => (request.get coreHttp globals).bind fun result => requests result.globals rest

/-- Restorable requests keep the globals initial, so none of them is refused. -/
theorem requests_restore (calls : List Request)
    (restorable : ∀ request ∈ calls, ∃ info,
      parseUrlInfo request.httpUrl httpDomainMaxSize httpPathMaxSize = some info ∧
        Restorable initialGlobals request info) :
    requests coreHttp initialGlobals calls = some initialGlobals := by
  induction calls with
  | nil => rfl
  | cons request rest inductionHypothesis =>
    obtain ⟨info, parsed, good⟩ := restorable request List.mem_cons_self
    obtain ⟨result, restores⟩ :=
      (restores_iff coreHttp initialGlobals request info rfl parsed).mpr good
    rw [requests, restores.returned, Option.bind_some,
      restored_globals coreHttp request info result parsed restores]
    exact inductionHypothesis fun later member =>
      restorable later (List.mem_cons_of_mem request member)

/-- A plain request for a known address. -/
def plainRequest : Request := ⟨ascii "http://10.0.0.1/fw", false, false, ⟨1, true⟩, 0⟩

theorem plain_request_restores :
    ∃ result, Restores ⟨1, by decide⟩ initialGlobals plainRequest
      ⟨true, ascii "10.0.0.1", ascii "/fw", 80⟩ result :=
  (restores_iff ⟨1, by decide⟩ initialGlobals plainRequest
    ⟨true, ascii "10.0.0.1", ascii "/fw", 80⟩ rfl (by decide +kernel)).mpr
    ⟨Or.inr rfl, by decide +kernel, fun _ => rfl⟩

/-- After a URL with another scheme the state stays running. -/
theorem other_scheme_blocks :
    ¬ (∀ (coreHttp : CoreHttp) (globals : HttpGlobals) (request : Request) (info : UrlInfo),
      globals.httpRunning = false →
      parseUrlInfo request.httpUrl httpDomainMaxSize httpPathMaxSize = some info →
      ∃ result, Restores coreHttp globals request info result) := by
  intro restores
  obtain ⟨result, restored⟩ := restores ⟨1, by decide⟩ initialGlobals
    ⟨ascii "ftp://10.0.0.1/fw", false, false, ⟨1, true⟩, 0⟩ (.rejected 0) rfl (by decide +kernel)
  have returned : _ = some result := restored.returned
  have ran : Request.get ⟨1, by decide⟩ initialGlobals
      ⟨ascii "ftp://10.0.0.1/fw", false, false, ⟨1, true⟩, 0⟩ = some ⟨-1, ⟨true, false⟩, false⟩ := by
    decide +kernel
  rw [ran] at returned
  cases returned
  have idle := restored.idle
  cases idle

end WiznetEaas.HttpRestore
