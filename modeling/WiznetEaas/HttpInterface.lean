import WiznetEaas.DeviceCommon
import WiznetEaas.Tokens

/-!
# http_get and its URL parser

The parser splits the URL with `strtok`. A null token that it hands to a string
function, and a search that leaves the array for want of a terminator, stop the
program here (`none`). Name resolution, the socket and the request callback are represented
by their results. The address and path kept in the configuration serve the
request only, so `http_get` is represented up to its result and the state it
leaves.
-/

namespace WiznetEaas.HttpInterface

open ByteMemory CStrings DeviceCommon Tokens

@[simp] abbrev httpDomainMaxSize : Nat := 128
@[simp] abbrev httpPathMaxSize : Nat := 2048
@[simp] abbrev httpUrlMaxSize : Nat := 2176

@[simp] abbrev dnsRetSuccess : Int := 1

/-- What `parse_url_info` returns and stores. -/
structure UrlInfo where
  accepted : Bool
  address : List UInt8
  path : List UInt8
  port : Nat

/-- The configuration after `memset`, for a rejected URL. -/
def UrlInfo.rejected (port : Nat) : UrlInfo := ⟨false, [], [], port⟩

/-- The address and the path behind a scheme. -/
def addressAndPath (afterScheme : Option (List UInt8)) (maxAddressLen maxPathLen port : Nat) :
    Option UrlInfo :=
  match strtokNext (ascii "/") afterScheme with
  | .token tempAddr afterAddr =>
    if tempAddr.length > maxAddressLen then some (.rejected port)
    else match strtokNext [] afterAddr with
    | .token tempPath _ =>
      if tempPath.length > maxPathLen then some ⟨false, tempAddr, [], port⟩
      else some ⟨true, tempAddr, ascii "/" ++ tempPath, port⟩
    | _ => none
  | _ => none

/-- `parse_url_info`. The array that is split holds the URL and zeros behind it; a URL of
its size leaves no zero, and a search that needs one leaves the array. -/
def parseUrlInfo (pUrl : List UInt8) (maxAddressLen maxPathLen : Nat) : Option UrlInfo :=
  let urlLen := u16 pUrl.length
  if urlLen > httpUrlMaxSize then some (.rejected 0)
  else match strtok (ascii "://")
      (pUrl.take urlLen ++ List.replicate (httpUrlMaxSize - urlLen) 0) with
  | .token scheme afterScheme =>
    let port :=
      if strncmpEqual 5 scheme (ascii "https") then 443
      else if strncmpEqual 4 scheme (ascii "http") then 80
      else 0
    if port = 0 then some (.rejected 0)
    else addressAndPath afterScheme maxAddressLen maxPathLen port
  | _ => none

/-- The value `HTTPNetworkError` of the HTTP client library. -/
structure CoreHttp where
  networkError : Int
  positive : 0 < networkError

/-- The globals `http_get` reads and leaves: the state of the configuration, and
whether the stored TLS context pointer is not null. -/
structure HttpGlobals where
  httpRunning : Bool
  tlsContextPtr : Bool
  deriving DecidableEq

/-- What the network answers in one call: name resolution, and whether the
socket, or the TLS session over it, was connected. -/
structure HttpNetwork where
  dns : Int
  connected : Bool

/-- The result of `http_get`, the globals it leaves, and whether it reached the
request callback. -/
structure HttpGetResult where
  ret : Int
  globals : HttpGlobals
  requested : Bool
  deriving DecidableEq

/-- `http_close`. With TLS it goes through the stored context pointer. -/
def httpClose (sslFlag : Bool) (globals : HttpGlobals) : Option HttpGlobals :=
  if sslFlag then if globals.tlsContextPtr then some ⟨false, false⟩ else none
  else some { globals with httpRunning := false }

/-- `http_get`. The verdict of the URL parser is not tested; only the port it
stored is. `callbackRet` is what the request callback returns if it runs. -/
def httpGet (coreHttp : CoreHttp) (globals : HttpGlobals) (httpUrl : List UInt8)
    (tlsContext forceHttp : Bool) (network : HttpNetwork) (callbackRet : Int) :
    Option HttpGetResult :=
  if globals.httpRunning then some ⟨-1, globals, false⟩
  else do
    let running : HttpGlobals := { globals with httpRunning := true }
    let url ← parseUrlInfo httpUrl httpDomainMaxSize httpPathMaxSize
    if url.port ≠ 443 ∧ url.port ≠ 80 then some ⟨-1, running, false⟩
    else
      let sslFlag := if forceHttp then false else url.port == 443
      if ¬ isIpaddr url.address ∧ network.dns ≠ dnsRetSuccess then do
        let closed ← httpClose sslFlag running
        some ⟨-1, closed, false⟩
      else if sslFlag ∧ ¬ tlsContext then do
        let closed ← httpClose sslFlag running
        some ⟨-1, closed, false⟩
      else if ¬ network.connected then do
        let closed ← httpClose sslFlag running
        some ⟨coreHttp.networkError, closed, false⟩
      else do
        let connected : HttpGlobals :=
          { running with tlsContextPtr := running.tlsContextPtr || sslFlag }
        let closed ← httpClose sslFlag connected
        some ⟨callbackRet, closed, true⟩

end WiznetEaas.HttpInterface
