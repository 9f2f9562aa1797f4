import WiznetEaas.CBuffers
import WiznetEaas.HttpInterface

/-!
# The URL parser on its arrays

`parse_url_info` copies the URL to an array of its own and takes three tokens out of it,
each with other delimiters: the scheme, the address and the path. The delimiters are sets
of characters and runs of them are skipped, but a URL that has its scheme, a host and a
path is taken apart as it was put together.
-/

namespace WiznetEaas.UrlParser

open ByteMemory CStrings CBuffers Tokens HttpInterface

/-- How a call ends: with a verdict, at a string function that is given the null pointer,
or in a search that leaves the copy of the URL. -/
inductive Ending where
  | returned (verdict : Bool)
  | nullToken
  | beyondTempUrl
  deriving DecidableEq

/-- The arrays and the number that the caller passes for the parts. -/
structure UrlTargets (addressSize pathSize : Nat) where
  pAddress : Buffer addressSize
  pPath : Buffer pathSize
  port : Nat

/-- What `parse_url_info` returns, stores and touches. -/
structure UrlParse (addressSize pathSize : Nat) where
  ending : Ending
  targets : UrlTargets addressSize pathSize
  accesses : List Access

/-- `sprintf(pPath, "/%s", pTempPath)`. -/
def sprintfPath {size : Nat} (pPath : Buffer size) (pTempPath : List UInt8) : Buffer size where
  bytes := 47 :: pTempPath ++ [0] ++ pPath.bytes.drop (pTempPath.length + 2)
  whole := by
    have whole := pPath.whole
    simp only [List.length_append, List.length_cons, List.length_nil, List.length_drop]
    omega

variable {addressSize pathSize : Nat}

/-- The third token and its copy. -/
def parsePath (saved : Option (List UInt8)) (targets : UrlTargets addressSize pathSize)
    (accesses : List Access) : UrlParse addressSize pathSize :=
  match strtokNext [] saved with
  | .null => ⟨.nullToken, targets, accesses⟩
  | .beyond => ⟨.beyondTempUrl, targets, accesses⟩
  | .token pTempPath _ =>
    let tempPathLen := pTempPath.length
    if tempPathLen > pathSize then ⟨.returned false, targets, accesses⟩
    else
      ⟨.returned true,
        { targets with
          pPath := (sprintfPath targets.pPath pTempPath).terminate (tempPathLen + 1) },
        accesses ++ [⟨pathSize, tempPathLen + 2⟩, ⟨pathSize, tempPathLen + 1 + 1⟩]⟩

/-- The second token and its copy. -/
def parseAddress (saved : Option (List UInt8)) (targets : UrlTargets addressSize pathSize)
    (accesses : List Access) : UrlParse addressSize pathSize :=
  match strtokNext (ascii "/") saved with
  | .null => ⟨.nullToken, targets, accesses⟩
  | .beyond => ⟨.beyondTempUrl, targets, accesses⟩
  | .token pTempAddr saved =>
    let tempAddrLen := pTempAddr.length
    if tempAddrLen > addressSize then ⟨.returned false, targets, accesses⟩
    else
      parsePath saved
        { targets with
          pAddress := (targets.pAddress.strncpy pTempAddr tempAddrLen).terminate tempAddrLen }
        (accesses ++ [⟨addressSize, tempAddrLen⟩, ⟨addressSize, tempAddrLen + 1⟩])

/-- The port of a scheme. Its first letters decide. -/
def schemePort (pStr : List UInt8) : Option Nat :=
  if strncmpEqual 5 pStr (ascii "https") then some 443
  else if strncmpEqual 4 pStr (ascii "http") then some 80
  else none

/-- `parse_url_info`, with the sizes of the two arrays for the greatest lengths. -/
def parseUrlInfoInto (pUrl : List UInt8) (targets : UrlTargets addressSize pathSize) :
    UrlParse addressSize pathSize :=
  let urlLen := u16 pUrl.length
  if urlLen > httpUrlMaxSize then ⟨.returned false, targets, []⟩
  else
    let tempUrl := (Buffer.zeroed httpUrlMaxSize []).strncpy pUrl urlLen
    let accesses : List Access := [⟨httpUrlMaxSize, urlLen⟩]
    match strtok (ascii "://") tempUrl.bytes with
    | .null => ⟨.nullToken, targets, accesses⟩
    | .beyond => ⟨.beyondTempUrl, targets, accesses⟩
    | .token pStr saved =>
      match schemePort pStr with
      | none => ⟨.returned false, targets, accesses⟩
      | some port => parseAddress saved { targets with port := port } accesses

/-- What is left of the copy behind the URL. -/
abbrev room (pUrl : List UInt8) : Nat := httpUrlMaxSize - pUrl.length

theorem room_iff (pUrl : List UInt8) : room pUrl ≠ 0 ↔ pUrl.length < httpUrlMaxSize := by
  rw [room]
  omega

theorem scheme_delimiters : ascii "://" = [58, 47, 47] := by decide +kernel

theorem slash_delimiter : ascii "/" = [47] := by decide +kernel

/-- The copy is the beginning of the URL and zeros. -/
theorem tempUrl_bytes (pUrl : List UInt8) (isText : IsText pUrl) (count : Nat)
    (short : count ≤ pUrl.length) :
    ((Buffer.zeroed httpUrlMaxSize []).strncpy pUrl count).bytes =
      pUrl.take count ++ List.replicate (httpUrlMaxSize - count) 0 := by
  have length : (pUrl.take count).length = count := List.length_take_of_le short
  have copied := strncpyBytes_text (pUrl.take count) (pUrl.drop count) fun byte member =>
    isText byte (List.mem_of_mem_take member)
  rw [List.take_append_drop, length] at copied
  simp only [Buffer.strncpy, Buffer.zeroed, copied, List.append_nil, List.drop_replicate]

/-- The call on a URL whose copy has its size at most. -/
theorem parse_copied (pUrl : List UInt8) (isText : IsText pUrl)
    (fits : pUrl.length ≤ httpUrlMaxSize) (targets : UrlTargets addressSize pathSize) :
    parseUrlInfoInto pUrl targets =
      match strtok (ascii "://") (pUrl ++ List.replicate (room pUrl) 0) with
      | .null => ⟨.nullToken, targets, [⟨httpUrlMaxSize, pUrl.length⟩]⟩
      | .beyond => ⟨.beyondTempUrl, targets, [⟨httpUrlMaxSize, pUrl.length⟩]⟩
      | .token pStr saved =>
        match schemePort pStr with
        | none => ⟨.returned false, targets, [⟨httpUrlMaxSize, pUrl.length⟩]⟩
        | some port =>
          parseAddress saved { targets with port := port } [⟨httpUrlMaxSize, pUrl.length⟩] := by
  have bytes := tempUrl_bytes pUrl isText pUrl.length (Nat.le_refl _)
  have inside : pUrl.length ≤ 2176 := fits
  have narrow : u16 pUrl.length = pUrl.length := Nat.mod_eq_of_lt (by omega)
  have short : ¬ pUrl.length > httpUrlMaxSize := Nat.not_lt_of_le fits
  rw [List.take_length] at bytes
  simp only [parseUrlInfoInto, narrow, if_neg short, bytes]

/-- The verdict and the port, of a call that returns. -/
def UrlParse.verdict (parse : UrlParse addressSize pathSize) : Option (Bool × Nat) :=
  match parse.ending with
  | .returned verdict => some (verdict, parse.targets.port)
  | _ => none

/-- The second and the third token, with the arrays and without. -/
theorem address_verdict (saved : Option (List UInt8)) (port : Nat)
    (targets : UrlTargets addressSize pathSize) (accesses : List Access) :
    (addressAndPath saved addressSize pathSize port).map
        (fun info => (info.accepted, info.port)) =
      (parseAddress saved { targets with port := port } accesses).verdict := by
  unfold addressAndPath parseAddress
  cases strtokNext (ascii "/") saved with
  | null => rfl
  | beyond => rfl
  | token tempAddr afterAddr =>
    dsimp only
    split
    next => rfl
    next =>
      unfold parsePath
      cases strtokNext [] afterAddr with
      | null => rfl
      | beyond => rfl
      | token tempPath rest =>
        dsimp only
        split
        next => rfl
        next => rfl

/-- The parser without its arrays returns the same verdicts and ports. -/
theorem parse_verdict (pUrl : List UInt8) (isText : IsText pUrl)
    (targets : UrlTargets addressSize pathSize) (cleared : targets.port = 0) :
    (parseUrlInfo pUrl addressSize pathSize).map (fun info => (info.accepted, info.port)) =
      (parseUrlInfoInto pUrl targets).verdict := by
  have bytes := tempUrl_bytes pUrl isText (u16 pUrl.length) (Nat.mod_le _ _)
  simp only [parseUrlInfo, parseUrlInfoInto, bytes]
  split
  next => simp [UrlParse.verdict, UrlInfo.rejected, cleared]
  next =>
    cases strtok (ascii "://") (pUrl.take (u16 pUrl.length) ++
        List.replicate (httpUrlMaxSize - u16 pUrl.length) 0) with
    | null => rfl
    | beyond => rfl
    | token pStr saved =>
      simp only [schemePort]
      cases strncmpEqual 5 pStr (ascii "https") with
      | true => exact address_verdict saved 443 targets _
      | false =>
        cases strncmpEqual 4 pStr (ascii "http") with
        | true => exact address_verdict saved 80 targets _
        | false => simp [UrlParse.verdict, UrlInfo.rejected, cleared]

/-- A URL with its parts. -/
structure Url where
  scheme : List UInt8
  host : List UInt8
  path : List UInt8
  known : scheme ∈ [ascii "http", ascii "https"]
  hostText : IsText host
  hostNonempty : host ≠ []
  hostPlain : 47 ∉ host
  pathText : IsText path
  pathNonempty : path ≠ []

def Url.text (url : Url) : List UInt8 :=
  url.scheme ++ ascii "://" ++ url.host ++ ascii "/" ++ url.path

def Url.port (url : Url) : Nat := if url.scheme = ascii "https" then 443 else 80

/-- The parts fit their arrays, and the URL leaves room for a terminator in its copy. -/
structure Url.Fits (url : Url) : Prop where
  host : url.host.length < httpDomainMaxSize
  path : url.path.length + 2 ≤ httpPathMaxSize
  whole : url.text.length < httpUrlMaxSize

/-- A path is printed behind a slash and terminated, if there is room for both. -/
theorem sprintfPath_holds {size : Nat} (pPath : Buffer size) (pTempPath : List UInt8)
    (fits : pTempPath.length + 2 ≤ size) :
    ((sprintfPath pPath pTempPath).terminate (pTempPath.length + 1)).Holds (47 :: pTempPath) := by
  refine ⟨Nat.lt_of_lt_of_le (Nat.lt_succ_self _) fits,
    pPath.bytes.drop (pTempPath.length + 2), ?_⟩
  have front : (47 :: pTempPath).length = pTempPath.length + 1 := rfl
  rw [Buffer.terminate, sprintfPath, ← front]
  simp only [List.append_assoc, List.set_append_right _ _ (Nat.le_refl _), Nat.sub_self,
    List.singleton_append, List.set_cons_zero]

/-- A path to the end of the URL is one token. -/
theorem path_cut (path : List UInt8) (nonempty : path ≠ []) : Cut [] path [] path [] where
  text_eq := (List.append_nil path).symm
  lead := blank_nil []
  nonempty := nonempty
  token := fun _ _ => List.not_mem_nil
  rest := fun _ none => by cases none

/-- The two tokens of a URL before its path. -/
theorem Url.cuts (url : Url) :
    Cut (ascii "://") url.text [] url.scheme (58 :: 47 :: 47 :: (url.host ++ 47 :: url.path)) ∧
      Cut (ascii "/") (47 :: 47 :: (url.host ++ 47 :: url.path)) [47, 47] url.host
        (47 :: url.path) := by
  have plain : ∀ scheme ∈ [ascii "http", ascii "https"],
      scheme ≠ [] ∧ ∀ byte ∈ scheme, byte ∉ ascii "://" := by decide +kernel
  obtain ⟨nonempty, schemePlain⟩ := plain url.scheme url.known
  constructor
  · refine ⟨?_, blank_nil _, nonempty, schemePlain, ?_⟩
    · simp [Url.text, scheme_delimiters, slash_delimiter]
    · rintro byte ⟨⟩
      simp [scheme_delimiters]
  · refine ⟨rfl, by simp [slash_delimiter], url.hostNonempty, ?_, ?_⟩
    · intro byte member slash
      rw [slash_delimiter] at slash
      exact url.hostPlain (List.mem_singleton.mp slash ▸ member)
    · rintro byte ⟨⟩
      simp [slash_delimiter]

theorem Url.isText (url : Url) : IsText url.text := by
  have letters : ∀ scheme ∈ [ascii "http", ascii "https"],
      ∀ byte ∈ scheme ++ ascii "://", byte ≠ 0 := by decide +kernel
  intro byte member
  simp only [Url.text, slash_delimiter, List.mem_append, List.mem_singleton] at member
  rcases member with ((front | host) | rfl) | path
  · exact letters url.scheme url.known byte (List.mem_append.mpr front)
  · exact url.hostText byte host
  · decide
  · exact url.pathText byte path

theorem Url.schemePort (url : Url) : UrlParser.schemePort url.scheme = some url.port := by
  have ports : ∀ scheme ∈ [ascii "http", ascii "https"],
      UrlParser.schemePort scheme = some (if scheme = ascii "https" then 443 else 80) := by
    decide +kernel
  exact ports url.scheme url.known

/-- A URL whose parts fit is taken apart into them. -/
theorem Url.parts (url : Url) (fits : url.Fits)
    (targets : UrlTargets httpDomainMaxSize httpPathMaxSize) :
    parseUrlInfoInto url.text targets = ⟨.returned true,
      ⟨(targets.pAddress.strncpy url.host url.host.length).terminate url.host.length,
        (sprintfPath targets.pPath url.path).terminate (url.path.length + 1), url.port⟩,
      [⟨httpUrlMaxSize, url.text.length⟩, ⟨httpDomainMaxSize, url.host.length⟩,
        ⟨httpDomainMaxSize, url.host.length + 1⟩, ⟨httpPathMaxSize, url.path.length + 2⟩,
        ⟨httpPathMaxSize, url.path.length + 1 + 1⟩]⟩ := by
  obtain ⟨schemeCut, hostCut⟩ := url.cuts
  have isText := url.isText
  have behindText := rest_text 58 schemeCut isText
  have ended : room url.text ≠ 0 := (room_iff url.text).mpr fits.whole
  have hostFits : ¬ url.host.length > httpDomainMaxSize := Nat.lt_asymm fits.host
  have pathFits : ¬ url.path.length > httpPathMaxSize := by
    have path := fits.path
    omega
  rw [parse_copied url.text isText (Nat.le_of_lt fits.whole), strtok_inner 58 schemeCut isText]
  simp only [url.schemePort, parseAddress, strtokNext, strtok_inner 47 hostCut behindText,
    if_neg hostFits, parsePath, strtok_last (path_cut url.path url.pathNonempty) url.pathText,
    if_neg ended, if_neg pathFits]
  rfl

/-- What is stored of a URL whose parts fit, inside the arrays. -/
theorem Url.stored (url : Url) (fits : url.Fits)
    (targets : UrlTargets httpDomainMaxSize httpPathMaxSize) :
    (parseUrlInfoInto url.text targets).targets.pAddress.Holds url.host ∧
      (parseUrlInfoInto url.text targets).targets.pPath.Holds (ascii "/" ++ url.path) ∧
      ∀ access ∈ (parseUrlInfoInto url.text targets).accesses, access.Inside := by
  have hostFits := fits.host
  have pathFits := fits.path
  have whole := fits.whole
  rw [url.parts fits targets, slash_delimiter]
  refine ⟨copied_holds targets.pAddress url.host url.hostText fits.host,
    sprintfPath_holds targets.pPath url.path fits.path, ?_⟩
  intro access member
  simp only [List.mem_cons, List.not_mem_nil, or_false] at member
  rcases member with rfl | rfl | rfl | rfl | rfl <;> simp only [Access.Inside] <;> omega

/-- A URL whose parts fit is accepted, and its parts recombine to it. -/
theorem url_round_trip (url : Url) (fits : url.Fits)
    (targets : UrlTargets httpDomainMaxSize httpPathMaxSize) :
    let parsed := parseUrlInfoInto url.text targets
    parsed.ending = .returned true ∧ parsed.targets.pAddress.Holds url.host ∧
      parsed.targets.pPath.Holds (ascii "/" ++ url.path) ∧ parsed.targets.port = url.port ∧
      url.scheme ++ ascii "://" ++ parsed.targets.pAddress.text ++ parsed.targets.pPath.text =
        url.text := by
  intro parsed
  obtain ⟨address, path, _⟩ := url.stored fits targets
  have parts := url.parts fits targets
  have pathText : IsText (ascii "/" ++ url.path) := fun byte member =>
    url.isText byte (by
      rw [Url.text, List.append_assoc]
      exact List.mem_append_right _ member)
  refine ⟨congrArg UrlParse.ending parts, address, path,
    congrArg (fun parse => parse.targets.port) parts, ?_⟩
  rw [holds_text _ _ url.hostText address, holds_text _ _ pathText path, Url.text,
    List.append_assoc _ (ascii "/")]

/-- A signed URL repeats the delimiters in its path. -/
def signedUrl : Url where
  scheme := ascii "https"
  host := ascii "bucket.example"
  path := ascii "firmware/app.bin?credential=key/20230314:s3"
  known := by decide +kernel
  hostText := by
    unfold IsText
    decide +kernel
  hostNonempty := by decide +kernel
  hostPlain := by decide +kernel
  pathText := by
    unfold IsText
    decide +kernel
  pathNonempty := by decide +kernel

theorem signed_url_round_trip :
    let parsed := parseUrlInfoInto signedUrl.text
      ⟨.zeroed httpDomainMaxSize [], .zeroed httpPathMaxSize [], 0⟩
    parsed.ending = .returned true ∧ parsed.targets.pAddress.Holds signedUrl.host ∧
      parsed.targets.pPath.Holds (ascii "/" ++ signedUrl.path) ∧
      parsed.targets.port = signedUrl.port ∧
      signedUrl.scheme ++ ascii "://" ++ parsed.targets.pAddress.text ++
        parsed.targets.pPath.text = signedUrl.text :=
  url_round_trip signedUrl
    ⟨by decide +kernel, by decide +kernel, by decide +kernel⟩ _

end WiznetEaas.UrlParser
