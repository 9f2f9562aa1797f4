import WiznetEaas.FormattedStrings
import WiznetEaas.JsonTokens

/-!
# The JSON requests

The payloads of a status update and of a registration are printed from templates, with the
texts between quotes as they are. A line break stands in the template between any two
places, so no text takes a part of the template into its string unnoticed. The service
reads the texts that are meant exactly when each of them stands for itself.
-/

namespace WiznetEaas.JsonRequests

open CStrings CFormat MqttMessages JobProcedures FormattedStrings JsonText JsonTokens

/-- The requests with a JSON payload. -/
inductive Request where
  | statusUpdate
  | registration
  deriving DecidableEq

/-- Where it is printed. -/
def Request.site : Request → Site
  | .statusUpdate => .iotJobsUpdateJobStatusPayload
  | .registration => .processRegisterThingPayload

/-- What is printed. -/
def Request.payload (inputs : Inputs) (request : Request) : List UInt8 :=
  sprintf (request.site.call inputs).format (request.site.call inputs).arguments

/-- The texts that are printed. -/
def Request.texts (inputs : Inputs) (request : Request) : List (List UInt8) :=
  (request.site.call inputs).arguments

/-- The string of a text that stands for itself. -/
def itself (text : List UInt8) : Token := .string (text.map UInt8.toNat)

/-- A member whose value is a text. -/
def member (name : String) (text : List UInt8) : List Token :=
  [itself (ascii name), .mark 58, itself text]

/-- A registration with a token and three texts. -/
def registrationTokens (token serial location manufacturer : List UInt8) : List Token :=
  [.mark 123] ++ member "certificateOwnershipToken" token ++
    [.mark 44, itself (ascii "parameters"), .mark 58, .mark 123] ++ member "SerialNumber" serial ++
    [.mark 44] ++ member "DeviceLocation" location ++ [.mark 44] ++
    member "Manufacturer" manufacturer ++ [.mark 125, .mark 125]

/-- What is meant. -/
def Request.tokens (inputs : Inputs) : Request → List Token
  | .statusUpdate =>
    [.mark 123] ++ member "status" inputs.jobStatus.text ++ [.mark 44] ++
      member "logs" inputs.processLog.text ++ [.mark 125]
  | .registration =>
    registrationTokens inputs.ownershipToken.text inputs.deviceInfo.thingName.text
      inputs.deviceInfo.location.text inputs.deviceInfo.manufacturer.text

/-- The members of the object, the last one first. -/
def Request.members : Request → List Member
  | .statusUpdate =>
    [⟨(ascii "logs").map UInt8.toNat, .string⟩, ⟨(ascii "status").map UInt8.toNat, .string⟩]
  | .registration =>
    [⟨(ascii "parameters").map UInt8.toNat, .object⟩,
      ⟨(ascii "certificateOwnershipToken").map UInt8.toNat, .string⟩]

def statusOpening : List UInt8 := ascii "\x7b\r\n   \"status\" : \""

def behindStatus : Segment (.inString [] .plain) where
  text := ascii ", \r\n   \"logs\"   : \""
  tokens := [.mark 44, itself (ascii "logs"), .mark 58]
  breaks := breaks_take _ 3 (by decide +kernel) (by decide +kernel)
  reads := by decide +kernel

def behindLogs : Segment .between where
  text := ascii " \r\n\x7d"
  tokens := [.mark 125]
  breaks := breaks_take _ 2 (by decide +kernel) (by decide +kernel)
  reads := by decide +kernel

def registrationOpening : List UInt8 :=
  ascii "\x7b\r\n   \"certificateOwnershipToken\" : \""

def behindToken : Segment (.inString [] .plain) where
  text := ascii ",\r\n   \"parameters\" : \x7b\r\n       \"SerialNumber\" : \""
  tokens := [.mark 44, itself (ascii "parameters"), .mark 58, .mark 123,
    itself (ascii "SerialNumber"), .mark 58]
  breaks := breaks_take _ 2 (by decide +kernel) (by decide +kernel)
  reads := by decide +kernel

def behindSerial : Segment (.inString [] .plain) where
  text := ascii ",\r\n       \"DeviceLocation\" : \""
  tokens := [.mark 44, itself (ascii "DeviceLocation"), .mark 58]
  breaks := breaks_take _ 2 (by decide +kernel) (by decide +kernel)
  reads := by decide +kernel

def behindLocation : Segment (.inString [] .plain) where
  text := ascii ",\r\n       \"Manufacturer\" : \""
  tokens := [.mark 44, itself (ascii "Manufacturer"), .mark 58]
  breaks := breaks_take _ 2 (by decide +kernel) (by decide +kernel)
  reads := by decide +kernel

def behindManufacturer : Segment .between where
  text := ascii "\r\n   \x7d\r\n\x7d"
  tokens := [.mark 125, .mark 125]
  breaks := breaks_take _ 1 (by decide +kernel) (by decide +kernel)
  reads := by decide +kernel

/-- The template of a status update, filled. -/
def statusFilled (status log : List UInt8) : Filled :=
  .place status behindStatus (.last log behindLogs)

/-- The template of a registration, filled. -/
def registrationFilled (token serial location manufacturer : List UInt8) : Filled :=
  .place token behindToken (.place serial behindSerial
    (.place location behindLocation (.last manufacturer behindManufacturer)))

/-- The payload of a status update is its filled template. -/
theorem status_printed (status log : List UInt8) (statusText : IsText status)
    (logText : IsText log) :
    sprintf awsJobsUpdateParameters [status, log] =
      statusOpening ++ (statusFilled status log).text := by
  have shape : awsJobsUpdateParameters = statusOpening ++ 37 :: 115 ::
      (34 :: behindStatus.text ++ 37 :: 115 :: 34 :: behindLogs.text) := by decide +kernel
  rw [shape, sprintf_argument _ _ _ _ (by decide +kernel),
    sprintf_argument _ _ _ _ (by decide +kernel), sprintf_literal _ _ (by decide +kernel),
    CBuffers.cText_whole _ statusText, CBuffers.cText_whole _ logText]
  simp only [statusFilled, Filled.text, List.append_assoc, List.cons_append]

/-- The payload of a registration is its filled template. -/
theorem registration_printed (token serial location manufacturer : List UInt8)
    (tokenText : IsText token) (serialText : IsText serial) (locationText : IsText location)
    (manufacturerText : IsText manufacturer) :
    sprintf awsRegisterThingParameters [token, serial, location, manufacturer] =
      registrationOpening ++ (registrationFilled token serial location manufacturer).text := by
  have shape : awsRegisterThingParameters = registrationOpening ++ 37 :: 115 ::
      (34 :: behindToken.text ++ 37 :: 115 :: (34 :: behindSerial.text ++ 37 :: 115 ::
        (34 :: behindLocation.text ++ 37 :: 115 :: 34 :: behindManufacturer.text))) := by
    decide +kernel
  rw [shape, sprintf_argument _ _ _ _ (by decide +kernel),
    sprintf_argument _ _ _ _ (by decide +kernel), sprintf_argument _ _ _ _ (by decide +kernel),
    sprintf_argument _ _ _ _ (by decide +kernel), sprintf_literal _ _ (by decide +kernel),
    CBuffers.cText_whole _ tokenText, CBuffers.cText_whole _ serialText,
    CBuffers.cText_whole _ locationText, CBuffers.cText_whole _ manufacturerText]
  simp only [registrationFilled, Filled.text, List.append_assoc, List.cons_append]

theorem registration_opens : Reader.read ⟨.between, []⟩ registrationOpening =
    some ⟨.inString [] .plain,
      [.mark 123, itself (ascii "certificateOwnershipToken"), .mark 58]⟩ := by decide +kernel

/-- A token without quotes and backslashes is read as itself, if at all. -/
theorem registration_token (token meant serial location manufacturer : List UInt8)
    (tokenText : IsText token) (serialText : IsText serial) (locationText : IsText location)
    (manufacturerText : IsText manufacturer) (open_ : 34 ∉ token) (unescaped : 92 ∉ token)
    (reads : readTokens
        (sprintf awsRegisterThingParameters [token, serial, location, manufacturer]) =
      some (registrationTokens meant serial location manufacturer)) : token = meant := by
  rw [registration_printed token serial location manufacturer tokenText serialText locationText
    manufacturerText, opened_iff _ _ _ _ registration_opens] at reads
  exact place_same token meant _ _ _ (breaks_append _ _ behindToken.breaks) open_ unescaped
    ⟨_, rfl⟩ reads

/-- A registration is read as it is meant exactly when its four texts are plain. -/
theorem registration_read (token serial location manufacturer : List UInt8)
    (tokenText : IsText token) (serialText : IsText serial) (locationText : IsText location)
    (manufacturerText : IsText manufacturer) :
    readTokens (sprintf awsRegisterThingParameters [token, serial, location, manufacturer]) =
        some (registrationTokens token serial location manufacturer) ↔
      IsPlain token ∧ IsPlain serial ∧ IsPlain location ∧ IsPlain manufacturer := by
  have meant : registrationTokens token serial location manufacturer =
      [.mark 123, itself (ascii "certificateOwnershipToken"), .mark 58] ++
        (registrationFilled token serial location manufacturer).tokens := rfl
  rw [registration_printed token serial location manufacturer tokenText serialText locationText
    manufacturerText, meant, template_iff _ _ _ registration_opens]
  simp only [registrationFilled, Filled.arguments, List.forall_mem_cons, List.not_mem_nil,
    false_implies, implies_true, and_true]

/-- A status update is read as it is meant exactly when both texts are plain. -/
theorem status_read (status log : List UInt8) (statusText : IsText status)
    (logText : IsText log) :
    readTokens (sprintf awsJobsUpdateParameters [status, log]) =
        some ([.mark 123] ++ member "status" status ++ [.mark 44] ++ member "logs" log ++
          [.mark 125]) ↔
      IsPlain status ∧ IsPlain log := by
  have opens : Reader.read ⟨.between, []⟩ statusOpening = some ⟨.inString [] .plain,
      [.mark 123, itself (ascii "status"), .mark 58]⟩ := by decide +kernel
  have meant : [.mark 123] ++ member "status" status ++ [.mark 44] ++ member "logs" log ++
      [.mark 125] = [.mark 123, itself (ascii "status"), .mark 58] ++
        (statusFilled status log).tokens := rfl
  rw [status_printed status log statusText logText, meant, template_iff _ _ _ opens]
  simp only [statusFilled, Filled.arguments, List.forall_mem_cons, List.not_mem_nil, false_implies,
    implies_true, and_true]

theorem jobStatus_text (status : JobStatus) : IsText status.text := by
  cases status <;> unfold IsText <;> decide +kernel

/-- The machine in the value of a member of the object. -/
def inMember (name : String) (earlier : List Member) : State :=
  ⟨.string none .plain, [.object], (ascii name).map UInt8.toNat,
    ⟨(ascii name).map UInt8.toNat, .string⟩ :: earlier⟩

/-- The machine in the value of a member of the inner object. -/
def inParameters : State :=
  ⟨.string none .plain, [.object, .object], (ascii "parameters").map UInt8.toNat,
    Request.registration.members⟩

/-- A body and the segment behind it. -/
theorem read_segment (state next : State) (text segment rest : List UInt8)
    (isBody : IsStringBody text) (inside : state.inString .plain = state)
    (reads : state.behind.read segment = some next) :
    state.read (text ++ 34 :: (segment ++ rest)) = next.read rest := by
  have body := read_body state text (segment ++ rest) isBody
  rw [inside] at body
  rw [body, State.read_append, reads]
  rfl

/-- The last body and the segment behind it. -/
theorem read_last (state next : State) (text segment : List UInt8) (isBody : IsStringBody text)
    (inside : state.inString .plain = state) (reads : state.behind.read segment = some next) :
    state.read (text ++ 34 :: segment) = some next := by
  have read := read_segment state next text segment [] isBody inside reads
  rw [List.append_nil] at read
  exact read

/-- A registration whose texts may stand in strings is an object of a string and an object. -/
theorem registration_object (token serial location manufacturer : List UInt8)
    (tokenBody : IsStringBody token) (serialBody : IsStringBody serial)
    (locationBody : IsStringBody location) (manufacturerBody : IsStringBody manufacturer) :
    objectMembers
        (registrationOpening ++ (registrationFilled token serial location manufacturer).text) =
      some Request.registration.members := by
  have opens : State.initial.read registrationOpening =
      some (inMember "certificateOwnershipToken" []) := by decide +kernel
  have closes : inParameters.behind.read behindManufacturer.text =
      some ⟨.next, [], inParameters.name, inParameters.members⟩ := by decide +kernel
  rw [objectMembers, State.read_append, opens, Option.bind_some]
  simp only [registrationFilled, Filled.text]
  rw [read_segment _ inParameters token _ _ tokenBody rfl (by decide +kernel),
    read_segment _ inParameters serial _ _ serialBody rfl (by decide +kernel),
    read_segment _ inParameters location _ _ locationBody rfl (by decide +kernel),
    read_last _ _ manufacturer _ manufacturerBody rfl closes]
  rfl

/-- A status update whose texts may stand in strings is an object of two strings. -/
theorem status_object (status log : List UInt8) (statusBody : IsStringBody status)
    (logBody : IsStringBody log) :
    objectMembers (statusOpening ++ (statusFilled status log).text) =
      some Request.statusUpdate.members := by
  have opens : State.initial.read statusOpening = some (inMember "status" []) := by decide +kernel
  have closes : (inMember "logs" (inMember "status" []).members).behind.read behindLogs.text =
      some ⟨.next, [], (ascii "logs").map UInt8.toNat, Request.statusUpdate.members⟩ := by
    decide +kernel
  rw [objectMembers, State.read_append, opens, Option.bind_some]
  simp only [statusFilled, Filled.text]
  rw [read_segment _ (inMember "logs" (inMember "status" []).members) status _ _ statusBody rfl
      (by decide +kernel), read_last _ _ log _ logBody rfl closes]
  rfl

/-- Each JSON request fits its buffer, whatever texts the device holds. The service reads
the tokens that are meant exactly when all texts in it are plain, and if they may only
stand in strings it still reads an object with the members that are meant. -/
theorem requests_read_back (inputs : Inputs) (request : Request) :
    (request.site.call inputs).Fits ∧
      (readTokens (request.payload inputs) = some (request.tokens inputs) ↔
        ∀ text ∈ request.texts inputs, IsPlain text) ∧
      ((∀ text ∈ request.texts inputs, IsStringBody text) →
        objectMembers (request.payload inputs) = some request.members) := by
  cases request with
  | statusUpdate =>
    have statusText := jobStatus_text inputs.jobStatus
    refine ⟨updatePayload_fits inputs, ?_, ?_⟩
    · refine Iff.trans (status_read inputs.jobStatus.text inputs.processLog.text statusText
        inputs.processLog.isText) ?_
      simp only [Request.texts, Request.site, Site.call, List.forall_mem_cons, List.not_mem_nil,
        false_implies, implies_true, and_true]
    · intro bodies
      have printed := status_printed inputs.jobStatus.text inputs.processLog.text statusText
        inputs.processLog.isText
      rw [Request.payload]
      exact (congrArg objectMembers printed).trans (status_object _ _
        (bodies _ List.mem_cons_self) (bodies _ (List.mem_cons_of_mem _ List.mem_cons_self)))
  | registration =>
    refine ⟨registerPayload_fits inputs, ?_, ?_⟩
    · refine Iff.trans (registration_read inputs.ownershipToken.text
        inputs.deviceInfo.thingName.text inputs.deviceInfo.location.text
        inputs.deviceInfo.manufacturer.text inputs.ownershipToken.isText
        inputs.deviceInfo.thingName.isText inputs.deviceInfo.location.isText
        inputs.deviceInfo.manufacturer.isText) ?_
      simp only [Request.texts, Request.site, Site.call, List.forall_mem_cons, List.not_mem_nil,
        false_implies, implies_true, and_true]
    · intro bodies
      have printed := registration_printed inputs.ownershipToken.text
        inputs.deviceInfo.thingName.text inputs.deviceInfo.location.text
        inputs.deviceInfo.manufacturer.text inputs.ownershipToken.isText
        inputs.deviceInfo.thingName.isText inputs.deviceInfo.location.isText
        inputs.deviceInfo.manufacturer.isText
      simp only [Request.texts, Request.site, Site.call, List.forall_mem_cons] at bodies
      obtain ⟨tokenBody, serialBody, locationBody, manufacturerBody, _⟩ := bodies
      exact (congrArg objectMembers printed).trans
        (registration_object _ _ _ _ tokenBody serialBody locationBody manufacturerBody)

end WiznetEaas.JsonRequests
