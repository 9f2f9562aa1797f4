import WiznetEaas.FirmwareArming
import WiznetEaas.FormattedStrings
import WiznetEaas.JsonText
import WiznetEaas.OtaParams

/-!
# The JSON of a status update

The log of an execution is printed between two quotes of a JSON template, as it is. All
logs are texts that may stand there, except for the one that ends with the version a job
document asks for: it is the document's text of the value, which need not be a string.
-/

namespace WiznetEaas.StatusPayload

open NorFlash ByteMemory CStrings CFormat FlashControl FlashRecords DeviceCommon HttpInterface
  OtaDownload JobDocument MqttMessages JobMessages JobProcedures FirmwareArming FormattedStrings
  OtaParams JsonText

def statusName : List Nat := (ascii "status").map UInt8.toNat

def logsName : List Nat := (ascii "logs").map UInt8.toNat

/-- Both members are there, and are strings wherever they are. -/
def NamesStrings (members : List Member) : Prop :=
  ∀ name ∈ [statusName, logsName], (∃ member ∈ members, member.name = name) ∧
    ∀ member ∈ members, member.name = name → member.kind = .string

instance (members : List Member) : Decidable (NamesStrings members) :=
  inferInstanceAs (Decidable (∀ name ∈ _, _))

/-- A payload that fits its buffer and is an object with both members. -/
structure WellFormedUpdate (payload : List UInt8) : Prop where
  fits : payload.length + 1 ≤ sizeofPubMsgBuf
  object : ∃ members, objectMembers payload = some members ∧ NamesStrings members

/-- The template up to the log. -/
def opening (ret : Bool) : List UInt8 :=
  ascii "\x7b\r\n   \"status\" : \"" ++ (if ret then jobsApiStatusSucceeded else jobsApiStatusFailed) ++
    ascii "\", \r\n   \"logs\"   : \""

/-- The template behind the log and its quote. -/
def closing : List UInt8 := ascii " \r\n\x7d"

/-- The machine at the log. -/
def inLogs : State :=
  ⟨.string none .plain, [.object], logsName, [⟨logsName, .string⟩, ⟨statusName, .string⟩]⟩

/-- A text behind a quote in the log goes on with members to the end of the object, inside
whose last string the quote of the template stands. -/
def GoesOn (rest : List UInt8) : Prop :=
  ∃ members, (inLogs.behind.read (rest ++ 34 :: closing)).bind State.closed = some members ∧
    NamesStrings members

/-- A text that completes the template: it may stand between the quotes, or it ends the
string itself and goes on. -/
def Completes (text : List UInt8) : Prop :=
  IsStringBody text ∨
    ∃ body rest, text = body ++ 34 :: rest ∧ IsStringBody body ∧ GoesOn rest

/-- The version of a job document that is parsed and then refused. -/
def refusedVersion (json : Json) (execution : JobExecution) : Option (List UInt8) :=
  if strncmpEqual 4 execution.jobType awsJobTypeOta && (parsedParams json execution).1 then
    ((located json execution.jobDocument (ascii "fwVersion")).map cText).filter fun version =>
      !isUpperVersionFw applicationVersion version
  else none

/-- The payload is what the call of `sprintf` writes. -/
theorem payload_formatted (update : StatusUpdate) (statusText : IsText update.status)
    (logText : IsText update.log) :
    sprintf awsJobsUpdateParameters [update.status, update.log] = update.payload := by
  have shape : awsJobsUpdateParameters = ascii "\x7b\r\n   \"status\" : \"" ++ 37 :: 115 ::
      (ascii "\", \r\n   \"logs\"   : \"" ++ 37 :: 115 :: ascii "\" \r\n\x7d") := by
    decide +kernel
  rw [shape, sprintf_argument _ _ _ _ (by decide +kernel), sprintf_argument _ _ _ _ (by decide +kernel),
    sprintf_literal _ _ (by decide +kernel), StatusUpdate.payload,
    CBuffers.cText_whole _ statusText, CBuffers.cText_whole _ logText]
  simp only [List.append_assoc]

theorem payload_split (document : DocumentResult) (state : JobsState) :
    (statusOf document state).payload =
      opening document.ret ++ (document.log ++ 34 :: closing) := by
  have quoted : ascii "\" \r\n\x7d" = 34 :: closing := by decide +kernel
  simp only [StatusUpdate.payload, statusOf, opening, quoted, List.append_assoc]

theorem read_opening (ret : Bool) : State.initial.read (opening ret) = some inLogs := by
  cases ret <;> decide +kernel

/-- The object of the payload is read from the log on. -/
theorem object_read (document : DocumentResult) (state : JobsState) :
    objectMembers (statusOf document state).payload =
      (inLogs.read (document.log ++ 34 :: closing)).bind State.closed := by
  rw [objectMembers, payload_split, State.read_append, read_opening]
  rfl

/-- A text makes the payload an object with both members exactly when it completes the
template. -/
theorem completes_iff (text : List UInt8) :
    (∃ members, (inLogs.read (text ++ 34 :: closing)).bind State.closed = some members ∧
      NamesStrings members) ↔ Completes text := by
  have atEnd : (inLogs.behind.read closing).bind State.closed = some inLogs.members := by
    decide +kernel
  have both : NamesStrings inLogs.members := by decide +kernel
  have broken : inLogs.read closing = none := by decide +kernel
  constructor
  · rintro ⟨members, closes, named⟩
    obtain ⟨final, reads, closed⟩ := Option.bind_eq_some_iff.mp closes
    rcases (read_string_iff inLogs final text closing).mp reads with
      ⟨isBody, _⟩ | ⟨_, reads⟩ | ⟨body, rest, same, isBody, reads⟩
    · exact .inl isBody
    · rw [show inLogs.inString .plain = inLogs from rfl, broken] at reads
      cases reads
    · refine .inr ⟨body, rest, same, isBody, members, ?_, named⟩
      rw [reads]
      exact closed
  · rintro (isBody | ⟨body, rest, same, isBody, members, closes, named⟩)
    · refine ⟨inLogs.members, ?_, both⟩
      rw [← atEnd, ← read_body inLogs text closing isBody]
      rfl
    · refine ⟨members, ?_, named⟩
      rw [same, List.append_assoc, List.cons_append, ← closes,
        ← read_body inLogs body (rest ++ 34 :: closing) isBody]
      rfl

/-- Two strings of an array end the log and add a member. -/
example : Completes (ascii "[\",\",\":\"]") :=
  .inr ⟨ascii "[", ascii ",\",\":\"]", by decide +kernel, by decide +kernel,
    ⟨⟨[44], .string⟩ :: inLogs.members, by decide +kernel, by decide +kernel⟩⟩

/-- The log of a refused version completes the template exactly when the version does. -/
theorem versionLog_completes (version : List UInt8) :
    Completes (versionLog applicationVersion version) ↔ Completes version := by
  have beginning : IsStringBody (versionLog applicationVersion []) := by decide +kernel
  have split : versionLog applicationVersion version =
      versionLog applicationVersion [] ++ version := by
    rw [versionLog, versionLog, List.append_nil]
  rw [← completes_iff, ← completes_iff, split, List.append_assoc, State.read_append,
    show inLogs = inLogs.inString .plain from rfl,
    read_inString inLogs .plain .plain _ beginning, Option.bind_some]

/-- The version of a parsed document is the text of its value. -/
theorem parsed_version (json : Json) (execution : JobExecution)
    (parsed : (parsedParams json execution).1 = true) :
    ∃ version, located json execution.jobDocument (ascii "fwVersion") = some version ∧
      version.length ≤ maxAwsJobFirmwareVersionSize ∧
      jobOtaText (parsedParams json execution).2 firmwareVersionOffset = cText version := by
  simp only [parsedParams, parsingOtaJobParams] at parsed ⊢
  split at parsed
  next valid =>
    rw [if_pos valid]
    cases url : json.search execution.jobDocument (ascii "fwUrl") with
    | none => simp only [url] at parsed; cases parsed
    | some urlSpan =>
      simp only [url] at parsed ⊢
      split at parsed
      next => cases parsed
      next urlFits =>
        rw [if_neg urlFits]
        cases found : json.search execution.jobDocument (ascii "fwVersion") with
        | none => simp only [found] at parsed; cases parsed
        | some span =>
          have length := span_length json execution.jobDocument _ span found
          simp only [found] at parsed ⊢
          split at parsed
          next => cases parsed
          next versionFits =>
            rw [if_neg versionFits]
            cases size : json.search execution.jobDocument (ascii "fwSize") with
            | none => simp only [size] at parsed; cases parsed
            | some sizeSpan =>
              cases crc : json.search execution.jobDocument (ascii "fwCrc") with
              | none => simp only [size, crc] at parsed; cases parsed
              | some crcSpan =>
                refine ⟨_, by rw [located, found]; rfl, by rw [length]; omega, ?_⟩
                exact storedRecord_version _ _ _ _ _ (by rw [length]; omega)
  next => cases parsed

/-- The logs that do not come from the document. -/
def fixedLogs : List (List UInt8) :=
  [[], ascii "Fail to parsing ota job params", ascii "Fail to http get",
    ascii "There is no binary data", ascii "Invalid CRC", ascii "Success to download firmware"]

/-- They may all stand between the quotes. -/
theorem fixedLogs_bodies : ∀ log ∈ fixedLogs, IsStringBody log ∧ log.length ≤ 30 := by
  decide +kernel

variable (misaligned : Misalignment UInt8 userFlashPageSize) (coreHttp : CoreHttp)

/-- A download reports one of them. -/
theorem download_log (world : DownloadWorld) (pUrl : List UInt8) (fwSize fwCrc : Nat)
    (contents : Contents UInt8) (result : DownloadResult)
    (ran : otaDownloadFirmware misaligned coreHttp world pUrl fwSize fwCrc contents = some result) :
    result.log ∈ fixedLogs := by
  obtain ⟨download, _, ran⟩ := Option.bind_eq_some_iff.mp ran
  split at ran
  next =>
    have fixed : ascii "Fail to http get" ∈ fixedLogs := by decide +kernel
    cases ran
    exact fixed
  next =>
    split at ran
    next =>
      have fixed : ascii "There is no binary data" ∈ fixedLogs := by decide +kernel
      cases ran
      exact fixed
    next =>
      dsimp only at ran
      split at ran
      next =>
        have fixed : ascii "Invalid CRC" ∈ fixedLogs := by decide +kernel
        cases ran
        exact fixed
      next =>
        have fixed : ascii "Success to download firmware" ∈ fixedLogs := by decide +kernel
        cases ran
        exact fixed

/-- An execution reports the refused version, or one of the fixed logs. -/
theorem document_log (abi : Abi) (json : Json) (world : DownloadWorld) (pAppCommon : Pointer)
    (execution : JobExecution) (contents : Contents UInt8) (document : DocumentResult)
    (ran : startJobDocument misaligned coreHttp abi json applicationVersion world pAppCommon execution
      contents = some document) :
    (∃ version, refusedVersion json execution = some version ∧
        version.length ≤ maxAwsJobFirmwareVersionSize ∧
        document.log = versionLog applicationVersion version) ∨
      (refusedVersion json execution = none ∧ document.log ∈ fixedLogs) := by
  rw [startJobDocument] at ran
  split at ran
  next isOta =>
    dsimp only at ran
    split at ran
    next unparsed =>
      have refused : refusedVersion json execution = none := by
        rw [refusedVersion, unparsed, Bool.and_false, if_neg Bool.false_ne_true]
      have fixed : ascii "Fail to parsing ota job params" ∈ fixedLogs := by decide +kernel
      cases ran
      exact .inr ⟨refused, fixed⟩
    next parsed =>
      rw [Bool.not_eq_false] at parsed
      obtain ⟨version, found, short, read⟩ := parsed_version json execution parsed
      have asked : refusedVersion json execution = if isUpperVersionFw applicationVersion
          (cText version) = false then some (cText version) else none := by
        rw [refusedVersion, isOta, parsed, found, Bool.and_self, if_pos rfl, Option.map_some,
          Option.filter_some]
        cases isUpperVersionFw applicationVersion (cText version) <;> rfl
      rw [read] at ran
      split at ran
      next lower =>
        cases ran
        refine .inl ⟨cText version, asked.trans (if_pos lower), ?_, rfl⟩
        exact Nat.le_trans (List.takeWhile_prefix _).length_le short
      next upper =>
        refine .inr ⟨asked.trans (if_neg upper), ?_⟩
        obtain ⟨result, downloaded, ran⟩ := Option.bind_eq_some_iff.mp ran
        have log := download_log misaligned coreHttp world _ _ _ contents result downloaded
        split at ran
        next =>
          cases ran
          exact log
        next =>
          cases ran
          exact log
  next other =>
    have refused : refusedVersion json execution = none := by
      rw [refusedVersion, Bool.eq_false_iff.mpr other, Bool.false_and, if_neg Bool.false_ne_true]
    have fixed : [] ∈ fixedLogs := List.mem_cons_self
    split at ran
    next =>
      cases ran
      exact .inr ⟨refused, fixed⟩
    next =>
      cases ran
      exact .inr ⟨refused, fixed⟩

/-- A status update is well formed exactly when the version that its job document asks for
is not refused, or has a text that completes the template. -/
theorem update_well_formed_iff (abi : Abi) (json : Json) (world : DownloadWorld)
    (pAppCommon : Pointer) (execution : JobExecution) (contents : Contents UInt8)
    (document : DocumentResult) (state : JobsState)
    (ran : startJobDocument misaligned coreHttp abi json applicationVersion world pAppCommon execution
      contents = some document) :
    WellFormedUpdate (statusOf document state).payload ↔
      ∀ version ∈ refusedVersion json execution, Completes version := by
  have object : WellFormedUpdate (statusOf document state).payload ↔
      (statusOf document state).payload.length + 1 ≤ sizeofPubMsgBuf ∧ Completes document.log := by
    rw [← completes_iff, ← object_read]
    exact ⟨fun update => ⟨update.fits, update.object⟩, fun update => ⟨update.1, update.2⟩⟩
  have length : (statusOf document state).payload.length ≤ 52 + document.log.length := by
    have opened : (opening document.ret).length ≤ 47 := by
      cases document.ret <;> decide +kernel
    rw [payload_split, List.length_append, List.length_append, List.length_cons]
    have closed : closing.length = 4 := by decide +kernel
    omega
  rw [object]
  rcases document_log misaligned coreHttp abi json world pAppCommon execution contents document ran
    with ⟨version, refused, short, log⟩ | ⟨accepted, log⟩
  · have beginning : (versionLog applicationVersion []).length ≤ 80 := by decide +kernel
    have logLength : document.log.length ≤ 144 := by
      rw [log, versionLog, List.length_append]
      rw [versionLog, List.append_nil] at beginning
      simp only [maxAwsJobFirmwareVersionSize] at short
      omega
    have fits : (statusOf document state).payload.length + 1 ≤ sizeofPubMsgBuf := by
      simp only [sizeofPubMsgBuf]
      omega
    rw [and_iff_right fits, log, versionLog_completes, refused]
    simp only [Option.mem_some_iff, forall_eq']
  · obtain ⟨isBody, short⟩ := fixedLogs_bodies document.log log
    have fits : (statusOf document state).payload.length + 1 ≤ sizeofPubMsgBuf := by
      simp only [sizeofPubMsgBuf]
      omega
    rw [accepted]
    exact ⟨fun _ => nofun, fun _ => ⟨fits, .inl isBody⟩⟩

/-- A job that asks for a version, with the text of the value as it is. -/
def versionJob (value : List UInt8) : JobExecution where
  jobType := awsJobTypeOta
  jobDocument := ascii "\x7b\"fwUrl\":\"http://host/app\",\"fwVersion\":" ++ value ++
    ascii ",\"fwSize\":\"16\",\"fwCrc\":\"0\"\x7d"
  jobOta := fun _ => 0

/-- The JSON library on flat objects of plain strings and of arrays without brackets in
them: a string is found without its quotes, and an array with its brackets. -/
def valuesJson : Json where
  validate text := (objectMembers text).isSome
  search text key :=
    let mark := ascii "\"" ++ key ++ ascii "\":"
    let start := (List.range text.length).find? fun index => mark.isPrefixOf (text.drop index)
    let span := start.bind fun index =>
      match text.drop (index + mark.length) with
      | 34 :: rest => some (index + mark.length + 1, (rest.takeWhile (· != 34)).length)
      | 91 :: rest => some (index + mark.length, (rest.takeWhile (· != 93)).length + 2)
      | _ => none
    span.filter fun span => decide (span.1 + span.2 ≤ text.length)
  search_inside := by
    intro text key start length found
    exact of_decide_eq_true (Option.filter_eq_some_iff.mp found).2

/-- A job that asks for an older version is reported by a well-formed update. -/
theorem older_version_reported :
    ∃ document, startJobDocument (.ignored UInt8 256) exampleCoreHttp shortEnumAbi valuesJson
        applicationVersion unreachable (fun _ => 0) (versionJob (ascii "\"0.9.0\"")) (fun _ => 0) =
          some document ∧
      WellFormedUpdate (statusOf document (.initial (fun _ => 0) (fun _ => 0))).payload := by
  have returns : (startJobDocument (.ignored UInt8 256) exampleCoreHttp shortEnumAbi valuesJson
      applicationVersion unreachable (fun _ => 0) (versionJob (ascii "\"0.9.0\""))
      (fun _ => 0)).isSome = true := by decide +kernel
  obtain ⟨document, ran⟩ := Option.isSome_iff_exists.mp returns
  refine ⟨document, ran, (update_well_formed_iff (.ignored UInt8 256) exampleCoreHttp shortEnumAbi
    valuesJson unreachable (fun _ => 0) (versionJob (ascii "\"0.9.0\"")) (fun _ => 0) document _
    ran).mpr ?_⟩
  have refused : refusedVersion valuesJson (versionJob (ascii "\"0.9.0\"")) =
      some (ascii "0.9.0") := by decide +kernel
  rw [refused]
  rintro version ⟨⟩
  exact .inl (by decide +kernel)

/-- The update for a job whose version is an array of one string is no JSON at all. -/
theorem array_version_breaks_update :
    ∃ document, startJobDocument (.ignored UInt8 256) exampleCoreHttp shortEnumAbi valuesJson
        applicationVersion unreachable (fun _ => 0) (versionJob (ascii "[\"1\"]")) (fun _ => 0) =
          some document ∧
      valuesJson.validate (versionJob (ascii "[\"1\"]")).jobDocument = true ∧
      objectMembers (statusOf document (.initial (fun _ => 0) (fun _ => 0))).payload = none ∧
      ¬ WellFormedUpdate (statusOf document (.initial (fun _ => 0) (fun _ => 0))).payload := by
  have returns : ((startJobDocument (.ignored UInt8 256) exampleCoreHttp shortEnumAbi valuesJson
      applicationVersion unreachable (fun _ => 0) (versionJob (ascii "[\"1\"]"))
      (fun _ => 0)).map fun document => objectMembers
        (statusOf document (.initial (fun _ => 0) (fun _ => 0))).payload) = some none := by
    decide +kernel
  obtain ⟨document, ran, broken⟩ := Option.map_eq_some_iff.mp returns
  refine ⟨document, ran, by decide +kernel, broken, fun update => ?_⟩
  obtain ⟨members, read, _⟩ := update.object
  rw [broken] at read
  cases read

end WiznetEaas.StatusPayload
