import WiznetEaas.JobBuffers
import WiznetEaas.Numerals

/-!
# The parameters of an update

`parsing_ota_job_params` on the arrays it fills. The two strings are copied out of the
document and terminated; the two numbers are converted where they lie, so `atoi` and
`strtoul` read on behind the located value. The lengths may equal those of the arrays, and
nothing tells whether a number was read at all. What is stored is what the document says
exactly when the values are well formed, or refused by the two length checks.
-/

namespace WiznetEaas.OtaParams

open ByteMemory CStrings CBuffers Numerals DeviceCommon JobDocument JobMessages JobBuffers

/-- What the parameters of a job are stored in. -/
structure AwsOtaParams (urlSize versionSize : Nat) where
  pFwUrl : Buffer urlSize
  pFwVersion : Buffer versionSize
  pFwSize : Nat
  pFwCrc : Nat

/-- What `parsing_ota_job_params` returns, stores and touches. -/
structure OtaParse (urlSize versionSize : Nat) where
  ret : Bool
  params : AwsOtaParams urlSize versionSize
  accesses : List Access

variable {urlSize versionSize : Nat}

/-- `parsing_ota_job_params`, with the lengths of the two arrays for the greatest lengths,
as its caller has it. The numbers are stored in 32 and in 16 bits. -/
def parsingOtaJobParamsInto (json : Json) (pPayload : List UInt8)
    (params : AwsOtaParams urlSize versionSize) : OtaParse urlSize versionSize :=
  if json.validate pPayload then
    match located json pPayload (ascii "fwUrl") with
    | none => ⟨false, params, []⟩
    | some url =>
      if url.length > urlSize then ⟨false, params, []⟩
      else match located json pPayload (ascii "fwVersion") with
      | none => ⟨false, params, []⟩
      | some version =>
        if version.length > versionSize then ⟨false, params, []⟩
        else match json.search pPayload (ascii "fwSize") with
        | none => ⟨false, params, []⟩
        | some (sizeStart, _) =>
          match json.search pPayload (ascii "fwCrc") with
          | none => ⟨false, params, []⟩
          | some (crcStart, _) =>
            let fwUrl := copyLocated (some url) params.pFwUrl
            let fwVersion := copyLocated (some version) params.pFwVersion
            ⟨true, {
              pFwUrl := fwUrl.1
              pFwVersion := fwVersion.1
              pFwSize := stringToInt (pPayload.drop sizeStart)
              pFwCrc := u16 (hexStringToInt (pPayload.drop crcStart)) },
              fwUrl.2 ++ fwVersion.2⟩
  else ⟨false, params, []⟩

/-- What can follow a value in a JSON document: the quote that closes a string, a comma, a
bracket or white space. -/
def valueEnds : List UInt8 := [34, 44, 125, 93, 32, 9, 10, 13]

def Ended (rest : List UInt8) : Prop := ∃ byte tail, rest = byte :: tail ∧ byte ∈ valueEnds

/-- Documented behaviour of the JSON library: a document holds no zero byte, and the span of
a value is all of it. -/
structure ExactSpans (json : Json) : Prop where
  noNul : ∀ text, json.validate text = true → IsText text
  ended : ∀ text key start length, json.validate text = true →
    json.search text key = some (start, length) → Ended (text.drop (start + length))

/-- A hexadecimal numeral, with or without the mark `0x`. -/
structure HexNumeral (text : List UInt8) where
  mark : List UInt8
  digits : List UInt8
  marked : mark ∈ [[], ascii "0x", ascii "0X"]
  numeral : IsNumeral 16 digits
  text_eq : text = mark ++ digits

def HexNumeral.value {text : List UInt8} (hex : HexNumeral text) : Nat :=
  Numerals.value 16 hex.digits

/-- The four values of a job document. -/
structure OtaJob where
  fwUrl : List UInt8
  fwVersion : List UInt8
  fwSize : List UInt8
  fwCrc : List UInt8

/-- All four are present in a document. -/
structure Present (json : Json) (pPayload : List UInt8) (job : OtaJob) : Prop where
  fwUrl : located json pPayload (ascii "fwUrl") = some job.fwUrl
  fwVersion : located json pPayload (ascii "fwVersion") = some job.fwVersion
  fwSize : located json pPayload (ascii "fwSize") = some job.fwSize
  fwCrc : located json pPayload (ascii "fwCrc") = some job.fwCrc

/-- The strings fit their arrays with their terminators, and the numbers are numerals in
their ranges. -/
structure WellFormed (urlSize versionSize : Nat) (job : OtaJob) : Prop where
  fwUrl : job.fwUrl.length < urlSize
  fwVersion : job.fwVersion.length < versionSize
  fwSize : IsNumeral 10 job.fwSize
  fwSizeRange : value 10 job.fwSize < 2147483648
  fwCrc : ∃ hex : HexNumeral job.fwCrc, hex.value < 65536

/-- A string is longer than its array, so a length check refuses it. -/
def TooLong (urlSize versionSize : Nat) (job : OtaJob) : Prop :=
  urlSize < job.fwUrl.length ∨ versionSize < job.fwVersion.length

instance (urlSize versionSize : Nat) : DecidablePred (TooLong urlSize versionSize) := fun job =>
  inferInstanceAs (Decidable (urlSize < job.fwUrl.length ∨ versionSize < job.fwVersion.length))

/-- The parameters are exactly those of a job. -/
structure Stored (params : AwsOtaParams urlSize versionSize) (job : OtaJob) : Prop where
  fwUrl : params.pFwUrl.Holds job.fwUrl
  fwVersion : params.pFwVersion.Holds job.fwVersion
  fwSize : params.pFwSize = value 10 job.fwSize
  fwCrc : ∃ hex : HexNumeral job.fwCrc, params.pFwCrc = hex.value

/-- The parser accepts a document just if its parameters are well formed, and stores these
or nothing, inside the arrays. -/
structure Exact (json : Json) (pPayload : List UInt8) (urlSize versionSize : Nat) : Prop where
  accepts : ∀ params : AwsOtaParams urlSize versionSize,
    (parsingOtaJobParamsInto json pPayload params).ret = true ↔
      ∃ job, Present json pPayload job ∧ WellFormed urlSize versionSize job
  outputs : ∀ params : AwsOtaParams urlSize versionSize,
    (parsingOtaJobParamsInto json pPayload params).ret = true →
      ∃ job, Present json pPayload job ∧
        Stored (parsingOtaJobParamsInto json pPayload params).params job
  unchanged : ∀ params : AwsOtaParams urlSize versionSize,
    (parsingOtaJobParamsInto json pPayload params).ret = false →
      (parsingOtaJobParamsInto json pPayload params).params = params
  inside : ∀ params : AwsOtaParams urlSize versionSize,
    ∀ access ∈ (parsingOtaJobParamsInto json pPayload params).accesses, access.Inside

/-- If all four parameters are present, a length check refuses them or they are well
formed. -/
def Checked (json : Json) (pPayload : List UInt8) (urlSize versionSize : Nat) : Prop :=
  ∀ job, Present json pPayload job →
    TooLong urlSize versionSize job ∨ WellFormed urlSize versionSize job

theorem present_unique (left right : OtaJob) (isLeft : Present json pPayload left)
    (isRight : Present json pPayload right) : left = right := by
  obtain ⟨leftUrl, leftVersion, leftSize, leftCrc⟩ := left
  obtain ⟨rightUrl, rightVersion, rightSize, rightCrc⟩ := right
  cases isLeft.fwUrl.symm.trans isRight.fwUrl
  cases isLeft.fwVersion.symm.trans isRight.fwVersion
  cases isLeft.fwSize.symm.trans isRight.fwSize
  cases isLeft.fwCrc.symm.trans isRight.fwCrc
  rfl

/-- The conversions stop behind a value. -/
theorem ended_stops (base : Nat) (small : base ≤ 16) (rest : List UInt8) (ended : Ended rest) :
    Stops base rest ∧ ∀ byte, rest.head? = some byte → byte ≠ 120 ∧ byte ≠ 88 := by
  have ends : ∀ byte ∈ valueEnds, 16 ≤ digitValue byte ∧ byte ≠ 120 ∧ byte ≠ 88 := by
    decide +kernel
  obtain ⟨byte, tail, rfl, isEnd⟩ := ended
  obtain ⟨noDigit, noMark⟩ := ends byte isEnd
  refine ⟨?_, ?_⟩
  · intro head first
    cases first
    exact Nat.le_trans small noDigit
  · intro head first
    cases first
    exact noMark

/-- A decimal numeral of 31 bits is read as its value. -/
theorem stringToInt_numeral (text rest : List UInt8) (numeral : IsNumeral 10 text)
    (range : value 10 text < 2147483648) (ended : Ended rest) :
    stringToInt (text ++ rest) = value 10 text := by
  have stops := (ended_stops 10 (by decide) rest ended).1
  rw [stringToInt, strtol_numeral rest numeral stops range]
  omega

/-- A hexadecimal numeral of 16 bits is read and stored as its value. -/
theorem hexStringToInt_numeral (text rest : List UInt8) (hex : HexNumeral text)
    (range : hex.value < 65536) (ended : Ended rest) :
    u16 (hexStringToInt (text ++ rest)) = hex.value := by
  obtain ⟨stops, unmarked⟩ := ended_stops 16 (by decide) rest ended
  have read : hexStringToInt (text ++ rest) = hex.value := by
    have whole : text ++ rest = hex.mark ++ (hex.digits ++ rest) :=
      (congrArg (· ++ rest) hex.text_eq).trans (List.append_assoc _ _ _)
    rw [hexStringToInt, whole]
    exact strtoulHex_numeral rest hex.mark hex.marked hex.numeral stops unmarked
      (Nat.lt_trans range (by decide))
  rw [read]
  exact Nat.mod_eq_of_lt range

variable {json : Json} {pPayload : List UInt8}

/-- What a search finds is the value and what is behind it. -/
theorem search_span (lawful : ExactSpans json) (valid : json.validate pPayload = true)
    (key : List UInt8) (start length : Nat)
    (found : json.search pPayload key = some (start, length)) :
    ∃ value rest, located json pPayload key = some value ∧ pPayload.drop start = value ++ rest ∧
      Ended rest := by
  refine ⟨(pPayload.drop start).take length, pPayload.drop (start + length), ?_, ?_, ?_⟩
  · rw [located, found]
    rfl
  · rw [← List.drop_drop]
    exact (List.take_append_drop length _).symm
  · exact lawful.ended pPayload key start length valid found

/-- What is stored of four values and of what follows the two numbers. -/
def storedParams (params : AwsOtaParams urlSize versionSize) (job : OtaJob)
    (behindSize behindCrc : List UInt8) : AwsOtaParams urlSize versionSize where
  pFwUrl := (copyLocated (some job.fwUrl) params.pFwUrl).1
  pFwVersion := (copyLocated (some job.fwVersion) params.pFwVersion).1
  pFwSize := stringToInt (job.fwSize ++ behindSize)
  pFwCrc := u16 (hexStringToInt (job.fwCrc ++ behindCrc))

/-- A document is refused and nothing is stored, or all four values are found and stored. -/
theorem parse_cases (lawful : ExactSpans json) (valid : json.validate pPayload = true)
    (params : AwsOtaParams urlSize versionSize) :
    (parsingOtaJobParamsInto json pPayload params = ⟨false, params, []⟩ ∧
      ∀ job, Present json pPayload job → TooLong urlSize versionSize job) ∨
    ∃ job behindSize behindCrc, Present json pPayload job ∧
      ¬ TooLong urlSize versionSize job ∧ Ended behindSize ∧ Ended behindCrc ∧
      parsingOtaJobParamsInto json pPayload params =
        ⟨true, storedParams params job behindSize behindCrc,
          (copyLocated (some job.fwUrl) params.pFwUrl).2 ++
            (copyLocated (some job.fwVersion) params.pFwVersion).2⟩ := by
  simp only [parsingOtaJobParamsInto, if_pos valid]
  cases url : located json pPayload (ascii "fwUrl") with
  | none => exact .inl ⟨rfl, fun job present => by cases url.symm.trans present.fwUrl⟩
  | some fwUrl =>
    by_cases longUrl : fwUrl.length > urlSize
    · simp only [if_pos longUrl]
      refine .inl ⟨trivial, fun job present => .inl ?_⟩
      cases url.symm.trans present.fwUrl
      exact longUrl
    simp only [if_neg longUrl]
    cases version : located json pPayload (ascii "fwVersion") with
    | none => exact .inl ⟨rfl, fun job present => by cases version.symm.trans present.fwVersion⟩
    | some fwVersion =>
      by_cases longVersion : fwVersion.length > versionSize
      · simp only [if_pos longVersion]
        refine .inl ⟨trivial, fun job present => .inr ?_⟩
        cases version.symm.trans present.fwVersion
        exact longVersion
      simp only [if_neg longVersion]
      cases size : json.search pPayload (ascii "fwSize") with
      | none =>
        refine .inl ⟨rfl, fun job present => ?_⟩
        have found := present.fwSize
        rw [located, size] at found
        cases found
      | some sizeSpan =>
        cases crc : json.search pPayload (ascii "fwCrc") with
        | none =>
          refine .inl ⟨rfl, fun job present => ?_⟩
          have found := present.fwCrc
          rw [located, crc] at found
          cases found
        | some crcSpan =>
          obtain ⟨fwSize, behindSize, foundSize, sizeText, sizeEnded⟩ :=
            search_span lawful valid _ _ _ size
          obtain ⟨fwCrc, behindCrc, foundCrc, crcText, crcEnded⟩ :=
            search_span lawful valid _ _ _ crc
          refine .inr ⟨⟨fwUrl, fwVersion, fwSize, fwCrc⟩, behindSize, behindCrc,
            ⟨url, version, foundSize, foundCrc⟩, ?_, sizeEnded, crcEnded, ?_⟩
          · rintro (long | long)
            · exact longUrl long
            · exact longVersion long
          · simp only [sizeText, crcText, storedParams]

/-- Well-formed parameters are stored as they are, inside the arrays. -/
theorem stored_exact (lawful : ExactSpans json) (valid : json.validate pPayload = true)
    (params : AwsOtaParams urlSize versionSize) (job : OtaJob) (behindSize behindCrc : List UInt8)
    (present : Present json pPayload job) (wellFormed : WellFormed urlSize versionSize job)
    (sizeEnded : Ended behindSize) (crcEnded : Ended behindCrc) :
    Stored (storedParams params job behindSize behindCrc) job ∧
      ∀ access ∈ (copyLocated (some job.fwUrl) params.pFwUrl).2 ++
        (copyLocated (some job.fwVersion) params.pFwVersion).2, access.Inside := by
  have isText := lawful.noNul pPayload valid
  have url := copyLocated_holds params.pFwUrl job.fwUrl
    (located_text json pPayload _ _ isText present.fwUrl) wellFormed.fwUrl
  have version := copyLocated_holds params.pFwVersion job.fwVersion
    (located_text json pPayload _ _ isText present.fwVersion) wellFormed.fwVersion
  obtain ⟨hex, range⟩ := wellFormed.fwCrc
  constructor
  · exact {
      fwUrl := url.1
      fwVersion := version.1
      fwSize := stringToInt_numeral job.fwSize behindSize wellFormed.fwSize
        wellFormed.fwSizeRange sizeEnded
      fwCrc := ⟨hex, hexStringToInt_numeral job.fwCrc behindCrc hex range crcEnded⟩ }
  · exact List.forall_mem_append.mpr ⟨url.2, version.2⟩

/-- A document that is accepted although its parameters are not well formed is not handled
exactly. -/
theorem checked_of_exact (lawful : ExactSpans json) (valid : json.validate pPayload = true)
    (exactly : Exact json pPayload urlSize versionSize) :
    Checked json pPayload urlSize versionSize := by
  intro job present
  by_cases long : TooLong urlSize versionSize job
  · exact .inl long
  let params : AwsOtaParams urlSize versionSize :=
    ⟨.zeroed urlSize [], .zeroed versionSize [], 0, 0⟩
  have accepted : (parsingOtaJobParamsInto json pPayload params).ret = true := by
    rcases parse_cases lawful valid params with ⟨_, refused⟩ | ⟨_, _, _, _, _, _, _, parsed⟩
    · exact absurd (refused job present) long
    · rw [parsed]
  obtain ⟨other, otherPresent, wellFormed⟩ := (exactly.accepts params).mp accepted
  rw [present_unique job other present otherPresent]
  exact .inr wellFormed

/-- The parser is exact on the documents whose parameters are well formed, or refused for
their lengths, or not all there. -/
theorem ota_params_exact_iff (lawful : ExactSpans json) (pPayload : List UInt8)
    (valid : json.validate pPayload = true) (urlSize versionSize : Nat) :
    Exact json pPayload urlSize versionSize ↔ Checked json pPayload urlSize versionSize := by
  constructor
  · exact checked_of_exact lawful valid
  · intro checked
    have cases (params : AwsOtaParams urlSize versionSize) := parse_cases lawful valid params
    constructor
    · intro params
      rcases cases params with ⟨refused, long⟩ | ⟨job, _, _, present, short, _, _, parsed⟩
      · rw [refused]
        refine iff_of_false Bool.false_ne_true ?_
        rintro ⟨job, present, wellFormed⟩
        rcases long job present with longUrl | longVersion
        · exact Nat.lt_asymm longUrl wellFormed.fwUrl
        · exact Nat.lt_asymm longVersion wellFormed.fwVersion
      · rw [parsed]
        exact iff_of_true rfl ⟨job, present, (checked job present).resolve_left short⟩
    · intro params accepted
      rcases cases params with ⟨refused, _⟩ | ⟨job, _, _, present, short, size, crc, parsed⟩
      · rw [refused] at accepted
        cases accepted
      · rw [parsed]
        exact ⟨job, present, (stored_exact lawful valid params job _ _ present
          ((checked job present).resolve_left short) size crc).1⟩
    · intro params refused
      rcases cases params with ⟨unchanged, _⟩ | ⟨_, _, _, _, _, _, _, parsed⟩
      · rw [unchanged]
      · rw [parsed] at refused
        cases refused
    · intro params
      rcases cases params with ⟨refused, _⟩ | ⟨job, _, _, present, short, size, crc, parsed⟩
      · rw [refused]
        rintro _ ⟨⟩
      · rw [parsed]
        exact (stored_exact lawful valid params job _ _ present
          ((checked job present).resolve_left short) size crc).2

/-- The string at an offset of the record, once it is stored there with its terminator. -/
theorem jobOtaText_stored (memory : Pointer) (offset : Nat) (text : List UInt8)
    (room : offset + text.length < sizeofAwsOtaParams)
    (stored : ∀ position ≤ text.length, memory (offset + position) = text.getD position 0) :
    jobOtaText memory offset = cText text := by
  obtain ⟨more, split⟩ : ∃ more, sizeofAwsOtaParams - offset = text.length + (1 + more) :=
    ⟨sizeofAwsOtaParams - offset - text.length - 1, by omega⟩
  have bytes :
      (List.range text.length).map (fun position => memory (offset + position)) = text := by
    apply List.ext_getElem
    · rw [List.length_map, List.length_range]
    · intro position _ inside
      rw [List.getElem_map, List.getElem_range, stored position (Nat.le_of_lt inside),
        List.getD_eq_getElem _ _ inside]
  have terminator : memory (offset + text.length) = 0 := by
    rw [stored text.length (Nat.le_refl _), List.getD_eq_default _ _ (Nat.le_refl _)]
  rw [jobOtaText, split, List.range_add, List.map_append, bytes, Nat.add_comm 1 more,
    List.range_succ_eq_map, List.map_cons, List.map_cons, Nat.add_zero, terminator]
  exact cText_stored text _

/-- A stored string and its terminator. -/
theorem storeText_inside (target : Pointer) (offset : Nat) (text : List UInt8) (position : Nat)
    (inside : position ≤ text.length) :
    storeText target offset text (offset + position) = text.getD position 0 := by
  rcases Nat.lt_or_eq_of_le inside with early | rfl
  · rw [storeText, storeBytes_below _ _ _ _ (Nat.add_lt_add_left early offset),
      storeBytes_inside _ _ _ _ early]
  · rw [storeText, List.getD_eq_default _ _ (Nat.le_refl _)]
    exact storeBytes_inside _ (offset + text.length) [0] 0 Nat.one_pos

theorem storeText_outside (target : Pointer) (offset : Nat) (text : List UInt8) (position : Nat)
    (outside : position < offset ∨ offset + text.length < position) :
    storeText target offset text position = target position := by
  rcases outside with below | above
  · rw [storeText, storeBytes_below _ _ _ _ (by omega), storeBytes_below _ _ _ _ below]
  · rw [storeText, storeBytes_above _ _ _ _ (by simp only [List.length_singleton]; omega),
      storeBytes_above _ _ _ _ (by omega)]

theorem storeField_outside (memory : Pointer) (start width value position : Nat)
    (outside : position < start ∨ start + width ≤ position) :
    storeField memory start width value position = memory position := by
  have apart : ¬ (start ≤ position ∧ position < start + width) := by omega
  simp only [storeField, if_neg apart]

/-- `AWS_OTA_PARAMS_t` after the four stores. -/
def storedRecord (jobOta : Pointer) (fwUrl fwVersion : List UInt8) (fwSize fwCrc : Nat) : Pointer :=
  storeField
    (storeField
      (storeText (storeText jobOta firmwareUrlOffset fwUrl) firmwareVersionOffset fwVersion)
      firmwareSizeOffset 4 fwSize)
    firmwareCrcOffset 2 fwCrc

theorem storedRecord_numbers (jobOta : Pointer) (fwUrl fwVersion : List UInt8) (fwSize fwCrc : Nat)
    (range : fwSize < 4294967296) :
    jobOtaSize (storedRecord jobOta fwUrl fwVersion fwSize fwCrc) = fwSize ∧
      jobOtaCrc (storedRecord jobOta fwUrl fwVersion fwSize fwCrc) = u16 fwCrc := by
  constructor
  · rw [jobOtaSize, storedRecord, loadField_storeField_disjoint _ _ _ _ _ _ (by decide),
      loadField_storeField]
    exact Nat.mod_eq_of_lt range
  · rw [jobOtaCrc, storedRecord, loadField_storeField]
    rfl

/-- The version is read back from the record, also where it fills its array: its terminator
then stands between the fields. -/
theorem storedRecord_version (jobOta : Pointer) (fwUrl fwVersion : List UInt8) (fwSize fwCrc : Nat)
    (versionFits : fwVersion.length ≤ maxAwsJobFirmwareVersionSize) :
    jobOtaText (storedRecord jobOta fwUrl fwVersion fwSize fwCrc) firmwareVersionOffset =
      cText fwVersion := by
  simp only [maxAwsJobFirmwareVersionSize] at versionFits
  apply jobOtaText_stored
  · simp only [firmwareVersionOffset, sizeofAwsOtaParams]
    omega
  · intro position inside
    simp only [storedRecord, firmwareVersionOffset]
    rw [storeField_outside _ _ _ _ _ (by simp only [firmwareCrcOffset]; omega),
      storeField_outside _ _ _ _ _ (by simp only [firmwareSizeOffset]; omega),
      storeText_inside _ _ _ _ inside]

/-- Strings that fit with their terminators are read back from the record. -/
theorem storedRecord_texts (jobOta : Pointer) (fwUrl fwVersion : List UInt8) (fwSize fwCrc : Nat)
    (urlText : IsText fwUrl) (versionText : IsText fwVersion)
    (urlFits : fwUrl.length < maxAwsOtaUrlSize)
    (versionFits : fwVersion.length < maxAwsJobFirmwareVersionSize) :
    jobOtaText (storedRecord jobOta fwUrl fwVersion fwSize fwCrc) firmwareUrlOffset = fwUrl ∧
      jobOtaText (storedRecord jobOta fwUrl fwVersion fwSize fwCrc) firmwareVersionOffset =
        fwVersion := by
  have version := storedRecord_version jobOta fwUrl fwVersion fwSize fwCrc (Nat.le_of_lt versionFits)
  simp only [maxAwsOtaUrlSize, maxAwsJobFirmwareVersionSize] at urlFits versionFits
  refine ⟨Eq.trans ?_ (cText_whole fwUrl urlText), version.trans (cText_whole fwVersion versionText)⟩
  apply jobOtaText_stored
  · simp only [firmwareUrlOffset, sizeofAwsOtaParams]
    omega
  · intro position inside
    simp only [firmwareUrlOffset, storedRecord]
    rw [storeField_outside _ _ _ _ _ (by simp only [firmwareCrcOffset]; omega),
      storeField_outside _ _ _ _ _ (by simp only [firmwareSizeOffset]; omega),
      storeText_outside _ _ _ _ (by simp only [firmwareVersionOffset]; omega),
      storeText_inside _ _ _ _ inside]

theorem span_length (json : Json) (pPayload key : List UInt8) (span : Nat × Nat)
    (found : json.search pPayload key = some span) :
    ((pPayload.drop span.1).take span.2).length = span.2 := by
  have inside := json.search_inside pPayload key span.1 span.2 found
  rw [List.length_take, List.length_drop]
  omega

/-- A copy that stays inside its array is shown by it. -/
theorem copyLocated_text {size : Nat} (target : Buffer size) (text : List UInt8)
    (isText : IsText text)
    (inside : ∀ access ∈ (copyLocated (some text) target).2, access.Inside) :
    text.length < size ∧ (copyLocated (some text) target).1.text = text := by
  have room : text.length < size := inside ⟨size, text.length + 1⟩ (by simp [copyLocated])
  exact ⟨room, holds_text _ text isText (copyLocated_holds target text isText room).1⟩

/-- The record level accepts the same documents as the arrays do, and its record shows what
the arrays hold when nothing was written outside them. -/
theorem record_shows_arrays (lawful : ExactSpans json) (valid : json.validate pPayload = true)
    (jobOta : Pointer) (params : AwsOtaParams maxAwsOtaUrlSize maxAwsJobFirmwareVersionSize) :
    let record := parsingOtaJobParams json pPayload jobOta
    let parsed := parsingOtaJobParamsInto json pPayload params
    record.1 = parsed.ret ∧ (parsed.ret = true →
      jobOtaSize record.2 = parsed.params.pFwSize ∧ jobOtaCrc record.2 = parsed.params.pFwCrc ∧
        ((∀ access ∈ parsed.accesses, access.Inside) →
          jobOtaText record.2 firmwareUrlOffset = parsed.params.pFwUrl.text ∧
            jobOtaText record.2 firmwareVersionOffset = parsed.params.pFwVersion.text)) := by
  have isText := lawful.noNul pPayload valid
  simp only [parsingOtaJobParams, parsingOtaJobParamsInto, if_pos valid, located]
  cases url : json.search pPayload (ascii "fwUrl") with
  | none => exact ⟨rfl, fun accepted => Bool.noConfusion accepted⟩
  | some urlSpan =>
    have urlLength := span_length json pPayload _ urlSpan url
    simp only [Option.map_some, urlLength]
    split
    next => exact ⟨rfl, fun accepted => Bool.noConfusion accepted⟩
    cases version : json.search pPayload (ascii "fwVersion") with
    | none => exact ⟨rfl, fun accepted => Bool.noConfusion accepted⟩
    | some versionSpan =>
      have versionLength := span_length json pPayload _ versionSpan version
      simp only [Option.map_some, versionLength]
      split
      next => exact ⟨rfl, fun accepted => Bool.noConfusion accepted⟩
      cases json.search pPayload (ascii "fwSize") with
      | none => exact ⟨rfl, fun accepted => Bool.noConfusion accepted⟩
      | some sizeSpan =>
        cases json.search pPayload (ascii "fwCrc") with
        | none => exact ⟨rfl, fun accepted => Bool.noConfusion accepted⟩
        | some crcSpan =>
          have size : stringToInt (pPayload.drop sizeSpan.1) < 4294967296 := by
            rw [stringToInt]
            omega
          have numbers := storedRecord_numbers jobOta ((pPayload.drop urlSpan.1).take urlSpan.2)
            ((pPayload.drop versionSpan.1).take versionSpan.2) _
            (hexStringToInt (pPayload.drop crcSpan.1)) size
          refine ⟨rfl, fun _ => ⟨numbers.1, numbers.2, fun inside => ?_⟩⟩
          have urlText := located_text json pPayload _ _ isText (by rw [located, url]; rfl)
          have versionText := located_text json pPayload _ _ isText (by rw [located, version]; rfl)
          obtain ⟨urlInside, versionInside⟩ := List.forall_mem_append.mp inside
          obtain ⟨urlFits, urlShown⟩ := copyLocated_text params.pFwUrl _ urlText urlInside
          obtain ⟨versionFits, versionShown⟩ :=
            copyLocated_text params.pFwVersion _ versionText versionInside
          have texts := storedRecord_texts jobOta _ _ (stringToInt (pPayload.drop sizeSpan.1))
            (hexStringToInt (pPayload.drop crcSpan.1)) urlText versionText urlFits versionFits
          exact ⟨texts.1.trans urlShown.symm, texts.2.trans versionShown.symm⟩

/-- What the checksum tool prints: upper-case hexadecimal digits, at least two of them. -/
def toolOutput (crc : Nat) : List UInt8 :=
  List.replicate (2 - (printed 16 crc).length) 48 ++ printed 16 crc

/-- The checksum that the tool prints is the one the device stores. -/
theorem tool_output_read (crc : Nat) (rest : List UInt8) (range : crc < 65536)
    (ended : Ended rest) : u16 (hexStringToInt (toolOutput crc ++ rest)) = crc := by
  obtain ⟨numeral, denotes⟩ := printed_numeral 16 crc (by decide) (by decide)
  obtain ⟨padded, same⟩ := padded_numeral 16 (2 - (printed 16 crc).length) _ (by decide) numeral
  let hex : HexNumeral (toolOutput crc) := ⟨[], toolOutput crc, by simp, padded, rfl⟩
  have shown : hex.value = crc := same.trans denotes
  rw [hexStringToInt_numeral _ rest hex (by omega) ended]
  exact shown

/-- The JSON library on flat objects whose values are plain strings. -/
def stringsJson : Json where
  validate text := text.all (· != 0) && text.head? == some 123 && text.getLast? == some 125
  search text key :=
    let mark := ascii "\"" ++ key ++ ascii "\":\""
    let starts := (List.range text.length).filter fun index => mark.isPrefixOf (text.drop index)
    let spans := starts.map fun index => (index + mark.length,
      ((text.drop (index + mark.length)).takeWhile fun byte => byte != 34).length)
    spans.find? fun span => decide ((text.drop (span.1 + span.2)).head? = some 34)
  search_inside := by
    intro text key start length found
    have closed : (text.drop (start + length)).head? = some 34 := by
      simpa using List.find?_some found
    have nonempty : text.drop (start + length) ≠ [] := by
      intro nothing
      rw [nothing] at closed
      cases closed
    have later : start + length < text.length := by
      rw [ne_eq, List.drop_eq_nil_iff] at nonempty
      omega
    exact Nat.le_of_lt later

theorem stringsJson_exact : ExactSpans stringsJson where
  noNul := by
    intro text valid byte member
    simp only [stringsJson, Bool.and_eq_true] at valid
    exact bne_iff_ne.mp (List.all_eq_true.mp valid.1.1 byte member)
  ended := by
    intro text key start length _ found
    simp only [stringsJson] at found
    have closed : (text.drop (start + length)).head? = some 34 := by
      simpa using List.find?_some found
    obtain ⟨tail, rest⟩ := List.head?_eq_some_iff.mp closed
    exact ⟨34, tail, rest, by decide⟩

/-- A job document of four strings. -/
def otaDocument (job : OtaJob) : List UInt8 :=
  ascii "\x7b\"fwUrl\":\"" ++ job.fwUrl ++ ascii "\",\"fwVersion\":\"" ++ job.fwVersion ++
    ascii "\",\"fwSize\":\"" ++ job.fwSize ++ ascii "\",\"fwCrc\":\"" ++ job.fwCrc ++ ascii "\"\x7d"

def exampleJob : OtaJob := ⟨ascii "http://host/app", ascii "1.0.1", ascii "262144", ascii "0x1D0F"⟩

theorem example_job_exact : Exact stringsJson (otaDocument exampleJob) 2176 64 :=
  (ota_params_exact_iff stringsJson_exact (otaDocument exampleJob) (by decide +kernel) 2176 64).mpr
    (by
      have present : Present stringsJson (otaDocument exampleJob) exampleJob := by
        constructor <;> decide +kernel
      intro job isJob
      rw [← present_unique exampleJob job present isJob]
      exact .inr {
        fwUrl := by decide +kernel
        fwVersion := by decide +kernel
        fwSize := ⟨by decide +kernel, by decide +kernel⟩
        fwSizeRange := by decide +kernel
        fwCrc := ⟨⟨ascii "0x", ascii "1D0F", by decide +kernel,
          ⟨by decide +kernel, by decide +kernel⟩, by decide +kernel⟩, by decide +kernel⟩ })

/-- A version of 64 characters is terminated behind its array, a size that is no number is
taken for zero, and a checksum of five digits is cut. -/
theorem malformed_params_accepted :
    ExactSpans stringsJson ∧
      (∀ job ∈ [{ exampleJob with fwVersion := List.replicate 64 49 },
        { exampleJob with fwSize := ascii "abc" }, { exampleJob with fwCrc := ascii "12345" }],
        stringsJson.validate (otaDocument job) = true ∧
          ¬ Exact stringsJson (otaDocument job) 2176 64) := by
  have refuted (job : OtaJob) (valid : stringsJson.validate (otaDocument job) = true)
      (present : Present stringsJson (otaDocument job) job) (short : ¬ TooLong 2176 64 job)
      (malformed : ¬ WellFormed 2176 64 job) : ¬ Exact stringsJson (otaDocument job) 2176 64 :=
    fun exactly => malformed
      ((checked_of_exact stringsJson_exact valid exactly job present).resolve_left short)
  have hasAll (job : OtaJob)
      (found : located stringsJson (otaDocument job) (ascii "fwUrl") = some job.fwUrl ∧
        located stringsJson (otaDocument job) (ascii "fwVersion") = some job.fwVersion ∧
        located stringsJson (otaDocument job) (ascii "fwSize") = some job.fwSize ∧
        located stringsJson (otaDocument job) (ascii "fwCrc") = some job.fwCrc) :
      Present stringsJson (otaDocument job) job := ⟨found.1, found.2.1, found.2.2.1, found.2.2.2⟩
  refine ⟨stringsJson_exact, ?_⟩
  simp only [List.forall_mem_cons, List.not_mem_nil, false_implies, implies_true, and_true]
  refine ⟨⟨by decide +kernel, ?_⟩, ⟨by decide +kernel, ?_⟩, ⟨by decide +kernel, ?_⟩⟩
  · refine refuted _ (by decide +kernel) (hasAll _ (by decide +kernel)) (by decide +kernel) ?_
    intro wellFormed
    exact absurd wellFormed.fwVersion (by decide +kernel)
  · refine refuted _ (by decide +kernel) (hasAll _ (by decide +kernel)) (by decide +kernel) ?_
    intro wellFormed
    exact absurd wellFormed.fwSize.digits (by decide +kernel)
  · refine refuted _ (by decide +kernel) (hasAll _ (by decide +kernel)) (by decide +kernel) ?_
    intro wellFormed
    obtain ⟨⟨mark, digits, marked, _, text⟩, range⟩ := wellFormed.fwCrc
    have front : (ascii "12345").take mark.length = mark := by
      rw [show ascii "12345" = _ from text, List.take_left]
    simp only [List.mem_cons, List.not_mem_nil, or_false] at marked
    rcases marked with rfl | rfl | rfl
    · rw [List.nil_append] at text
      cases text
      have large : 65536 ≤ value 16 (ascii "12345") := by decide +kernel
      exact absurd range (Nat.not_lt_of_le large)
    · exact absurd front (by decide +kernel)
    · exact absurd front (by decide +kernel)

end WiznetEaas.OtaParams
