import WiznetEaas.FirmwareInstall
import WiznetEaas.FormattedStrings
import WiznetEaas.Numerals
import WiznetEaas.PowerLoss

/-!
# The start-up of the application

`main` fills in a default configuration and saves it when the configuration sector is
blank, and loads the stored record otherwise. Only a record of `0xFF` throughout counts
as blank, so a save that was cut short is repeated while it has erased only, and is taken
for a stored record as soon as one page is programmed. The network defaults have the
layout of the driver library; their bytes are a parameter.
-/

namespace WiznetEaas.StartUp

open NorFlash ByteMemory CStrings CFormat CBuffers Numerals FlashControl FlashRecords FlashAreas
  FlashStores FirmwareInstall FormattedStrings Runs Restarts PowerLoss

/-- The MAC address of `default_net_info`. -/
def defaultMac : List UInt8 := [0x00, 0x08, 0xDC, 0x12, 0x34, 0x56]

/-- `default_net_info` in memory, and where its MAC address stands. -/
structure DefaultNetInfo (abi : Abi) where
  bytes : List UInt8
  length : bytes.length = abi.sizeofWizNetInfo
  macOffset : Nat
  mac_stored : (bytes.drop macOffset).take 6 = defaultMac

def awsThingNamePrefix : List UInt8 := ascii "eaas-device-%s"
def defaultDeviceLocation : List UInt8 := ascii "Seoul"
def defaultManufacturer : List UInt8 := ascii "WIZnet"

def defaultAwsMqttEndPoint : List UInt8 :=
  ascii "a3uz5t2azg1xdz-ats.iot.ap-northeast-2.amazonaws.com"

def defaultAwsTemplateName : List UInt8 := ascii "wiznet-service-template"

/-- The text fields of `DEVICE_INFO_t` that are filled in. -/
inductive TextField where
  | thingName
  | location
  | manufacturer
  | awsEndPoint
  | awsTemplateName
  deriving DecidableEq

def TextField.size : TextField → Nat
  | .thingName => 64
  | .location => 64
  | .manufacturer => 64
  | .awsEndPoint => 128
  | .awsTemplateName => 64

/-- Where a field stands in the record: the fields follow the network record. -/
def TextField.offset (abi : Abi) : TextField → Nat
  | .thingName => abi.sizeofWizNetInfo
  | .location => abi.sizeofWizNetInfo + 64
  | .manufacturer => abi.sizeofWizNetInfo + 128
  | .awsEndPoint => abi.sizeofWizNetInfo + 192
  | .awsTemplateName => abi.sizeofWizNetInfo + 320

/-- A byte in the conversion `%02X`. -/
def hexPair (byte : UInt8) : List UInt8 := [digit (byte.toNat / 16), digit (byte.toNat % 16)]

section Model
variable (abi : Abi) (netInfo : DefaultNetInfo abi)

/-- The name that `set_default_device_info` makes of the MAC address in the record. -/
def defaultThingName (pDeviceInfo : Pointer) : List UInt8 :=
  let tempMac := (List.range 6).flatMap fun index => hexPair (pDeviceInfo (netInfo.macOffset + index))
  sprintf awsThingNamePrefix [tempMac]

/-- `set_default_device_info`. A copy of `strlen` bytes brings no terminator. -/
def setDefaultDeviceInfo (pDeviceInfo : Pointer) : Pointer :=
  let record := storeBytes pDeviceInfo 0 netInfo.bytes
  let record := storeBytes record (TextField.thingName.offset abi) (defaultThingName abi netInfo record)
  let record := storeBytes record (TextField.location.offset abi) (defaultDeviceLocation ++ [0])
  let record := storeBytes record (TextField.manufacturer.offset abi) (defaultManufacturer ++ [0])
  let record := storeBytes record (TextField.awsEndPoint.offset abi) defaultAwsMqttEndPoint
  storeBytes record (TextField.awsTemplateName.offset abi) defaultAwsTemplateName

/-- The first of the flags behind `AWS_IOT_JOBS_STATUS`. -/
def flagsOffset : Nat := abi.otaInfoOffset + 12 + abi.sizeofEnum

/-- `clearAppFlags`. Of the seven flags it leaves `enableRefreshProvisionedCert` and
`enableReboot`. -/
def clearAppFlags (pAppCommonInfo : Pointer) : Pointer :=
  let isDhcpDone := storeField pAppCommonInfo (flagsOffset abi + 1) 1 0
  let isRunAwsIotJobs := storeField isDhcpDone (flagsOffset abi + 5) 1 0
  let isValidClaimCertInfo := storeField isRunAwsIotJobs (flagsOffset abi + 2) 1 0
  let isValidProvisionedCertInfo := storeField isValidClaimCertInfo (flagsOffset abi + 3) 1 0
  storeField isValidProvisionedCertInfo (flagsOffset abi) 1 0

/-- `check_flash_common_config_info_empty`. -/
def checkFlashCommonConfigInfoEmpty (contents : Contents UInt8) : Bool :=
  (List.range abi.sizeofAppCommon).all fun position =>
    flashPointer contents flashCommonConfigStartAddr position == 0xFF

/-- `appCommon` after `memset`. What lies behind it in memory is kept. -/
def clearedAppCommon (memory : Pointer) : Pointer :=
  copyBytes memory (fun _ => 0) abi.sizeofAppCommon

variable (misaligned : Misalignment UInt8 userFlashPageSize)

/-- What `main` writes to the flash before the tasks start. -/
def appMain (memory : Pointer) : Routine UInt8 := fun contents =>
  if checkFlashCommonConfigInfoEmpty abi contents then
    saveFlashCommonConfigInfo misaligned abi
      (setDefaultDeviceInfo abi netInfo (clearedAppCommon abi memory)) contents
  else []

/-- The record that `main` hands to the tasks. -/
def startedAppCommon (memory : Pointer) (contents : Contents UInt8) : Pointer :=
  clearAppFlags abi
    (if checkFlashCommonConfigInfoEmpty abi contents then
      setDefaultDeviceInfo abi netInfo (clearedAppCommon abi memory)
    else loadFlashCommonConfigInfo abi contents (clearedAppCommon abi memory))

end Model

/-- A field of the record holds a text: its bytes, and a terminator behind them. -/
structure HoldsText (record : Pointer) (offset size : Nat) (text : List UInt8) : Prop where
  isText : IsText text
  inside : text.length < size
  bytes : ∀ position, position < text.length → record (offset + position) = text.getD position 0
  terminated : record (offset + text.length) = 0

/-- What is stored outside a field leaves its text. -/
theorem HoldsText.kept {record other : Pointer} {offset size : Nat} {text : List UInt8}
    (holds : HoldsText record offset size text)
    (same : ∀ position, offset ≤ position → position < offset + size →
      other position = record position) : HoldsText other offset size text where
  isText := holds.isText
  inside := holds.inside
  bytes position inside := by
    have room := holds.inside
    rw [same _ (Nat.le_add_right _ _) (by omega)]
    exact holds.bytes position inside
  terminated := by
    have room := holds.inside
    rw [same _ (Nat.le_add_right _ _) (by omega)]
    exact holds.terminated

/-- A text stored where a zero follows it stands in its field. -/
theorem holdsText_stored (record : Pointer) (offset size : Nat) (text : List UInt8)
    (isText : IsText text) (inside : text.length < size)
    (blank : record (offset + text.length) = 0) :
    HoldsText (storeBytes record offset text) offset size text where
  isText := isText
  inside := inside
  bytes position inText := storeBytes_inside record offset text position inText
  terminated := by
    rw [storeBytes_above _ _ _ _ (Nat.le_refl _)]
    exact blank

/-- A text stored with its terminator stands in its field. -/
theorem holdsText_terminated (record : Pointer) (offset size : Nat) (text : List UInt8)
    (isText : IsText text) (inside : text.length < size) :
    HoldsText (storeBytes record offset (text ++ [0])) offset size text where
  isText := isText
  inside := inside
  bytes position inText := by
    have length : (text ++ [0]).length = text.length + 1 := List.length_append
    rw [storeBytes_inside _ _ _ _ (by omega), List.getD_append _ _ _ _ inText]
  terminated := by
    have length : (text ++ [0]).length = text.length + 1 := List.length_append
    rw [storeBytes_inside _ _ _ _ (by omega), List.getD_append_right _ _ _ _ (Nat.le_refl _),
      Nat.sub_self]
    rfl

section Defaults
variable (abi : Abi) (netInfo : DefaultNetInfo abi)

/-- The default text of a field. -/
def TextField.defaultText : TextField → List UInt8
  | .thingName => ascii "eaas-device-0008DC123456"
  | .location => defaultDeviceLocation
  | .manufacturer => defaultManufacturer
  | .awsEndPoint => defaultAwsMqttEndPoint
  | .awsTemplateName => defaultAwsTemplateName

theorem defaultText_isText (field : TextField) : IsText field.defaultText := by
  cases field <;> unfold IsText <;> decide +kernel

theorem defaultText_inside (field : TextField) : field.defaultText.length < field.size := by
  cases field <;> decide +kernel

/-- The name made of the MAC address in the record is the default name. -/
theorem defaultThingName_exact (pDeviceInfo : Pointer) :
    defaultThingName abi netInfo (storeBytes pDeviceInfo 0 netInfo.bytes) =
      TextField.thingName.defaultText := by
  have mac : (List.range 6).map (fun index =>
      storeBytes pDeviceInfo 0 netInfo.bytes (netInfo.macOffset + index)) = defaultMac := by
    rw [← netInfo.mac_stored]
    have reach : 6 ≤ (netInfo.bytes.drop netInfo.macOffset).length := by
      have stored := congrArg List.length netInfo.mac_stored
      rw [List.length_take] at stored
      have six : defaultMac.length = 6 := rfl
      omega
    rw [List.length_drop] at reach
    apply List.ext_getElem
    · rw [List.length_map, List.length_range, List.length_take, List.length_drop]
      omega
    · intro index left right
      rw [List.length_map, List.length_range] at left
      have inside : netInfo.macOffset + index < netInfo.bytes.length := by omega
      have byte := storeBytes_inside pDeviceInfo 0 netInfo.bytes (netInfo.macOffset + index) inside
      rw [Nat.zero_add] at byte
      rw [List.getElem_map, List.getElem_range, byte, List.getElem_take, List.getElem_drop,
        List.getD_eq_getElem _ _ inside]
  have text : defaultThingName abi netInfo (storeBytes pDeviceInfo 0 netInfo.bytes) =
      sprintf awsThingNamePrefix [((List.range 6).map fun index =>
        storeBytes pDeviceInfo 0 netInfo.bytes (netInfo.macOffset + index)).flatMap hexPair] := by
    rw [defaultThingName, List.flatMap_map]
  rw [text, mac]
  decide +kernel

/-- A later field is stored behind an earlier one. -/
theorem HoldsText.behind {record : Pointer} {offset size : Nat} {text : List UInt8}
    (holds : HoldsText record offset size text) (start : Nat) (bytes : List UInt8)
    (above : offset + size ≤ start) : HoldsText (storeBytes record start bytes) offset size text :=
  holds.kept fun position _ high => storeBytes_below _ _ _ _ (by omega)

/-- The record is zero from a position on. -/
def ZeroFrom (record : Pointer) (start : Nat) : Prop :=
  ∀ position, start ≤ position → position < abi.sizeofAppCommon → record position = 0

theorem cleared_zero (memory : Pointer) : ZeroFrom abi (clearedAppCommon abi memory) 0 :=
  fun position _ inside => copyBytes_same _ _ _ position inside

/-- Filling in a field leaves the record zero behind it. -/
theorem zeroFrom_stored (record : Pointer) (start offset next : Nat) (bytes : List UInt8)
    (zero : ZeroFrom abi record start) (later : start ≤ next) (below : offset + bytes.length ≤ next) :
    ZeroFrom abi (storeBytes record offset bytes) next := by
  intro position from_next inside
  rw [storeBytes_above _ _ _ _ (by omega)]
  exact zero position (by omega) inside

/-- The record has room for all fields. -/
theorem fields_inside : abi.sizeofWizNetInfo + 896 ≤ abi.sizeofAppCommon := by
  have fields := abi.otaInfo_inside
  simp only [Abi.otaInfoOffset, Abi.sizeofDeviceInfo] at fields
  omega

/-- Some fields hold their default texts, and the record is zero behind them. -/
structure FilledUpTo (record : Pointer) (next : Nat) (fields : List TextField) : Prop where
  zero : ZeroFrom abi record next
  holds : ∀ field ∈ fields,
    HoldsText record (field.offset abi) field.size field.defaultText ∧
      field.offset abi + field.size ≤ next

/-- Filling in the next field, with or without its terminator. -/
theorem FilledUpTo.fill {record : Pointer} {next : Nat} {fields : List TextField}
    (filled : FilledUpTo abi record next fields) (field : TextField)
    (place : field.offset abi = next) (inside : next + field.size ≤ abi.sizeofAppCommon)
    (bytes : List UInt8) (shape : bytes = field.defaultText ∨ bytes = field.defaultText ++ [0]) :
    FilledUpTo abi (storeBytes record (field.offset abi) bytes) (next + field.size)
      (field :: fields) := by
  have room := defaultText_inside field
  have length : bytes.length ≤ field.defaultText.length + 1 := by
    rcases shape with rfl | rfl
    · exact Nat.le_succ _
    · exact Nat.le_of_eq List.length_append
  constructor
  · exact zeroFrom_stored abi record next _ _ bytes filled.zero (Nat.le_add_right _ _) (by omega)
  · intro other member
    rcases List.mem_cons.mp member with rfl | earlier
    · refine ⟨?_, by omega⟩
      rcases shape with rfl | rfl
      · exact holdsText_stored _ _ _ _ (defaultText_isText _) room
          (filled.zero _ (by omega) (by omega))
      · exact holdsText_terminated _ _ _ _ (defaultText_isText _) room
    · obtain ⟨holds, below⟩ := filled.holds other earlier
      exact ⟨holds.behind _ bytes (by omega), by omega⟩

/-- Every field of the default record holds its default text. -/
theorem defaults_hold (memory : Pointer) (field : TextField) :
    HoldsText (setDefaultDeviceInfo abi netInfo (clearedAppCommon abi memory)) (field.offset abi)
      field.size field.defaultText := by
  have fits := fields_inside abi
  have network := netInfo.length
  have zero := zeroFrom_stored abi _ 0 0 abi.sizeofWizNetInfo netInfo.bytes (cleared_zero abi memory)
    (Nat.zero_le _) (by omega)
  have start : FilledUpTo abi (storeBytes (clearedAppCommon abi memory) 0 netInfo.bytes)
      abi.sizeofWizNetInfo [] := ⟨zero, fun _ member => absurd member List.not_mem_nil⟩
  have inside (reach : Nat) (bound : reach ≤ 896) :
      abi.sizeofWizNetInfo + reach ≤ abi.sizeofAppCommon := by omega
  have filled := ((((start.fill abi .thingName rfl (inside 64 (by decide)) _ (.inl rfl)).fill abi
    .location rfl (inside 128 (by decide)) _ (.inr rfl)).fill abi
    .manufacturer rfl (inside 192 (by decide)) _ (.inr rfl)).fill abi
    .awsEndPoint rfl (inside 320 (by decide)) _ (.inl rfl)).fill abi
    .awsTemplateName rfl (inside 384 (by decide)) _ (.inl rfl)
  rw [setDefaultDeviceInfo, defaultThingName_exact]
  refine (filled.holds field ?_).1
  cases field <;> decide

/-- The default record, whatever memory it is built in. -/
def defaultRecord : Pointer := setDefaultDeviceInfo abi netInfo (clearedAppCommon abi fun _ => 0)

theorem storeBytes_same (size : Nat) (left right : Pointer) (start : Nat) (bytes : List UInt8)
    (same : SameObject size left right) :
    SameObject size (storeBytes left start bytes) (storeBytes right start bytes) := by
  intro position inside
  simp only [storeBytes, same position inside]

theorem defaults_same (memory : Pointer) :
    SameObject abi.sizeofAppCommon (setDefaultDeviceInfo abi netInfo (clearedAppCommon abi memory))
      (defaultRecord abi netInfo) := by
  have cleared : SameObject abi.sizeofAppCommon (clearedAppCommon abi memory)
      (clearedAppCommon abi fun _ => 0) := by
    intro position inside
    rw [clearedAppCommon, clearedAppCommon, copyBytes_same _ _ _ position inside,
      copyBytes_same _ _ _ position inside]
  rw [defaultRecord, setDefaultDeviceInfo, setDefaultDeviceInfo, defaultThingName_exact,
    defaultThingName_exact]
  exact storeBytes_same _ _ _ _ _ (storeBytes_same _ _ _ _ _ (storeBytes_same _ _ _ _ _
    (storeBytes_same _ _ _ _ _ (storeBytes_same _ _ _ _ _ (storeBytes_same _ _ _ _ _ cleared)))))

end Defaults

section Flash
variable (abi : Abi) (netInfo : DefaultNetInfo abi)
  (misaligned : Misalignment UInt8 userFlashPageSize)

/-- The record shows leading pages of the defaults and is blank behind them. -/
def LeadingPages (pages : Nat) (contents : Contents UInt8) : Prop :=
  SameObject abi.sizeofAppCommon (storedConfig contents) fun position =>
    if position < pages * 256 then defaultRecord abi netInfo position else 0xFF

/-- A start-up that power fails in after some elementary operations. -/
def interrupted (cut : Pointer × Nat) : Attempt UInt8 :=
  ⟨appMain abi netInfo misaligned cut.1, some cut.2⟩

/-- The flash after start-ups that power failed in, each with its memory and the number of
its operations, and one that completed. -/
def startUps (cuts : List (Pointer × Nat)) (memory : Pointer) (contents : Contents UInt8) :
    Contents UInt8 :=
  (picoFlash misaligned).run (appMain abi netInfo misaligned memory)
    (execute (attempted (picoFlash misaligned)) contents
      (cuts.map (interrupted abi netInfo misaligned)))

/-- The pages that are kept of the defaults: those of the first start-up that was cut short
behind the erase, or all four. -/
def pagesKept : List (Pointer × Nat) → Nat
  | [] => 4
  | (_, issued) :: rest => if issued ≤ 1 then pagesKept rest else min (issued - 1) 4

theorem pagesKept_bounds (cuts : List (Pointer × Nat)) : 1 ≤ pagesKept cuts ∧ pagesKept cuts ≤ 4 := by
  induction cuts with
  | nil => exact ⟨by decide, by decide⟩
  | cons cut rest inductionHypothesis =>
    obtain ⟨memory, issued⟩ := cut
    rw [pagesKept]
    by_cases early : issued ≤ 1
    · rw [if_pos early]
      exact inductionHypothesis
    · rw [if_neg early]
      omega

theorem empty_iff (contents : Contents UInt8) :
    checkFlashCommonConfigInfoEmpty abi contents = true ↔
      ∀ position, position < abi.sizeofAppCommon → storedConfig contents position = 0xFF := by
  simp only [checkFlashCommonConfigInfoEmpty, List.all_eq_true, List.mem_range, beq_iff_eq]

/-- A blank record and one with no page of the defaults are the same. -/
theorem empty_leading (contents : Contents UInt8) :
    checkFlashCommonConfigInfoEmpty abi contents = true ↔ LeadingPages abi netInfo 0 contents := by
  rw [empty_iff]
  constructor
  · intro blank position inside
    have none : ¬ position < 0 * 256 := by omega
    simp only [if_neg none]
    exact blank position inside
  · intro leading position inside
    have none : ¬ position < 0 * 256 := by omega
    rw [leading position inside]
    exact if_neg none

/-- With one page of the defaults the record is not blank: the thing name stands there. -/
theorem leading_not_empty (pages : Nat) (some : 1 ≤ pages) (contents : Contents UInt8)
    (leading : LeadingPages abi netInfo pages contents) :
    checkFlashCommonConfigInfoEmpty abi contents = false := by
  have fits := fields_inside abi
  have bound := abi.netInfo_bound
  have holds := defaults_hold abi netInfo (fun _ => 0) .thingName
  have letter := holds.bytes 0 (by decide +kernel)
  rw [Bool.eq_false_iff, ne_eq, empty_iff]
  intro blank
  have first : abi.sizeofWizNetInfo + 0 < pages * 256 := by omega
  have shown := (leading (abi.sizeofWizNetInfo + 0) (by omega)).symm.trans (blank _ (by omega))
  simp only [if_pos first] at shown
  have other : TextField.thingName.defaultText.getD 0 0 ≠ 0xFF := by decide +kernel
  exact other (letter.symm.trans shown)

/-- A start-up with a stored record writes nothing, whether it completes or not. -/
theorem attempted_stored (attempt : Attempt UInt8) (memory : Pointer) (contents : Contents UInt8)
    (starting : attempt.routine = appMain abi netInfo misaligned memory)
    (stored : checkFlashCommonConfigInfoEmpty abi contents = false) :
    attempted (picoFlash misaligned) contents attempt = contents := by
  have nothing : attempt.routine contents = [] := by
    rw [starting, appMain, if_neg (by rw [stored]; decide)]
  unfold attempted
  cases attempt.issued with
  | none => simp only [FlashPart.run, nothing, applyAll_nil]
  | some issued => simp only [nothing, List.take_nil, applyAll_nil]

/-- Nor do any number of them. -/
theorem stored_stays (attempts : List (Attempt UInt8)) (contents : Contents UInt8)
    (starting : ∀ attempt ∈ attempts, ∃ memory,
      attempt.routine = appMain abi netInfo misaligned memory)
    (stored : checkFlashCommonConfigInfoEmpty abi contents = false) :
    execute (attempted (picoFlash misaligned)) contents attempts = contents := by
  induction attempts with
  | nil => rfl
  | cons attempt rest inductionHypothesis =>
    obtain ⟨⟨memory, first⟩, later⟩ := List.forall_mem_cons.mp starting
    rw [execute, attempted_stored abi netInfo misaligned attempt memory contents first stored]
    exact inductionHypothesis later

/-- A start-up with a blank record leaves the pages that it came to. -/
theorem blank_leaves (memory : Pointer) (issued : Nat) (contents : Contents UInt8)
    (blank : checkFlashCommonConfigInfoEmpty abi contents = true) :
    LeadingPages abi netInfo (min (issued - 1) 4)
      ((picoFlash misaligned).applyAll
        ((appMain abi netInfo misaligned memory contents).take issued) contents) := by
  have bound := abi.sizeofAppCommon_bound
  have same := defaults_same abi netInfo memory
  intro position inside
  have after := config_after misaligned abi contents
    (setDefaultDeviceInfo abi netInfo (clearedAppCommon abi memory)) (fun _ => 0) issued position inside
  rw [loadFlashCommonConfigInfo, loadFlashCommonConfigInfo, copyBytes_same _ _ _ position inside,
    copyBytes_same _ _ _ position inside] at after
  rw [appMain, if_pos blank, storedConfig, after]
  by_cases untouched : issued = 0
  · have none : ¬ position < min (issued - 1) 4 * 256 := by omega
    rw [if_pos untouched]
    simp only [if_neg none]
    exact (empty_iff abi contents).mp blank position inside
  · rw [if_neg untouched, same position inside]
    by_cases programmed : position < (issued - 1) * 256
    · have reached : position < min (issued - 1) 4 * 256 := by lia
      rw [if_pos programmed]
      simp only [if_pos reached]
    · have unreached : ¬ position < min (issued - 1) 4 * 256 := by lia
      rw [if_neg programmed]
      simp only [if_neg unreached]

/-- All start-ups write the sector of the configuration only. -/
theorem appMain_within (memory : Pointer) :
    Within (picoFlash misaligned) (InSectors .eraseCommonConfigInfo)
      (appMain abi netInfo misaligned memory) := by
  intro contents operation issued address touched
  by_cases blank : checkFlashCommonConfigInfoEmpty abi contents = true
  · rw [appMain, if_pos blank] at issued
    exact operation_within misaligned abi
      (.saveCommonConfigInfo (setDefaultDeviceInfo abi netInfo (clearedAppCommon abi memory)))
      True.intro contents operation issued address touched
  · rw [appMain, if_neg blank] at issued
    cases issued

/-- A completed start-up with a blank record stores all pages of the defaults. -/
theorem blank_stored (memory : Pointer) (contents : Contents UInt8)
    (blank : checkFlashCommonConfigInfoEmpty abi contents = true) :
    LeadingPages abi netInfo 4
      ((picoFlash misaligned).run (appMain abi netInfo misaligned memory) contents) := by
  have bound := abi.sizeofAppCommon_bound
  have saved := save_config_run misaligned abi
    (setDefaultDeviceInfo abi netInfo (clearedAppCommon abi memory)) contents
  have same := defaults_same abi netInfo memory
  intro position inside
  have reached : position < 4 * 256 := by omega
  have run : (picoFlash misaligned).run (appMain abi netInfo misaligned memory) contents =
      (picoFlash misaligned).run (saveFlashCommonConfigInfo misaligned abi
        (setDefaultDeviceInfo abi netInfo (clearedAppCommon abi memory))) contents := by
    simp only [FlashPart.run, appMain, if_pos blank]
  rw [run, saved position inside, same position inside]
  simp only [if_pos reached]

/-- What start-ups leave of a blank record. Those that were cut short before a page was
programmed leave it blank, the first other one leaves its pages, and no later one writes. -/
theorem startUps_leave (cuts : List (Pointer × Nat)) (memory : Pointer) (contents : Contents UInt8)
    (blank : checkFlashCommonConfigInfoEmpty abi contents = true) :
    LeadingPages abi netInfo (pagesKept cuts)
      (startUps abi netInfo misaligned cuts memory contents) := by
  induction cuts generalizing contents with
  | nil => exact blank_stored abi netInfo misaligned memory contents blank
  | cons cut rest inductionHypothesis =>
    obtain ⟨ram, issued⟩ := cut
    have left := blank_leaves abi netInfo misaligned ram issued contents blank
    have first : startUps abi netInfo misaligned ((ram, issued) :: rest) memory contents =
        startUps abi netInfo misaligned rest memory ((picoFlash misaligned).applyAll
          ((appMain abi netInfo misaligned ram contents).take issued) contents) := rfl
    rw [first, pagesKept]
    generalize (picoFlash misaligned).applyAll
      ((appMain abi netInfo misaligned ram contents).take issued) contents = reached at left
    by_cases early : issued ≤ 1
    · have none : min (issued - 1) 4 = 0 := by omega
      rw [none, ← empty_leading] at left
      rw [if_pos early]
      exact inductionHypothesis reached left
    · rw [if_neg early]
      have stored := leading_not_empty abi netInfo (min (issued - 1) 4) (by omega) reached left
      have still := stored_stays abi netInfo misaligned
        (rest.map (interrupted abi netInfo misaligned)) reached
        (fun attempt member => by
          obtain ⟨next, _, rfl⟩ := List.mem_map.mp member
          exact ⟨next.1, rfl⟩) stored
      have kept : (picoFlash misaligned).run (appMain abi netInfo misaligned memory) reached =
          reached :=
        attempted_stored abi netInfo misaligned ⟨appMain abi netInfo misaligned memory, none⟩ memory
          reached rfl stored
      rw [startUps, still, kept]
      exact left

/-- The record of a start-up on a stored configuration is that configuration, up to the flags. -/
theorem started_byte (memory : Pointer) (contents : Contents UInt8) (position : Nat)
    (inside : position < abi.sizeofWizNetInfo + 896)
    (stored : checkFlashCommonConfigInfoEmpty abi contents = false) :
    startedAppCommon abi netInfo memory contents position = storedConfig contents position := by
  have fits := fields_inside abi
  have place : abi.sizeofWizNetInfo + 896 ≤ flagsOffset abi := by
    simp only [flagsOffset, Abi.otaInfoOffset, Abi.sizeofDeviceInfo]
    omega
  have outside (flag : Nat) :
      ¬ (flagsOffset abi + flag ≤ position ∧ position < flagsOffset abi + flag + 1) := by omega
  have first : ¬ (flagsOffset abi ≤ position ∧ position < flagsOffset abi + 1) := by omega
  rw [startedAppCommon, if_neg (by rw [stored]; decide)]
  simp only [clearAppFlags, storeField, if_neg (outside _), if_neg first]
  exact copyBytes_same _ _ _ position (by omega)

/-- With two pages of the defaults every field holds its default text, and with one page the
template name has no terminator. -/
theorem texts_iff (pages : Nat) (some : 1 ≤ pages) (contents : Contents UInt8)
    (leading : LeadingPages abi netInfo pages contents) (memory : Pointer) :
    ((∀ field : TextField, ∃ text, HoldsText (startedAppCommon abi netInfo memory contents)
        (field.offset abi) field.size text) ↔ 2 ≤ pages) ∧
      (2 ≤ pages → ∀ field : TextField, HoldsText (startedAppCommon abi netInfo memory contents)
        (field.offset abi) field.size field.defaultText) := by
  have fits := fields_inside abi
  have bound := abi.netInfo_bound
  have stored := leading_not_empty abi netInfo pages some contents leading
  have shown (position : Nat) (inside : position < abi.sizeofWizNetInfo + 896) :
      startedAppCommon abi netInfo memory contents position =
        if position < pages * 256 then defaultRecord abi netInfo position else 0xFF :=
    (started_byte abi netInfo memory contents position inside stored).trans
      (leading position (by omega))
  have whole (two : 2 ≤ pages) (field : TextField) :
      HoldsText (startedAppCommon abi netInfo memory contents) (field.offset abi) field.size
        field.defaultText := by
    apply (defaults_hold abi netInfo (fun _ => 0) field).kept
    intro position _ high
    have reach : position < abi.sizeofWizNetInfo + 384 := by
      cases field <;> simp only [TextField.offset, TextField.size] at high <;> omega
    rw [shown position (by omega), if_pos (by omega)]
    rfl
  refine ⟨⟨?_, fun two field => ⟨_, whole two field⟩⟩, whole⟩
  intro terminated
  obtain ⟨text, holds⟩ := terminated .awsTemplateName
  have room : text.length < 64 := holds.inside
  have zero := holds.terminated
  rw [TextField.offset, shown _ (by omega)] at zero
  refine Nat.le_of_not_lt fun short => ?_
  have blank : ¬ abi.sizeofWizNetInfo + 320 + text.length < pages * 256 := by omega
  rw [if_neg blank] at zero
  exact absurd zero (by decide)

/-- A field shows at most one text. -/
theorem HoldsText.unique {record : Pointer} {offset size : Nat} {left right : List UInt8}
    (isLeft : HoldsText record offset size left) (isRight : HoldsText record offset size right) :
    left = right := by
  have shorter {first second : List UInt8} (isFirst : HoldsText record offset size first)
      (isSecond : HoldsText record offset size second) : ¬ first.length < second.length := by
    intro less
    have byte := isSecond.bytes first.length less
    rw [isFirst.terminated, List.getD_eq_getElem _ _ less] at byte
    exact isSecond.isText _ (List.getElem_mem less) byte.symm
  have length : left.length = right.length :=
    Nat.le_antisymm (Nat.le_of_not_lt (shorter isRight isLeft))
      (Nat.le_of_not_lt (shorter isLeft isRight))
  apply List.ext_getElem length
  intro position first second
  have leftByte := isLeft.bytes position first
  have rightByte := isRight.bytes position second
  rw [List.getD_eq_getElem _ _ first] at leftByte
  rw [List.getD_eq_getElem _ _ second] at rightByte
  exact leftByte.symm.trans rightByte

/-- The text fields of a started record, as the handlers format them. -/
structure Formats (record : Pointer) (deviceInfo : DeviceInfo) : Prop where
  thingName : HoldsText record (TextField.thingName.offset abi) 64 deviceInfo.thingName.text
  location : HoldsText record (TextField.location.offset abi) 64 deviceInfo.location.text
  manufacturer : HoldsText record (TextField.manufacturer.offset abi) 64 deviceInfo.manufacturer.text
  awsTemplateName :
    HoldsText record (TextField.awsTemplateName.offset abi) 64 deviceInfo.awsTemplateName.text

/-- The handlers never overrun a destination with the default thing name. -/
theorem default_sites_fit (record : Pointer) (inputs : Inputs)
    (holds : HoldsText record (TextField.thingName.offset abi) 64 TextField.thingName.defaultText)
    (formats : Formats abi record inputs.deviceInfo) (site : Site) : (site.call inputs).Fits := by
  have name := formats.thingName.unique holds
  have short : inputs.deviceInfo.thingName.text.length < 50 := by
    rw [name]
    decide +kernel
  cases clientId : site.isClientId with
  | true => exact (clientId_fits_iff inputs site clientId).mpr short
  | false => exact other_sites_fit inputs site clientId

/-- The first start-ups of a device, whose configuration is blank, up to the one that
completes: the record then shows the leading pages of the defaults that the first of them
which got beyond the erase has programmed, all four unless power failed in it. Nothing else
in the flash has changed, and no later start-up, interrupted or not, changes the flash again.
Every text of the record that the tasks get is terminated exactly when two pages were
programmed; then it is the default, and no handler's format overruns its destination. -/
theorem first_start_up (contents : Contents UInt8)
    (blank : checkFlashCommonConfigInfoEmpty abi contents = true) (cuts : List (Pointer × Nat))
    (memory : Pointer) :
    let after := startUps abi netInfo misaligned cuts memory contents
    LeadingPages abi netInfo (pagesKept cuts) after ∧
    AgreeOutside (InSectors .eraseCommonConfigInfo) after contents ∧
    (∀ attempts : List (Attempt UInt8), (∀ attempt ∈ attempts, ∃ memory,
        attempt.routine = appMain abi netInfo misaligned memory) →
      execute (attempted (picoFlash misaligned)) after attempts = after) ∧
    ∀ memory,
      let started := startedAppCommon abi netInfo memory after
      ((∀ field : TextField, ∃ text, HoldsText started (field.offset abi) field.size text) ↔
        2 ≤ pagesKept cuts) ∧
      (2 ≤ pagesKept cuts →
        (∀ field : TextField, HoldsText started (field.offset abi) field.size field.defaultText) ∧
        ∀ inputs : Inputs, Formats abi started inputs.deviceInfo →
          ∀ site : Site, (site.call inputs).Fits) := by
  intro after
  have leading := startUps_leave abi netInfo misaligned cuts memory contents blank
  have some := (pagesKept_bounds cuts).1
  refine ⟨leading, ?_, ?_, ?_⟩
  · intro address outside
    have last := Within.cut (appMain_within abi netInfo misaligned memory) _ after
      (cut_run _ _ _) address outside
    refine last.trans (attempts_frame _ ?_ contents address outside)
    intro attempt member
    obtain ⟨cut, _, rfl⟩ := List.mem_map.mp member
    exact appMain_within abi netInfo misaligned cut.1
  · intro attempts starting
    exact stored_stays abi netInfo misaligned attempts after starting
      (leading_not_empty abi netInfo _ some after leading)
  · intro memory started
    obtain ⟨terminated, whole⟩ := texts_iff abi netInfo _ some after leading memory
    refine ⟨terminated, fun two => ⟨whole two, ?_⟩⟩
    intro inputs formats site
    exact default_sites_fit abi started inputs (whole two .thingName) formats site

end Flash

/-- A layout of `default_net_info` with the MAC address in front. -/
def macFirst : DefaultNetInfo shortEnumAbi where
  bytes := defaultMac ++ List.replicate 17 8
  length := rfl
  macOffset := 0
  mac_stored := by decide

/-- Power fails in the erase, then behind the first page, and the record is kept with that
page alone: the template name is not terminated. -/
theorem one_page_kept :
    ¬ ∀ field : TextField, ∃ text,
      HoldsText (startedAppCommon shortEnumAbi macFirst (fun _ => 0)
        (startUps shortEnumAbi macFirst (.ignored UInt8 256)
          [(fun _ => 0, 1), (fun _ => 0, 2), (fun _ => 0, 5)] (fun _ => 0) fun _ => 0xFF))
        (field.offset shortEnumAbi) field.size text := by
  have blank : checkFlashCommonConfigInfoEmpty shortEnumAbi (fun _ => 0xFF) = true :=
    (empty_iff shortEnumAbi _).mpr fun _ _ => rfl
  have law := (first_start_up shortEnumAbi macFirst (.ignored UInt8 256) (fun _ => 0xFF) blank
    [(fun _ => 0, 1), (fun _ => 0, 2), (fun _ => 0, 5)] fun _ => 0).2.2.2 fun _ => 0
  intro terminated
  exact absurd (law.1.mp terminated) (by decide)

end WiznetEaas.StartUp
