import WiznetEaas.FlashControl

/-!
# The boot loader's main loop and its flash menus

The outside world is a script: the clock readings and console keys each pass of
the loop receives. A part of the loader issues flash operations and tells
whether it ran to its end before the script did, so a boot that is still
waiting and a boot that reached `jump_to_app` remain apart. Traces and the dump
of a printed area leave the flash alone and are not represented.
-/

namespace WiznetEaas.BootLoader

open NorFlash ByteMemory FlashControl

@[simp] abbrev jumpAppTimeoutMs : Nat := 2000

@[simp] abbrev keyValueEraseFlashMenu : Char := '1'
@[simp] abbrev keyValuePrintFlashMenu : Char := '2'
@[simp] abbrev keyValueFactoryFwMenu : Char := '3'
@[simp] abbrev keyValueQuit : Char := 'q'

@[simp] abbrev keyValueEraseConfigFlash : Char := '1'
@[simp] abbrev keyValueEraseAppFlash : Char := '2'
@[simp] abbrev keyValueEraseFactoryFlash : Char := '3'
@[simp] abbrev keyValueEraseOtaFlash : Char := '4'
@[simp] abbrev keyValueEraseProvisonedCert : Char := '5'

@[simp] abbrev keyValueCopyAppAreaToFactoryArea : Char := '1'
@[simp] abbrev keyValueCopyFactoryAreaToAppArea : Char := '2'

/-- What `getchar_timeout_us` returns: a key, or nothing within the timeout. -/
abbrev Key := Option Char

/-- The operations issued, and whether the code ran to its end. -/
abbrev Progress := List (Operation UInt8) × Bool

variable (misaligned : Misalignment UInt8 userFlashPageSize)

/-- A routine followed by code that reads the contents the routine left. -/
def resumeAfter (routine : Routine UInt8) (next : Contents UInt8 → Progress)
    (contents : Contents UInt8) : Progress :=
  let later := next ((picoFlash misaligned).run routine contents)
  (routine contents ++ later.1, later.2)

/-- The reading loop the three menu procedures share. It returns on the quit key. -/
def menuProcedure (choose : Char → Routine UInt8) : List Key → Contents UInt8 → Progress
  | [], _ => ([], false)
  | none :: rest, contents => menuProcedure choose rest contents
  | some ch :: rest, contents =>
    if ch = keyValueQuit then ([], true)
    else resumeAfter misaligned (choose ch) (menuProcedure choose rest) contents

/-- The app area's key erases the configuration area, as the configuration
area's own key does. -/
def procedureEraseFlash : List Key → Contents UInt8 → Progress :=
  menuProcedure misaligned fun ch =>
    if ch = keyValueEraseConfigFlash then eraseFlashTotalConfigArea misaligned
    else if ch = keyValueEraseAppFlash then eraseFlashTotalConfigArea misaligned
    else if ch = keyValueEraseFactoryFlash then eraseFlashTotalFactoryArea misaligned
    else if ch = keyValueEraseOtaFlash then eraseFlashTotalOtaArea misaligned
    else if ch = keyValueEraseProvisonedCert then eraseFlashProvisionedCertInfo misaligned
    else idle

/-- Printing only reads. -/
def procedurePrintFlash : List Key → Contents UInt8 → Progress :=
  menuProcedure misaligned fun _ => idle

def procedureFactoryFw : List Key → Contents UInt8 → Progress :=
  menuProcedure misaligned fun ch =>
    if ch = keyValueCopyAppAreaToFactoryArea then
      copyAppAreaDataToFactoryArea misaligned applicationSize
    else if ch = keyValueCopyFactoryAreaToAppArea then
      copyFactoryAreaDataToAppArea misaligned applicationSize
    else idle

/-- What one pass of the main loop receives: the clock at its start, the key it
waits for, the keys a menu procedure reads, and the clock when that returns. -/
structure Pass where
  currentTimeoutMs : Nat
  ch : Key
  menuKeys : List Key
  restartMs : Nat

/-- The 32-bit difference of two clock readings. -/
def elapsedMs (currentMs startMs : Nat) : Nat := u32 (currentMs + 4294967296 - startMs)

/-- The body of `if(START_FIRMWARE_OTA_STATUS == START_FW_OTA_ENABLE)`: install the
stored image, then store the record with the request withdrawn. -/
def startOta (abi : Abi) (appCommon : Pointer) : Routine UInt8 :=
  (picoFlash misaligned).andThen
    (copyOtaAreaDataToAppArea misaligned (firmwareSize abi appCommon))
    (saveFlashCommonConfigInfo misaligned abi
      (setStartFirmwareOtaStatus abi appCommon startFwOtaDisable))

/-- The main loop. Its flag tells that it broke out to `jump_to_app`. -/
def mainLoop (abi : Abi) : List Pass → Nat → Pointer → Contents UInt8 → Progress
  | [], _, _, _ => ([], false)
  | pass :: rest, startTimeoutMs, appCommon, contents =>
    if elapsedMs pass.currentTimeoutMs startTimeoutMs > jumpAppTimeoutMs then ([], true)
    else
      let enabled := startFirmwareOtaStatus abi appCommon = startFwOtaEnable
      let ota := if enabled then startOta misaligned abi appCommon else idle
      let appCommonNow :=
        if enabled then setStartFirmwareOtaStatus abi appCommon startFwOtaDisable else appCommon
      let menu (procedure : List Key → Contents UInt8 → Progress) (current : Contents UInt8) :=
        let shown := procedure pass.menuKeys current
        if shown.2 then
          let later := mainLoop abi rest pass.restartMs appCommonNow
            ((picoFlash misaligned).applyAll shown.1 current)
          (shown.1 ++ later.1, later.2)
        else shown
      resumeAfter misaligned ota
        (fun current => match pass.ch with
          | none => mainLoop abi rest startTimeoutMs appCommonNow current
          | some ch =>
            if ch = keyValueEraseFlashMenu then menu (procedureEraseFlash misaligned) current
            else if ch = keyValuePrintFlashMenu then menu (procedurePrintFlash misaligned) current
            else if ch = keyValueFactoryFwMenu then menu (procedureFactoryFw misaligned) current
            else mainLoop abi rest startTimeoutMs appCommonNow current)
        contents

/-- One boot: the memory around `appCommon`, the clock before the loop, and the
script of its passes. -/
structure Boot where
  memory : Pointer
  startTimeoutMs : Nat
  passes : List Pass

/-- `main` up to the jump: clear the record, load it, run the loop. -/
def bootMain (abi : Abi) (boot : Boot) (contents : Contents UInt8) : Progress :=
  let cleared := copyBytes boot.memory (fun _ => 0) abi.sizeofAppCommon
  let appCommon := loadFlashCommonConfigInfo abi contents cleared
  mainLoop misaligned abi boot.passes boot.startTimeoutMs appCommon contents

end WiznetEaas.BootLoader
