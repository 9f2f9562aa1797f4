import WiznetEaas.InstallConfinement
import WiznetEaas.Runs

/-!
# The boot console

A typed key selects a menu, leaves one, or runs the operation its label names. The
console is the state machine of these menus over the flash contents; the boot
loader's loop is that machine on the keys it receives, after the OTA branch of its
first pass. A key is expected to change bytes of the named area only. One key does
not: erasing the app area calls the routine that erases the configuration area.
-/

namespace WiznetEaas.BootConsole

open NorFlash ByteMemory FlashControl FlashStores AreaCopies BootLoader InstallConfinement
  FirmwareInstall Runs

/-- The menu that receives the next key. -/
inductive Menu where
  | main
  | eraseFlash
  | printFlash
  | factoryFw
  deriving DecidableEq

/-- A key of the main menu enters a menu; the quit key leaves it. -/
def Menu.next : Menu → Char → Menu
  | .main, ch =>
    if ch = keyValueEraseFlashMenu then .eraseFlash
    else if ch = keyValuePrintFlashMenu then .printFlash
    else if ch = keyValueFactoryFwMenu then .factoryFw
    else .main
  | menu, ch => if ch = keyValueQuit then .main else menu

/-- The areas that the labels of the menus name. -/
inductive Region where
  | config
  | app
  | factory
  | ota
  deriving DecidableEq

/-- The configuration area holds the common record and the certificates. -/
def Region.Contains : Region → Nat → Prop
  | .config, address => 0x1C0000 ≤ address ∧ address < 0x200000
  | .app, address => InArea .app address
  | .factory, address => InArea .factory address
  | .ota, address => InArea .ota address

/-- The area whose contents the label of a key announces to change. -/
def Menu.names : Menu → Char → Option Region
  | .eraseFlash, ch =>
    if ch = keyValueEraseConfigFlash then some .config
    else if ch = keyValueEraseAppFlash then some .app
    else if ch = keyValueEraseFactoryFlash then some .factory
    else if ch = keyValueEraseOtaFlash then some .ota
    else if ch = keyValueEraseProvisonedCert then some .config
    else none
  | .factoryFw, ch =>
    if ch = keyValueCopyAppAreaToFactoryArea then some .factory
    else if ch = keyValueCopyFactoryAreaToAppArea then some .app
    else none
  | .main, _ => none
  | .printFlash, _ => none

variable (misaligned : Misalignment UInt8 userFlashPageSize) (abi : Abi)

/-- The operation a key runs in its menu. -/
def Menu.operation : Menu → Char → Routine UInt8
  | .eraseFlash, ch =>
    if ch = keyValueEraseConfigFlash then eraseFlashTotalConfigArea misaligned
    else if ch = keyValueEraseAppFlash then eraseFlashTotalConfigArea misaligned
    else if ch = keyValueEraseFactoryFlash then eraseFlashTotalFactoryArea misaligned
    else if ch = keyValueEraseOtaFlash then eraseFlashTotalOtaArea misaligned
    else if ch = keyValueEraseProvisonedCert then eraseFlashProvisionedCertInfo misaligned
    else idle
  | .factoryFw, ch =>
    if ch = keyValueCopyAppAreaToFactoryArea then
      copyAppAreaDataToFactoryArea misaligned applicationSize
    else if ch = keyValueCopyFactoryAreaToAppArea then
      copyFactoryAreaDataToAppArea misaligned applicationSize
    else idle
  | .main, _ => idle
  | .printFlash, _ => idle

/-- The console between two keys. -/
structure Console where
  menu : Menu
  contents : Contents UInt8

/-- One typed key. -/
def typeKey (console : Console) (ch : Char) : Console where
  menu := console.menu.next ch
  contents := (picoFlash misaligned).run (console.menu.operation misaligned ch) console.contents

/-- The keys pressed, each with the menu that received it. -/
def pressed : Menu → List Char → List (Menu × Char)
  | _, [] => []
  | menu, ch :: rest => (menu, ch) :: pressed (menu.next ch) rest

section Boot

/-- The keys a menu procedure reads, and whether the quit key was among them. -/
def menuTyped : List Key → List Char × Bool
  | [] => ([], false)
  | none :: rest => menuTyped rest
  | some ch :: rest =>
    if ch = keyValueQuit then ([ch], true) else (ch :: (menuTyped rest).1, (menuTyped rest).2)

/-- The keys the main loop and its menus read before the jump. -/
def typedKeys : List Pass → Nat → List Char
  | [], _ => []
  | pass :: rest, startTimeoutMs =>
    if elapsedMs pass.currentTimeoutMs startTimeoutMs > jumpAppTimeoutMs then []
    else match pass.ch with
      | none => typedKeys rest startTimeoutMs
      | some ch =>
        if Menu.main.next ch = .main then ch :: typedKeys rest startTimeoutMs
        else if (menuTyped pass.menuKeys).2 then
          ch :: ((menuTyped pass.menuKeys).1 ++ typedKeys rest pass.restartMs)
        else ch :: (menuTyped pass.menuKeys).1

theorem eraseFlash_procedure :
    procedureEraseFlash misaligned = menuProcedure misaligned (Menu.eraseFlash.operation misaligned) :=
  rfl

theorem printFlash_procedure :
    procedurePrintFlash misaligned = menuProcedure misaligned (Menu.printFlash.operation misaligned) :=
  rfl

theorem factoryFw_procedure :
    procedureFactoryFw misaligned = menuProcedure misaligned (Menu.factoryFw.operation misaligned) :=
  rfl

/-- What runs after a routine sees the contents it left. -/
theorem resumeAfter_applied (routine : Routine UInt8) (next : Contents UInt8 → Progress)
    (contents : Contents UInt8) :
    (picoFlash misaligned).applyAll (resumeAfter misaligned routine next contents).1 contents =
      (picoFlash misaligned).applyAll (next ((picoFlash misaligned).run routine contents)).1
        ((picoFlash misaligned).run routine contents) := by
  simp only [resumeAfter, applyAll_append, FlashPart.run]

/-- The quit key runs nothing. -/
theorem quit_idle (menu : Menu) : menu.operation misaligned keyValueQuit = idle := by
  cases menu <;> rfl

/-- A menu procedure is the console in that menu. It returns exactly when the console
is back in the main menu. -/
theorem menuProcedure_console (menu : Menu) (entered : menu ≠ .main) (keys : List Key)
    (contents : Contents UInt8) :
    let shown := menuProcedure misaligned (menu.operation misaligned) keys contents
    let console := execute (typeKey misaligned) ⟨menu, contents⟩ (menuTyped keys).1
    shown.2 = (menuTyped keys).2 ∧
      console.contents = (picoFlash misaligned).applyAll shown.1 contents ∧
      console.menu = if (menuTyped keys).2 then .main else menu := by
  have stays (ch : Char) (other : ch ≠ keyValueQuit) : menu.next ch = menu := by
    cases menu with
    | main => exact absurd rfl entered
    | eraseFlash => exact if_neg other
    | printFlash => exact if_neg other
    | factoryFw => exact if_neg other
  have leaves : menu.next keyValueQuit = .main := by
    cases menu with
    | main => exact absurd rfl entered
    | eraseFlash => rfl
    | printFlash => rfl
    | factoryFw => rfl
  induction keys generalizing contents with
  | nil => exact ⟨rfl, rfl, rfl⟩
  | cons key rest inductionHypothesis =>
    cases key with
    | none => exact inductionHypothesis contents
    | some ch =>
      by_cases quit : ch = keyValueQuit
      · subst quit
        simp only [menuProcedure, menuTyped, if_pos, execute, typeKey, leaves, quit_idle]
        exact ⟨trivial, rfl, trivial⟩
      · obtain ⟨returned, left, menuLeft⟩ := inductionHypothesis
          ((picoFlash misaligned).run (menu.operation misaligned ch) contents)
        simp only [menuProcedure, menuTyped, if_neg quit, execute, typeKey, stays ch quit]
        refine ⟨returned, ?_, menuLeft⟩
        rw [resumeAfter_applied]
        exact left

/-- A menu procedure followed by the main loop is the console on the keys of both. -/
theorem entered_console (menu : Menu) (entered : menu ≠ .main) (keys : List Key)
    (later : Contents UInt8 → Progress) (rest : List Char) (contents : Contents UInt8)
    (laterConsole : ∀ current, (picoFlash misaligned).applyAll (later current).1 current =
      (execute (typeKey misaligned) ⟨.main, current⟩ rest).contents) :
    let shown := menuProcedure misaligned (menu.operation misaligned) keys contents
    let after := later ((picoFlash misaligned).applyAll shown.1 contents)
    (picoFlash misaligned).applyAll
        (if shown.2 then (shown.1 ++ after.1, after.2) else shown).1 contents =
      (execute (typeKey misaligned) ⟨menu, contents⟩
        (if (menuTyped keys).2 then (menuTyped keys).1 ++ rest else (menuTyped keys).1)).contents := by
  intro shown after
  obtain ⟨returned, left, menuLeft⟩ :=
    menuProcedure_console misaligned menu entered keys contents
  have sameFlag : shown.2 = (menuTyped keys).2 := returned
  cases quit : (menuTyped keys).2 with
  | false =>
    rw [sameFlag, quit]
    exact left.symm
  | true =>
    rw [sameFlag, quit]
    simp only [if_true, applyAll_append, execute_append]
    rw [quit] at menuLeft
    have home : execute (typeKey misaligned) ⟨menu, contents⟩ (menuTyped keys).1 =
        ⟨.main, (picoFlash misaligned).applyAll shown.1 contents⟩ := by
      generalize execute (typeKey misaligned) ⟨menu, contents⟩ (menuTyped keys).1 = console at *
      cases console
      cases menuLeft
      cases left
      rfl
    rw [home]
    exact laterConsole _

/-- Without a stored request the main loop is the console on the keys it reads. -/
theorem mainLoop_console (passes : List Pass) (startTimeoutMs : Nat) (appCommon : Pointer)
    (contents : Contents UInt8)
    (disabled : startFirmwareOtaStatus abi appCommon ≠ startFwOtaEnable) :
    (picoFlash misaligned).applyAll
        (mainLoop misaligned abi passes startTimeoutMs appCommon contents).1 contents =
      (execute (typeKey misaligned) ⟨.main, contents⟩ (typedKeys passes startTimeoutMs)).contents := by
  induction passes generalizing startTimeoutMs contents with
  | nil => rfl
  | cons pass rest inductionHypothesis =>
    simp only [mainLoop, typedKeys]
    by_cases expired : elapsedMs pass.currentTimeoutMs startTimeoutMs > jumpAppTimeoutMs
    · rw [if_pos expired, if_pos expired]
      rfl
    · rw [if_neg expired, if_neg expired]
      simp only [if_neg disabled]
      rw [resumeAfter_applied]
      have stands : (picoFlash misaligned).run idle contents = contents := rfl
      simp only [stands]
      cases pass.ch with
      | none => exact inductionHypothesis startTimeoutMs contents
      | some ch =>
        have entering (menu : Menu) (entered : menu ≠ .main) := entered_console misaligned menu
          entered pass.menuKeys (mainLoop misaligned abi rest pass.restartMs appCommon)
          (typedKeys rest pass.restartMs) contents (inductionHypothesis pass.restartMs)
        have typed (menu : Menu) (chosen : Menu.main.next ch = menu) :
            typeKey misaligned ⟨.main, contents⟩ ch = ⟨menu, contents⟩ := by
          simp only [typeKey, chosen]
          rfl
        simp only
        by_cases eraseKey : ch = keyValueEraseFlashMenu
        · have chosen : Menu.main.next ch = .eraseFlash := if_pos eraseKey
          have away : Menu.eraseFlash ≠ .main := by decide
          have entered := entering .eraseFlash away
          rw [if_pos eraseKey, chosen, if_neg away, eraseFlash_procedure]
          simp only [execute, ← apply_ite (List.cons ch), typed _ chosen]
          exact entered
        · by_cases printKey : ch = keyValuePrintFlashMenu
          · have chosen : Menu.main.next ch = .printFlash :=
              (if_neg eraseKey).trans (if_pos printKey)
            have away : Menu.printFlash ≠ .main := by decide
            have entered := entering .printFlash away
            rw [if_neg eraseKey, if_pos printKey, chosen, if_neg away, printFlash_procedure]
            simp only [execute, ← apply_ite (List.cons ch), typed _ chosen]
            exact entered
          · by_cases factoryKey : ch = keyValueFactoryFwMenu
            · have chosen : Menu.main.next ch = .factoryFw :=
                (if_neg eraseKey).trans ((if_neg printKey).trans (if_pos factoryKey))
              have away : Menu.factoryFw ≠ .main := by decide
              have entered := entering .factoryFw away
              rw [if_neg eraseKey, if_neg printKey, if_pos factoryKey, chosen,
                if_neg away, factoryFw_procedure]
              simp only [execute, ← apply_ite (List.cons ch), typed _ chosen]
              exact entered
            · have chosen : Menu.main.next ch = .main :=
                (if_neg eraseKey).trans ((if_neg printKey).trans (if_neg factoryKey))
              rw [if_neg eraseKey, if_neg printKey, if_neg factoryKey, chosen, if_pos rfl]
              simp only [execute, typed _ chosen]
              exact inductionHypothesis startTimeoutMs contents

/-- A boot is its OTA branch followed by the console on the keys it reads. -/
theorem boot_console (boot : Boot) (pass : Pass) (rest : List Pass) (contents : Contents UInt8)
    (script : boot.passes = pass :: rest)
    (inTime : ¬ elapsedMs pass.currentTimeoutMs boot.startTimeoutMs > jumpAppTimeoutMs) :
    ∃ appCommon, SameObject abi.sizeofAppCommon appCommon (storedConfig contents) ∧
      (picoFlash misaligned).applyAll (bootMain misaligned abi boot contents).1 contents =
        (execute (typeKey misaligned)
          ⟨.main, (picoFlash misaligned).run (otaBranch misaligned abi appCommon) contents⟩
          (typedKeys boot.passes boot.startTimeoutMs)).contents := by
  refine ⟨_, boot_record abi boot contents, ?_⟩
  simp only [bootMain, script]
  generalize loadFlashCommonConfigInfo abi contents
    (copyBytes boot.memory (fun _ => 0) abi.sizeofAppCommon) = appCommon
  by_cases enabled : startFirmwareOtaStatus abi appCommon = startFwOtaEnable
  · have withdrawn := withdrawn_not_enabled abi appCommon
    have branch : mainLoop misaligned abi (pass :: rest) boot.startTimeoutMs appCommon contents =
        resumeAfter misaligned (otaBranch misaligned abi appCommon)
          (mainLoop misaligned abi (pass :: rest) boot.startTimeoutMs
            (setStartFirmwareOtaStatus abi appCommon startFwOtaDisable)) contents := by
      simp only [mainLoop, if_neg inTime, if_pos enabled, if_neg withdrawn, otaBranch]
      rfl
    rw [branch, resumeAfter_applied]
    exact mainLoop_console misaligned abi _ _ _ _ withdrawn
  · simp only [otaBranch, if_neg enabled]
    exact mainLoop_console misaligned abi _ _ _ _ enabled

end Boot

/-- A sector erase changes no byte outside its sectors. -/
theorem erase_changes (offset dataSize : Nat) (small : dataSize ≤ 0x1000000)
    (contents : Contents UInt8) (address : Nat)
    (changed : (picoFlash misaligned).run (eraseFlash misaligned offset dataSize) contents address ≠
      contents address) :
    offset ≤ address ∧ address < offset + (dataSize + 4095) / 4096 * 4096 := by
  rw [erase_apply misaligned offset dataSize small] at changed
  by_cases inside : offset ≤ address ∧ address < offset + (dataSize + 4095) / 4096 * 4096
  · exact inside
  · exact absurd (if_neg inside) changed

/-- Erasing the configuration area blanks exactly that area. -/
theorem eraseConfig_apply (contents : Contents UInt8) (address : Nat) :
    (Region.config.Contains address →
      (picoFlash misaligned).run (eraseFlashTotalConfigArea misaligned) contents address = 0xFF) ∧
    (¬ Region.config.Contains address →
      (picoFlash misaligned).run (eraseFlashTotalConfigArea misaligned) contents address =
        contents address) := by
  have erased := erase_apply misaligned 0x1C0000 configAreaSize (by decide) contents address
  simp only [eraseFlashTotalConfigArea, config_offset]
  rw [erased]
  exact ⟨fun inside => if_pos inside, fun outside => if_neg outside⟩

/-- A key of the erase menu changes only its area, but for the key of the app area, which
changes the configuration area. -/
theorem eraseFlash_changes (ch : Char) (contents : Contents UInt8) (address : Nat)
    (changed : (picoFlash misaligned).run (Menu.eraseFlash.operation misaligned ch) contents
      address ≠ contents address) :
    ch = keyValueEraseAppFlash ∧ Region.config.Contains address ∨
      ∃ region, Menu.eraseFlash.names ch = some region ∧ region.Contains address := by
  have config : (picoFlash misaligned).run (eraseFlashTotalConfigArea misaligned) contents address ≠
      contents address → Region.config.Contains address := by
    intro differs
    exact Classical.byContradiction fun outside =>
      differs ((eraseConfig_apply misaligned contents address).2 outside)
  simp only [Menu.operation] at changed
  simp only [Menu.names]
  by_cases first : ch = keyValueEraseConfigFlash
  · rw [if_pos first] at changed ⊢
    exact Or.inr ⟨.config, rfl, config changed⟩
  · rw [if_neg first] at changed ⊢
    by_cases second : ch = keyValueEraseAppFlash
    · rw [if_pos second] at changed
      exact Or.inl ⟨second, config changed⟩
    · rw [if_neg second] at changed ⊢
      by_cases third : ch = keyValueEraseFactoryFlash
      · rw [if_pos third] at changed ⊢
        exact Or.inr ⟨.factory, rfl,
          erase_changes misaligned _ applicationSize (by decide) contents address changed⟩
      · rw [if_neg third] at changed ⊢
        by_cases fourth : ch = keyValueEraseOtaFlash
        · rw [if_pos fourth] at changed ⊢
          exact Or.inr ⟨.ota, rfl,
            erase_changes misaligned _ applicationSize (by decide) contents address changed⟩
        · rw [if_neg fourth] at changed ⊢
          by_cases fifth : ch = keyValueEraseProvisonedCert
          · rw [if_pos fifth] at changed ⊢
            have sectors := erase_changes misaligned _ sizeofAwsFpDeviceCertInfo (by decide)
              contents address changed
            simp only [certInfo_offset, sizeofAwsFpDeviceCertInfo] at sectors
            refine Or.inr ⟨.config, rfl, ?_⟩
            simp only [Region.Contains]
            omega
          · rw [if_neg fifth] at changed
            exact absurd rfl changed

/-- A key of the factory menu changes only the target of its copy. -/
theorem factoryFw_changes (ch : Char) (contents : Contents UInt8) (address : Nat)
    (changed : (picoFlash misaligned).run (Menu.factoryFw.operation misaligned ch) contents
      address ≠ contents address) :
    ∃ region, Menu.factoryFw.names ch = some region ∧ region.Contains address := by
  obtain ⟨_, factoryToApp, appToFactory⟩ :=
    copies_exact misaligned contents applicationSize (Nat.le_refl _)
  simp only [Menu.operation] at changed
  simp only [Menu.names]
  by_cases first : ch = keyValueCopyAppAreaToFactoryArea
  · rw [if_pos first] at changed ⊢
    exact ⟨.factory, rfl, Classical.byContradiction fun outside =>
      changed (appToFactory.others address outside)⟩
  · rw [if_neg first] at changed ⊢
    by_cases second : ch = keyValueCopyFactoryAreaToAppArea
    · rw [if_pos second] at changed ⊢
      exact ⟨.app, rfl, Classical.byContradiction fun outside =>
        changed (factoryToApp.others address outside)⟩
    · rw [if_neg second] at changed
      exact absurd rfl changed

/-- What a key changes lies in the area its label names, but for the key that erases
the app area: what that one changes lies in the configuration area. -/
theorem operation_changes (menu : Menu) (ch : Char) (contents : Contents UInt8) (address : Nat)
    (changed : (picoFlash misaligned).run (menu.operation misaligned ch) contents address ≠
      contents address) :
    menu = .eraseFlash ∧ ch = keyValueEraseAppFlash ∧ Region.config.Contains address ∨
      ∃ region, menu.names ch = some region ∧ region.Contains address := by
  cases menu with
  | main => exact absurd rfl changed
  | printFlash => exact absurd rfl changed
  | eraseFlash =>
    exact (eraseFlash_changes misaligned ch contents address changed).imp_left fun wrong =>
      ⟨rfl, wrong⟩
  | factoryFw => exact Or.inr (factoryFw_changes misaligned ch contents address changed)

/-- A key changes only bytes of the area its label names, and erasing the app area
leaves all of it blank. -/
structure KeyLaw (console : Console) (ch : Char) : Prop where
  named : ∀ address,
    (typeKey misaligned console ch).contents address ≠ console.contents address →
      ∃ region, console.menu.names ch = some region ∧ region.Contains address
  appErased : console.menu = .eraseFlash → ch = keyValueEraseAppFlash →
    ∀ address, Region.app.Contains address →
      (typeKey misaligned console ch).contents address = 0xFF

/-- The key for erasing the app area comes only when that area and the configuration
area are blank already. -/
def EraseAppHarmless (console : Console) (ch : Char) : Prop :=
  console.menu = .eraseFlash → ch = keyValueEraseAppFlash →
    ∀ address, Region.config.Contains address ∨ Region.app.Contains address →
      console.contents address = 0xFF

/-- The app area and the configuration area are apart. -/
theorem app_config_apart (address : Nat) (inApp : Region.app.Contains address) :
    ¬ Region.config.Contains address := by
  simp only [Region.Contains, InArea] at inApp ⊢
  rw [Area.offset_exact] at inApp
  simp only [applicationSize] at inApp
  omega

/-- One key keeps the law exactly when it is not the key for erasing the app area, or
finds nothing to erase. -/
theorem key_law_iff (console : Console) (ch : Char) :
    KeyLaw misaligned console ch ↔ EraseAppHarmless console ch := by
  constructor
  · rintro ⟨named, appErased⟩ inErase pressedKey address area
    have operation : console.menu.operation misaligned ch = eraseFlashTotalConfigArea misaligned := by
      rw [inErase, pressedKey]
      rfl
    have label : console.menu.names ch = some .app := by
      rw [inErase, pressedKey]
      rfl
    have effect := eraseConfig_apply misaligned console.contents address
    simp only [typeKey, operation, label] at named appErased
    rcases area with inConfig | inApp
    · refine Classical.byContradiction fun written => ?_
      have changed : (picoFlash misaligned).run (eraseFlashTotalConfigArea misaligned)
          console.contents address ≠ console.contents address := by
        rw [effect.1 inConfig]
        exact fun same => written same.symm
      obtain ⟨region, same, contained⟩ := named address changed
      cases same
      exact app_config_apart address contained inConfig
    · rw [← effect.2 (app_config_apart address inApp)]
      exact appErased inErase pressedKey address inApp
  · intro harmless
    constructor
    · intro address changed
      rcases operation_changes misaligned console.menu ch console.contents address changed with
        ⟨inErase, pressedKey, inConfig⟩ | named
      · have blank := harmless inErase pressedKey address (Or.inl inConfig)
        have operation : console.menu.operation misaligned ch =
            eraseFlashTotalConfigArea misaligned := by
          rw [inErase, pressedKey]
          rfl
        simp only [typeKey, operation] at changed
        rw [(eraseConfig_apply misaligned console.contents address).1 inConfig, blank] at changed
        exact absurd rfl changed
      · exact named
    · intro inErase pressedKey address inApp
      have operation : console.menu.operation misaligned ch =
          eraseFlashTotalConfigArea misaligned := by
        rw [inErase, pressedKey]
        rfl
      simp only [typeKey, operation]
      rw [(eraseConfig_apply misaligned console.contents address).2 (app_config_apart address inApp)]
      exact harmless inErase pressedKey address (Or.inr inApp)

/-- The law of a whole session: every key keeps it, a byte of an area differs at the end
only if a key was pressed that names the area, and no other byte differs. -/
structure ConsoleLaw (console : Console) (keys : List Char) : Prop where
  everyKey : Along (typeKey misaligned) (KeyLaw misaligned) console keys
  session : ∀ address,
    (execute (typeKey misaligned) console keys).contents address ≠ console.contents address →
      ∃ press ∈ pressed console.menu keys, ∃ region,
        press.1.names press.2 = some region ∧ region.Contains address

/-- What a session of lawful keys changes, some key of it names. -/
theorem session_named (console : Console) (keys : List Char)
    (everyKey : Along (typeKey misaligned) (KeyLaw misaligned) console keys) (address : Nat)
    (changed : (execute (typeKey misaligned) console keys).contents address ≠
      console.contents address) :
    ∃ press ∈ pressed console.menu keys, ∃ region,
      press.1.names press.2 = some region ∧ region.Contains address := by
  induction keys generalizing console with
  | nil => exact absurd rfl changed
  | cons ch rest inductionHypothesis =>
    obtain ⟨lawful, later⟩ := everyKey
    by_cases first : (typeKey misaligned console ch).contents address = console.contents address
    · rw [← first] at changed
      obtain ⟨press, member, region, named⟩ := inductionHypothesis _ later changed
      exact ⟨press, List.mem_cons_of_mem _ member, region, named⟩
    · obtain ⟨region, named⟩ := lawful.named address first
      exact ⟨(console.menu, ch), List.mem_cons_self, region, named⟩

/-- Every session on every flash content keeps the law exactly when each press of the key
for erasing the app area, in the erase menu, finds that area and the configuration area
blank. -/
theorem console_law_iff (console : Console) (keys : List Char) :
    ConsoleLaw misaligned console keys ↔
      Along (typeKey misaligned) EraseAppHarmless console keys := by
  have everyKey := along_congr (typeKey misaligned) (KeyLaw misaligned) EraseAppHarmless
    (key_law_iff misaligned) console keys
  constructor
  · intro law
    exact everyKey.mp law.everyKey
  · intro harmless
    have lawful := everyKey.mpr harmless
    exact ⟨lawful, session_named misaligned console keys lawful⟩

/-- The keys 1 and 2 from the main menu: the app area is to be erased. It is not, and the
configuration area, which no key of the session names, is. -/
theorem erase_app_erases_config :
    let part := Misalignment.ignored UInt8 userFlashPageSize
    let console : Console := ⟨.main, fun _ => 0⟩
    let after := (execute (typeKey part) console ['1', '2']).contents
    pressed .main ['1', '2'] = [(.main, '1'), (.eraseFlash, '2')] ∧
    Menu.eraseFlash.names '2' = some .app ∧ Menu.main.names '1' = none ∧
    after 0x1C0000 = 0xFF ∧ after 0x40000 = 0 ∧
    ¬ ConsoleLaw part console ['1', '2'] := by
  intro part console after
  have session : after = (picoFlash part).run (eraseFlashTotalConfigArea part) (fun _ => 0) := rfl
  have inConfig : Region.config.Contains 0x1C0000 := ⟨by decide, by decide⟩
  have inApp : Region.app.Contains 0x40000 := ⟨by decide, by decide⟩
  have erased : after 0x1C0000 = 0xFF := by
    rw [session]
    exact (eraseConfig_apply part (fun _ => 0) 0x1C0000).1 inConfig
  have left : after 0x40000 = 0 := by
    rw [session]
    exact (eraseConfig_apply part (fun _ => 0) 0x40000).2 (app_config_apart 0x40000 inApp)
  refine ⟨by decide, by decide, by decide, erased, left, ?_⟩
  intro law
  have blank : after 0x40000 = 0xFF :=
    law.everyKey.2.1.appErased rfl rfl 0x40000 inApp
  rw [left] at blank
  exact absurd blank (by decide)

end WiznetEaas.BootConsole
