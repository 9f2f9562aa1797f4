import WiznetEaas.JobOrder
import WiznetEaas.JobStatus
import WiznetEaas.UpdateAtomicity

/-!
# What the device reboots for

`enableReboot` is cleared when a call starts, set by an update that passed its checks and
stored its request, and read at the end of the same call. Over any session, whatever messages
come in, the device therefore reboots exactly when its flash holds a request, and the boot
loader then finds the image that the request is for.
-/

namespace WiznetEaas.RebootRequests

open NorFlash ByteMemory CStrings FlashControl FlashRecords FlashAreas AreaCopies Crc16 DeviceCommon
  HttpInterface JobDocument MqttMessages JobMessages JobProcedures JobDispatch JobCalls JobOrder
  FirmwareInstall BootLoader Restarts PowerLoss UpdateAtomicity Runs

variable (json : Json) (thingName : List UInt8) (misaligned : Misalignment UInt8 userFlashPageSize)
  (coreHttp : CoreHttp) (abi : Abi) (current : Version)

/-- The areas that a running application writes: the OTA area and the sector of the
configuration. -/
def InSession (address : Nat) : Prop :=
  InArea .ota address ∨ (0x1C0000 ≤ address ∧ address < 0x1C1000)

/-- The stored record requests an update, and the OTA area has the checksum it names over any
size that fits the area. -/
structure Requested (contents : Contents UInt8) : Prop where
  enabled : startFirmwareOtaStatus abi (storedConfig contents) = startFwOtaEnable
  checksum : firmwareSize abi (storedConfig contents) ≤ applicationSize →
    (crc16Ccitt (flashPointer contents flashTempFwStartAddr)
      (firmwareSize abi (storedConfig contents))).toNat = firmwareCrc abi (storedConfig contents)

/-- The flash of a session: no request while it goes on, and one when the device reboots. -/
structure Sound (initial : Contents UInt8) (session : Session) : Prop where
  frame : AgreeOutside InSession session.state.flash initial
  running : session.rebooted = false →
    startFirmwareOtaStatus abi (storedConfig session.state.flash) ≠ startFwOtaEnable
  rebooted : session.rebooted = true → Requested abi session.state.flash

theorem enableReboot_set (pAppCommon : Pointer) (enabled : Bool) :
    enableReboot abi (setEnableReboot abi pAppCommon enabled) = enabled := by
  rw [enableReboot, setEnableReboot, loadField_storeField]
  cases enabled with
  | false => rfl
  | true => rfl

/-- A document asks for a reboot exactly when it saves a request. -/
theorem document_reboots (world : DownloadWorld) (pAppCommon : Pointer) (execution : JobExecution)
    (contents : Contents UInt8) (document : DocumentResult)
    (cleared : enableReboot abi pAppCommon = false)
    (returned : startJobDocument misaligned coreHttp abi json current world pAppCommon execution
      contents = some document) :
    (document.ret && enableReboot abi document.appCommon) = document.saved.isSome := by
  simp only [startJobDocument] at returned
  split at returned
  next =>
    split at returned
    next =>
      cases returned
      rfl
    next =>
      split at returned
      next =>
        cases returned
        rfl
      next =>
        obtain ⟨attempt, _, returned⟩ := Option.bind_eq_some_iff.mp returned
        split at returned
        next =>
          cases returned
          rfl
        next =>
          cases returned
          exact enableReboot_set abi _ true
  next =>
    split at returned
    next =>
      cases returned
      exact cleared
    next =>
      cases returned
      exact cleared

/-- A request keeps what neither its flags nor its messages change. -/
theorem request_keeps {View : Type} (view : JobsState → View) (flag : JobsState → Bool)
    (clear : JobsState → JobsState) (exchange : Exchange thingName) (state : JobsState)
    (cleared : ∀ state, view (clear state) = view state)
    (announces : ∀ state, view (published state) = view state)
    (handled : ∀ state messages, view (execute (handle json thingName) state messages) = view state) :
    view (request json thingName flag clear exchange state).2 = view state :=
  (request_view json thingName view flag clear exchange state cleared).trans
    ((handled _ _).trans (announces state))

/-- It keeps the flash and the record of the application. -/
theorem request_record (flag : JobsState → Bool) (clear : JobsState → JobsState)
    (exchange : Exchange thingName) (state : JobsState)
    (cleared : ∀ state, (clear state).flash = state.flash ∧ (clear state).appCommon = state.appCommon) :
    (request json thingName flag clear exchange state).2.flash = state.flash ∧
      (request json thingName flag clear exchange state).2.appCommon = state.appCommon := by
  have handled (state : JobsState) (messages : List (Incoming thingName)) :=
    messages_handled json thingName state messages
  exact ⟨request_keeps json thingName JobsState.flash flag clear exchange state
      (fun state => (cleared state).1) (fun _ => rfl) fun state messages => (handled state messages).flash,
    request_keeps json thingName JobsState.appCommon flag clear exchange state
      (fun state => (cleared state).2) (fun _ => rfl)
      fun state messages => (handled state messages).appCommon⟩

/-- The report of a document keeps what its execution left in the flash and in the record. -/
theorem report_record (inputs : DocumentInputs thingName) (document : DocumentResult)
    (state : JobsState) :
    let result := reportDocument json thingName misaligned abi inputs document state
    result.state.flash = (picoFlash misaligned).run document.flash state.flash ∧
      result.reboot = (document.ret && enableReboot abi document.appCommon) := by
  have kept : _ ∧ _ := request_record json thingName JobsState.recvedMqttJobUpdateAcceptMsg clearUpdate
    inputs.update { afterDocument misaligned document state with isJobIdSetForEventCallback := true }
    fun _ => ⟨rfl, rfl⟩
  simp only [reportDocument]
  rw [← iotJobsUpdateJobStatusProcedure] at kept
  generalize iotJobsUpdateJobStatusProcedure json thingName inputs.update
    (afterDocument misaligned document state) = updated at kept ⊢
  have reboots := congrArg (fun record => document.ret && enableReboot abi record) kept.2
  by_cases success : updated.1 = true
  · simp only [if_pos success]
    exact ⟨kept.1, reboots⟩
  · simp only [if_neg success]
    exact ⟨kept.1, reboots⟩

/-- A call executes no document and leaves the flash, or it reboots exactly for a request that
its document saved. -/
theorem procedure_reboots (inputs : DocumentInputs thingName) (state : JobsState)
    (result : ProcedureResult)
    (returned : iotJobsStartJobDocumentProcedure json thingName misaligned coreHttp abi current
      inputs state = some result) :
    (result.reboot = false ∧ result.state.flash = state.flash) ∨
    ∃ pAppCommon execution document, startJobDocument misaligned coreHttp abi json current
        inputs.world pAppCommon execution state.flash = some document ∧
      result.reboot = document.saved.isSome ∧
      result.state.flash = (picoFlash misaligned).run document.flash state.flash := by
  simp only [iotJobsStartJobDocumentProcedure] at returned
  split at returned
  next =>
    cases returned
    exact Or.inl ⟨rfl, rfl⟩
  next =>
    split at returned
    next =>
      cases returned
      exact Or.inl ⟨rfl, rfl⟩
    next =>
      obtain ⟨flash, appCommon⟩ := request_record json thingName
        JobsState.recvedMqttStartNextJobAcceptMsg clearStartNext inputs.startNext
        (beforeStartNext abi state) fun _ => ⟨rfl, rfl⟩
      split at returned
      next =>
        obtain ⟨document, executed, rfl⟩ := Option.map_eq_some_iff.mp returned
        obtain ⟨reported, reboots⟩ := report_record json thingName misaligned abi inputs document
          (markStarted (iotJobsStartNextProcedure json thingName inputs.startNext
            (beforeStartNext abi state)).2)
        have cleared : enableReboot abi (iotJobsStartNextProcedure json thingName inputs.startNext
            (beforeStartNext abi state)).2.appCommon = false := by
          rw [iotJobsStartNextProcedure, appCommon]
          exact enableReboot_set abi _ false
        have started : (markStarted (iotJobsStartNextProcedure json thingName inputs.startNext
            (beforeStartNext abi state)).2).flash = state.flash := flash
        rw [executeDocument, started] at executed
        rw [started] at reported
        exact Or.inr ⟨_, _, document, executed, reboots.trans (document_reboots json misaligned
          coreHttp abi current _ _ _ _ document cleared executed), reported⟩
      next =>
        cases returned
        exact Or.inl ⟨rfl, flash⟩

/-- An application that runs writes the OTA area and the configuration, and leaves a request only
where it saves one for a checked image. -/
theorem document_sound (initial : Contents UInt8) (world : DownloadWorld) (pAppCommon : Pointer)
    (execution : JobExecution) (contents : Contents UInt8) (document : DocumentResult)
    (downloadFits : DownloadFits world)
    (returned : startJobDocument misaligned coreHttp abi json current world pAppCommon execution
      contents = some document)
    (agree : AgreeOutside InSession contents initial)
    (calm : startFirmwareOtaStatus abi (storedConfig contents) ≠ startFwOtaEnable) :
    let flash := (picoFlash misaligned).run document.flash contents
    AgreeOutside InSession flash initial ∧
    (document.saved.isSome = false →
      startFirmwareOtaStatus abi (storedConfig flash) ≠ startFwOtaEnable) ∧
    (document.saved.isSome = true → Requested abi flash) := by
  have onlyOta (routine : Routine UInt8) (within : Within (picoFlash misaligned) (InArea .ota) routine) :
      AgreeOutside (InArea .ota) ((picoFlash misaligned).run routine contents) contents :=
    within.cut contents _ (cut_run (picoFlash misaligned) routine contents)
  rcases document_flash misaligned abi coreHttp json current world downloadFits pAppCommon execution
    contents document returned with ⟨nothing, within⟩ |
      ⟨download, record, accepted, within, saved, size, crc, enabled, flash⟩
  · have kept := onlyOta document.flash within
    refine ⟨fun address outside => (kept address fun ota => outside (Or.inl ota)).trans
      (agree address outside), fun _ => ?_, fun armed => ?_⟩
    · rw [status_same abi _ _ (config_kept abi contents _ kept)]
      exact calm
    · rw [nothing] at armed
      cases armed
  · have kept := onlyOta download.flash within
    have sector := Within.cut (operation_within misaligned abi (.saveCommonConfigInfo record)
      True.intro) ((picoFlash misaligned).run download.flash contents) _ (cut_run _ _ _)
    have stored := save_config_run misaligned abi record
      ((picoFlash misaligned).run download.flash contents)
    rw [flash]
    simp only [run_andThen]
    refine ⟨?_, fun unsaved => ?_, fun _ => ⟨(status_same abi _ _ stored).trans enabled, ?_⟩⟩
    · intro address outside
      exact (sector address fun config => outside (Or.inr config)).trans
        ((kept address fun ota => outside (Or.inl ota)).trans (agree address outside))
    · rw [saved] at unsaved
      cases unsaved
    · rw [size_same abi _ _ stored, crc_same abi _ _ stored, size, crc, ← accepted.checksum]
      intro fits
      have bound : jobOtaSize (FirmwareArming.parsedParams json execution).2 ≤ 0x80000 := fits
      congr 1
      apply crc16Loop_same
      intro position _ inside
      rw [ota_pointer, ota_pointer]
      apply sector
      show ¬ (0x1C0000 ≤ 0x140000 + position ∧ 0x140000 + position < 0x1C1000)
      omega

/-- A call keeps the flash of a session sound. -/
theorem serveCall_sound (initial : Contents UInt8) (session reached : Session)
    (call : Call thingName) (going : session.rebooted = false)
    (sound : Sound abi initial session)
    (confined : ∀ inputs, call = .document inputs → DownloadFits inputs.world)
    (served : serveCall json thingName misaligned coreHttp abi current session call =
      some reached) : Sound abi initial reached := by
  have calm := sound.running going
  have same (flash : reached.state.flash = session.state.flash) (goes : reached.rebooted = false) :
      Sound abi initial reached := by
    constructor
    · rw [flash]
      exact sound.frame
    · intro _
      rw [flash]
      exact calm
    · intro rebooted
      rw [goes] at rebooted
      cases rebooted
  cases call with
  | get exchange =>
    cases served
    exact same (request_record json thingName _ clearGetJob exchange session.state
      fun _ => ⟨rfl, rfl⟩).1 going
  | receive messages =>
    cases served
    exact same (messages_handled json thingName session.state messages).flash going
  | document inputs =>
    obtain ⟨result, returned, rfl⟩ := Option.map_eq_some_iff.mp served
    rcases procedure_reboots json thingName misaligned coreHttp abi current inputs session.state
      result returned with ⟨goes, flash⟩ | ⟨_, _, document, executed, reboots, flash⟩
    · exact same flash goes
    · obtain ⟨frame, running, requested⟩ := document_sound json misaligned coreHttp abi current
        initial inputs.world _ _ _ document (confined inputs rfl) executed sound.frame calm
      rw [← flash, ← reboots] at running requested
      rw [← flash] at frame
      exact ⟨frame, running, requested⟩

/-- Nothing follows a reboot. -/
theorem callStep_sound (initial : Contents UInt8) (session : Option Session)
    (call : Call thingName) (sound : ∀ before, session = some before → Sound abi initial before)
    (confined : ∀ inputs, call = .document inputs → DownloadFits inputs.world) (reached : Session)
    (step : callStep json thingName misaligned coreHttp abi current session call = some reached) :
    Sound abi initial reached := by
  obtain ⟨before, isBefore, stepped⟩ := Option.bind_eq_some_iff.mp step
  split at stepped
  next =>
    cases stepped
    exact sound _ isBefore
  next going =>
    exact serveCall_sound json thingName misaligned coreHttp abi current initial before reached call
      (Bool.eq_false_iff.mpr going) (sound before isBefore) confined stepped

/-- In any session that starts without a request for an update, with downloads that fit the OTA
area, the device reboots exactly when its flash holds a request, and writes nothing but the OTA
area and the configuration. Quiet boots then, however often they are interrupted, leave the
flash as it is if the device came there without a reboot of its own, and otherwise bring the
requested image, with the checksum of the request, if its size fits. Of a session in which a
message overruns its buffer nothing is promised. -/
theorem reboots_for_requests (calls : List (Call thingName)) (state : JobsState) (reached : Session)
    (calm : startFirmwareOtaStatus abi (storedConfig state.flash) ≠ startFwOtaEnable)
    (confined : ∀ inputs, Call.document inputs ∈ calls → DownloadFits inputs.world)
    (ran : execute (callStep json thingName misaligned coreHttp abi current) (some (.begin state))
      calls = some reached) :
    (reached.rebooted = true ↔
      startFirmwareOtaStatus abi (storedConfig reached.state.flash) = startFwOtaEnable) ∧
    AgreeOutside InSession reached.state.flash state.flash ∧
    ∀ final, (picoFlash misaligned).Recovery (bootMain misaligned abi) Quiet reached.state.flash
        final →
      (reached.rebooted = false → final = reached.state.flash) ∧
      (reached.rebooted = true →
        firmwareSize abi (storedConfig reached.state.flash) ≤ applicationSize →
        HoldsImage (firmwareSize abi (storedConfig reached.state.flash))
          (firmwareCrc abi (storedConfig reached.state.flash)) final) := by
  have sound : Sound abi state.flash reached :=
    execute_invariant (callStep json thingName misaligned coreHttp abi current)
      (fun session => ∀ before, session = some before → Sound abi state.flash before)
      (fun _ call => ∀ inputs, call = .document inputs → DownloadFits inputs.world)
      (fun session call sound confined reached step =>
        callStep_sound json thingName misaligned coreHttp abi current state.flash session call sound
          confined reached step)
      (some (.begin state)) calls
      (fun before isBegin => by
        cases isBegin
        exact ⟨fun _ _ => rfl, fun _ => calm, fun rebooted => by cases rebooted⟩)
      (along_of_forall _ _ _ calls fun call member inputs isDocument =>
        confined inputs (isDocument ▸ member)) reached ran
  refine ⟨⟨fun rebooted => (sound.rebooted rebooted).enabled, fun enabled => ?_⟩, sound.frame, ?_⟩
  · exact eq_true_of_ne_false fun going => sound.running going enabled
  · intro final boots
    constructor
    · intro going
      exact disabled_boots misaligned abi _ final (sound.running going) boots
    · intro rebooted fits
      have requested := sound.rebooted rebooted
      exact (armed_boots misaligned abi reached.state.flash reached.state.flash final _ _ fits
        (requested.checksum fits) (fun _ _ => rfl) requested.enabled rfl boots).image

/-- The report of an update is not acknowledged. -/
def updateCalls : List (Call (ascii "eaas")) :=
  [.receive [secondAnnounced],
    .document ⟨⟨true, [[JobStatus.updateHandedOut]]⟩, FirmwareArming.unreachable, ⟨false, []⟩⟩]

/-- The device reboots, and holds the request. -/
theorem unacknowledged_update_reboots : ∃ reached,
    execute (callStep JobQueue.nestedJson (ascii "eaas") (.ignored UInt8 256)
      FirmwareArming.exampleCoreHttp shortEnumAbi applicationVersion) (some (.begin pendingState))
        updateCalls = some reached ∧
    reached.rebooted = true ∧
    startFirmwareOtaStatus shortEnumAbi (storedConfig reached.state.flash) = startFwOtaEnable := by
  have evaluated : (execute (callStep JobQueue.nestedJson (ascii "eaas") (.ignored UInt8 256)
      FirmwareArming.exampleCoreHttp shortEnumAbi applicationVersion) (some (.begin pendingState))
        updateCalls).map Session.rebooted = some true := by decide +kernel
  obtain ⟨reached, ran, rebooted⟩ := Option.map_eq_some_iff.mp evaluated
  have confined (inputs : DocumentInputs (ascii "eaas"))
      (member : Call.document inputs ∈ updateCalls) : DownloadFits inputs.world := by
    simp only [updateCalls, List.mem_cons, List.not_mem_nil, or_false, Call.document.injEq,
      reduceCtorEq, false_or] at member
    rw [member]
    intro oversized
    cases oversized
  have requested := (reboots_for_requests JobQueue.nestedJson (ascii "eaas") (.ignored UInt8 256)
    FirmwareArming.exampleCoreHttp shortEnumAbi applicationVersion updateCalls pendingState reached
    (by decide) confined ran).1
  exact ⟨reached, ran, rebooted, requested.mp rebooted⟩

end WiznetEaas.RebootRequests
