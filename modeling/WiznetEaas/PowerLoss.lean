import WiznetEaas.AreaCopies
import WiznetEaas.Restarts

/-!
# Flash operations and loss of power

Power may fail between any two sector erases and page programs of an operation of
flash_control.c. What the operation had in hand is then lost; everything else is not.
An operation that erases before it writes can be repeated until it completes, and the
flash is then as if it had never been interrupted.
-/

namespace WiznetEaas.PowerLoss

open NorFlash ByteMemory FlashControl FlashRecords FlashAreas FlashStores Runs Restarts

/-- An operation that completes, or that power fails in after some elementary operations. -/
structure Event where
  operation : FlashOperation
  issued : Option Nat

variable (misaligned : Misalignment UInt8 userFlashPageSize) (abi : Abi)

def Event.attempt (event : Event) : Attempt UInt8 :=
  ⟨event.operation.routine misaligned abi, event.issued⟩

/-- What an event does to the flash. -/
def eventStep (contents : Contents UInt8) (event : Event) : Contents UInt8 :=
  attempted (picoFlash misaligned) contents (event.attempt misaligned abi)

/-- An address in the sectors of an operation. -/
def InSectors (operation : FlashOperation) (address : Nat) : Prop :=
  operation.sectors.1 ≤ address ∧ address < operation.sectors.2

/-- Every operation but the page writes of a download erases what it writes. -/
def Rewrites : FlashOperation → Prop
  | .writeOtaBinary _ _ _ => False
  | _ => True

/-- Programs of consecutive pages stay in their range. -/
theorem pages_touched (offset : Nat) (data : Pointer) (count : Nat) (aligned : offset % 256 = 0)
    (operation : Operation UInt8) (address : Nat)
    (issued : operation ∈ (picoFlash misaligned).programPages offset data count)
    (touched : (picoFlash misaligned).Touches operation address) :
    offset ≤ address ∧ address < offset + count * 256 := by
  obtain ⟨index, inside, rfl⟩ := List.mem_map.mp issued
  have last : index < count := List.mem_range.mp inside
  have boundary : (offset + index * 256) % 256 = 0 := by omega
  change if (offset + index * 256) % 256 = 0 then
    offset + index * 256 ≤ address ∧ address < offset + index * 256 + 256 else _ at touched
  rw [if_pos boundary] at touched
  omega

/-- Consecutive sector erases stay in their range. -/
theorem sectors_touched (offset count : Nat) (operation : Operation UInt8) (address : Nat)
    (issued : operation ∈ (picoFlash misaligned).eraseSectors offset count)
    (touched : (picoFlash misaligned).Touches operation address) :
    offset ≤ address ∧ address < offset + count * 4096 := by
  have size : (picoFlash misaligned).sectorSize = 4096 := rfl
  rw [← size]
  exact eraseSectors_touches (picoFlash misaligned) offset count operation address issued touched

/-- A record replaced in place stays in its sectors. -/
theorem replace_touched (offset sectors : Nat) (data : Pointer) (pages : Nat)
    (aligned : offset % 256 = 0) (covered : pages * 256 ≤ sectors * 4096)
    (operation : Operation UInt8) (address : Nat)
    (issued : operation ∈ (picoFlash misaligned).replace offset sectors data pages)
    (touched : (picoFlash misaligned).Touches operation address) :
    offset ≤ address ∧ address < offset + sectors * 4096 := by
  rcases List.mem_append.mp issued with erasing | programming
  · exact sectors_touched misaligned offset sectors operation address erasing touched
  · obtain ⟨low, high⟩ := pages_touched misaligned offset data pages aligned operation address
      programming touched
    exact ⟨low, Nat.lt_of_lt_of_le high (Nat.add_le_add_left covered offset)⟩

/-- An erase of a whole number of sectors stays in them. -/
theorem erase_within (offset dataSize : Nat) (small : dataSize ≤ 0x1000000) :
    Within (picoFlash misaligned)
      (fun address => offset ≤ address ∧
        address < offset + (dataSize + 4095) / 4096 * 4096)
      (eraseFlash misaligned offset dataSize) := by
  intro contents operation issued address touched
  rw [← eraseSectorCount_exact dataSize small]
  exact sectors_touched misaligned offset _ operation address issued touched

/-- The pages of a copy of at most an application stay in its target. -/
theorem copyPages_within (source target dataSize : Nat) (aligned : target % 256 = 0)
    (fits : dataSize ≤ applicationSize) :
    Within (picoFlash misaligned)
      (fun address => target ≤ address ∧ address < target + 0x80000)
      (copyPages misaligned source (writePageCount dataSize) 0 target) := by
  intro contents operation issued address touched
  have bound : dataSize ≤ 0x80000 := fits
  have range := copyPages_touches misaligned source _ 0 target contents aligned operation address
    issued touched
  rw [writePageCount_exact dataSize (by omega)] at range
  omega

/-- Each elementary operation of an operation lies in its sectors. -/
theorem operation_within (operation : FlashOperation) (allowed : operation.Allowed) :
    Within (picoFlash misaligned) (InSectors operation) (operation.routine misaligned abi) := by
  cases operation with
  | eraseProvisionedCertInfo => exact erase_within misaligned 0x1C3000 _ (by decide)
  | eraseCommonConfigInfo =>
    have bound := abi.sizeofAppCommon_bound
    refine (erase_within misaligned 0x1C0000 abi.sizeofAppCommon (by omega)).mono ?_
    rintro address ⟨low, high⟩
    refine ⟨low, show address < 0x1C1000 from ?_⟩
    omega
  | eraseTotalConfigArea => exact erase_within misaligned 0x1C0000 _ (by decide)
  | eraseTotalAppArea => exact erase_within misaligned 0x40000 _ (by decide)
  | eraseTotalFactoryArea => exact erase_within misaligned 0xC0000 _ (by decide)
  | eraseTotalOtaArea => exact erase_within misaligned 0x140000 _ (by decide)
  | saveProvisionedCertInfo pFpCertInfo =>
    intro contents operation issued address touched
    simp only [FlashOperation.routine, save_cert_replaces] at issued
    exact replace_touched misaligned 0x1C3000 2 pFpCertInfo 19 rfl (by decide) operation address
      issued touched
  | saveCommonConfigInfo pAppCommonInfo =>
    obtain ⟨_, _, covered⟩ := config_pages abi
    intro contents operation issued address touched
    simp only [FlashOperation.routine, save_config_replaces] at issued
    exact replace_touched misaligned 0x1C0000 1 pAppCommonInfo _ rfl covered operation address
      issued touched
  | writeOtaBinary flashOffset pBinary dataSize =>
    obtain ⟨aligned, inside⟩ := allowed
    simp only [userFlashPageSize, applicationSize, pageRounded] at aligned inside
    intro contents operation issued address touched
    have offset : u32 (flashTempFwStartAddr - flashStartAddr + flashOffset) =
        0x140000 + flashOffset := by
      rw [ota_offset]
      exact u32_of_lt _ (by omega)
    simp only [FlashOperation.routine, writeFlashOtaBinary, writeFlash, offset] at issued
    have range := pages_touched misaligned _ _ _ (by omega) operation address issued touched
    rw [writePageCount_exact dataSize (by omega)] at range
    refine ⟨show 0x140000 ≤ address from ?_, show address < 0x1C0000 from ?_⟩
    · omega
    · omega
  | copyOtaAreaDataToAppArea dataSize =>
    exact (erase_within misaligned 0x40000 _ (by decide)).andThen
      (copyPages_within misaligned _ 0x40000 dataSize rfl allowed)
  | copyFactoryAreaDataToAppArea dataSize =>
    exact (erase_within misaligned 0x40000 _ (by decide)).andThen
      (copyPages_within misaligned _ 0x40000 dataSize rfl allowed)
  | copyAppAreaDataToFactoryArea dataSize =>
    exact (erase_within misaligned 0xC0000 _ (by decide)).andThen
      (copyPages_within misaligned _ 0xC0000 dataSize rfl allowed)

/-- The bytes of an erased range do not depend on what stood there. -/
theorem erasedRange_determined (left right : Contents UInt8) (first behind address : Nat)
    (agree : AgreeOutside (fun address => first ≤ address ∧ address < behind) left right) :
    FlashOperation.erasedRange left first behind address =
      FlashOperation.erasedRange right first behind address := by
  by_cases inside : first ≤ address ∧ address < behind
  · simp only [FlashOperation.erasedRange, if_pos inside]
  · simp only [FlashOperation.erasedRange, if_neg inside]
    exact agree address inside

/-- Nor do those of rewritten sectors, when the new bytes come from elsewhere. -/
theorem rewrittenRange_determined (left right : Contents UInt8) (first length behind : Nat)
    (newLeft newRight : Pointer) (address : Nat)
    (agree : AgreeOutside (fun address => first ≤ address ∧ address < behind) left right)
    (same : ∀ position, position < length → newLeft position = newRight position) :
    FlashOperation.rewrittenRange left first length behind newLeft address =
      FlashOperation.rewrittenRange right first length behind newRight address := by
  by_cases written : first ≤ address ∧ address < first + length
  · simp only [FlashOperation.rewrittenRange, if_pos written]
    exact same _ (by omega)
  · simp only [FlashOperation.rewrittenRange, if_neg written]
    exact erasedRange_determined left right first behind address agree

/-- A copy takes its bytes from outside its target. -/
theorem copied_determined (left right : Contents UInt8) (start target dataSize address : Nat)
    (fits : dataSize ≤ applicationSize)
    (apart : start + 0x80000 ≤ target ∨ target + 0x80000 ≤ start)
    (agree : AgreeOutside (fun address => target ≤ address ∧ address < target + 0x80000)
      left right) :
    FlashOperation.rewrittenRange left target (pageRounded dataSize) (target + 0x80000)
        (fun position => left (start + position)) address =
      FlashOperation.rewrittenRange right target (pageRounded dataSize) (target + 0x80000)
        (fun position => right (start + position)) address := by
  have covered := pageRounded_behind 0 dataSize fits
  apply rewrittenRange_determined _ _ _ _ _ _ _ _ agree
  intro position inside
  exact agree _ (by omega)

/-- An operation that erases what it writes leaves what the bytes outside its sectors decide. -/
theorem effect_determined (operation : FlashOperation) (allowed : operation.Allowed)
    (rewrites : Rewrites operation) (left right : Contents UInt8)
    (agree : AgreeOutside (InSectors operation) left right) (address : Nat) :
    operation.effect abi left address = operation.effect abi right address := by
  cases operation with
  | eraseProvisionedCertInfo | eraseCommonConfigInfo | eraseTotalConfigArea | eraseTotalAppArea
  | eraseTotalFactoryArea | eraseTotalOtaArea => exact erasedRange_determined _ _ _ _ _ agree
  | saveProvisionedCertInfo pFpCertInfo | saveCommonConfigInfo pAppCommonInfo =>
    exact rewrittenRange_determined _ _ _ _ _ _ _ _ agree fun _ _ => rfl
  | writeOtaBinary flashOffset pBinary dataSize => exact rewrites.elim
  | copyOtaAreaDataToAppArea dataSize =>
    exact copied_determined left right 0x140000 0x40000 dataSize address allowed (by decide) agree
  | copyFactoryAreaDataToAppArea dataSize =>
    exact copied_determined left right 0xC0000 0x40000 dataSize address allowed (by decide) agree
  | copyAppAreaDataToFactoryArea dataSize =>
    exact copied_determined left right 0x40000 0xC0000 dataSize address allowed (by decide) agree

/-- Such an operation replaces its sectors. -/
theorem operation_replaces (operation : FlashOperation) (allowed : operation.Allowed)
    (rewrites : Rewrites operation) :
    Replaces (picoFlash misaligned) (InSectors operation) (operation.routine misaligned abi) where
  within := operation_within misaligned abi operation allowed
  determined left right agree := by
    funext address
    exact (step_apply misaligned abi left operation allowed address).trans
      ((effect_determined abi operation allowed rewrites left right agree address).trans
        (step_apply misaligned abi right operation allowed address).symm)

/-- Every operation that erases what it writes may be repeated: whatever operations on its
sectors were completed or cut short before, once it completes the whole flash is as if it
alone had been called, on the flash of the beginning. -/
theorem repeated_operation (contents : Contents UInt8) (operation : FlashOperation)
    (allowed : operation.Allowed) (rewrites : Rewrites operation) (events : List Event)
    (every : ∀ event ∈ events, event.operation.Allowed)
    (inside : ∀ event ∈ events, ∀ address,
      InSectors event.operation address → InSectors operation address) :
    step misaligned abi (execute (eventStep misaligned abi) contents events) operation =
      step misaligned abi contents operation := by
  have attempts (start : Contents UInt8) :
      execute (eventStep misaligned abi) start events =
        execute (attempted (picoFlash misaligned)) start
          (events.map (Event.attempt misaligned abi)) := by
    clear every inside
    induction events generalizing start with
    | nil => rfl
    | cons event rest inductionHypothesis => exact inductionHypothesis _
  rw [attempts]
  apply (operation_replaces misaligned abi operation allowed rewrites).after_attempts
  intro attempt member
  obtain ⟨event, occurred, rfl⟩ := List.mem_map.mp member
  exact (operation_within misaligned abi event.operation (every event occurred)).mono
    (inside event occurred)

/-- A factory restore is cut short after 40 elementary operations, an update is installed
over it and cut short as well, and then the factory restore is completed. -/
theorem interrupted_restore :
    let part := Misalignment.ignored UInt8 userFlashPageSize
    let contents : Contents UInt8 := fun address => (address % 251).toUInt8
    step part shortEnumAbi
        (execute (eventStep part shortEnumAbi) contents
          [⟨.copyFactoryAreaDataToAppArea applicationSize, some 40⟩,
            ⟨.copyOtaAreaDataToAppArea 300, some 129⟩])
        (.copyFactoryAreaDataToAppArea applicationSize) =
      step part shortEnumAbi contents (.copyFactoryAreaDataToAppArea applicationSize) := by
  intro part contents
  apply repeated_operation part shortEnumAbi contents
    (.copyFactoryAreaDataToAppArea applicationSize) (Nat.le_refl _) True.intro
  · simp [FlashOperation.Allowed]
  · intro event member address inside
    simp only [List.mem_cons, List.not_mem_nil, or_false] at member
    rcases member with rfl | rfl
    · exact inside
    · exact inside

/-- The value of each store, where it is known. -/
abbrev KnownStores := Area → Option Pointer

/-- The value a completed operation gives to the stores it works on. -/
def written (stores : KnownStores) : FlashOperation → Option Pointer
  | .saveProvisionedCertInfo pFpCertInfo => some pFpCertInfo
  | .saveCommonConfigInfo pAppCommonInfo => some pAppCommonInfo
  | .writeOtaBinary flashOffset pBinary dataSize =>
      (stores .ota).map fun before => programmed before flashOffset pBinary dataSize
  | .copyOtaAreaDataToAppArea dataSize => (stores .ota).map fun source => copied source dataSize
  | .copyFactoryAreaDataToAppArea dataSize =>
      (stores .factory).map fun source => copied source dataSize
  | .copyAppAreaDataToFactoryArea dataSize => (stores .app).map fun source => copied source dataSize
  | _ => some blank

/-- What an event means for what is known of the stores: an operation that was cut short
leaves nothing known of those it works on. -/
def knownStep (stores : KnownStores) (event : Event) : KnownStores := fun area =>
  if area ∈ event.operation.areas then
    match event.issued with
    | none => written stores event.operation
    | some _ => none
  else stores area

/-- Every store that is known is what its area shows. -/
def Knows (contents : Contents UInt8) (stores : KnownStores) : Prop :=
  ∀ area value, stores area = some value →
    SameObject (area.size abi) (area.view contents) value

/-- The known values, and what the flash shows of the other stores. -/
def completedBy (contents : Contents UInt8) (stores : KnownStores) : Stores := fun area =>
  (stores area).getD (area.view contents)

theorem completedBy_known (contents : Contents UInt8) (stores : KnownStores) (area : Area)
    (value : Pointer) (known : stores area = some value) :
    completedBy contents stores area = value := by
  simp only [completedBy, known, Option.getD_some]

theorem completedBy_represents (contents : Contents UInt8) (stores : KnownStores)
    (knows : Knows abi contents stores) : Represents abi contents (completedBy contents stores) := by
  intro area position inside
  cases known : stores area with
  | none => simp only [completedBy, known, Option.getD_none]
  | some value =>
    rw [completedBy_known contents stores area value known]
    exact knows area value known position inside

/-- A value a completed operation is known to give is the one it gives. -/
theorem written_completed (contents : Contents UInt8) (stores : KnownStores)
    (operation : FlashOperation) (area : Area) (own : area ∈ operation.areas) (value : Pointer)
    (known : written stores operation = some value) :
    storeStep (completedBy contents stores) operation area = value := by
  cases operation with
  | eraseTotalConfigArea =>
    cases known
    simp only [FlashOperation.areas, List.mem_cons, List.not_mem_nil, or_false] at own
    rcases own with rfl | rfl
    · rfl
    · rfl
  | eraseProvisionedCertInfo | eraseCommonConfigInfo | eraseTotalAppArea | eraseTotalFactoryArea
  | eraseTotalOtaArea | saveProvisionedCertInfo _ | saveCommonConfigInfo _ =>
    obtain rfl := List.mem_singleton.mp own
    cases known
    rfl
  | writeOtaBinary _ _ _ | copyOtaAreaDataToAppArea _ | copyFactoryAreaDataToAppArea _
  | copyAppAreaDataToFactoryArea _ =>
    obtain rfl := List.mem_singleton.mp own
    obtain ⟨source, found, rfl⟩ := Option.map_eq_some_iff.mp known
    simp only [storeStep, Function.update_self, completedBy_known contents stores _ source found]

/-- One event keeps what is known of the stores true of the flash. -/
theorem eventStep_knows (contents : Contents UInt8) (stores : KnownStores)
    (knows : Knows abi contents stores) (event : Event) (allowed : event.operation.Allowed) :
    Knows abi (eventStep misaligned abi contents event) (knownStep stores event) := by
  intro area value known position inside
  by_cases own : area ∈ event.operation.areas
  · simp only [knownStep, if_pos own] at known
    cases completed : event.issued with
    | none =>
      simp only [completed] at known
      have represented := step_represents misaligned abi contents (completedBy contents stores)
        (completedBy_represents abi contents stores knows) event.operation allowed area position
        inside
      rw [written_completed contents stores event.operation area own value known] at represented
      simp only [eventStep, attempted, Event.attempt, completed]
      exact represented
    | some issued =>
      simp only [completed] at known
      cases known
  · simp only [knownStep, if_neg own] at known
    have outside := sectors_apart abi event.operation area own position inside
    have kept := Within.attempted (event.attempt misaligned abi)
      (operation_within misaligned abi event.operation allowed) contents _ outside
    exact kept.trans (knows area value known position inside)

/-- A run of completed and interrupted operations keeps it true. -/
theorem execute_knows (contents : Contents UInt8) (stores : KnownStores)
    (knows : Knows abi contents stores) (events : List Event)
    (every : ∀ event ∈ events, event.operation.Allowed) :
    Knows abi (execute (eventStep misaligned abi) contents events)
      (execute knownStep stores events) := by
  induction events generalizing contents stores with
  | nil => exact knows
  | cons event rest inductionHypothesis =>
    obtain ⟨allowed, later⟩ := List.forall_mem_cons.mp every
    exact inductionHypothesis _ _
      (eventStep_knows misaligned abi contents stores knows event allowed) later

/-- Everything is known of the stores as they are found in the flash. -/
def found (contents : Contents UInt8) : KnownStores := fun area => some (area.view contents)

/-- The stores survive power losses apart from each other: after every run of completed and
interrupted operations that keep to their areas, a load of an area that no interruption has left unknown returns its
field of the value that the completed operations gave to that store. -/
theorem stores_survive (contents : Contents UInt8) (events : List Event)
    (every : ∀ event ∈ events, event.operation.Allowed) (load : Load) (fits : load.Fits)
    (ram value : Pointer)
    (known : execute knownStep (found contents) events load.area = some value) :
    SameObject (load.size abi)
      (load.routine abi (execute (eventStep misaligned abi) contents events) ram)
      (fun position => value (load.field + position)) := by
  intro position inside
  have knows := execute_knows misaligned abi contents (found contents)
    (by rintro area value ⟨⟩ _ _; rfl) events every
  obtain ⟨read, place⟩ := load_byte abi load fits
    (execute (eventStep misaligned abi) contents events) ram position inside
  rw [read]
  exact knows load.area value known _ place

/-- An interrupted save of the certificates, a completed one, and an interrupted save of the
configuration: the token is the one of the completed save. -/
theorem token_survives :
    SameObject 512
      (loadFlashCertificateOwnershipToken
        (execute (eventStep (.ignored UInt8 256) shortEnumAbi) (fun _ => 0)
          [⟨.saveProvisionedCertInfo fun _ => 7, some 5⟩,
            ⟨.saveProvisionedCertInfo UInt8.ofNat, none⟩,
            ⟨.saveCommonConfigInfo fun _ => 9, some 1⟩])
        (fun _ => 0) 512)
      (fun position => UInt8.ofNat (0x1000 + position)) :=
  stores_survive (.ignored UInt8 256) shortEnumAbi (fun _ => 0) _ (by simp [FlashOperation.Allowed])
    (.certificateOwnershipToken 512) (Nat.le_refl 512) (fun _ => 0) UInt8.ofNat rfl

end WiznetEaas.PowerLoss
