import WiznetEaas.FlashStores

/-!
# Area copies are exact

A completed copy leaves the leading pages of its source at the target, blank cells
behind them, and every other byte of the flash as it was. A factory copy of a whole
application therefore survives whatever is done to the app area alone, and copying it
back restores that area.
-/

namespace WiznetEaas.AreaCopies

open NorFlash ByteMemory FlashControl FlashRecords FlashAreas FlashStores

variable (misaligned : Misalignment UInt8 userFlashPageSize)

/-- The flash offsets of a firmware area. -/
def InArea (area : Area) (address : Nat) : Prop :=
  area.offset ≤ address ∧ address < area.offset + applicationSize

instance (area : Area) (address : Nat) : Decidable (InArea area address) :=
  inferInstanceAs (Decidable (_ ∧ _))

/-- The target holds the leading pages of the source and is blank behind them; the
source and every other byte are unchanged. -/
structure ExactCopy (source target : Area) (dataSize : Nat) (before after : Contents UInt8) :
    Prop where
  pages : ∀ position, position < pageRounded dataSize →
    after (target.offset + position) = before (source.offset + position)
  rest : ∀ position, pageRounded dataSize ≤ position → position < applicationSize →
    after (target.offset + position) = 0xFF
  source : ∀ address, InArea source address → after address = before address
  others : ∀ address, ¬ InArea target address → after address = before address

/-- The pages a copy of at most an area's size writes lie in the area. -/
theorem pageRounded_fits (dataSize : Nat) (fits : dataSize ≤ applicationSize) :
    pageRounded dataSize ≤ applicationSize := by
  have behind := pageRounded_behind 0 dataSize fits
  simpa only [Nat.zero_add] using behind

/-- A copy whose pointwise effect is known is exact as soon as its areas are apart. -/
theorem exactCopy_of_rewritten (source target : Area) (dataSize : Nat)
    (before after : Contents UInt8) (fits : dataSize ≤ applicationSize)
    (disjoint : source.offset + applicationSize ≤ target.offset ∨
      target.offset + applicationSize ≤ source.offset)
    (rewritten : ∀ address, after address =
      FlashOperation.rewrittenRange before target.offset (pageRounded dataSize)
        (target.offset + applicationSize) (fun position => before (source.offset + position))
        address) : ExactCopy source target dataSize before after := by
  have covered := pageRounded_fits dataSize fits
  have others (address : Nat) (outside : ¬ InArea target address) :
      after address = before address := by
    rw [rewritten]
    exact rewrittenRange_outside _ _ _ _ _ _ (by omega) outside
  constructor
  · intro position inside
    have written : target.offset ≤ target.offset + position ∧
        target.offset + position < target.offset + pageRounded dataSize := by omega
    simp only [rewritten, FlashOperation.rewrittenRange, if_pos written, Nat.add_sub_cancel_left]
  · intro position behind inside
    have unwritten : ¬ (target.offset ≤ target.offset + position ∧
        target.offset + position < target.offset + pageRounded dataSize) := by omega
    have erased : target.offset ≤ target.offset + position ∧
        target.offset + position < target.offset + applicationSize := by omega
    simp only [rewritten, FlashOperation.rewrittenRange, FlashOperation.erasedRange,
      if_neg unwritten, if_pos erased]
  · intro address inSource
    apply others
    unfold InArea at inSource ⊢
    omega
  · exact others

/-- A routine that only ever works on one area. -/
def Confined (area : Area) (routine : Routine UInt8) : Prop :=
  ∀ contents, ∀ operation ∈ routine contents, ∀ address,
    (picoFlash misaligned).Touches operation address → InArea area address

/-- A confined routine leaves every byte outside its area. -/
theorem confined_frame (area : Area) (routine : Routine UInt8)
    (confined : Confined misaligned area routine) (before : Contents UInt8) (address : Nat)
    (outside : ¬ InArea area address) :
    (picoFlash misaligned).run routine before address = before address :=
  applyAll_frame (picoFlash misaligned) _ before address fun operation issued touched =>
    outside (confined before operation issued address touched)

/-- Confined routines compose. -/
theorem confined_andThen (area : Area) (first second : Routine UInt8)
    (firstConfined : Confined misaligned area first)
    (secondConfined : Confined misaligned area second) :
    Confined misaligned area ((picoFlash misaligned).andThen first second) := by
  intro contents operation issued address touched
  rcases List.mem_append.mp issued with early | late
  · exact firstConfined contents operation early address touched
  · exact secondConfined _ operation late address touched

/-- Erasing the app area is confined to it. -/
theorem eraseApp_confined : Confined misaligned .app (eraseFlashTotalAppArea misaligned) := by
  intro contents operation issued address touched
  simp only [eraseFlashTotalAppArea, eraseFlash_application, app_offset] at issued
  exact eraseSectors_touches (picoFlash misaligned) _ _ operation address issued touched

/-- Installing an update or the factory firmware overwrites the app area only. -/
theorem copyToApp_confined (source dataSize : Nat) (fits : dataSize ≤ applicationSize) :
    Confined misaligned .app ((picoFlash misaligned).andThen (eraseFlashTotalAppArea misaligned)
      (copyPages misaligned source (writePageCount dataSize) 0
        (flashAppStartAddr - flashStartAddr))) := by
  apply confined_andThen _ _ _ _ (eraseApp_confined misaligned)
  intro contents operation issued address touched
  have bound : dataSize ≤ 0x80000 := fits
  have pages := writePageCount_exact dataSize (by omega)
  have range := copyPages_touches misaligned _ _ _ _ _ (by rw [app_offset]) operation address
    issued touched
  simp only [app_offset, pages] at range
  unfold InArea
  rw [Area.offset_exact]
  simp only [applicationSize]
  omega

/-- The three copies as rewritten ranges of their targets. -/
theorem copies_exact (before : Contents UInt8) (dataSize : Nat) (fits : dataSize ≤ applicationSize) :
    ExactCopy .ota .app dataSize before
        ((picoFlash misaligned).run (copyOtaAreaDataToAppArea misaligned dataSize) before) ∧
      ExactCopy .factory .app dataSize before
        ((picoFlash misaligned).run (copyFactoryAreaDataToAppArea misaligned dataSize) before) ∧
      ExactCopy .app .factory dataSize before
        ((picoFlash misaligned).run (copyAppAreaDataToFactoryArea misaligned dataSize) before) := by
  refine ⟨?_, ?_, ?_⟩
  · exact exactCopy_of_rewritten .ota .app dataSize before _ fits (by decide)
      (copy_area_apply misaligned _ 0x140000 0x40000 dataSize before fits ota_pointer rfl (by omega))
  · exact exactCopy_of_rewritten .factory .app dataSize before _ fits (by decide)
      (copy_area_apply misaligned _ 0xC0000 0x40000 dataSize before fits factory_pointer rfl
        (by omega))
  · exact exactCopy_of_rewritten .app .factory dataSize before _ fits (by decide)
      (copy_area_apply misaligned _ 0x40000 0xC0000 dataSize before fits app_pointer rfl (by omega))

/-- A whole application comes back from the factory area, whatever became of the app
area in between. -/
theorem factory_restores (before between : Contents UInt8)
    (kept : ∀ address, ¬ InArea .app address → between address =
      (picoFlash misaligned).run (copyAppAreaDataToFactoryArea misaligned applicationSize) before
        address)
    (address : Nat) (inside : InArea .app address) :
    (picoFlash misaligned).run (copyFactoryAreaDataToAppArea misaligned applicationSize) between
      address = before address := by
  have whole : pageRounded applicationSize = applicationSize := by decide
  obtain ⟨_, back, _⟩ := copies_exact misaligned between applicationSize (Nat.le_refl _)
  obtain ⟨_, _, stored⟩ := copies_exact misaligned before applicationSize (Nat.le_refl _)
  obtain ⟨position, rfl⟩ : ∃ position, address = Area.app.offset + position :=
    ⟨address - Area.app.offset, by unfold InArea at inside; omega⟩
  have inArea : position < applicationSize := by
    unfold InArea at inside
    omega
  have apart : ¬ InArea .app (Area.factory.offset + position) := by
    unfold InArea
    rw [Area.offset_exact, Area.offset_exact]
    simp only [applicationSize]
    omega
  calc
    _ = between (Area.factory.offset + position) := back.pages position (by omega)
    _ = _ := kept _ apart
    _ = before (Area.app.offset + position) := stored.pages position (by omega)

/-- Every copy of at most an application is exact, and a factory copy of a whole
application restores the app area after any routine confined to that area. -/
theorem area_copies_exact (before : Contents UInt8) (dataSize : Nat)
    (fits : dataSize ≤ applicationSize) (overwrite : Routine UInt8)
    (confined : Confined misaligned .app overwrite) :
    ExactCopy .ota .app dataSize before
        ((picoFlash misaligned).run (copyOtaAreaDataToAppArea misaligned dataSize) before) ∧
      ExactCopy .factory .app dataSize before
        ((picoFlash misaligned).run (copyFactoryAreaDataToAppArea misaligned dataSize) before) ∧
      ExactCopy .app .factory dataSize before
        ((picoFlash misaligned).run (copyAppAreaDataToFactoryArea misaligned dataSize) before) ∧
      ∀ address, InArea .app address →
        (picoFlash misaligned).run
          ((picoFlash misaligned).andThen
            (copyAppAreaDataToFactoryArea misaligned applicationSize)
            ((picoFlash misaligned).andThen overwrite
              (copyFactoryAreaDataToAppArea misaligned applicationSize))) before address =
          before address := by
  obtain ⟨ota, factory, app⟩ := copies_exact misaligned before dataSize fits
  refine ⟨ota, factory, app, ?_⟩
  intro address inside
  rw [run_andThen, run_andThen]
  exact factory_restores misaligned before _
    (fun other outside => confined_frame misaligned .app overwrite confined _ other outside)
    address inside

/-- An application of 1000 bytes is copied in four pages, and one that was installed over
by an update of 300 bytes comes back from the factory area. -/
theorem area_copies_run :
    let part := Misalignment.ignored UInt8 userFlashPageSize
    let before : Contents UInt8 := fun address => (address % 251).toUInt8
    ExactCopy .ota .app 1000 before
        ((picoFlash part).run (copyOtaAreaDataToAppArea part 1000) before) ∧
      pageRounded 1000 = 1024 ∧
      (picoFlash part).run
        ((picoFlash part).andThen (copyAppAreaDataToFactoryArea part applicationSize)
          ((picoFlash part).andThen (copyOtaAreaDataToAppArea part 300)
            (copyFactoryAreaDataToAppArea part applicationSize))) before 0x40000 = 100 := by
  intro part before
  have exact := area_copies_exact part before 1000 (by decide) (copyOtaAreaDataToAppArea part 300)
    (copyToApp_confined part _ 300 (by decide))
  refine ⟨exact.1, by decide, ?_⟩
  rw [exact.2.2.2 0x40000 (by decide)]
  decide

end WiznetEaas.AreaCopies
