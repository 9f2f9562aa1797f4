import WiznetEaas.FlashRecords

/-!
# Copying one flash area over another

The copying loop reads each source page from the contents its earlier passes
left. While source and target are disjoint those reads still see the original
source, so any number of issued operations leaves the leading erased sectors
blank, or the leading pages copied.
-/

namespace WiznetEaas.FlashAreas

open NorFlash ByteMemory FlashControl FlashRecords

variable (misaligned : Misalignment UInt8 userFlashPageSize)

/-- The OTA area read through its start address. -/
theorem ota_pointer (contents : Contents UInt8) (position : Nat) :
    flashPointer contents flashTempFwStartAddr position = contents (0x140000 + position) := by
  simp only [flashPointer, ota_offset]

/-- An aligned page program over an erased page stores the buffer there. -/
theorem program_erased_page (offset : Nat) (data : Pointer) (aligned : offset % 256 = 0)
    (contents : Contents UInt8)
    (blank : ∀ address, offset ≤ address → address < offset + 256 → contents address = 0xFF)
    (address : Nat) :
    (picoFlash misaligned).apply (.programPage offset data) contents address =
      if offset ≤ address ∧ address < offset + 256 then data (address - offset)
      else contents address := by
  have single := pico_programPages misaligned offset data 1 aligned contents
    (fun position low high => blank position low (by omega)) address
  simpa [FlashPart.programPages, List.range_succ] using single

/-- Any number of passes copies as many leading pages and changes nothing else.
The buffer of a pass is read after the earlier passes, which wrote outside the
source. -/
theorem copyPages_take (source start remaining i target issued : Nat) (contents : Contents UInt8)
    (located : ∀ current position, flashPointer current source position = current (start + position))
    (aligned : target % 256 = 0)
    (disjoint : start + i * 256 + remaining * 256 ≤ target ∨
      target + remaining * 256 ≤ start + i * 256)
    (blank : ∀ address, target ≤ address → address < target + remaining * 256 →
      contents address = 0xFF) (address : Nat) :
    (picoFlash misaligned).applyAll
        ((copyPages misaligned source remaining i target contents).take issued) contents address =
      if target ≤ address ∧ address < target + min issued remaining * 256 then
        contents (start + i * 256 + (address - target))
      else contents address := by
  induction remaining generalizing i target issued contents with
  | zero =>
    have nothing : ¬ (target ≤ address ∧ address < target + min issued 0 * 256) := by omega
    rw [if_neg nothing, copyPages, List.take_nil, applyAll_nil]
  | succ remaining inductionHypothesis =>
    cases issued with
    | zero =>
      have nothing : ¬ (target ≤ address ∧ address < target + min 0 (remaining + 1) * 256) := by
        omega
      rw [if_neg nothing, List.take_zero, applyAll_nil]
    | succ issued =>
      simp only [copyPages, located, userFlashPageSize, List.take_succ_cons,
        applyAll_cons]
      have step := program_erased_page misaligned target
        (fun position => contents (start + (i * 256 + position))) aligned contents
        (fun position low high => blank position low (by omega))
      have stillBlank : ∀ position, target + 256 ≤ position →
          position < target + 256 + remaining * 256 →
          (picoFlash misaligned).apply
            (.programPage target fun position => contents (start + (i * 256 + position)))
            contents position = 0xFF := by
        intro position low high
        have after : ¬ (target ≤ position ∧ position < target + 256) := by omega
        rw [step, if_neg after]
        exact blank position (by omega) (by omega)
      have nextAligned : (target + 256) % 256 = 0 := by omega
      have nextDisjoint : start + (i + 1) * 256 + remaining * 256 ≤ target + 256 ∨
          target + 256 + remaining * 256 ≤ start + (i + 1) * 256 := by lia
      rw [inductionHypothesis (i + 1) (target + 256) issued _ nextAligned nextDisjoint stillBlank]
      by_cases later : target + 256 ≤ address ∧
          address < target + 256 + min issued remaining * 256
      · have outside : ¬ (target ≤ start + (i + 1) * 256 + (address - (target + 256)) ∧
            start + (i + 1) * 256 + (address - (target + 256)) < target + 256) := by omega
        have position : start + (i + 1) * 256 + (address - (target + 256)) =
            start + i * 256 + (address - target) := by omega
        rw [if_pos later, step, if_neg outside, if_pos (by omega), position]
      · rw [if_neg later, step]
        by_cases first : target ≤ address ∧ address < target + 256
        · rw [if_pos first, if_pos (by omega), Nat.add_assoc]
        · rw [if_neg first, if_neg (by omega)]

/-- The copying loop programs one page in each pass. -/
theorem copyPages_length (source remaining i target : Nat) (contents : Contents UInt8) :
    (copyPages misaligned source remaining i target contents).length = remaining := by
  induction remaining generalizing i target contents with
  | zero => rfl
  | succ remaining inductionHypothesis =>
    exact congrArg Nat.succ (inductionHypothesis _ _ _)

/-- The copying loop touches only the pages of its target. -/
theorem copyPages_touches (source remaining i target : Nat) (contents : Contents UInt8)
    (aligned : target % 256 = 0) (operation : Operation UInt8) (address : Nat)
    (issued : operation ∈ copyPages misaligned source remaining i target contents)
    (touched : (picoFlash misaligned).Touches operation address) :
    target ≤ address ∧ address < target + remaining * 256 := by
  induction remaining generalizing i target contents with
  | zero => cases issued
  | succ remaining inductionHypothesis =>
    rcases List.mem_cons.mp issued with rfl | later
    · have boundary : target % (picoFlash misaligned).pageSize = 0 := aligned
      simp only [FlashPart.Touches, if_pos boundary] at touched
      have page : target ≤ address ∧ address < target + 256 := touched
      omega
    · have rest := inductionHypothesis (i + 1) (target + 256) _ (by omega) later
      omega

/-- Erasing a whole 512 KiB area takes 128 sectors. -/
theorem eraseFlash_application (offset : Nat) (before : Contents UInt8) :
    eraseFlash misaligned offset applicationSize before =
      (picoFlash misaligned).eraseSectors offset 128 := by
  have sectors : eraseSectorCount applicationSize = 128 := by decide
  simp only [eraseFlash, sectors]

/-- An install that fits its area changes no address outside the app area, at
whatever point it is interrupted. -/
theorem copy_ota_frame (dataSize : Nat) (before after : Contents UInt8) (address : Nat)
    (fits : dataSize ≤ applicationSize)
    (cut : (picoFlash misaligned).Cut (copyOtaAreaDataToAppArea misaligned dataSize) before after)
    (outside : address < 0x40000 ∨ 0xC0000 ≤ address) : after address = before address := by
  have bound : dataSize ≤ 0x80000 := fits
  have pages : writePageCount dataSize ≤ 2048 := by
    rw [writePageCount_exact dataSize (by omega)]
    omega
  refine cut_frame _ _ _ _ _ cut ?_
  intro operation issued touched
  simp only [copyOtaAreaDataToAppArea, FlashPart.andThen, eraseFlashTotalAppArea,
    eraseFlash_application, app_offset] at issued
  rcases List.mem_append.mp issued with erasing | copying
  · have range : 0x40000 ≤ address ∧ address < 0x40000 + 128 * 4096 :=
      eraseSectors_touches (picoFlash misaligned) _ _ operation address erasing touched
    omega
  · have range := copyPages_touches misaligned _ _ _ _ _ rfl operation address copying touched
    omega

/-- What a completed copy of an area leaves: the copied pages, and blank behind them. -/
theorem copy_area_apply (source start target dataSize : Nat) (before : Contents UInt8)
    (fits : dataSize ≤ applicationSize)
    (located : ∀ current position, flashPointer current source position = current (start + position))
    (aligned : target % 256 = 0)
    (disjoint : start + 0x80000 ≤ target ∨ target + 0x80000 ≤ start) (address : Nat) :
    (picoFlash misaligned).run
        ((picoFlash misaligned).andThen (eraseFlash misaligned target applicationSize)
          (copyPages misaligned source (writePageCount dataSize) 0 target)) before address =
      if target ≤ address ∧ address < target + (dataSize + 255) / 256 * 256 then
        before (start + (address - target))
      else if target ≤ address ∧ address < target + 0x80000 then 0xFF
      else before address := by
  have bound : dataSize ≤ 0x80000 := fits
  have pages : writePageCount dataSize = (dataSize + 255) / 256 :=
    writePageCount_exact dataSize (by omega)
  have erased (position : Nat) :
      (picoFlash misaligned).run (eraseFlash misaligned target applicationSize) before position =
        if target ≤ position ∧ position < target + 128 * 4096 then 0xFF else before position := by
    simp only [FlashPart.run, eraseFlash_application]
    exact pico_eraseSectors misaligned target 128 before position
  rw [run_andThen]
  have blank : ∀ position, target ≤ position →
      position < target + writePageCount dataSize * 256 →
      (picoFlash misaligned).run (eraseFlash misaligned target applicationSize) before position =
        0xFF := by
    intro position low high
    have inArea : target ≤ position ∧ position < target + 128 * 4096 := by omega
    rw [erased, if_pos inArea]
  have copied := copyPages_take misaligned source start (writePageCount dataSize) 0 target
    (writePageCount dataSize) _ located aligned (by omega) blank address
  rw [List.take_of_length_le (Nat.le_of_eq (copyPages_length misaligned _ _ _ _ _)),
    Nat.min_self] at copied
  rw [FlashPart.run, copied, pages]
  by_cases programmed : target ≤ address ∧ address < target + (dataSize + 255) / 256 * 256
  · have sourceUntouched : ¬ (target ≤ start + 0 * 256 + (address - target) ∧
        start + 0 * 256 + (address - target) < target + 128 * 4096) := by omega
    rw [if_pos programmed, if_pos programmed, erased, if_neg sourceUntouched, Nat.zero_mul,
      Nat.add_zero]
  · rw [if_neg programmed, if_neg programmed, erased]

/-- A completed install of a size that fits leaves the leading bytes of the app
area equal to those of the OTA area. -/
theorem copy_ota_installs (dataSize : Nat) (before : Contents UInt8) (position : Nat)
    (fits : dataSize ≤ applicationSize) (inside : position < dataSize) :
    (picoFlash misaligned).run (copyOtaAreaDataToAppArea misaligned dataSize) before
        (0x40000 + position) = before (0x140000 + position) := by
  have copied := copy_area_apply misaligned flashTempFwStartAddr 0x140000 0x40000 dataSize before fits
    ota_pointer rfl (by omega) (0x40000 + position)
  have programmed : 0x40000 ≤ 0x40000 + position ∧
      0x40000 + position < 0x40000 + (dataSize + 255) / 256 * 256 := by omega
  rw [if_pos programmed, Nat.add_sub_cancel_left] at copied
  simpa only [copyOtaAreaDataToAppArea, eraseFlashTotalAppArea, app_offset] using copied

end WiznetEaas.FlashAreas
