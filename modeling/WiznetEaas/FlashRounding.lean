import WiznetEaas.FlashRecords

/-!
# What the rounding helpers cover

`erase_flash` and `write_flash` round a byte count up to whole sectors and whole
pages, and keep the quotient in sixteen bits. The rounded count is the exact one
modulo the range of that variable. The program length is also the length for
which the caller's buffer is read, so a request is covered exactly only when it
ends at a page boundary.
-/

namespace WiznetEaas.FlashRounding

open NorFlash ByteMemory FlashControl

/-- The sector counter holds the rounded-up quotient modulo its range. -/
theorem eraseSectorCount_rounded (dataSize : Nat) :
    eraseSectorCount dataSize = (dataSize + 4095) / 4096 % 65536 := by
  simp only [eraseSectorCount, u16, userFlashSectorSize]
  by_cases fraction : dataSize % 4096 > 0
  · have rounded : (dataSize + 4095) / 4096 = dataSize / 4096 + 1 := by omega
    rw [if_pos fraction, rounded, Nat.mod_add_mod]
  · have rounded : (dataSize + 4095) / 4096 = dataSize / 4096 := by omega
    rw [if_neg fraction, rounded, Nat.add_zero, Nat.mod_mod]

/-- The page counter holds the rounded-up quotient modulo its range. -/
theorem writePageCount_rounded (dataSize : Nat) :
    writePageCount dataSize = (dataSize + 255) / 256 % 65536 := by
  simp only [writePageCount, u16, userFlashPageSize]
  by_cases fraction : dataSize % 256 > 0
  · have rounded : (dataSize + 255) / 256 = dataSize / 256 + 1 := by omega
    rw [if_pos fraction, rounded, Nat.mod_add_mod]
  · have rounded : (dataSize + 255) / 256 = dataSize / 256 := by omega
    rw [if_neg fraction, rounded, Nat.add_zero, Nat.mod_mod]

variable (misaligned : Misalignment UInt8 userFlashPageSize)

/-- The source positions `flash_range_program` reads for a request of `write_flash`:
its length argument is the page count times the page size. -/
def writeFlashReads (dataSize : Nat) : List Nat :=
  List.range (writePageCount dataSize * userFlashPageSize)

/-- Nothing beyond the positions read decides what is programmed. -/
theorem writeFlash_reads_only (offset dataSize : Nat) (left right : Pointer)
    (aligned : offset % 256 = 0)
    (same : ∀ position ∈ writeFlashReads dataSize, left position = right position)
    (before : Contents UInt8) (address : Nat) :
    (picoFlash misaligned).run (writeFlash misaligned offset left dataSize) before address =
      (picoFlash misaligned).run (writeFlash misaligned offset right dataSize) before address := by
  have boundary : offset % (picoFlash misaligned).pageSize = 0 := aligned
  simp only [FlashPart.run, writeFlash]
  rw [programPages_apply _ offset left _ boundary, programPages_apply _ offset right _ boundary]
  by_cases inside : offset ≤ address ∧
      address < offset + writePageCount dataSize * (picoFlash misaligned).pageSize
  · have read : address - offset ∈ writeFlashReads dataSize := by
      have page : (picoFlash misaligned).pageSize = 256 := rfl
      rw [page] at inside
      rw [writeFlashReads, List.mem_range, userFlashPageSize]
      omega
    rw [if_pos inside, if_pos inside, same _ read]
  · rw [if_neg inside, if_neg inside]

/-- Every position read is programmed into its own address. -/
theorem writeFlash_programs_reads (offset dataSize : Nat) (pData : Pointer)
    (aligned : offset % 256 = 0) (before : Contents UInt8) (position : Nat)
    (read : position ∈ writeFlashReads dataSize) :
    (picoFlash misaligned).run (writeFlash misaligned offset pData dataSize) before
        (offset + position) = before (offset + position) &&& pData position := by
  have boundary : offset % (picoFlash misaligned).pageSize = 0 := aligned
  have page : (picoFlash misaligned).pageSize = 256 := rfl
  rw [writeFlashReads, List.mem_range, userFlashPageSize] at read
  have inside : offset ≤ offset + position ∧
      offset + position < offset + writePageCount dataSize * (picoFlash misaligned).pageSize := by
    rw [page]
    omega
  simp only [FlashPart.run, writeFlash]
  rw [programPages_apply _ offset pData _ boundary, if_pos inside, Nat.add_sub_cancel_left]
  rfl

/-- A request covered exactly: the sectors and the pages that hold it, and no more,
are erased and programmed from the offset on, and the source is read no further than
the request. -/
structure CoversExactly (offset dataSize : Nat) (pData : Pointer) (before : Contents UInt8) :
    Prop where
  erased : eraseFlash misaligned offset dataSize before =
    (picoFlash misaligned).eraseSectors offset ((dataSize + 4095) / 4096)
  programmed : writeFlash misaligned offset pData dataSize before =
    (picoFlash misaligned).programPages offset pData ((dataSize + 255) / 256)
  read : ∀ position ∈ writeFlashReads dataSize, position < dataSize

/-- The reads stay inside a request that the page counter does not round up. -/
theorem reads_inside_iff (dataSize : Nat) :
    (∀ position ∈ writeFlashReads dataSize, position < dataSize) ↔
      writePageCount dataSize * 256 ≤ dataSize := by
  simp only [writeFlashReads, List.mem_range, userFlashPageSize]
  constructor
  · intro inside
    rcases Nat.eq_zero_or_pos (writePageCount dataSize) with none | some
    · omega
    · have last := inside (writePageCount dataSize * 256 - 1) (by omega)
      omega
  · intro fits position read
    exact Nat.lt_of_lt_of_le read fits

/-- The helpers cover a 32-bit request exactly when it is a whole number of pages and
that number fits the page counter. -/
theorem rounding_exact_iff (offset : Nat) (dataSize : UInt32) (pData : Pointer)
    (before : Contents UInt8) :
    CoversExactly misaligned offset dataSize.toNat pData before ↔
      dataSize.toNat % 256 = 0 ∧ dataSize.toNat ≤ 0xFFFF00 := by
  generalize dataSize.toNat = size
  have pages := writePageCount_rounded size
  have sectors := eraseSectorCount_rounded size
  constructor
  · intro covered
    have programs := congrArg List.length covered.programmed
    simp only [writeFlash, programPages_length] at programs
    have reads := (reads_inside_iff size).mp covered.read
    omega
  · rintro ⟨whole, small⟩
    constructor
    · have exact : eraseSectorCount size = (size + 4095) / 4096 := by omega
      simp only [eraseFlash, exact]
    · have exact : writePageCount size = (size + 255) / 256 := by omega
      simp only [writeFlash, exact]
    · exact (reads_inside_iff size).mpr (by omega)

/-- The configuration record of the bare-metal ABI is not a whole number of pages, so
saving it reads past its end; requests of 16 MiB and of 256 MiB program or erase nothing. -/
theorem requests_not_covered :
    let part := Misalignment.ignored UInt8 userFlashPageSize
    let blank : Contents UInt8 := fun _ => 0xFF
    let record : Pointer := fun _ => 0
    (∃ position ∈ writeFlashReads FlashRecords.shortEnumAbi.sizeofAppCommon,
      ¬ position < FlashRecords.shortEnumAbi.sizeofAppCommon) ∧
    ¬ CoversExactly part 0x1C0000 FlashRecords.shortEnumAbi.sizeofAppCommon record blank ∧
    writeFlash part 0x140000 record 0x1000000 blank = [] ∧
    eraseFlash part 0x140000 0x10000000 blank = [] := by
  have pages : writePageCount FlashRecords.shortEnumAbi.sizeofAppCommon = 4 := by decide
  have past : 1023 ∈ writeFlashReads FlashRecords.shortEnumAbi.sizeofAppCommon := by
    rw [writeFlashReads, pages, List.mem_range]
    decide
  have beyond : ¬ 1023 < FlashRecords.shortEnumAbi.sizeofAppCommon := by decide
  refine ⟨⟨1023, past, beyond⟩, ?_, rfl, rfl⟩
  intro covered
  exact beyond (covered.read 1023 past)

end WiznetEaas.FlashRounding
