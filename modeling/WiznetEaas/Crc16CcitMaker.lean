import WiznetEaas.Crc16
import WiznetEaas.Crc

/-!
# The checksum of the release tool

`crc16_ccit_maker.py` computes the checksum that is published with an image. Its
integers are unbounded and the loop masks them; the C function of crc16.h works in 16
bits. Both walk a hand-copied table by bytes. Each byte of such a walk is eight bits of
the register with polynomial 0x1021, so both compute the same checksum of any bytes.
-/

namespace WiznetEaas.Crc16CcitMaker

open ByteMemory Crc Crc16

/-- `crc16tab` of the tool. -/
def crc16tab : Array Nat := #[
    0x0000, 0x1021, 0x2042, 0x3063, 0x4084, 0x50a5, 0x60c6, 0x70e7,
    0x8108, 0x9129, 0xa14a, 0xb16b, 0xc18c, 0xd1ad, 0xe1ce, 0xf1ef,
    0x1231, 0x0210, 0x3273, 0x2252, 0x52b5, 0x4294, 0x72f7, 0x62d6,
    0x9339, 0x8318, 0xb37b, 0xa35a, 0xd3bd, 0xc39c, 0xf3ff, 0xe3de,
    0x2462, 0x3443, 0x0420, 0x1401, 0x64e6, 0x74c7, 0x44a4, 0x5485,
    0xa56a, 0xb54b, 0x8528, 0x9509, 0xe5ee, 0xf5cf, 0xc5ac, 0xd58d,
    0x3653, 0x2672, 0x1611, 0x0630, 0x76d7, 0x66f6, 0x5695, 0x46b4,
    0xb75b, 0xa77a, 0x9719, 0x8738, 0xf7df, 0xe7fe, 0xd79d, 0xc7bc,
    0x48c4, 0x58e5, 0x6886, 0x78a7, 0x0840, 0x1861, 0x2802, 0x3823,
    0xc9cc, 0xd9ed, 0xe98e, 0xf9af, 0x8948, 0x9969, 0xa90a, 0xb92b,
    0x5af5, 0x4ad4, 0x7ab7, 0x6a96, 0x1a71, 0x0a50, 0x3a33, 0x2a12,
    0xdbfd, 0xcbdc, 0xfbbf, 0xeb9e, 0x9b79, 0x8b58, 0xbb3b, 0xab1a,
    0x6ca6, 0x7c87, 0x4ce4, 0x5cc5, 0x2c22, 0x3c03, 0x0c60, 0x1c41,
    0xedae, 0xfd8f, 0xcdec, 0xddcd, 0xad2a, 0xbd0b, 0x8d68, 0x9d49,
    0x7e97, 0x6eb6, 0x5ed5, 0x4ef4, 0x3e13, 0x2e32, 0x1e51, 0x0e70,
    0xff9f, 0xefbe, 0xdfdd, 0xcffc, 0xbf1b, 0xaf3a, 0x9f59, 0x8f78,
    0x9188, 0x81a9, 0xb1ca, 0xa1eb, 0xd10c, 0xc12d, 0xf14e, 0xe16f,
    0x1080, 0x00a1, 0x30c2, 0x20e3, 0x5004, 0x4025, 0x7046, 0x6067,
    0x83b9, 0x9398, 0xa3fb, 0xb3da, 0xc33d, 0xd31c, 0xe37f, 0xf35e,
    0x02b1, 0x1290, 0x22f3, 0x32d2, 0x4235, 0x5214, 0x6277, 0x7256,
    0xb5ea, 0xa5cb, 0x95a8, 0x8589, 0xf56e, 0xe54f, 0xd52c, 0xc50d,
    0x34e2, 0x24c3, 0x14a0, 0x0481, 0x7466, 0x6447, 0x5424, 0x4405,
    0xa7db, 0xb7fa, 0x8799, 0x97b8, 0xe75f, 0xf77e, 0xc71d, 0xd73c,
    0x26d3, 0x36f2, 0x0691, 0x16b0, 0x6657, 0x7676, 0x4615, 0x5634,
    0xd94c, 0xc96d, 0xf90e, 0xe92f, 0x99c8, 0x89e9, 0xb98a, 0xa9ab,
    0x5844, 0x4865, 0x7806, 0x6827, 0x18c0, 0x08e1, 0x3882, 0x28a3,
    0xcb7d, 0xdb5c, 0xeb3f, 0xfb1e, 0x8bf9, 0x9bd8, 0xabbb, 0xbb9a,
    0x4a75, 0x5a54, 0x6a37, 0x7a16, 0x0af1, 0x1ad0, 0x2ab3, 0x3a92,
    0xfd2e, 0xed0f, 0xdd6c, 0xcd4d, 0xbdaa, 0xad8b, 0x9de8, 0x8dc9,
    0x7c26, 0x6c07, 0x5c64, 0x4c45, 0x3ca2, 0x2c83, 0x1ce0, 0x0cc1,
    0xef1f, 0xff3e, 0xcf5d, 0xdf7c, 0xaf9b, 0xbfba, 0x8fd9, 0x9ff8,
    0x6e17, 0x7e36, 0x4e55, 0x5e74, 0x2e93, 0x3eb2, 0x0ed1, 0x1ef0]

/-- The loop of the tool's `crc16_ccitt`; an index outside the data would end the tool. -/
def crc16CcittLoop (buf : List UInt8) : Nat → Nat → Nat → Option Nat
  | 0, _, crc => some crc
  | remaining + 1, i, crc => do
    let byte ← buf[i]?
    let entry ← crc16tab[((crc >>> 8) ^^^ byte.toNat) &&& 0x00FF]?
    crc16CcittLoop buf remaining (i + 1) (((crc <<< 8) ^^^ entry) &&& 0xFFFF)

def crc16Ccitt (crc : Nat) (buf : List UInt8) (dataLen : Nat) : Option Nat :=
  crc16CcittLoop buf dataLen 0 crc

/-- The bits of some bytes, in the order they are sent. -/
def messageBits (bytes : List UInt8) : List Bool :=
  bytes.flatMap fun byte => leading byte.toBitVec 8

/-- CRC-16 bit by bit: polynomial 0x1021 and initial value 0. -/
def bitwiseCrc16 (bytes : List UInt8) : BitVec 16 :=
  checksum 0x1021#16 (messageBits bytes)

/-- The entries of the C table are the checksums of the single bytes. -/
theorem crc16CcittTab_entries : crc16CcittTab.toList.map UInt16.toBitVec =
    (List.range 256).map fun value =>
      checksum 0x1021#16 (leading (BitVec.ofNat 8 value) 8) := by
  decide +kernel

/-- The tool copied the same table. -/
theorem crc16tab_entries : crc16tab.toList = crc16CcittTab.toList.map UInt16.toNat := by
  decide +kernel

/-- An entry of a table that is known as a list. -/
theorem entry_of_list {Value : Type} (table : Array UInt16) (read : UInt16 → Value)
    (values : List Value) (same : table.toList.map read = values) (index : Nat)
    (inside : index < values.length) : values[index]? = some (read (table.getD index 0)) := by
  have stored : index < table.size := by
    have lengths := congrArg List.length same
    rw [List.length_map, Array.length_toList] at lengths
    omega
  rw [← same, List.getElem?_map, Array.getElem?_toList, Array.getD_eq_getD_getElem?,
    Array.getElem?_eq_getElem stored, Option.map_some, Option.getD_some]

/-- Each entry of the C table is its index after eight bits. -/
theorem crc16CcittTab_exact (index : BitVec 8) :
    (crc16CcittTab.getD index.toNat 0).toBitVec = checksum 0x1021#16 (leading index 8) := by
  have entry := entry_of_list _ _ _ crc16CcittTab_entries index.toNat (by
    rw [List.length_map, List.length_range]
    exact index.isLt)
  rw [List.getElem?_map, List.getElem?_range index.isLt, Option.map_some, Option.some.injEq,
    BitVec.ofNat_toNat, BitVec.setWidth_eq] at entry
  exact entry.symm

theorem crc16tab_exact (index : Nat) (inside : index < 256) :
    crc16tab[index]? = some (crc16CcittTab.getD index 0).toNat := by
  have size : crc16tab.toList.length = 256 := by decide +kernel
  rw [← Array.getElem?_toList]
  exact entry_of_list _ _ _ crc16tab_entries.symm index (size ▸ inside)

/-- The index both loops compute is the byte added to the top of the register. -/
theorem index_exact (crc : UInt16) (byte : UInt8) :
    ((crc.toNat >>> 8) ^^^ byte.toNat) &&& 0x00FF =
      ((crc.toBitVec >>> 8).setWidth 8 ^^^ byte.toBitVec).toNat := by
  have small : byte.toNat % 2 ^ 8 = byte.toNat := Nat.mod_eq_of_lt byte.toNat_lt
  have masked := Nat.and_two_pow_sub_one_eq_mod ((crc.toNat >>> 8) ^^^ byte.toNat) 8
  rw [Nat.xor_mod_two_pow, small] at masked
  simpa using masked

/-- Adding a byte to the top of the register adds it to the bits that leave first. -/
theorem index_bits (register : BitVec 16) (byte : BitVec 8) :
    leading ((register >>> 8).setWidth 8 ^^^ byte) 8 =
      xorBits (leading register 8) (leading byte 8) := by
  apply List.ext_getElem (by simp [xorBits])
  intro position inside _
  rw [leading_length] at inside
  have top : position + 8 < 16 := by omega
  have below : ¬ position + 8 < 8 := by omega
  simp [leading, xorBits, BitVec.getMsbD_setWidth, BitVec.getMsbD_ushiftRight, top, below]

/-- One pass of the C loop takes eight bits of the message. -/
theorem crc16Step_bits (crc : UInt16) (byte : UInt8) :
    (crc16Step crc byte).toBitVec =
      remainder 0x1021#16 crc.toBitVec (leading byte.toBitVec 8) := by
  have index : (((crc >>> 8) ^^^ byte.toUInt16) &&& 0x00FF).toNat =
      ((crc.toBitVec >>> 8).setWidth 8 ^^^ byte.toBitVec).toNat := by
    rw [← index_exact]
    simp
  rw [remainder_split, leading_length, ← index_bits, ← crc16CcittTab_exact, ← index]
  rfl

/-- One pass of the tool's loop does the same to its integer. -/
theorem crc16Step_masked (crc : UInt16) (byte : UInt8) :
    ((crc.toNat <<< 8) ^^^ (crc16CcittTab.getD
      (((crc.toNat >>> 8) ^^^ byte.toNat) &&& 0x00FF) 0).toNat) &&& 0xFFFF =
      (crc16Step crc byte).toNat := by
  have small (entry : UInt16) : entry.toNat % 2 ^ 16 = entry.toNat :=
    Nat.mod_eq_of_lt entry.toNat_lt
  have masked (entry : UInt16) :=
    Nat.and_two_pow_sub_one_eq_mod ((crc.toNat <<< 8) ^^^ entry.toNat) 16
  simp only [Nat.xor_mod_two_pow, small] at masked
  have index : (((crc >>> 8) ^^^ byte.toUInt16) &&& 0x00FF).toNat =
      ((crc.toNat >>> 8) ^^^ byte.toNat) &&& 0x00FF := by simp
  rw [crc16Step, index]
  generalize crc16CcittTab.getD _ 0 = entry
  simpa using masked entry

theorem messageBits_append (first second : List UInt8) :
    messageBits (first ++ second) = messageBits first ++ messageBits second :=
  List.flatMap_append

/-- The bits of zero bytes. -/
theorem messageBits_zeros (count : Nat) :
    messageBits (List.replicate count 0) = List.replicate (count * 8) false := by
  have byte : leading (UInt8.toBitVec 0) 8 = List.replicate 8 false := by decide
  induction count with
  | zero => rfl
  | succ count inductionHypothesis =>
    rw [messageBits] at inductionHypothesis ⊢
    rw [List.replicate_succ, List.flatMap_cons, inductionHypothesis, byte,
      List.replicate_append_replicate, Nat.succ_mul, Nat.add_comm 8]

/-- Leading zero bytes leave the checksum as it is. -/
theorem bitwiseCrc16_zeros (count : Nat) (bytes : List UInt8) :
    bitwiseCrc16 (List.replicate count 0 ++ bytes) = bitwiseCrc16 bytes := by
  have cleared : remainder 0x1021#16 0#16 (List.replicate (count * 8) false) = 0#16 :=
    checksum_zeros 0x1021#16 (count * 8)
  rw [bitwiseCrc16, messageBits_append, messageBits_zeros, checksum, remainder_append, cleared]
  rfl

/-- The bytes of an object. -/
def objectBytes (buf : Pointer) (start length : Nat) : List UInt8 :=
  (List.range' start length).map buf

/-- The C loop computes the bitwise remainder, from any counter and register. -/
theorem crc16Loop_bits (buf : Pointer) (remaining counter : Nat) (crc : UInt16) :
    (crc16Loop buf remaining counter crc).toBitVec =
      remainder 0x1021#16 crc.toBitVec (messageBits (objectBytes buf counter remaining)) := by
  induction remaining generalizing counter crc with
  | zero => rfl
  | succ remaining inductionHypothesis =>
    rw [crc16Loop, inductionHypothesis, crc16Step_bits]
    simp only [objectBytes, List.range'_succ, List.map_cons, messageBits, List.flatMap_cons,
      remainder_append]

/-- The tool's loop takes the same passes as the C loop. -/
theorem crc16CcittLoop_same (buf : Pointer) (remaining counter : Nat) (data : List UInt8)
    (stored : ∀ position, counter ≤ position → position < counter + remaining →
      data[position]? = some (buf position)) (crc : UInt16) :
    crc16CcittLoop data remaining counter crc.toNat =
      some (crc16Loop buf remaining counter crc).toNat := by
  induction remaining generalizing counter crc with
  | zero => rfl
  | succ remaining inductionHypothesis =>
    have byte := stored counter (Nat.le_refl counter) (by omega)
    have inside : ((crc.toNat >>> 8) ^^^ (buf counter).toNat) &&& 0x00FF < 256 := by
      rw [index_exact]
      exact BitVec.isLt _
    have entry := crc16tab_exact _ inside
    have rest := inductionHypothesis (counter + 1)
      (fun position low high => stored position (by omega) (by omega))
      (crc16Step crc (buf counter))
    rw [crc16CcittLoop, byte, Option.bind_eq_bind, Option.bind_some, entry, Option.bind_eq_bind,
      Option.bind_some, crc16Step_masked, rest, crc16Loop]

/-- The C function on an object is the bitwise checksum of its bytes. -/
theorem crc16Ccitt_bitwise (buf : Pointer) (len : Nat) :
    (Crc16.crc16Ccitt buf len).toBitVec = bitwiseCrc16 (objectBytes buf 0 len) :=
  crc16Loop_bits buf len 0 0

/-- Bytes stored at a pointer are those of the object there. -/
theorem objectBytes_stored (memory : Pointer) (bytes : List UInt8) :
    objectBytes (storeBytes memory 0 bytes) 0 bytes.length = bytes := by
  apply List.ext_getElem (by simp [objectBytes])
  intro position _ inside
  have stored := storeBytes_inside memory 0 bytes position inside
  rw [Nat.zero_add, List.getD_eq_getElem?_getD, List.getElem?_eq_getElem inside] at stored
  simpa [objectBytes] using stored

/-- The tool and the C function give one number for any bytes. -/
theorem crc16Ccitt_tool (memory : Pointer) (bytes : List UInt8) :
    crc16Ccitt 0 bytes bytes.length =
      some (Crc16.crc16Ccitt (storeBytes memory 0 bytes) bytes.length).toNat := by
  apply crc16CcittLoop_same (storeBytes memory 0 bytes) bytes.length 0 bytes _ 0
  intro position _ inside
  rw [Nat.zero_add] at inside
  have stored := storeBytes_inside memory 0 bytes position inside
  rw [Nat.zero_add, List.getD_eq_getElem?_getD, List.getElem?_eq_getElem inside] at stored
  rw [stored, List.getElem?_eq_getElem inside, Option.getD_some]

/-- The C function, the release tool and the bitwise definition agree on any bytes. -/
theorem crc16_implementations_agree (memory : Pointer) (bytes : List UInt8) :
    (Crc16.crc16Ccitt (storeBytes memory 0 bytes) bytes.length).toBitVec = bitwiseCrc16 bytes ∧
      crc16Ccitt 0 bytes bytes.length = some (bitwiseCrc16 bytes).toNat := by
  have device : (Crc16.crc16Ccitt (storeBytes memory 0 bytes) bytes.length).toBitVec =
      bitwiseCrc16 bytes := by
    rw [crc16Ccitt_bitwise, objectBytes_stored]
  refine ⟨device, ?_⟩
  rw [crc16Ccitt_tool memory, ← device]
  rfl

end WiznetEaas.Crc16CcitMaker
