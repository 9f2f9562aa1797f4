import Mathlib.Algebra.GroupWithZero.Nat
import Mathlib.Data.List.GetD

/-!
# Byte memory seen through a pointer

A pointer is a function from positions to bytes: the object it points at takes
the first positions and whatever follows in memory takes the rest. Copies and
little-endian fields are stated on that view, so reading past the end of an
object stays expressible.

Machine words are natural numbers reduced where the code's own types reduce
them.
-/

namespace WiznetEaas.ByteMemory

/-- Reduction to a 16-bit unsigned value. -/
def u16 (value : Nat) : Nat := value % 65536

/-- Reduction to a 32-bit unsigned value. -/
def u32 (value : Nat) : Nat := value % 4294967296

theorem u32_of_lt (value : Nat) (small : value < 4294967296) : u32 value = value :=
  Nat.mod_eq_of_lt small

/-- The bytes from a pointer on. -/
abbrev Pointer := Nat → UInt8

/-- Two pointers show the same object of the given size. -/
def SameObject (size : Nat) (left right : Pointer) : Prop :=
  ∀ position, position < size → left position = right position

/-- Copy the first bytes of a source over a target. -/
def copyBytes (target source : Pointer) (size : Nat) : Pointer := fun position =>
  if position < size then source position else target position

/-- Store a list of bytes from a position on. -/
def storeBytes (target : Pointer) (start : Nat) (bytes : List UInt8) : Pointer := fun position =>
  if start ≤ position then bytes.getD (position - start) (target position) else target position

/-- A little-endian unsigned field. -/
def loadField (memory : Pointer) (start : Nat) : Nat → Nat
  | 0 => 0
  | width + 1 => (memory start).toNat + 256 * loadField memory (start + 1) width

/-- Overwrite a little-endian unsigned field. -/
def storeField (memory : Pointer) (start width value : Nat) : Pointer := fun position =>
  if start ≤ position ∧ position < start + width then
    UInt8.ofNat (value / 256 ^ (position - start))
  else memory position

theorem copyBytes_same (target source : Pointer) (size : Nat) :
    SameObject size (copyBytes target source size) source := by
  intro position inside
  simp only [copyBytes, if_pos inside]

theorem storeBytes_inside (target : Pointer) (start : Nat) (bytes : List UInt8) (position : Nat)
    (inside : position < bytes.length) :
    storeBytes target start bytes (start + position) = bytes.getD position 0 := by
  have reached : start ≤ start + position := Nat.le_add_right start position
  simp only [storeBytes, if_pos reached, Nat.add_sub_cancel_left, List.getD_eq_getElem?_getD,
    List.getElem?_eq_getElem inside, Option.getD_some]

theorem storeBytes_below (target : Pointer) (start : Nat) (bytes : List UInt8) (position : Nat)
    (below : position < start) : storeBytes target start bytes position = target position := by
  have unreached : ¬ start ≤ position := Nat.not_le_of_lt below
  simp only [storeBytes, if_neg unreached]

theorem storeBytes_above (target : Pointer) (start : Nat) (bytes : List UInt8) (position : Nat)
    (above : start + bytes.length ≤ position) :
    storeBytes target start bytes position = target position := by
  have reached : start ≤ position := Nat.le_of_add_right_le above
  have beyond : bytes.length ≤ position - start := Nat.le_sub_of_add_le' above
  simp only [storeBytes, if_pos reached, List.getD_eq_getElem?_getD,
    List.getElem?_eq_none beyond, Option.getD_none]

/-- Two pieces stored one after the other are their concatenation. -/
theorem storeBytes_append (target : Pointer) (left right : List UInt8) (position : Nat)
    (inside : position < left.length + right.length) :
    storeBytes (storeBytes target 0 left) left.length right position =
      (left ++ right).getD position 0 := by
  rcases Nat.lt_or_ge position left.length with early | late
  · have stored := storeBytes_inside target 0 left position early
    rw [Nat.zero_add] at stored
    rw [storeBytes_below _ _ _ _ early, stored, List.getD_append _ _ _ _ early]
  · have stored := storeBytes_inside (storeBytes target 0 left) left.length right
      (position - left.length) (by omega)
    rw [Nat.add_sub_of_le late] at stored
    rw [stored, List.getD_append_right _ _ _ _ late]

/-- A field depends only on its own bytes. -/
theorem loadField_congr (left right : Pointer) (start width : Nat)
    (same : ∀ position, start ≤ position → position < start + width →
      left position = right position) :
    loadField left start width = loadField right start width := by
  induction width generalizing start with
  | zero => rfl
  | succ width inductionHypothesis =>
    have head : left start = right start := same start (Nat.le_refl start) (by omega)
    have tail : loadField left (start + 1) width = loadField right (start + 1) width :=
      inductionHypothesis (start + 1) fun position low high =>
        same position (by omega) (by omega)
    simp only [loadField, head, tail]

/-- Objects that agree throughout agree on every field inside them. -/
theorem loadField_same (size : Nat) (left right : Pointer) (start width : Nat)
    (same : SameObject size left right) (inside : start + width ≤ size) :
    loadField left start width = loadField right start width :=
  loadField_congr left right start width fun position _ high => same position (by omega)

/-- A field's value lies in its range. -/
theorem loadField_lt (memory : Pointer) (start width : Nat) :
    loadField memory start width < 256 ^ width := by
  induction width generalizing start with
  | zero => exact Nat.one_pos
  | succ width inductionHypothesis =>
    have head : (memory start).toNat < 256 := (memory start).toNat_lt
    have tail := inductionHypothesis (start + 1)
    simp only [loadField, Nat.pow_succ]
    omega

/-- The value of a field determines its first byte. -/
theorem loadField_head (memory : Pointer) (start width : Nat) :
    loadField memory start (width + 1) % 256 = (memory start).toNat := by
  have bound : (memory start).toNat < 256 := (memory start).toNat_lt
  simp only [loadField]
  omega

/-- A field other than the one overwritten keeps its value. -/
theorem loadField_storeField_disjoint (memory : Pointer) (start width value other count : Nat)
    (disjoint : other + count ≤ start ∨ start + width ≤ other) :
    loadField (storeField memory start width value) other count = loadField memory other count := by
  apply loadField_congr
  intro position low high
  have outside : ¬ (start ≤ position ∧ position < start + width) := by omega
  simp only [storeField, if_neg outside]

/-- Overwriting a field stores its value modulo the field's range. -/
theorem loadField_storeField (memory : Pointer) (start width value : Nat) :
    loadField (storeField memory start width value) start width = value % 256 ^ width := by
  have general (count skipped : Nat) (fits : skipped + count ≤ width) :
      loadField (storeField memory start width value) (start + skipped) count =
        value / 256 ^ skipped % 256 ^ count := by
    induction count generalizing skipped with
    | zero => simp [loadField, Nat.mod_one]
    | succ count inductionHypothesis =>
      have inside : start ≤ start + skipped ∧ start + skipped < start + width := by omega
      have rest := inductionHypothesis (skipped + 1) (by omega)
      have quotient : value / 256 ^ (skipped + 1) = value / 256 ^ skipped / 256 := by
        rw [Nat.pow_succ, Nat.div_div_eq_div_mul]
      rw [← Nat.add_assoc, quotient] at rest
      simp only [loadField, rest, storeField, if_pos inside, Nat.add_sub_cancel_left]
      rw [Nat.pow_succ, Nat.mul_comm (256 ^ count) 256, Nat.mod_mul]
      rfl
  have whole := general width 0 (by omega)
  simpa using whole

end WiznetEaas.ByteMemory
