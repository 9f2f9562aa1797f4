import WiznetEaas.ByteMemory
import WiznetEaas.CStrings

/-!
# Arrays that strings are copied into

An array lies in memory with something behind it. Every operation tells how far it
reaches from the start of the array, so reading and writing past its end stay
expressible. A copy is taken over exactly when the string and its terminator fit.
-/

namespace WiznetEaas.CBuffers

open ByteMemory CStrings

/-- An array of some size, and what follows it in memory. -/
structure Buffer (size : Nat) where
  bytes : List UInt8
  whole : size ≤ bytes.length

/-- How far an operation reaches into an array of some size. -/
structure Access where
  size : Nat
  reach : Nat
  deriving DecidableEq

def Access.Inside (access : Access) : Prop := access.reach ≤ access.size

instance : DecidablePred Access.Inside := fun access =>
  inferInstanceAs (Decidable (access.reach ≤ access.size))

variable {size : Nat}

/-- An array initialised with `{0,}`. -/
def Buffer.zeroed (size : Nat) (behind : List UInt8) : Buffer size where
  bytes := List.replicate size 0 ++ behind
  whole := by simp

/-- The string a pointer to the array shows. -/
def Buffer.text (buffer : Buffer size) : List UInt8 := cText buffer.bytes

def Buffer.strlen (buffer : Buffer size) : Nat := buffer.text.length

/-- The bytes `strncpy` stores: the string, cut or filled up with zeros. -/
def strncpyBytes (source : List UInt8) (count : Nat) : List UInt8 :=
  cText (source.take count) ++ List.replicate (count - (cText (source.take count)).length) 0

theorem strncpyBytes_length (source : List UInt8) (count : Nat) :
    (strncpyBytes source count).length = count := by
  have kept : (cText (source.take count)).length ≤ (source.take count).length :=
    (List.takeWhile_sublist _).length_le
  have cut : (source.take count).length ≤ count := List.length_take_le count source
  rw [strncpyBytes, List.length_append, List.length_replicate]
  omega

/-- `strncpy(buffer, source, count)`. -/
def Buffer.strncpy (buffer : Buffer size) (source : List UInt8) (count : Nat) : Buffer size where
  bytes := strncpyBytes source count ++ buffer.bytes.drop count
  whole := by
    have whole := buffer.whole
    rw [List.length_append, strncpyBytes_length, List.length_drop]
    omega

/-- `memset(buffer, 0x00, sizeof(buffer))`. -/
def Buffer.cleared (buffer : Buffer size) : Buffer size :=
  .zeroed size (buffer.bytes.drop size)

/-- `buffer[index] = '\0'`. -/
def Buffer.terminate (buffer : Buffer size) (index : Nat) : Buffer size where
  bytes := buffer.bytes.set index 0
  whole := by
    rw [List.length_set]
    exact buffer.whole

/-- Copy the string of an array with `strlen`, `strncpy` and a terminator. The length
is kept in a 16-bit variable. -/
def copyString {targetSize sourceSize : Nat} (target : Buffer targetSize)
    (source : Buffer sourceSize) : Buffer targetSize × List Access :=
  let length := u16 source.strlen
  ((target.strncpy source.bytes length).terminate length,
    [⟨sourceSize, source.strlen + 1⟩, ⟨sourceSize, length⟩, ⟨targetSize, length⟩,
      ⟨targetSize, length + 1⟩])

/-- The array shows exactly a string, and the terminator lies inside it. -/
structure Buffer.Holds (buffer : Buffer size) (text : List UInt8) : Prop where
  inside : text.length < size
  stored : text ++ [0] <+: buffer.bytes

/-- A string without a terminator is taken over up to its end. -/
theorem cText_whole (text : List UInt8) (isText : IsText text) : cText text = text := by
  have kept : (text ++ []).takeWhile (· != 0) = text ++ [].takeWhile (· != 0) :=
    List.takeWhile_append_of_pos fun byte member => bne_iff_ne.mpr (isText byte member)
  simpa only [cText, List.takeWhile_nil, List.append_nil] using kept

/-- A string ends at the first zero byte, whatever stands behind it. -/
theorem cText_stored (text rest : List UInt8) : cText (text ++ 0 :: rest) = cText text := by
  induction text with
  | nil => rfl
  | cons byte tail inductionHypothesis =>
    rw [List.cons_append, cText, cText, List.takeWhile_cons, List.takeWhile_cons]
    split
    · exact congrArg (List.cons byte) inductionHypothesis
    · rfl

/-- The string of terminated bytes. -/
theorem cText_terminated (text rest : List UInt8) (isText : IsText text) :
    cText (text ++ 0 :: rest) = text :=
  (cText_stored text rest).trans (cText_whole text isText)

theorem strncpyBytes_text (text rest : List UInt8) (isText : IsText text) :
    strncpyBytes (text ++ rest) text.length = text := by
  rw [strncpyBytes, List.take_left, cText_whole text isText, Nat.sub_self, List.replicate_zero,
    List.append_nil]

/-- What an array holds is the string it shows. -/
theorem holds_text (buffer : Buffer size) (text : List UInt8) (isText : IsText text)
    (holds : buffer.Holds text) : buffer.text = text := by
  obtain ⟨rest, bytes⟩ := holds.stored
  rw [Buffer.text, ← bytes, List.append_assoc, List.singleton_append,
    cText_terminated text rest isText]

theorem holds_strlen (buffer : Buffer size) (text : List UInt8) (isText : IsText text)
    (holds : buffer.Holds text) : buffer.strlen = text.length := by
  rw [Buffer.strlen, holds_text buffer text isText holds]

/-- Without a zero in the array, `strlen` leaves it. -/
theorem strlen_leaves (buffer : Buffer size)
    (unterminated : IsText (buffer.bytes.take size)) : size ≤ buffer.strlen := by
  have split : buffer.bytes = buffer.bytes.take size ++ buffer.bytes.drop size :=
    (List.take_append_drop size buffer.bytes).symm
  have kept : buffer.text = buffer.bytes.take size ++ cText (buffer.bytes.drop size) := by
    rw [Buffer.text, split, cText, List.takeWhile_append_of_pos fun byte member =>
      bne_iff_ne.mpr (unterminated byte member), ← split]
    rfl
  have whole := buffer.whole
  rw [Buffer.strlen, kept, List.length_append, List.length_take]
  omega

/-- A zeroed array terminates a shorter string by itself. -/
theorem zeroed_holds (behind text : List UInt8) (isText : IsText text)
    (room : text.length < size) :
    ((Buffer.zeroed size behind).strncpy text text.length).Holds text := by
  refine ⟨room, List.replicate (size - text.length - 1) 0 ++ behind, ?_⟩
  have bytes := strncpyBytes_text text [] isText
  rw [List.append_nil] at bytes
  have zeros : size - text.length = size - text.length - 1 + 1 := by omega
  simp only [Buffer.strncpy, Buffer.zeroed, bytes]
  rw [List.drop_append_of_le_length (by rw [List.length_replicate]; omega), List.drop_replicate,
    zeros, List.replicate_succ]
  simp

/-- A string is held once it is terminated inside the array. -/
theorem terminated_holds (buffer : Buffer size) (text rest : List UInt8) (isText : IsText text)
    (room : text.length < size) :
    ((buffer.strncpy (text ++ rest) text.length).terminate text.length).Holds text := by
  have whole := buffer.whole
  have later : buffer.bytes.drop text.length ≠ [] := by
    intro nothing
    have short := congrArg List.length nothing
    rw [List.length_drop, List.length_nil] at short
    omega
  obtain ⟨head, tail, shape⟩ := List.exists_cons_of_ne_nil later
  refine ⟨room, tail, ?_⟩
  simp only [Buffer.terminate, Buffer.strncpy, strncpyBytes_text text rest isText, shape,
    List.set_append_right _ _ (Nat.le_refl _), Nat.sub_self, List.set_cons_zero,
    List.append_assoc, List.singleton_append]

/-- So is a copy of the string alone. -/
theorem copied_holds (buffer : Buffer size) (text : List UInt8) (isText : IsText text)
    (room : text.length < size) :
    ((buffer.strncpy text text.length).terminate text.length).Holds text := by
  have held := terminated_holds buffer text [] isText room
  rwa [List.append_nil] at held

/-- A copy and its terminator stay inside the array if the string is shorter. -/
theorem copied_inside {length : Nat} (room : length < size) :
    ∀ access ∈ ([⟨size, length⟩, ⟨size, length + 1⟩] : List Access), access.Inside := by
  intro access member
  simp only [List.mem_cons, List.not_mem_nil, or_false] at member
  rcases member with rfl | rfl
  · exact Nat.le_of_lt room
  · exact room

/-- A held string that fits the target is copied inside both arrays. -/
theorem copyString_holds {targetSize sourceSize : Nat} (target : Buffer targetSize)
    (source : Buffer sourceSize) (text : List UInt8) (isText : IsText text)
    (holds : source.Holds text) (room : text.length < targetSize) (width : targetSize ≤ 65536) :
    (copyString target source).1.Holds text ∧
      ∀ access ∈ (copyString target source).2, access.Inside := by
  have length : source.strlen = text.length := holds_strlen source text isText holds
  have narrow : u16 text.length = text.length := Nat.mod_eq_of_lt (by omega)
  have inside := holds.inside
  obtain ⟨rest, bytes⟩ := holds.stored
  constructor
  · simp only [copyString, length, narrow, ← bytes, List.append_assoc]
    exact terminated_holds target text _ isText room
  · intro access member
    simp only [copyString, length, narrow, List.mem_cons, List.not_mem_nil, or_false] at member
    rcases member with rfl | rfl | rfl | rfl <;> simp only [Access.Inside] <;> omega

end WiznetEaas.CBuffers
