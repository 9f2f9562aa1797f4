/-!
# Cyclic redundancy checks of any width

A register takes a message bit by bit, most significant bit first. The bit that leaves
the register and the message bit together decide whether the generator is added. A
generator is given by its low coefficients; its leading one is the bit shifted out.

The remainder is linear in exclusive or, so two messages of one length have the same
remainder exactly when their difference has remainder zero. A generator with a constant
term never loses a difference inside a window as wide as the register, and a generator
with an even number of terms preserves parity.
-/

namespace WiznetEaas.Crc

variable {width : Nat}

/-- One message bit enters the register. -/
def feed (generator register : BitVec width) (bit : Bool) : BitVec width :=
  (register <<< 1) ^^^ if register.msb ^^ bit then generator else BitVec.ofNat width 0

/-- The register after a whole message. -/
def remainder (generator register : BitVec width) (message : List Bool) : BitVec width :=
  message.foldl (feed generator) register

/-- The remainder of a message on an empty register. -/
def checksum (generator : BitVec width) (message : List Bool) : BitVec width :=
  remainder generator (BitVec.ofNat width 0) message

/-- The difference of two messages of one length. -/
def xorBits (left right : List Bool) : List Bool := List.zipWith (· ^^ ·) left right

/-- The most significant bits of a word, and zeros where it has no more. -/
def leading {size : Nat} (word : BitVec size) (count : Nat) : List Bool :=
  (List.range count).map word.getMsbD

variable (generator register : BitVec width)

@[simp]
theorem remainder_nil : remainder generator register [] = register := rfl

@[simp]
theorem remainder_cons (bit : Bool) (message : List Bool) :
    remainder generator register (bit :: message) =
      remainder generator (feed generator register bit) message := rfl

theorem remainder_append (first second : List Bool) :
    remainder generator register (first ++ second) =
      remainder generator (remainder generator register first) second :=
  List.foldl_append

@[simp]
theorem xorBits_nil : xorBits [] [] = [] := rfl

@[simp]
theorem xorBits_cons (first second : Bool) (left right : List Bool) :
    xorBits (first :: left) (second :: right) = (first ^^ second) :: xorBits left right := rfl

theorem xorBits_length (left right : List Bool) (same : left.length = right.length) :
    (xorBits left right).length = left.length := by
  simp [xorBits, same]

@[simp]
theorem leading_zero {size : Nat} (word : BitVec size) : leading word 0 = [] := rfl

/-- The first leading bit is the top bit, the others lead the shifted word. -/
theorem leading_succ {size : Nat} (word : BitVec size) (count : Nat) :
    leading word (count + 1) = word.msb :: leading (word <<< 1) count := by
  simp only [leading, List.range_succ_eq_map, List.map_cons, List.map_map,
    BitVec.msb_eq_getMsbD_zero]
  congr 1
  apply List.map_congr_left
  intro position _
  simp

@[simp]
theorem leading_length {size : Nat} (word : BitVec size) (count : Nat) :
    (leading word count).length = count := by
  simp [leading]

/-- One bit at a time the register is linear: adding the generator twice adds nothing. -/
theorem feed_xor (other : BitVec width) (first second : Bool) :
    feed generator (register ^^^ other) (first ^^ second) =
      feed generator register first ^^^ feed generator other second := by
  have shifted : (register ^^^ other) <<< 1 = (register <<< 1) ^^^ (other <<< 1) :=
    BitVec.shiftLeft_xor_distrib register other 1
  have added (left right : Bool) :
      (if left ^^ right then generator else BitVec.ofNat width 0) =
        (if left then generator else BitVec.ofNat width 0) ^^^
          (if right then generator else BitVec.ofNat width 0) := by
    cases left <;> cases right <;> simp
  simp only [feed, shifted, BitVec.msb_xor, added]
  ac_rfl

/-- The remainder is linear in the register and the message. -/
theorem remainder_xor (other : BitVec width) (left right : List Bool)
    (same : left.length = right.length) :
    remainder generator (register ^^^ other) (xorBits left right) =
      remainder generator register left ^^^ remainder generator other right := by
  induction left generalizing register other right with
  | nil =>
    cases right with
    | nil => rfl
    | cons bit rest => cases same
  | cons first left inductionHypothesis =>
    cases right with
    | nil => cases same
    | cons second right =>
      rw [xorBits_cons, remainder_cons, feed_xor]
      exact inductionHypothesis _ _ right (Nat.succ.inj same)

/-- Zeros leave the empty register. -/
theorem checksum_zeros (count : Nat) :
    checksum generator (List.replicate count false) = BitVec.ofNat width 0 := by
  have still : feed generator (BitVec.ofNat width 0) false = BitVec.ofNat width 0 := by
    simp [feed]
  induction count with
  | zero => rfl
  | succ count inductionHypothesis =>
    rw [checksum, List.replicate_succ, remainder_cons, still]
    exact inductionHypothesis

/-- Messages of one length agree in their remainder exactly when their difference has
remainder zero. -/
theorem checksum_eq_iff (left right : List Bool) (same : left.length = right.length) :
    checksum generator left = checksum generator right ↔
      checksum generator (xorBits left right) = BitVec.ofNat width 0 := by
  have difference : checksum generator (xorBits left right) =
      checksum generator left ^^^ checksum generator right := by
    have linear := remainder_xor generator (BitVec.ofNat width 0) (BitVec.ofNat width 0) left right
      same
    rwa [BitVec.xor_zero] at linear
  rw [difference]
  constructor
  · intro equal
    rw [equal, BitVec.xor_self]
  · intro zero
    calc
      checksum generator left =
          checksum generator left ^^^ (checksum generator right ^^^ checksum generator right) := by
        rw [BitVec.xor_self, BitVec.xor_zero]
      _ = (checksum generator left ^^^ checksum generator right) ^^^ checksum generator right :=
        (BitVec.xor_assoc _ _ _).symm
      _ = checksum generator right := by rw [zero, BitVec.zero_xor]

/-- Zeros change no message. -/
theorem xorBits_zeros (message : List Bool) :
    xorBits message (List.replicate message.length false) = message := by
  apply List.ext_getElem (xorBits_length _ _ (List.length_replicate ..).symm)
  intro position _ _
  simp [xorBits]

/-- What the register held before a message reaches the remainder through zeros. -/
theorem remainder_register (other : BitVec width) (message : List Bool) :
    remainder generator (register ^^^ other) message =
      remainder generator register message ^^^
        remainder generator other (List.replicate message.length false) := by
  have linear := remainder_xor generator register other message
    (List.replicate message.length false) (List.length_replicate ..).symm
  rwa [xorBits_zeros] at linear

/-- A register and a message amount to the shifted register, and to the message added to
the bits the shift drops. -/
theorem remainder_split (message : List Bool) :
    remainder generator register message =
      (register <<< message.length) ^^^
        checksum generator (xorBits (leading register message.length) message) := by
  induction message generalizing register with
  | nil => simp [checksum]
  | cons bit rest inductionHypothesis =>
    let dropped := feed generator (BitVec.ofNat width 0) (register.msb ^^ bit)
    have fed : feed generator register bit = (register <<< 1) ^^^ dropped := by
      simp [feed, dropped]
    have behind := remainder_register generator (BitVec.ofNat width 0) dropped
      (xorBits (leading (register <<< 1) rest.length) rest)
    rw [BitVec.zero_xor, xorBits_length _ _ (leading_length _ _), leading_length] at behind
    rw [remainder_cons, fed, remainder_register, inductionHypothesis, List.length_cons,
      leading_succ, xorBits_cons, checksum, checksum, remainder_cons, behind, BitVec.xor_assoc,
      ← BitVec.shiftLeft_add, Nat.add_comm 1]

/-- A message no longer than the register that leads to zero is what the register held.
The constant term of the generator shows in the last bit. -/
theorem register_of_zero (constant : generator.getLsbD 0 = true) (message : List Bool)
    (short : message.length ≤ width)
    (zero : remainder generator register message = BitVec.ofNat width 0) (position : Nat) :
    register.getMsbD position = message.getD position false := by
  induction message generalizing register position with
  | nil =>
    rw [remainder_nil] at zero
    simp [zero]
  | cons bit rest inductionHypothesis =>
    have positive : 0 < width := BitVec.lt_of_getLsbD constant
    have shorter : rest.length ≤ width := by
      rw [List.length_cons] at short
      omega
    have fed := inductionHypothesis (feed generator register bit) shorter zero
    have kept : (register.msb ^^ bit) = false := by
      have last := fed (width - 1)
      have beyond : rest.getD (width - 1) false = false := by
        rw [List.length_cons] at short
        simp [List.getD_eq_getElem?_getD, List.getElem?_eq_none (show rest.length ≤ width - 1 by
          omega)]
      rw [beyond, BitVec.getMsbD_eq_getLsbD] at last
      cases decided : register.msb ^^ bit with
      | false => rfl
      | true =>
        have lastPosition : width - 1 - (width - 1) = 0 := by omega
        have inside : width - 1 < width := by omega
        have lost : generator.getLsbD 0 = false := by
          simpa [feed, decided, lastPosition, inside, positive] using last
        exact absurd (constant.symm.trans lost) (by decide)
    have shifted : feed generator register bit = register <<< 1 := by
      simp [feed, kept]
    cases position with
    | zero =>
      rw [← BitVec.msb_eq_getMsbD_zero, List.getD_cons_zero]
      cases held : register.msb <;> cases arrived : bit <;> simp_all
    | succ position =>
      have next := fed position
      rw [shifted, BitVec.getMsbD_shiftLeft] at next
      rw [List.getD_cons_succ]
      exact next

/-- Zeros behind a message never bring a register back to zero. -/
theorem register_of_zeros (constant : generator.getLsbD 0 = true) (count : Nat)
    (zero : remainder generator register (List.replicate count false) = BitVec.ofNat width 0) :
    register = BitVec.ofNat width 0 := by
  induction count generalizing register with
  | zero => exact zero
  | succ count inductionHypothesis =>
    rw [List.replicate_succ, remainder_cons] at zero
    have fed := inductionHypothesis _ zero
    have positive : 0 < width := BitVec.lt_of_getLsbD constant
    apply BitVec.eq_of_getMsbD_eq
    intro position _
    rw [register_of_zero generator register constant [false] positive fed position]
    cases position <;> simp

/-- The positions at which two messages have different bits. -/
def DiffersAt (left right : List Bool) (position : Nat) : Prop :=
  left[position]? ≠ right[position]?

instance (left right : List Bool) (position : Nat) : Decidable (DiffersAt left right position) :=
  inferInstanceAs (Decidable (_ ≠ _))

/-- The difference of two messages of one length is set where they differ. -/
theorem xorBits_getD (left right : List Bool) (same : left.length = right.length)
    (position : Nat) :
    (xorBits left right).getD position false = decide (DiffersAt left right position) := by
  rw [Bool.eq_iff_iff, decide_eq_true_iff]
  simp only [DiffersAt, xorBits, List.getD_eq_getElem?_getD, List.getElem?_zipWith]
  rcases Nat.lt_or_ge position left.length with inside | outside
  · rw [List.getElem?_eq_getElem inside, List.getElem?_eq_getElem (same ▸ inside)]
    simp
  · rw [List.getElem?_eq_none outside, List.getElem?_eq_none (same ▸ outside)]
    simp

/-- Bits that are all false are zeros. -/
theorem eq_zeros (bits : List Bool) (clear : ∀ position, bits.getD position false = false) :
    bits = List.replicate bits.length false := by
  apply List.ext_getElem (List.length_replicate ..).symm
  intro position inside _
  have bit := clear position
  rw [List.getD_eq_getElem?_getD, List.getElem?_eq_getElem inside, Option.getD_some] at bit
  rw [bit, List.getElem_replicate]

/-- A difference inside a window as wide as the register changes the remainder. -/
theorem checksum_window (constant : generator.getLsbD 0 = true) (left right : List Bool)
    (same : left.length = right.length) (start : Nat)
    (window : ∀ position, DiffersAt left right position →
      start ≤ position ∧ position < start + width)
    (position : Nat) (differs : DiffersAt left right position) :
    checksum generator left ≠ checksum generator right := by
  intro equal
  have zero := (checksum_eq_iff generator left right same).mp equal
  have set (other : Nat) := xorBits_getD left right same other
  generalize xorBits left right = errors at zero set
  have before : errors.take start = List.replicate (errors.take start).length false := by
    apply eq_zeros
    intro other
    rcases Nat.lt_or_ge other start with early | late
    · have unset : ¬ DiffersAt left right other := fun found =>
        absurd (window other found).1 (Nat.not_le_of_lt early)
      simpa [List.getD_eq_getElem?_getD, List.getElem?_take_of_lt early, unset] using set other
    · rw [List.getD_eq_getElem?_getD, List.getElem?_take_eq_none late]
      rfl
  have behind : (errors.drop start).drop width =
      List.replicate ((errors.drop start).drop width).length false := by
    apply eq_zeros
    intro other
    have unset : ¬ DiffersAt left right (start + (width + other)) := fun found => by
      have inWindow := (window _ found).2
      omega
    simpa [List.getD_eq_getElem?_getD, unset, Nat.add_assoc] using set (start + (width + other))
  have parts : errors =
      errors.take start ++ ((errors.drop start).take width ++ (errors.drop start).drop width) := by
    rw [List.take_append_drop, List.take_append_drop]
  have empty := checksum_zeros generator (errors.take start).length
  rw [checksum] at empty
  rw [checksum, parts, remainder_append, remainder_append, before, empty, behind] at zero
  have inWindow := register_of_zeros generator _ constant _ zero
  have short : ((errors.drop start).take width).length ≤ width := List.length_take_le _ _
  have held := register_of_zero generator (BitVec.ofNat width 0) constant _ short inWindow
    (position - start)
  obtain ⟨low, high⟩ := window position differs
  have early : position - start < width := by omega
  have place : start + (position - start) = position := Nat.add_sub_of_le low
  have lost : false = errors.getD position false := by
    simpa [List.getD_eq_getElem?_getD, List.getElem?_take_of_lt early, place] using held
  rw [set position, decide_eq_true differs] at lost
  exact Bool.false_ne_true lost

/-- The exclusive or of some bits. -/
def parity (bits : List Bool) : Bool := bits.foldr (· ^^ ·) false

@[simp]
theorem parity_nil : parity [] = false := rfl

@[simp]
theorem parity_cons (bit : Bool) (bits : List Bool) : parity (bit :: bits) = (bit ^^ parity bits) :=
  rfl

/-- A parity is set when the number of set bits is odd. -/
theorem parity_count (bits : List Bool) : parity bits = decide (bits.count true % 2 = 1) := by
  induction bits with
  | nil => rfl
  | cons bit bits inductionHypothesis =>
    rw [parity_cons, inductionHypothesis]
    cases bit with
    | false => simp
    | true =>
      rw [List.count_cons_self, Bool.true_xor, ← decide_not]
      apply decide_eq_decide.mpr
      omega

/-- The parity of a difference is the difference of the parities. -/
theorem parity_xorBits (left right : List Bool) (same : left.length = right.length) :
    parity (xorBits left right) = (parity left ^^ parity right) := by
  induction left generalizing right with
  | nil =>
    cases right with
    | nil => rfl
    | cons bit rest => cases same
  | cons first left inductionHypothesis =>
    cases right with
    | nil => cases same
    | cons second right =>
      rw [xorBits_cons, parity_cons, parity_cons, parity_cons,
        inductionHypothesis right (Nat.succ.inj same)]
      cases first <;> cases second <;> cases parity left <;> cases parity right <;> rfl

/-- A bit behind the others. -/
theorem parity_append (first second : List Bool) :
    parity (first ++ second) = (parity first ^^ parity second) := by
  induction first with
  | nil => simp
  | cons bit rest inductionHypothesis =>
    rw [List.cons_append, parity_cons, parity_cons, inductionHypothesis, Bool.xor_assoc]

/-- The parity of a register. -/
def registerParity (register : BitVec width) : Bool := parity (leading register width)

theorem registerParity_xor (other : BitVec width) :
    registerParity (register ^^^ other) = (registerParity register ^^ registerParity other) := by
  have bits : leading (register ^^^ other) width =
      xorBits (leading register width) (leading other width) := by
    apply List.ext_getElem (by simp [xorBits])
    intro position _ _
    simp [leading, xorBits]
  rw [registerParity, bits, parity_xorBits _ _ (by simp)]
  rfl

/-- A shift loses the parity of the top bit. -/
theorem registerParity_shift :
    registerParity (register <<< 1) = (registerParity register ^^ register.msb) := by
  cases width with
  | zero => simp [registerParity, BitVec.eq_nil register]
  | succ width =>
    have bits : leading (register <<< 1) (width + 1) =
        leading (register <<< 1) width ++ [false] := by
      simp [leading, List.range_succ]
    rw [registerParity, bits, parity_append, registerParity, leading_succ, parity_cons]
    cases register.msb <;> simp

/-- With an even number of terms in the generator each bit that enters counts once. -/
theorem registerParity_feed (odd : registerParity generator = true) (bit : Bool) :
    registerParity (feed generator register bit) = (registerParity register ^^ bit) := by
  have zero : registerParity (BitVec.ofNat width 0) = false := by
    have bits : leading (BitVec.ofNat width 0) width = List.replicate width false := by
      apply List.ext_getElem (by simp)
      intro position _ _
      simp [leading]
    rw [registerParity, bits, parity_count]
    simp [List.count_replicate]
  rw [feed, registerParity_xor, registerParity_shift]
  cases register.msb <;> cases bit <;> simp [odd, zero]

theorem registerParity_remainder (odd : registerParity generator = true) (message : List Bool) :
    registerParity (remainder generator register message) =
      (registerParity register ^^ parity message) := by
  induction message generalizing register with
  | nil => simp
  | cons bit rest inductionHypothesis =>
    rw [remainder_cons, inductionHypothesis, registerParity_feed generator register odd,
      parity_cons, Bool.xor_assoc]

/-- The number of places where two messages differ. -/
def differences (left right : List Bool) : Nat :=
  (List.range left.length).countP fun position => DiffersAt left right position

theorem differences_count (left right : List Bool) (same : left.length = right.length) :
    differences left right = (xorBits left right).count true := by
  have bits : xorBits left right =
      (List.range left.length).map fun position => decide (DiffersAt left right position) := by
    apply List.ext_getElem (by simp [xorBits, same])
    intro position inside _
    have bit := xorBits_getD left right same position
    rw [List.getD_eq_getElem?_getD, List.getElem?_eq_getElem inside, Option.getD_some] at bit
    simp [bit]
  rw [bits, List.count_eq_countP, List.countP_map, differences]
  apply List.countP_congr
  intro position _
  simp

/-- An odd number of differences changes the remainder. -/
theorem checksum_odd (odd : registerParity generator = true) (left right : List Bool)
    (same : left.length = right.length) (differ : differences left right % 2 = 1) :
    checksum generator left ≠ checksum generator right := by
  intro equal
  have leftParity := registerParity_remainder generator (BitVec.ofNat width 0) odd left
  have rightParity := registerParity_remainder generator (BitVec.ofNat width 0) odd right
  rw [checksum, checksum] at equal
  rw [equal, rightParity] at leftParity
  have balanced : parity (xorBits left right) = false := by
    rw [parity_xorBits left right same]
    cases register : registerParity (BitVec.ofNat width 0) <;> simp_all
  rw [parity_count, ← differences_count left right same, decide_eq_true differ] at balanced
  exact Bool.false_ne_true balanced.symm

end WiznetEaas.Crc
