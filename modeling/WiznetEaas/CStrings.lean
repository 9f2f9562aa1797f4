/-!
# Strings of the C library

A string is the list of its bytes; the terminating zero follows the list. Bytes
received without a terminator are compared up to their length only, so the same
lists represent them. Numbers are read as a 32-bit `long`, saturating at its
bounds.
-/

namespace WiznetEaas.CStrings

/-- The bytes of a literal. -/
def ascii (literal : String) : List UInt8 := literal.toList.map fun c => UInt8.ofNat c.toNat

/-- The string that starts a byte sequence. -/
def cText (bytes : List UInt8) : List UInt8 := bytes.takeWhile (· != 0)

/-- `strncmp(left, right, count) == 0`. Both strings end in a zero. -/
def strncmpEqual : Nat → List UInt8 → List UInt8 → Bool
  | 0, _, _ => true
  | _ + 1, [], [] => true
  | _ + 1, [], right :: _ => right == 0
  | _ + 1, left :: _, [] => left == 0
  | count + 1, left :: leftRest, right :: rightRest =>
    left == right && (left == 0 || strncmpEqual count leftRest rightRest)

/-- `isspace` in the C locale. -/
def isSpace (byte : UInt8) : Bool := byte == 32 || (9 ≤ byte && byte ≤ 13)

/-- The value of a digit in bases up to sixteen. -/
def digitValue (byte : UInt8) : Nat :=
  if 48 ≤ byte ∧ byte ≤ 57 then byte.toNat - 48
  else if 97 ≤ byte ∧ byte ≤ 102 then byte.toNat - 87
  else if 65 ≤ byte ∧ byte ≤ 70 then byte.toNat - 55
  else 16

/-- The digits of a number and the value they denote. -/
def digits (base : Nat) (text : List UInt8) : List UInt8 :=
  text.takeWhile fun byte => decide (digitValue byte < base)

def numeral (base : Nat) (text : List UInt8) : Nat :=
  (digits base text).foldl (fun value byte => value * base + digitValue byte) 0

/-- The optional sign of a number, and the text behind it. -/
def sign (text : List UInt8) : Bool × List UInt8 :=
  match text with
  | 45 :: rest => (true, rest)
  | 43 :: rest => (false, rest)
  | rest => (false, rest)

/-- `strtol(text, NULL, 10)`. -/
def strtol (text : List UInt8) : Int :=
  let signed := sign (text.dropWhile isSpace)
  let value : Int := numeral 10 signed.2
  max (-2147483648) (min 2147483647 (if signed.1 then -value else value))

/-- The optional `0x` in front of a hexadecimal number. -/
def skipHexMark (text : List UInt8) : List UInt8 :=
  match text with
  | 48 :: 120 :: rest => rest
  | 48 :: 88 :: rest => rest
  | rest => rest

/-- `strtoul(text, NULL, 16)`. A number out of range yields the greatest value. -/
def strtoulHex (text : List UInt8) : Nat :=
  let signed := sign (text.dropWhile isSpace)
  let value := numeral 16 (skipHexMark signed.2)
  if value < 4294967296 then if signed.1 then (4294967296 - value) % 4294967296 else value
  else 4294967295

/-- One `%d` of `sscanf`: the number and the text behind it, or no conversion. -/
def scanInt (text : List UInt8) : Option (Int × List UInt8) :=
  let signed := sign (text.dropWhile isSpace)
  if digits 10 signed.2 = [] then none
  else some (strtol text, signed.2.drop (digits 10 signed.2).length)

/-- `sscanf(text, "%d.%d.%d", ..)` into three variables that start at zero. The
scan stops at the first conversion or literal that does not match. -/
def scanTriple (text : List UInt8) : Int × Int × Int :=
  match scanInt text with
  | none => (0, 0, 0)
  | some (first, 46 :: rest) =>
    match scanInt rest with
    | none => (first, 0, 0)
    | some (second, 46 :: last) =>
      match scanInt last with
      | none => (first, second, 0)
      | some (third, _) => (first, second, third)
    | some (second, _) => (first, second, 0)
  | some (first, _) => (first, 0, 0)

/-- A string has no zero byte. -/
def IsText (text : List UInt8) : Prop := ∀ byte ∈ text, byte ≠ 0

theorem isText_nil : IsText [] := fun _ member => absurd member List.not_mem_nil

/-- Bytes without a terminator match a string exactly when they begin it. -/
theorem strncmpEqual_prefix (left right : List UInt8) (text : IsText left) :
    strncmpEqual left.length left right = true ↔ left <+: right := by
  induction left generalizing right with
  | nil => simp [strncmpEqual]
  | cons byte rest inductionHypothesis =>
    have nonzero : byte ≠ 0 := text byte List.mem_cons_self
    have restText : IsText rest := fun other member => text other (List.mem_cons_of_mem byte member)
    cases right with
    | nil => simp [strncmpEqual, nonzero]
    | cons other tail =>
      simp only [List.length_cons, strncmpEqual, Bool.and_eq_true, Bool.or_eq_true, beq_iff_eq,
        nonzero, false_or, inductionHypothesis tail restText, List.cons_prefix_cons]

/-- A comparison does not depend on the order of its strings. -/
theorem strncmpEqual_comm (count : Nat) (left right : List UInt8) :
    strncmpEqual count left right = strncmpEqual count right left := by
  induction count generalizing left right with
  | zero => simp only [strncmpEqual]
  | succ count inductionHypothesis =>
    cases left with
    | nil => cases right <;> rfl
    | cons byte rest =>
      cases right with
      | nil => rfl
      | cons other tail =>
        simp only [strncmpEqual, inductionHypothesis rest tail]
        by_cases same : byte = other
        · rw [same]
        · rw [beq_eq_false_iff_ne.mpr same, beq_eq_false_iff_ne.mpr (Ne.symm same),
            Bool.false_and, Bool.false_and]

/-- A string matches itself over any count. -/
theorem strncmpEqual_refl (count : Nat) (text : List UInt8) :
    strncmpEqual count text text = true := by
  induction text generalizing count with
  | nil => cases count <;> rfl
  | cons byte rest inductionHypothesis =>
    cases count with
    | zero => rfl
    | succ count =>
      rw [strncmpEqual, inductionHypothesis count, Bool.or_true, Bool.and_true, beq_self_eq_true]

/-- A comparison that includes the terminator decides equality. -/
theorem strncmpEqual_whole (left right : List UInt8) (leftText : IsText left)
    (rightText : IsText right) :
    strncmpEqual (right.length + 1) left right = true ↔ left = right := by
  induction right generalizing left with
  | nil =>
    cases left with
    | nil => simp [strncmpEqual]
    | cons byte rest =>
      have nonzero : byte ≠ 0 := leftText byte List.mem_cons_self
      simp [strncmpEqual, nonzero]
  | cons other tail inductionHypothesis =>
    have tailText : IsText tail := fun byte member =>
      rightText byte (List.mem_cons_of_mem other member)
    cases left with
    | nil =>
      have nonzero : other ≠ 0 := rightText other List.mem_cons_self
      simp [strncmpEqual, nonzero]
    | cons byte rest =>
      have nonzero : byte ≠ 0 := leftText byte List.mem_cons_self
      have restText : IsText rest := fun value member =>
        leftText value (List.mem_cons_of_mem byte member)
      simp only [List.length_cons, strncmpEqual, Bool.and_eq_true, Bool.or_eq_true, beq_iff_eq,
        nonzero, false_or, inductionHypothesis rest restText tailText, List.cons.injEq]

/-- The leading string of any bytes is a text. -/
theorem cText_isText (bytes : List UInt8) : IsText (cText bytes) := by
  intro byte member
  have kept := List.all_eq_true.mp List.all_takeWhile byte member
  simpa using kept

end WiznetEaas.CStrings
