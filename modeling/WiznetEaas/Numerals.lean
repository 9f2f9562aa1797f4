import WiznetEaas.CStrings

/-!
# Numbers written in digits

A numeral is a non-empty run of digits of a base. The conversions of the C library read
one from the front of a text and stop at the first byte that is not a digit, so they
return its value as long as the value is in their range.
-/

namespace WiznetEaas.Numerals

open CStrings

/-- A non-empty run of digits. -/
structure IsNumeral (base : Nat) (text : List UInt8) : Prop where
  nonempty : text ≠ []
  digits : ∀ byte ∈ text, digitValue byte < base

/-- The number that some digits denote, the most significant first. -/
def value (base : Nat) (text : List UInt8) : Nat :=
  text.foldl (fun value byte => value * base + digitValue byte) 0

/-- The text ends, or goes on with a byte that is not a digit. -/
def Stops (base : Nat) (rest : List UInt8) : Prop :=
  ∀ byte, rest.head? = some byte → base ≤ digitValue byte

/-- A digit of a base up to sixteen, as `printf` spells it with `%X`. -/
def digit (digitOf : Nat) : UInt8 := UInt8.ofNat (if digitOf < 10 then 48 + digitOf else 55 + digitOf)

/-- A number in the digits of a base. -/
def printed (base number : Nat) : List UInt8 :=
  if large : base ≤ number ∧ 1 < base then
    have : number / base < number := Nat.div_lt_self (by omega) large.2
    printed base (number / base) ++ [digit (number % base)]
  else [digit number]

/-- Digits are neither white space nor signs. -/
theorem digit_plain (byte : UInt8) (digit : digitValue byte < 16) :
    isSpace byte = false ∧ byte ≠ 45 ∧ byte ≠ 43 ∧ byte ≠ 0 := by
  have spelled : (48 ≤ byte.toNat ∧ byte.toNat ≤ 57) ∨ (97 ≤ byte.toNat ∧ byte.toNat ≤ 102) ∨
      (65 ≤ byte.toNat ∧ byte.toNat ≤ 70) := by
    unfold digitValue at digit
    simp only [UInt8.le_iff_toNat_le] at digit
    split at digit
    next low => exact .inl low
    next =>
      split at digit
      next lower => exact .inr (.inl lower)
      next =>
        split at digit
        next upper => exact .inr (.inr upper)
        next => omega
  have apart (other : UInt8) (below : other.toNat < 48) : byte ≠ other := by
    rintro rfl
    omega
  refine ⟨?_, apart 45 (by decide), apart 43 (by decide), apart 0 (by decide)⟩
  have notBlank : ¬ byte = 32 := apart 32 (by decide)
  have notControl : ¬ byte ≤ 13 := by
    intro control
    have low := UInt8.le_iff_toNat_le.mp control
    have bound : (13 : UInt8).toNat = 13 := rfl
    omega
  simp [isSpace, notBlank, notControl]

/-- One more digit. -/
theorem value_snoc (base : Nat) (text : List UInt8) (byte : UInt8) :
    value base (text ++ [byte]) = value base text * base + digitValue byte := by
  rw [value, List.foldl_append]
  rfl

theorem digitValue_digit (number : Nat) (range : number < 16) :
    digitValue (digit number) = number := by
  have all : ∀ number : Fin 16, digitValue (digit number) = number := by decide
  exact all ⟨number, range⟩

/-- A printed number is a numeral of its value. -/
theorem printed_numeral (base number : Nat) (least : 1 < base) (most : base ≤ 16) :
    IsNumeral base (printed base number) ∧ value base (printed base number) = number := by
  induction number using Nat.strongRecOn with
  | ind number inductionHypothesis =>
    rw [printed]
    split
    next large =>
      have smaller : number / base < number := Nat.div_lt_self (by omega) least
      have last : number % base < base := Nat.mod_lt number (by omega)
      have spelled := digitValue_digit (number % base) (by omega)
      obtain ⟨numeral, denotes⟩ := inductionHypothesis (number / base) smaller
      refine ⟨⟨by simp, ?_⟩, ?_⟩
      · refine List.forall_mem_append.mpr ⟨numeral.digits, List.forall_mem_singleton.mpr ?_⟩
        rw [spelled]
        exact last
      · rw [value_snoc, denotes, spelled, Nat.mul_comm]
        exact Nat.div_add_mod number base
    next small =>
      have low : number < base := by omega
      have spelled := digitValue_digit number (by omega)
      refine ⟨⟨by simp, ?_⟩, ?_⟩
      · intro byte member
        rw [List.mem_singleton.mp member, spelled]
        exact low
      · rw [value, List.foldl_cons, List.foldl_nil, Nat.zero_mul, Nat.zero_add, spelled]

/-- Zeros in front do not change the value. -/
theorem padded_numeral (base zeros : Nat) (text : List UInt8) (positive : 0 < base)
    (numeral : IsNumeral base text) :
    IsNumeral base (List.replicate zeros 48 ++ text) ∧
      value base (List.replicate zeros 48 ++ text) = value base text := by
  have zero : digitValue 48 = 0 := by decide
  induction zeros with
  | zero => exact ⟨numeral, rfl⟩
  | succ zeros inductionHypothesis =>
    obtain ⟨padded, same⟩ := inductionHypothesis
    rw [List.replicate_succ, List.cons_append]
    refine ⟨⟨List.cons_ne_nil _ _, ?_⟩, ?_⟩
    · intro byte member
      rcases List.mem_cons.mp member with rfl | later
      · rw [zero]
        exact positive
      · exact padded.digits byte later
    · rw [value, List.foldl_cons, zero]
      rw [Nat.zero_mul, Nat.add_zero]
      exact same

variable {base : Nat} {text : List UInt8} (rest : List UInt8)

/-- The digits at the front of a text. -/
theorem digits_numeral (numeral : IsNumeral base text) (stops : Stops base rest) :
    digits base (text ++ rest) = text := by
  rw [digits, List.takeWhile_append_of_pos fun byte member =>
    decide_eq_true (numeral.digits byte member)]
  cases rest with
  | nil => rw [List.takeWhile_nil, List.append_nil]
  | cons byte tail =>
    have other := stops byte rfl
    rw [List.takeWhile_cons, if_neg (by simpa using other), List.append_nil]

/-- A numeral begins with neither white space nor a sign. -/
theorem sign_numeral (numeral : IsNumeral base text) (small : base ≤ 16) :
    sign ((text ++ rest).dropWhile isSpace) = (false, text ++ rest) := by
  obtain ⟨byte, tail, rfl⟩ := List.exists_cons_of_ne_nil numeral.nonempty
  obtain ⟨notSpace, notMinus, notPlus, _⟩ := digit_plain byte
    (Nat.lt_of_lt_of_le (numeral.digits byte List.mem_cons_self) small)
  rw [List.cons_append, List.dropWhile_cons, notSpace, if_neg Bool.false_ne_true]
  unfold sign
  split
  next equal => exact absurd (List.cons.inj equal).1 notMinus
  next equal => exact absurd (List.cons.inj equal).1 notPlus
  next => rfl

/-- `strtol` and `atoi` read a numeral in their range. -/
theorem strtol_numeral (numeral : IsNumeral 10 text) (stops : Stops 10 rest)
    (range : value 10 text < 2147483648) : strtol (text ++ rest) = (value 10 text : Int) := by
  have read : CStrings.numeral 10 (text ++ rest) = value 10 text := by
    rw [CStrings.numeral, digits_numeral rest numeral stops]
    rfl
  simp only [strtol, sign_numeral rest numeral (by decide), read, if_neg Bool.false_ne_true]
  omega

/-- Nothing is skipped in front of a numeral without the mark. -/
theorem skipHexMark_numeral (numeral : IsNumeral 16 text)
    (unmarked : ∀ byte, rest.head? = some byte → byte ≠ 120 ∧ byte ≠ 88) :
    skipHexMark (text ++ rest) = text ++ rest := by
  obtain ⟨first, more, rfl⟩ := List.exists_cons_of_ne_nil numeral.nonempty
  -- The letter of the mark would be the second digit, or the byte behind a single one.
  have apart (mark : UInt8) (isMark : mark = 120 ∨ mark = 88) (tail : List UInt8)
      (equal : more ++ rest = mark :: tail) : False := by
    cases more with
    | nil =>
      have behind := unmarked mark (by rw [show rest = mark :: tail from equal]; rfl)
      exact isMark.elim behind.1 behind.2
    | cons second more =>
      have digit := numeral.digits second (by simp)
      rw [(List.cons.inj equal).1] at digit
      rcases isMark with rfl | rfl
      · exact absurd digit (by decide)
      · exact absurd digit (by decide)
  unfold skipHexMark
  split
  next tail equal => exact (apart 120 (.inl rfl) tail (List.cons.inj equal).2).elim
  next tail equal => exact (apart 88 (.inr rfl) tail (List.cons.inj equal).2).elim
  next => rfl

/-- `strtoul` reads a hexadecimal numeral in its range, with the mark `0x` or without. -/
theorem strtoulHex_numeral (mark : List UInt8) (marked : mark ∈ [[], [48, 120], [48, 88]])
    (numeral : IsNumeral 16 text) (stops : Stops 16 rest)
    (unmarked : ∀ byte, rest.head? = some byte → byte ≠ 120 ∧ byte ≠ 88)
    (range : value 16 text < 4294967296) :
    strtoulHex (mark ++ (text ++ rest)) = value 16 text := by
  have zero : IsNumeral 16 [48] := ⟨List.cons_ne_nil _ _, by decide +kernel⟩
  have split : sign ((mark ++ (text ++ rest)).dropWhile isSpace) = (false, mark ++ (text ++ rest)) ∧
      skipHexMark (mark ++ (text ++ rest)) = text ++ rest := by
    simp only [List.mem_cons, List.not_mem_nil, or_false] at marked
    rcases marked with rfl | rfl | rfl
    · exact ⟨sign_numeral rest numeral (by decide), skipHexMark_numeral rest numeral unmarked⟩
    · exact ⟨sign_numeral (120 :: (text ++ rest)) zero (by decide), rfl⟩
    · exact ⟨sign_numeral (88 :: (text ++ rest)) zero (by decide), rfl⟩
  have read : CStrings.numeral 16 (text ++ rest) = value 16 text := by
    rw [CStrings.numeral, digits_numeral rest numeral stops]
    rfl
  simp only [strtoulHex, split.1, split.2, read, if_pos range, if_neg Bool.false_ne_true]

/-- One `%d` reads a numeral and leaves what follows it. -/
theorem scanInt_numeral (numeral : IsNumeral 10 text) (stops : Stops 10 rest)
    (range : value 10 text < 2147483648) :
    scanInt (text ++ rest) = some ((value 10 text : Int), rest) := by
  simp only [scanInt, sign_numeral rest numeral (by decide), digits_numeral rest numeral stops,
    if_neg numeral.nonempty, strtol_numeral rest numeral stops range, List.drop_left]

end WiznetEaas.Numerals
