import WiznetEaas.DeviceCommon
import WiznetEaas.Numerals

/-!
# The firmware version gate

`is_upper_version_fw` counts the dots of a candidate, reads three numbers with `sscanf`
and refuses it when one of them is below its counterpart. On spelled versions this is
the lexicographic order only where no later component gets smaller. On other text it
says nothing about the form: whatever `sscanf` could not read counts as zero.
-/

namespace WiznetEaas.FirmwareVersion

open ByteMemory CStrings DeviceCommon Numerals

/-- MAJOR.MINOR.PATCH, three decimal numerals in the range of an `int`. -/
structure Spelling (text : List UInt8) (version : Version) where
  major : List UInt8
  minor : List UInt8
  patch : List UInt8
  numerals : IsNumeral 10 major ∧ IsNumeral 10 minor ∧ IsNumeral 10 patch
  text_eq : text = major ++ 46 :: (minor ++ 46 :: patch)
  version_eq : version = ⟨value 10 major, value 10 minor, value 10 patch⟩
  range : value 10 major < 2147483648 ∧ value 10 minor < 2147483648 ∧
    value 10 patch < 2147483648

/-- A text that is a version. -/
def Spells (text : List UInt8) (version : Version) : Prop := Nonempty (Spelling text version)

/-- The lexicographic order of versions. -/
def Before (left right : Version) : Prop :=
  left.major < right.major ∨ left.major = right.major ∧
    (left.minor < right.minor ∨ left.minor = right.minor ∧ left.patch < right.patch)

/-- The gate follows the order on versions and refuses all other text. -/
structure GateCorrect (current : Version) (text : List UInt8) : Prop where
  malformed : (¬ ∃ version, Spells text version) → isUpperVersionFw current text = false
  lower : ∀ version, Spells text version → Before version current →
    isUpperVersionFw current text = false
  upper : ∀ version, Spells text version → Before current version →
    isUpperVersionFw current text = true

/-- The dots among the characters that a 16-bit length covers. -/
def visibleDots (text : List UInt8) : Nat := (text.take (text.length % 65536)).count 46

theorem getCharCount_dots (text : List UInt8) : getCharCount text 46 = visibleDots text := by
  have counted : visibleDots text ≤ (text.take (text.length % 65536)).length := List.count_le_length
  have taken : (text.take (text.length % 65536)).length ≤ text.length % 65536 :=
    List.length_take_le _ _
  have small : visibleDots text < 65536 := by omega
  exact Nat.mod_eq_of_lt small

theorem dot_stops (rest : List UInt8) : Stops 10 (46 :: rest) := by
  rintro byte ⟨⟩
  decide

theorem end_stops : Stops 10 [] := by
  rintro byte ⟨⟩

/-- `sscanf` reads the numbers of a version. -/
theorem scanTriple_spelled (text : List UInt8) (version : Version) (spells : Spells text version) :
    scanTriple text = ((version.major : Int), (version.minor : Int), (version.patch : Int)) := by
  obtain ⟨major, minor, patch, ⟨majorNumeral, minorNumeral, patchNumeral⟩, rfl, rfl,
    majorRange, minorRange, patchRange⟩ := spells
  have first := scanInt_numeral (46 :: (minor ++ 46 :: patch)) majorNumeral (dot_stops _) majorRange
  have second := scanInt_numeral (46 :: patch) minorNumeral (dot_stops _) minorRange
  have third := scanInt_numeral [] patchNumeral end_stops patchRange
  rw [List.append_nil] at third
  simp only [scanTriple, first, second, third]

/-- A version has no other characters than digits and dots. -/
theorem spelled_characters (text : List UInt8) (version : Version) (spells : Spells text version)
    (byte : UInt8) (member : byte ∈ text) : digitValue byte < 10 ∨ byte = 46 := by
  obtain ⟨major, minor, patch, ⟨majorNumeral, minorNumeral, patchNumeral⟩, rfl, _, _⟩ := spells
  simp only [List.mem_append, List.mem_cons] at member
  rcases member with inMajor | rfl | inMinor | rfl | inPatch
  · exact .inl (majorNumeral.digits byte inMajor)
  · exact .inr rfl
  · exact .inl (minorNumeral.digits byte inMinor)
  · exact .inr rfl
  · exact .inl (patchNumeral.digits byte inPatch)

/-- The gate is open for two visible dots and no number below the current one. -/
theorem isUpperVersionFw_iff (current : Version) (text : List UInt8) :
    isUpperVersionFw current text = true ↔
      visibleDots text = 2 ∧ (current.major : Int) ≤ (scanTriple text).1 ∧
        (current.minor : Int) ≤ (scanTriple text).2.1 ∧
          (current.patch : Int) ≤ (scanTriple text).2.2 := by
  simp only [isUpperVersionFw, getCharCount_dots]
  by_cases dots : visibleDots text = 2
  · rw [if_neg (not_not_intro dots)]
    split
    next below =>
      refine iff_of_false Bool.false_ne_true ?_
      rintro ⟨_, major, minor, patch⟩
      omega
    next notBelow => exact iff_of_true rfl ⟨dots, by omega, by omega, by omega⟩
  · rw [if_pos dots]
    exact iff_of_false Bool.false_ne_true fun open_ => dots open_.1

/-- On a version the numbers are its components. -/
theorem spelled_open (current : Version) (text : List UInt8) (version : Version)
    (spells : Spells text version) :
    isUpperVersionFw current text = true ↔
      visibleDots text = 2 ∧ current.major ≤ version.major ∧ current.minor ≤ version.minor ∧
        current.patch ≤ version.patch := by
  rw [isUpperVersionFw_iff, scanTriple_spelled text version spells]
  simp only [Int.ofNat_le]

/-- Where the gate does what it should: on other text it finds too few or too many dots,
or a number below the current one; on a later version it sees both dots and no component
below the current one. -/
structure Gated (current : Version) (text : List UInt8) : Prop where
  malformed : (¬ ∃ version, Spells text version) → visibleDots text ≠ 2 ∨
    (scanTriple text).1 < current.major ∨ (scanTriple text).2.1 < current.minor ∨
      (scanTriple text).2.2 < current.patch
  upper : ∀ version, Spells text version → Before current version → visibleDots text = 2 ∧
    current.major ≤ version.major ∧ current.minor ≤ version.minor ∧ current.patch ≤ version.patch

/-- The gate is correct for a candidate exactly under that condition. -/
theorem version_gate_iff (current : Version) (text : List UInt8) :
    GateCorrect current text ↔ Gated current text := by
  have isOpen := isUpperVersionFw_iff current text
  constructor
  · intro correct
    constructor
    · intro malformed
      have refused := correct.malformed malformed
      rw [refused] at isOpen
      have closed := mt isOpen.mpr Bool.false_ne_true
      omega
    · intro version spells later
      exact (spelled_open current text version spells).mp (correct.upper version spells later)
  · intro gated
    constructor
    · intro malformed
      have closed := gated.malformed malformed
      apply Bool.eq_false_iff.mpr
      rw [Ne, isOpen]
      omega
    · intro version spells earlier
      apply Bool.eq_false_iff.mpr
      rw [Ne, spelled_open current text version spells]
      unfold Before at earlier
      omega
    · intro version spells later
      exact (spelled_open current text version spells).mpr (gated.upper version spells later)

/-- A version is seen whole if its text is shorter than 65536 characters. -/
theorem spelled_dots (text : List UInt8) (version : Version) (spells : Spells text version)
    (short : text.length < 65536) : visibleDots text = 2 := by
  obtain ⟨major, minor, patch, ⟨majorNumeral, minorNumeral, patchNumeral⟩, rfl, _, _⟩ := spells
  have dotless (numeral : List UInt8) (isNumeral : IsNumeral 10 numeral) :
      numeral.count 46 = 0 :=
    List.count_eq_zero.mpr fun member => absurd (isNumeral.digits 46 member) (by decide)
  rw [visibleDots, Nat.mod_eq_of_lt short, List.take_length, List.count_append,
    List.count_cons_self, List.count_append, List.count_cons_self, dotless major majorNumeral,
    dotless minor minorNumeral, dotless patch patchNumeral]

/-- With the version this repository builds, "1.0.x" is accepted; and a release that
starts a new major version is refused by a device that runs 1.5.0. -/
theorem gate_misjudges :
    ¬ GateCorrect applicationVersion (ascii "1.0.x") ∧ ¬ GateCorrect ⟨1, 5, 0⟩ (ascii "2.0.0") := by
  constructor
  · intro correct
    have malformed : ¬ ∃ version, Spells (ascii "1.0.x") version := by
      rintro ⟨version, spells⟩
      have character := spelled_characters _ _ spells 120 (by decide +kernel)
      exact absurd character (by decide)
    have accepted : isUpperVersionFw applicationVersion (ascii "1.0.x") = true := by
      decide +kernel
    rw [correct.malformed malformed] at accepted
    exact Bool.false_ne_true accepted
  · intro correct
    have numeral (byte : UInt8) (digit : digitValue byte < 10) : IsNumeral 10 [byte] :=
      ⟨List.cons_ne_nil byte [], fun other member => List.mem_singleton.mp member ▸ digit⟩
    have spells : Spells (ascii "2.0.0") ⟨2, 0, 0⟩ :=
      ⟨[50], [48], [48], ⟨numeral 50 (by decide), numeral 48 (by decide), numeral 48 (by decide)⟩,
        by decide +kernel, rfl, by decide +kernel⟩
    have refused : isUpperVersionFw ⟨1, 5, 0⟩ (ascii "2.0.0") = false := by decide +kernel
    rw [correct.upper _ spells (.inl (by decide))] at refused
    exact Bool.false_ne_true refused.symm

end WiznetEaas.FirmwareVersion
