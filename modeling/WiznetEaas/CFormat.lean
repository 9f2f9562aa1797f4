import Mathlib.Algebra.GroupWithZero.Nat
import WiznetEaas.CStrings

/-!
# Formatting strings

`sprintf` with the conversions `%s` and `%d`: a format is cut into the bytes that are
copied and the places that take the next argument, a number by its decimal text. What is
written is as long as the copied bytes and the arguments taken, and one more byte ends it.
-/

namespace WiznetEaas.CFormat

open CStrings

/-- The bytes of a format that are copied, and its conversions. -/
def pieces : List UInt8 → List (Option UInt8)
  | 37 :: 115 :: rest => none :: pieces rest
  | 37 :: 100 :: rest => none :: pieces rest
  | byte :: rest => some byte :: pieces rest
  | [] => []

/-- Copy the pieces, with the arguments in the places of the conversions. -/
def fill : List (Option UInt8) → List (List UInt8) → List UInt8
  | [], _ => []
  | some byte :: rest, arguments => byte :: fill rest arguments
  | none :: rest, [] => fill rest []
  | none :: rest, argument :: arguments => cText argument ++ fill rest arguments

/-- The string that `sprintf` writes. -/
def sprintf (format : List UInt8) (arguments : List (List UInt8)) : List UInt8 :=
  fill (pieces format) arguments

/-- The bytes `sprintf` writes into its destination, the terminator included. -/
def sprintfWrites (format : List UInt8) (arguments : List (List UInt8)) : Nat :=
  (sprintf format arguments).length + 1

/-- The number of copied bytes. -/
def literals (format : List UInt8) : Nat := (pieces format).countP Option.isSome

/-- The number of conversions. -/
def conversions (format : List UInt8) : Nat := (pieces format).countP Option.isNone

theorem fill_length (parts : List (Option UInt8)) (arguments : List (List UInt8)) :
    (fill parts arguments).length = parts.countP Option.isSome +
      ((arguments.take (parts.countP Option.isNone)).map fun text => (cText text).length).sum := by
  induction parts generalizing arguments with
  | nil => simp [fill]
  | cons part rest inductionHypothesis =>
    cases part with
    | some byte =>
      rw [fill, List.length_cons, inductionHypothesis, List.countP_cons, List.countP_cons]
      simp only [Option.isSome_some, Option.isNone_some, if_true, Bool.false_eq_true, if_false,
        Nat.add_zero]
      omega
    | none =>
      cases arguments with
      | nil =>
        rw [fill, inductionHypothesis, List.countP_cons]
        simp
      | cons argument arguments =>
        rw [fill, List.length_append, inductionHypothesis, List.countP_cons, List.countP_cons]
        simp only [Option.isSome_none, Option.isNone_none, if_true, Bool.false_eq_true, if_false,
          List.take_succ_cons, List.map_cons, List.sum_cons]
        omega

/-- What is written: the copied bytes, the arguments taken, and the terminator. -/
theorem sprintfWrites_exact (format : List UInt8) (arguments : List (List UInt8)) :
    sprintfWrites format arguments = literals format +
      ((arguments.take (conversions format)).map fun text => (cText text).length).sum + 1 := by
  rw [sprintfWrites, sprintf, fill_length]
  rfl

/-- Text without a percent sign is copied. -/
theorem pieces_literal (literal rest : List UInt8) (plain : 37 ∉ literal) :
    pieces (literal ++ rest) = literal.map some ++ pieces rest := by
  induction literal with
  | nil => rfl
  | cons byte tail inductionHypothesis =>
    have differs : byte ≠ 37 := fun same => plain (List.mem_cons.mpr (Or.inl same.symm))
    have tailPlain : 37 ∉ tail := fun member => plain (List.mem_cons_of_mem byte member)
    have head : pieces (byte :: (tail ++ rest)) = some byte :: pieces (tail ++ rest) := by
      rw [pieces]
      · rintro more rfl
        exact absurd rfl differs
      · rintro more rfl
        exact absurd rfl differs
    rw [List.cons_append, head, inductionHypothesis tailPlain]
    rfl

theorem fill_literal (literal : List UInt8) (rest : List (Option UInt8))
    (arguments : List (List UInt8)) :
    fill (literal.map some ++ rest) arguments = literal ++ fill rest arguments := by
  induction literal with
  | nil => rfl
  | cons byte tail inductionHypothesis =>
    rw [List.map_cons, List.cons_append, fill, inductionHypothesis, List.cons_append]

/-- Text up to a conversion is copied, and the conversion takes the next argument. -/
theorem sprintf_argument (literal rest argument : List UInt8) (arguments : List (List UInt8))
    (plain : 37 ∉ literal) :
    sprintf (literal ++ 37 :: 115 :: rest) (argument :: arguments) =
      literal ++ cText argument ++ sprintf rest arguments := by
  have conversion : pieces (37 :: 115 :: rest) = none :: pieces rest := by rw [pieces]
  rw [sprintf, pieces_literal literal _ plain, conversion, fill_literal, fill, List.append_assoc]
  rfl

/-- Text without a conversion is copied. -/
theorem sprintf_literal (literal : List UInt8) (arguments : List (List UInt8))
    (plain : 37 ∉ literal) : sprintf literal arguments = literal := by
  have whole := pieces_literal literal [] plain
  rw [List.append_nil] at whole
  rw [sprintf, whole, fill_literal]
  cases arguments <;> exact List.append_nil literal

end WiznetEaas.CFormat
