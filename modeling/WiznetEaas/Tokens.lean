import WiznetEaas.CStrings

/-!
# Tokens of an array

`strtok` looks in an array for the next run of bytes that are no delimiters, from where
the last call ended. A zero byte ends the text; an array without one is left by the search.
The calls are described by how a text is cut: delimiters, a token, and the rest.
-/

namespace WiznetEaas.Tokens

open CStrings

/-- What a call of `strtok` finds: a token, with the bytes where the next call goes on if a
delimiter ended it; the end of the text; or the end of the array. -/
inductive Search where
  | token (text : List UInt8) (saved : Option (List UInt8))
  | null
  | beyond
  deriving DecidableEq

/-- `strtok(cells, delimiters)`, where `cells` are the bytes up to the end of the array. -/
def strtok (delimiters cells : List UInt8) : Search :=
  match cells.dropWhile fun byte => delimiters.contains byte with
  | [] => .beyond
  | 0 :: _ => .null
  | start =>
    let token := start.takeWhile fun byte => byte != 0 && !delimiters.contains byte
    match start.drop token.length with
    | [] => .beyond
    | 0 :: _ => .token token none
    | _ :: saved => .token token (some saved)

/-- `strtok(NULL, delimiters)`. -/
def strtokNext (delimiters : List UInt8) : Option (List UInt8) → Search
  | none => .null
  | some cells => strtok delimiters cells

/-- How a text begins: some delimiters, a token, and nothing or another delimiter. -/
structure Cut (delimiters text lead token rest : List UInt8) : Prop where
  text_eq : text = lead ++ (token ++ rest)
  lead : ∀ byte ∈ lead, byte ∈ delimiters
  nonempty : token ≠ []
  token : ∀ byte ∈ token, byte ∉ delimiters
  rest : ∀ byte, rest.head? = some byte → byte ∈ delimiters

/-- A text without a token. -/
def Blank (delimiters text : List UInt8) : Prop := ∀ byte ∈ text, byte ∈ delimiters

theorem blank_nil (delimiters : List UInt8) : Blank delimiters [] :=
  fun _ member => absurd member List.not_mem_nil

variable {delimiters text lead token rest : List UInt8}

/-- A text begins with a token, or has none. -/
theorem cut_exists (delimiters text : List UInt8) :
    Blank delimiters text ∨ ∃ lead token rest, Cut delimiters text lead token rest := by
  induction text with
  | nil => exact .inl (blank_nil delimiters)
  | cons byte text inductionHypothesis =>
    by_cases delimiter : byte ∈ delimiters
    · rcases inductionHypothesis with blank | ⟨lead, token, rest, cut⟩
      · exact .inl (List.forall_mem_cons.mpr ⟨delimiter, blank⟩)
      · exact .inr ⟨byte :: lead, token, rest, by rw [cut.text_eq]; rfl,
          List.forall_mem_cons.mpr ⟨delimiter, cut.lead⟩, cut.nonempty, cut.token, cut.rest⟩
    · -- The token that begins here goes up to the next delimiter.
      refine .inr ⟨[], byte :: text.takeWhile (fun other => decide (other ∉ delimiters)),
        text.dropWhile (fun other => decide (other ∉ delimiters)), ?_, ?_, List.cons_ne_nil _ _,
        ?_, ?_⟩
      · rw [List.nil_append, List.cons_append, List.takeWhile_append_dropWhile]
      · exact blank_nil delimiters
      · refine List.forall_mem_cons.mpr ⟨delimiter, fun other member => ?_⟩
        exact of_decide_eq_true (List.all_eq_true.mp List.all_takeWhile other member)
      · intro other first
        have stopped := List.head?_dropWhile_not (fun other => decide (other ∉ delimiters)) text
        rw [first] at stopped
        simpa using stopped

theorem rest_text (delimiter : UInt8) (cut : Cut delimiters text lead token (delimiter :: rest))
    (isText : IsText text) : IsText rest := by
  intro byte member
  apply isText byte
  rw [cut.text_eq]
  exact List.mem_append_right _ (List.mem_append_right _ (List.mem_cons_of_mem _ member))

/-- Nothing is left of a blank text but what follows it. -/
theorem skip_blank (blank : Blank delimiters lead) (tail : List UInt8) :
    (lead ++ tail).dropWhile (fun byte => delimiters.contains byte) =
      tail.dropWhile fun byte => delimiters.contains byte :=
  List.dropWhile_append_of_pos fun byte member => List.contains_iff_mem.mpr (blank byte member)

/-- A blank text has no token; without a zero behind it, the search leaves the array. -/
theorem strtok_blank (isText : IsText delimiters) (blank : Blank delimiters text) (room : Nat) :
    strtok delimiters (text ++ List.replicate room 0) = if room = 0 then .beyond else .null := by
  have noZero : delimiters.contains 0 = false := by
    simpa using fun member => isText 0 member rfl
  rw [strtok, skip_blank blank]
  cases room with
  | zero => rfl
  | succ room =>
    rw [List.replicate_succ, List.dropWhile_cons, noZero, if_neg Bool.false_ne_true]
    rfl

/-- The search goes to the first byte of the token. -/
theorem skip_lead (cut : Cut delimiters text lead token rest) (tail : List UInt8) :
    (text ++ tail).dropWhile (fun byte => delimiters.contains byte) = token ++ (rest ++ tail) := by
  obtain ⟨first, more, rfl⟩ := List.exists_cons_of_ne_nil cut.nonempty
  have plain : delimiters.contains first = false := by
    simpa using cut.token first List.mem_cons_self
  rw [cut.text_eq, List.append_assoc, skip_blank cut.lead, List.append_assoc, List.cons_append,
    List.dropWhile_cons, plain, if_neg Bool.false_ne_true]

/-- The token is read as far as it goes. -/
theorem read_token (cut : Cut delimiters text lead token rest) (isText : IsText text)
    (tail : List UInt8) (ends : ∀ byte, (rest ++ tail).head? = some byte →
      byte = 0 ∨ byte ∈ delimiters) :
    (token ++ (rest ++ tail)).takeWhile (fun byte => byte != 0 && !delimiters.contains byte) =
      token := by
  have plain (byte : UInt8) (member : byte ∈ token) :
      (byte != 0 && !delimiters.contains byte) = true := by
    have nonzero : byte ≠ 0 := isText byte (by
      rw [cut.text_eq]
      exact List.mem_append_right _ (List.mem_append_left _ member))
    simpa using ⟨nonzero, cut.token byte member⟩
  rw [List.takeWhile_append_of_pos plain]
  cases behind : rest ++ tail with
  | nil => rw [List.takeWhile_nil, List.append_nil]
  | cons byte later =>
    have stopped : (byte != 0 && !delimiters.contains byte) = false := by
      rcases ends byte (by rw [behind]; rfl) with rfl | delimiter
      · rfl
      · simp [delimiter]
    rw [List.takeWhile_cons, stopped, if_neg Bool.false_ne_true, List.append_nil]

/-- A token is found, and the search ends at the byte behind it. -/
theorem strtok_token (cut : Cut delimiters text lead token rest) (isText : IsText text)
    (tail : List UInt8) (ends : ∀ byte, (rest ++ tail).head? = some byte →
      byte = 0 ∨ byte ∈ delimiters) :
    strtok delimiters (text ++ tail) =
      match rest ++ tail with
      | [] => .beyond
      | 0 :: _ => .token token none
      | _ :: saved => .token token (some saved) := by
  have read := read_token cut isText tail ends
  obtain ⟨first, more, shape⟩ := List.exists_cons_of_ne_nil cut.nonempty
  have nonzero : first ≠ 0 := isText first (by
    rw [cut.text_eq, shape]
    simp)
  have begins : token ++ (rest ++ tail) = first :: (more ++ (rest ++ tail)) := by rw [shape]; rfl
  unfold strtok
  rw [skip_lead cut tail]
  split
  next nothing =>
    rw [begins] at nothing
    cases nothing
  next zero =>
    rw [begins] at zero
    exact absurd (List.cons.inj zero).1 nonzero
  next =>
    simp only [read, List.drop_left]

/-- A token at the end of the text ends at the zero behind it; without one, the search
leaves the array. -/
theorem strtok_last (cut : Cut delimiters text lead token []) (isText : IsText text)
    (room : Nat) : strtok delimiters (text ++ List.replicate room 0) =
      if room = 0 then .beyond else .token token none := by
  rw [strtok_token cut isText]
  · cases room with
    | zero => rfl
    | succ room => rfl
  · intro byte first
    exact .inl (List.eq_of_mem_replicate (List.mem_of_mem_head? first))

/-- A token before a delimiter ends there, and the next call goes on behind it. -/
theorem strtok_inner (delimiter : UInt8) (cut : Cut delimiters text lead token (delimiter :: rest))
    (isText : IsText text) (tail : List UInt8) :
    strtok delimiters (text ++ tail) = .token token (some (rest ++ tail)) := by
  have nonzero : delimiter ≠ 0 := isText delimiter (by
    rw [cut.text_eq]
    simp)
  rw [strtok_token cut isText]
  · rw [List.cons_append]
    split
    next nothing => cases nothing
    next zero => exact absurd (List.cons.inj zero).1 nonzero
    next more =>
      cases more
      rfl
  · intro byte first
    exact .inr (cut.rest byte first)

end WiznetEaas.Tokens
