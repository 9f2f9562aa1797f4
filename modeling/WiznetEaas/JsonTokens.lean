import WiznetEaas.JsonText

/-!
# The tokens of JSON text

A reader that cuts a JSON text into its tokens, with the characters of each string as they
are meant. A template has places between quotes, where a text is put as it is. If no part of
the template between two places can be read inside a string, the filled template has the
tokens that are meant exactly when each text stands for itself: it may stand between quotes,
and has no backslash.
-/

namespace WiznetEaas.JsonTokens

open JsonText

/-- A string by its characters, a mark, or the bytes of a number or literal. -/
inductive Token where
  | string (characters : List Nat)
  | mark (byte : UInt8)
  | word (bytes : List UInt8)
  deriving DecidableEq

/-- Where the reader stands. -/
inductive Place where
  | between
  | inWord (bytes : List UInt8)
  | inString (characters : List Nat) (mode : StringMode)
  deriving DecidableEq

/-- The reader, with the tokens so far. -/
structure Reader where
  place : Place
  tokens : List Token
  deriving DecidableEq

/-- The marks of objects and arrays. -/
def isMark (byte : UInt8) : Bool :=
  byte == 123 || byte == 125 || byte == 91 || byte == 93 || byte == 58 || byte == 44

/-- A byte between tokens. -/
def Reader.begin (tokens : List Token) (byte : UInt8) : Reader :=
  if isBlank byte then ⟨.between, tokens⟩
  else if byte = 34 then ⟨.inString [] .plain, tokens⟩
  else if isMark byte then ⟨.between, tokens ++ [.mark byte]⟩
  else ⟨.inWord [byte], tokens⟩

/-- One byte. -/
def Reader.step (reader : Reader) (byte : UInt8) : Option Reader :=
  match reader.place with
  | .between => some (.begin reader.tokens byte)
  | .inWord bytes =>
    if isBlank byte || byte == 34 || isMark byte then
      some (.begin (reader.tokens ++ [.word bytes]) byte)
    else some { reader with place := .inWord (bytes ++ [byte]) }
  | .inString characters mode =>
    if mode = .plain ∧ byte = 34 then some ⟨.between, reader.tokens ++ [.string characters]⟩
    else (mode.step byte).map fun read =>
      { reader with place := .inString (characters ++ read.2) read.1 }

def Reader.read (reader : Reader) (text : List UInt8) : Option Reader :=
  text.foldlM Reader.step reader

/-- The tokens at the end of a text, which objects and arrays have between tokens. -/
def Reader.finish (reader : Reader) : Option (List Token) :=
  if reader.place = .between then some reader.tokens else none

def readTokens (text : List UInt8) : Option (List Token) :=
  (Reader.read ⟨.between, []⟩ text).bind Reader.finish

/-- A text that means itself between two quotes. -/
def IsPlain (text : List UInt8) : Prop := IsStringBody text ∧ 92 ∉ text

instance (text : List UInt8) : Decidable (IsPlain text) := inferInstanceAs (Decidable (_ ∧ _))

/-- What a text adds to a string, and where it leaves it. -/
def decode : StringMode → List UInt8 → Option (StringMode × List Nat)
  | mode, [] => some (mode, [])
  | mode, byte :: rest =>
    (mode.step byte).bind fun read =>
      (decode read.1 rest).map fun more => (more.1, read.2 ++ more.2)

theorem read_append (reader : Reader) (first second : List UInt8) :
    reader.read (first ++ second) = (reader.read first).bind fun between => between.read second :=
  List.foldlM_append

theorem read_cons (reader : Reader) (byte : UInt8) (rest : List UInt8) :
    reader.read (byte :: rest) = (reader.step byte).bind fun next => next.read rest :=
  List.foldlM_cons

/-- The reader with tokens before its own. -/
def Reader.behind (before : List Token) (reader : Reader) : Reader :=
  { reader with tokens := before ++ reader.tokens }

theorem begin_behind (before tokens : List Token) (byte : UInt8) :
    Reader.begin (before ++ tokens) byte = (Reader.begin tokens byte).behind before := by
  simp only [Reader.begin]
  split
  · rfl
  · split
    · rfl
    · split
      · simp only [Reader.behind, List.append_assoc]
      · rfl

/-- A step does not look at the tokens so far. -/
theorem step_behind (before : List Token) (reader : Reader) (byte : UInt8) :
    (reader.behind before).step byte = (reader.step byte).map (·.behind before) := by
  obtain ⟨place, tokens⟩ := reader
  cases place with
  | between => simp only [Reader.step, Reader.behind, begin_behind, Option.map_some]
  | inWord bytes =>
    simp only [Reader.step, Reader.behind]
    split
    · rw [List.append_assoc, begin_behind]
      rfl
    · rfl
  | inString characters mode =>
    simp only [Reader.step, Reader.behind]
    split
    · simp only [List.append_assoc, Option.map_some]
    · rw [Option.map_map]
      rfl

theorem read_behind (before : List Token) (reader : Reader) (text : List UInt8) :
    (reader.behind before).read text = (reader.read text).map (·.behind before) := by
  induction text generalizing reader with
  | nil => rfl
  | cons byte rest inductionHypothesis =>
    rw [read_cons, read_cons, step_behind]
    cases reader.step byte with
    | none => rfl
    | some next => exact inductionHypothesis next

/-- Tokens that are read stay. -/
theorem step_tokens (reader next : Reader) (byte : UInt8) (stepped : reader.step byte = some next) :
    reader.tokens <+: next.tokens := by
  have began (tokens : List Token) : tokens <+: (Reader.begin tokens byte).tokens := by
    simp only [Reader.begin]
    split
    · exact List.prefix_rfl
    · split
      · exact List.prefix_rfl
      · split
        · exact List.prefix_append _ _
        · exact List.prefix_rfl
  obtain ⟨place, tokens⟩ := reader
  cases place with
  | between =>
    cases stepped
    exact began tokens
  | inWord bytes =>
    simp only [Reader.step] at stepped
    split at stepped
    · cases stepped
      exact (List.prefix_append _ _).trans (began _)
    · cases stepped
      exact List.prefix_rfl
  | inString characters mode =>
    simp only [Reader.step] at stepped
    split at stepped
    · cases stepped
      exact List.prefix_append _ _
    · obtain ⟨read, _, rfl⟩ := Option.map_eq_some_iff.mp stepped
      exact List.prefix_rfl

theorem read_tokens (reader final : Reader) (text : List UInt8)
    (reads : reader.read text = some final) : reader.tokens <+: final.tokens := by
  induction text generalizing reader with
  | nil =>
    cases reads
    exact List.prefix_rfl
  | cons byte rest inductionHypothesis =>
    rw [read_cons] at reads
    obtain ⟨next, stepped, reads⟩ := Option.bind_eq_some_iff.mp reads
    exact (step_tokens reader next byte stepped).trans (inductionHypothesis next reads)

/-- A byte adds at most one character. -/
theorem step_characters (mode : StringMode) (byte : UInt8) (read : StringMode × List Nat)
    (stepped : mode.step byte = some read) : read.2.length ≤ 1 := by
  cases mode with
  | plain =>
    simp only [StringMode.step] at stepped
    split at stepped
    · cases stepped
      exact Nat.zero_le 1
    · split at stepped
      · cases stepped
      · split at stepped
        · cases stepped
          exact Nat.le_refl 1
        · obtain ⟨mode, _, rfl⟩ := Option.map_eq_some_iff.mp stepped
          exact Nat.le_refl 1
  | escaped =>
    simp only [StringMode.step] at stepped
    split at stepped
    · cases stepped
      exact Nat.zero_le 1
    · obtain ⟨character, _, rfl⟩ := Option.map_eq_some_iff.mp stepped
      exact Nat.le_refl 1
  | hex more value =>
    simp only [StringMode.step] at stepped
    obtain ⟨digit, _, rfl⟩ := Option.map_eq_some_iff.mp stepped
    cases more with
    | zero => exact Nat.le_refl 1
    | succ more => exact Nat.zero_le 1
  | tail low high more =>
    simp only [StringMode.step] at stepped
    split at stepped
    · cases more with
      | zero =>
        cases stepped
        exact Nat.le_refl 1
      | succ more =>
        cases stepped
        exact Nat.le_refl 1
    · cases stepped

/-- Behind no backslash, where each byte is written as it is. -/
def isWritten : StringMode → Bool
  | .plain | .tail _ _ _ => true
  | .escaped | .hex _ _ => false

theorem leading_written (byte : UInt8) (mode : StringMode) (led : leading byte = some mode) :
    isWritten mode = true := by
  simp only [leading] at led
  repeat' split at led
  all_goals cases led
  all_goals rfl

/-- A backslash adds nothing, and any other byte adds itself. -/
theorem written_step (mode : StringMode) (byte : UInt8) (read : StringMode × List Nat)
    (written : isWritten mode = true) (stepped : mode.step byte = some read) :
    (byte = 92 → read.2 = []) ∧
      (byte ≠ 92 → read.2 = [byte.toNat] ∧ isWritten read.1 = true) := by
  cases mode with
  | plain =>
    simp only [StringMode.step] at stepped
    split at stepped
    next backslash =>
      cases stepped
      exact ⟨fun _ => rfl, fun other => absurd backslash other⟩
    next other =>
      refine ⟨fun backslash => absurd backslash other, fun _ => ?_⟩
      split at stepped
      · cases stepped
      · split at stepped
        · cases stepped
          exact ⟨rfl, rfl⟩
        · obtain ⟨mode, led, rfl⟩ := Option.map_eq_some_iff.mp stepped
          exact ⟨rfl, leading_written byte mode led⟩
  | tail low high more =>
    simp only [StringMode.step] at stepped
    split at stepped
    next inside =>
      refine ⟨?_, fun _ => ?_⟩
      · rintro rfl
        exact absurd inside.1 (by decide)
      · cases more with
        | zero =>
          cases stepped
          exact ⟨rfl, rfl⟩
        | succ more =>
          cases stepped
          exact ⟨rfl, rfl⟩
    next => cases stepped
  | escaped => cases written
  | hex more value => cases written

theorem decode_cons (mode : StringMode) (byte : UInt8) (rest : List UInt8)
    (result : StringMode × List Nat) (decoded : decode mode (byte :: rest) = some result) :
    ∃ read more, mode.step byte = some read ∧ decode read.1 rest = some more ∧
      (more.1, read.2 ++ more.2) = result := by
  obtain ⟨read, stepped, mapped⟩ := Option.bind_eq_some_iff.mp decoded
  obtain ⟨more, behind, same⟩ := Option.map_eq_some_iff.mp mapped
  exact ⟨read, more, stepped, behind, same⟩

/-- A string that is read has no more characters than its text has bytes. -/
theorem decode_length (mode : StringMode) (text : List UInt8) (result : StringMode × List Nat)
    (decoded : decode mode text = some result) : result.2.length ≤ text.length := by
  induction text generalizing mode result with
  | nil =>
    cases decoded
    exact Nat.le_refl 0
  | cons byte rest inductionHypothesis =>
    obtain ⟨read, more, stepped, behind, rfl⟩ := decode_cons mode byte rest result decoded
    have short := inductionHypothesis read.1 more behind
    have one := step_characters mode byte read stepped
    simp only [List.length_append, List.length_cons]
    omega

/-- Without a backslash the characters are the bytes, and with one there are fewer. -/
theorem decode_written (mode : StringMode) (text : List UInt8) (result : StringMode × List Nat)
    (written : isWritten mode = true) (decoded : decode mode text = some result) :
    (92 ∉ text → result.2 = text.map UInt8.toNat ∧ isWritten result.1 = true) ∧
      (92 ∈ text → result.2.length < text.length) := by
  induction text generalizing mode result with
  | nil =>
    cases decoded
    exact ⟨fun _ => ⟨rfl, written⟩, fun member => nomatch member⟩
  | cons byte rest inductionHypothesis =>
    obtain ⟨read, more, stepped, behind, rfl⟩ := decode_cons mode byte rest result decoded
    obtain ⟨backslash, other⟩ := written_step mode byte read written stepped
    have short := decode_length read.1 rest more behind
    by_cases escapes : byte = 92
    · refine ⟨fun absent => absurd (escapes ▸ List.mem_cons_self) absent, fun _ => ?_⟩
      simp only [backslash escapes, List.nil_append, List.length_cons]
      omega
    · obtain ⟨itself, written⟩ := other escapes
      obtain ⟨plain, fewer⟩ := inductionHypothesis read.1 more written behind
      constructor
      · intro absent
        obtain ⟨same, written⟩ := plain fun member => absent (List.mem_cons_of_mem byte member)
        exact ⟨by rw [itself, same]; rfl, written⟩
      · intro member
        have less := fewer ((List.mem_cons.mp member).resolve_left fun same => escapes same.symm)
        rw [itself, List.singleton_append, List.length_cons, List.length_cons]
        omega

/-- The text may stand in a string exactly when it is decoded between characters. -/
theorem decode_mode (mode : StringMode) (text : List UInt8) :
    (decode mode text).map Prod.fst = text.foldlM StringMode.advance mode := by
  induction text generalizing mode with
  | nil => rfl
  | cons byte rest inductionHypothesis =>
    rw [List.foldlM_cons, decode, StringMode.advance]
    cases mode.step byte with
    | none => rfl
    | some read =>
      simp only [Option.bind_some, Option.map_some, Option.map_map]
      exact inductionHypothesis read.1

/-- A plain text is decoded to itself. -/
theorem plain_iff (text : List UInt8) :
    IsPlain text ↔ decode .plain text = some (.plain, text.map UInt8.toNat) := by
  constructor
  · rintro ⟨isBody, absent⟩
    have mode := (decode_mode .plain text).trans isBody
    obtain ⟨result, decoded, plain⟩ := Option.map_eq_some_iff.mp mode
    have same := ((decode_written .plain text result rfl decoded).1 absent).1
    rw [decoded, ← plain, ← same]
  · intro decoded
    refine ⟨?_, fun member => ?_⟩
    · rw [IsStringBody, ← decode_mode, decoded]
      rfl
    · have fewer := (decode_written .plain text _ rfl decoded).2 member
      rw [List.length_map] at fewer
      omega

/-- A text without a backslash that may stand in a string has no quote. -/
theorem decode_no_quote (mode : StringMode) (text : List UInt8) (result : StringMode × List Nat)
    (written : isWritten mode = true) (absent : 92 ∉ text)
    (decoded : decode mode text = some result) : 34 ∉ text := by
  induction text generalizing mode result with
  | nil => exact List.not_mem_nil
  | cons byte rest inductionHypothesis =>
    obtain ⟨read, more, stepped, behind, rfl⟩ := decode_cons mode byte rest result decoded
    have other : byte ≠ 92 := fun same => absent (same ▸ List.mem_cons_self)
    have next := ((written_step mode byte read written stepped).2 other).2
    have tail := inductionHypothesis read.1 more next
      (fun member => absent (List.mem_cons_of_mem byte member)) behind
    rintro (_ | ⟨_, member⟩)
    · cases mode with
      | plain => cases stepped
      | escaped => cases written
      | hex more value => cases written
      | tail low high more =>
        have outside : ¬ ((128 : UInt8) ≤ 34 ∧ low ≤ 34 ∧ (34 : UInt8) ≤ high) :=
          fun inside => absurd inside.1 (by decide)
        simp only [StringMode.step, if_neg outside, reduceCtorEq] at stepped
    · exact tail member

theorem plain_no_quote (text : List UInt8) (plain : IsPlain text) : 34 ∉ text :=
  decode_no_quote .plain text _ rfl plain.2 ((plain_iff text).mp plain)

/-- A text that stays in the string. -/
theorem read_decode (mode : StringMode) (text : List UInt8) (result : StringMode × List Nat)
    (held : List Nat) (tokens : List Token) (decoded : decode mode text = some result) :
    Reader.read ⟨.inString held mode, tokens⟩ text =
      some ⟨.inString (held ++ result.2) result.1, tokens⟩ := by
  induction text generalizing mode held result with
  | nil =>
    cases decoded
    rw [List.append_nil]
    rfl
  | cons byte rest inductionHypothesis =>
    obtain ⟨read, more, stepped, behind, rfl⟩ := decode_cons mode byte rest result decoded
    have stays : ¬ (mode = .plain ∧ byte = 34) := by
      rintro ⟨rfl, rfl⟩
      cases stepped
    have step : Reader.step ⟨.inString held mode, tokens⟩ byte =
        some ⟨.inString (held ++ read.2) read.1, tokens⟩ := by
      simp only [Reader.step, if_neg stays, stepped, Option.map_some]
    rw [read_cons, step, Option.bind_some, inductionHypothesis read.1 more _ behind,
      List.append_assoc]

/-- A text that is read is decoded whole, or up to a quote that ends the string. -/
theorem read_cases (mode : StringMode) (text tail : List UInt8) (held : List Nat)
    (tokens : List Token) (final : Reader)
    (reads : Reader.read ⟨.inString held mode, tokens⟩ (text ++ tail) = some final) :
    (∃ result, decode mode text = some result) ∨
      ∃ body rest characters, text = body ++ 34 :: rest ∧
        decode mode body = some (.plain, characters) := by
  induction text generalizing mode held with
  | nil => exact .inl ⟨(mode, []), rfl⟩
  | cons byte rest inductionHypothesis =>
    by_cases ends : mode = .plain ∧ byte = 34
    · obtain ⟨rfl, rfl⟩ := ends
      exact .inr ⟨[], rest, [], rfl, rfl⟩
    · rw [List.cons_append, read_cons] at reads
      obtain ⟨next, stepped, reads⟩ := Option.bind_eq_some_iff.mp reads
      simp only [Reader.step, if_neg ends] at stepped
      obtain ⟨read, advanced, rfl⟩ := Option.map_eq_some_iff.mp stepped
      rcases inductionHypothesis read.1 (held ++ read.2) reads with
        ⟨result, decoded⟩ | ⟨body, behind, characters, rfl, decoded⟩
      · refine .inl ⟨(result.1, read.2 ++ result.2), ?_⟩
        rw [decode, advanced, Option.bind_some, decoded]
        rfl
      · refine .inr ⟨byte :: body, behind, read.2 ++ characters, rfl, ?_⟩
        rw [decode, advanced, Option.bind_some, decoded]
        rfl

/-- A text that no string can hold. -/
def Breaks (text : List UInt8) : Prop :=
  ∀ held tokens, Reader.read ⟨.inString held .plain, tokens⟩ text = none

/-- A text breaks a string if it cannot be decoded up to its first quote. -/
theorem breaks_before_quote (lead rest : List UInt8) (open_ : 34 ∉ lead)
    (refused : decode .plain lead = none) : Breaks (lead ++ rest) := by
  intro held tokens
  cases reads : Reader.read ⟨.inString held .plain, tokens⟩ (lead ++ rest) with
  | none => rfl
  | some final =>
    rcases read_cases .plain lead rest held tokens final reads with
      ⟨result, decoded⟩ | ⟨body, behind, characters, rfl, _⟩
    · rw [refused] at decoded
      cases decoded
    · exact absurd (List.mem_append_right body List.mem_cons_self) open_

theorem breaks_take (text : List UInt8) (count : Nat) (open_ : 34 ∉ text.take count)
    (refused : decode .plain (text.take count) = none) : Breaks text := by
  rw [← List.take_append_drop count text]
  exact breaks_before_quote _ _ open_ refused

/-- The string that is read at a place of a template is decoded from the text there, or
from its beginning up to a quote. -/
theorem place_read (text rest : List UInt8) (tokens : List Token) (final : Reader)
    (breaks : Breaks rest)
    (reads : Reader.read ⟨.inString [] .plain, tokens⟩ (text ++ 34 :: rest) = some final) :
    (∃ characters, decode .plain text = some (.plain, characters) ∧
        Reader.read ⟨.between, tokens ++ [.string characters]⟩ rest = some final) ∨
      ∃ body behind characters, text = body ++ 34 :: behind ∧
        decode .plain body = some (.plain, characters) ∧
        tokens ++ [.string characters] <+: final.tokens := by
  rcases read_cases .plain text _ [] tokens final reads with
    ⟨⟨mode, characters⟩, decoded⟩ | ⟨body, behind, characters, rfl, decoded⟩
  · refine .inl ⟨characters, ?_⟩
    rw [read_append, read_decode .plain text _ [] tokens decoded, Option.bind_some, read_cons,
      List.nil_append] at reads
    obtain ⟨next, stepped, reads⟩ := Option.bind_eq_some_iff.mp reads
    cases mode with
    | plain =>
      cases stepped
      exact ⟨decoded, reads⟩
    | escaped =>
      cases stepped
      rw [breaks] at reads
      cases reads
    | hex more value => cases stepped
    | tail low high more =>
      have outside : ¬ ((128 : UInt8) ≤ 34 ∧ low ≤ 34 ∧ (34 : UInt8) ≤ high) :=
        fun inside => absurd inside.1 (by decide)
      simp only [Reader.step, reduceCtorEq, false_and, if_false, StringMode.step, if_neg outside,
        Option.map_none] at stepped
  · refine .inr ⟨body, behind, characters, rfl, decoded, ?_⟩
    rw [List.append_assoc, read_append, read_decode .plain body _ [] tokens decoded,
      Option.bind_some, List.cons_append, read_cons] at reads
    exact read_tokens _ final _ reads

/-- The string behind some tokens. -/
theorem next_string (tokens all : List Token) (first second : List Nat)
    (one : tokens ++ [.string first] <+: all) (other : tokens ++ [.string second] <+: all) :
    first = second := by
  have length : (tokens ++ [Token.string first]).length =
      (tokens ++ [Token.string second]).length := by
    simp only [List.length_append, List.length_singleton]
  have shorter := List.prefix_of_prefix_length_le one other (Nat.le_of_eq length)
  have same := shorter.eq_of_length length
  cases List.append_cancel_left same
  rfl

/-- A text at a place is read as itself exactly when it is plain. -/
theorem place_iff (text rest : List UInt8) (tokens : List Token) (final : Reader)
    (breaks : Breaks rest)
    (meant : tokens ++ [.string (text.map UInt8.toNat)] <+: final.tokens) :
    Reader.read ⟨.inString [] .plain, tokens⟩ (text ++ 34 :: rest) = some final ↔
      IsPlain text ∧
        Reader.read ⟨.between, tokens ++ [.string (text.map UInt8.toNat)]⟩ rest = some final := by
  have only (characters : List Nat) (given : tokens ++ [.string characters] <+: final.tokens) :
      characters = text.map UInt8.toNat := next_string tokens final.tokens _ _ given meant
  constructor
  · intro reads
    rcases place_read text rest tokens final breaks reads with
      ⟨characters, decoded, reads⟩ | ⟨body, behind, characters, rfl, decoded, given⟩
    · have same := only characters (read_tokens _ final rest reads)
      rw [same] at decoded reads
      exact ⟨(plain_iff text).mpr decoded, reads⟩
    · have short := decode_length .plain body _ decoded
      rw [only characters given, List.length_map, List.length_append, List.length_cons] at short
      omega
  · rintro ⟨plain, reads⟩
    rw [read_append, read_decode .plain text _ [] tokens ((plain_iff text).mp plain),
      Option.bind_some]
    exact reads

/-- A text without quotes and backslashes is read as a given string only if it is that. -/
theorem place_same (text meant rest : List UInt8) (tokens : List Token) (final : Reader)
    (breaks : Breaks rest) (open_ : 34 ∉ text) (unescaped : 92 ∉ text)
    (given : tokens ++ [.string (meant.map UInt8.toNat)] <+: final.tokens)
    (reads : Reader.read ⟨.inString [] .plain, tokens⟩ (text ++ 34 :: rest) = some final) :
    text = meant := by
  rcases place_read text rest tokens final breaks reads with
    ⟨characters, decoded, reads⟩ | ⟨body, behind, _, rfl, _, _⟩
  · have itself := ((decode_written .plain text _ rfl decoded).1 unescaped).1
    have same := next_string tokens final.tokens _ _ (read_tokens _ final rest reads) given
    exact (List.map_inj_right fun _ _ => UInt8.toNat_inj.mp).mp (itself.symm.trans same)
  · exact absurd (List.mem_append_right body List.mem_cons_self) open_

/-- The text of a template from behind the quote of a place up to the next place or the
end, with its tokens. -/
structure Segment (next : Place) where
  text : List UInt8
  tokens : List Token
  breaks : Breaks text
  reads : Reader.read ⟨.between, []⟩ text = some ⟨next, tokens⟩

/-- The part of a template from its first place on, with a text at each place. -/
inductive Filled where
  | last (text : List UInt8) (segment : Segment .between)
  | place (text : List UInt8) (segment : Segment (.inString [] .plain)) (rest : Filled)

/-- What is written. -/
def Filled.text : Filled → List UInt8
  | .last text segment => text ++ 34 :: segment.text
  | .place text segment rest => text ++ 34 :: (segment.text ++ rest.text)

/-- What is meant. -/
def Filled.tokens : Filled → List Token
  | .last text segment => .string (text.map UInt8.toNat) :: segment.tokens
  | .place text segment rest => .string (text.map UInt8.toNat) :: (segment.tokens ++ rest.tokens)

/-- The texts at the places. -/
def Filled.arguments : Filled → List (List UInt8)
  | .last text _ => [text]
  | .place text _ rest => text :: rest.arguments

theorem breaks_append (text rest : List UInt8) (breaks : Breaks text) : Breaks (text ++ rest) := by
  intro held tokens
  rw [read_append, breaks]
  rfl

/-- A segment behind any tokens. -/
theorem segment_read {next : Place} (segment : Segment next) (tokens : List Token) :
    Reader.read ⟨.between, tokens⟩ segment.text = some ⟨next, tokens ++ segment.tokens⟩ := by
  have read := read_behind tokens ⟨.between, []⟩ segment.text
  rw [segment.reads] at read
  simpa only [Reader.behind, List.append_nil, Option.map_some] using read

/-- A filled template is read as it is meant exactly when all its texts are plain. -/
theorem filled_iff (filled : Filled) (tokens : List Token) :
    Reader.read ⟨.inString [] .plain, tokens⟩ filled.text =
        some ⟨.between, tokens ++ filled.tokens⟩ ↔
      ∀ text ∈ filled.arguments, IsPlain text := by
  induction filled generalizing tokens with
  | last text segment =>
    rw [Filled.text, place_iff text segment.text tokens _ segment.breaks
      ⟨segment.tokens, by simp only [Filled.tokens, List.append_assoc, List.singleton_append]⟩,
      segment_read]
    simp [Filled.tokens, Filled.arguments]
  | place text segment rest inductionHypothesis =>
    have meant := inductionHypothesis
      (tokens ++ [.string (text.map UInt8.toNat)] ++ segment.tokens)
    have split : tokens ++ (Filled.place text segment rest).tokens =
        tokens ++ [.string (text.map UInt8.toNat)] ++ segment.tokens ++ rest.tokens := by
      simp only [Filled.tokens, List.append_assoc, List.cons_append, List.nil_append]
    rw [split, Filled.text, place_iff text _ tokens _ (breaks_append _ _ segment.breaks)
      ⟨segment.tokens ++ rest.tokens, by simp only [List.append_assoc]⟩, read_append,
      segment_read, Option.bind_some, meant, Filled.arguments, List.forall_mem_cons]

/-- A template is read from its first place on. -/
theorem opened_iff (opening text : List UInt8) (tokens all : List Token)
    (opens : Reader.read ⟨.between, []⟩ opening = some ⟨.inString [] .plain, tokens⟩) :
    readTokens (opening ++ text) = some all ↔
      Reader.read ⟨.inString [] .plain, tokens⟩ text = some ⟨.between, all⟩ := by
  have finished (reader : Reader) : reader.finish = some all ↔ reader = ⟨.between, all⟩ := by
    obtain ⟨place, read⟩ := reader
    simp only [Reader.finish, Option.ite_none_right_eq_some, Option.some.injEq, Reader.mk.injEq]
  rw [readTokens, read_append, opens, Option.bind_some, Option.bind_eq_some_iff]
  constructor
  · rintro ⟨final, reads, read⟩
    rw [reads, (finished final).mp read]
  · intro reads
    exact ⟨_, reads, (finished _).mpr rfl⟩

/-- A whole template is read as it is meant exactly when all its texts are plain. -/
theorem template_iff (opening : List UInt8) (tokens : List Token) (filled : Filled)
    (opens : Reader.read ⟨.between, []⟩ opening = some ⟨.inString [] .plain, tokens⟩) :
    readTokens (opening ++ filled.text) = some (tokens ++ filled.tokens) ↔
      ∀ text ∈ filled.arguments, IsPlain text := by
  rw [opened_iff opening filled.text tokens _ opens, filled_iff]

end WiznetEaas.JsonTokens
